/-!
# Closed vocabularies

A vocabulary is a finite list of members. Each has a label, the word it is written with, and no two
members share a word.
-/

namespace SqlBuilder

class Vocabulary (α : Type) where
  /-- The name of the vocabulary. -/
  title : String
  /-- The members in order. -/
  members : List α
  label : α → String
  word : α → String

namespace Vocabulary

variable {α : Type} [Vocabulary α]

/-- The words of the vocabulary, in order. -/
def words (α : Type) [Vocabulary α] : List String := (members (α := α)).map word

/-- The member written `s`. -/
def ofWord? (s : String) : Option α := (members (α := α)).find? fun m => word m == s

end Vocabulary

/-! ## The words of a statement -/

/-- What a statement does. -/
inductive Operation
  | select
  | insert
  | update
  | delete
  deriving DecidableEq, Repr

/-- How a condition is joined to the one before it. -/
inductive Connective
  | and
  | or
  deriving DecidableEq, Repr

/-- How a column is compared with a value. -/
inductive FilterOperator
  | eq
  | ne
  | gt
  | lt
  | gte
  | lte
  | like
  | ilike
  | isIn
  | notIn
  | is
  | isNot
  deriving DecidableEq, Repr

inductive JoinKind
  | inner
  | left
  | right
  | full
  deriving DecidableEq, Repr

instance : Vocabulary Operation where
  title := "Operation"
  members := [.select, .insert, .update, .delete]
  label
    | .select => "SELECT"
    | .insert => "INSERT"
    | .update => "UPDATE"
    | .delete => "DELETE"
  word
    | .select => "SELECT"
    | .insert => "INSERT"
    | .update => "UPDATE"
    | .delete => "DELETE"

instance : Vocabulary Connective where
  title := "Connective"
  members := [.and, .or]
  label
    | .and => "AND"
    | .or => "OR"
  word
    | .and => "AND"
    | .or => "OR"

instance : Vocabulary FilterOperator where
  title := "FilterOperator"
  members := [.eq, .ne, .gt, .lt, .gte, .lte, .like, .ilike, .isIn, .notIn, .is, .isNot]
  label
    | .eq => "EQ"
    | .ne => "NE"
    | .gt => "GT"
    | .lt => "LT"
    | .gte => "GTE"
    | .lte => "LTE"
    | .like => "LIKE"
    | .ilike => "ILIKE"
    | .isIn => "IN"
    | .notIn => "NOT_IN"
    | .is => "IS"
    | .isNot => "IS_NOT"
  word
    | .eq => "="
    | .ne => "!="
    | .gt => ">"
    | .lt => "<"
    | .gte => ">="
    | .lte => "<="
    | .like => "LIKE"
    | .ilike => "ILIKE"
    | .isIn => "IN"
    | .notIn => "NOT IN"
    | .is => "IS"
    | .isNot => "IS NOT"

instance : Vocabulary JoinKind where
  title := "JoinKind"
  members := [.inner, .left, .right, .full]
  label
    | .inner => "INNER"
    | .left => "LEFT"
    | .right => "RIGHT"
    | .full => "FULL"
  word
    | .inner => "INNER"
    | .left => "LEFT"
    | .right => "RIGHT"
    | .full => "FULL"

/-- The SQL an operation starts with. -/
def Operation.word (o : Operation) : String := Vocabulary.word o

def Connective.word (c : Connective) : String := Vocabulary.word c

def FilterOperator.word (o : FilterOperator) : String := Vocabulary.word o

/-- The operators that can be asked for by name, in the order in which they are written. -/
def FilterOperator.keys : List (String × FilterOperator) :=
  [("in", .isIn), ("not_in", .notIn), ("like", .like), ("ilike", .ilike), ("gt", .gt), ("lt", .lt),
    ("gte", .gte), ("lte", .lte), ("not", .ne)]

def JoinKind.word (k : JoinKind) : String := Vocabulary.word k

end SqlBuilder
