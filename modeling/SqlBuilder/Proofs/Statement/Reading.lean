import SqlBuilder.Proofs.Builder.Reachable
import SqlBuilder.Proofs.Statement.WordReading

/-!
# What a compiled statement says

A reader takes a compiled statement apart: its words into clauses, the clauses
into conditions, joins, rows and items.  It never looks at the statement that
was compiled.  Beside it stands what there is to be read of a statement: its
parts up to the connective of the first filter and the column of a membership
in nothing, which are not written.
-/

namespace SqlBuilder

open Text

/-- A condition on a column, or one that holds always or never. -/
inductive Condition
  | constant (holds : Bool)
  | comparison (column : String) (operator : FilterOperator) (value : Value)

/-- A condition with its connective to the one before, if there is one. -/
abbrev Clause := Option Connective × Condition

/-- The parts of a statement that its text and parameters tell. -/
inductive Reading
  | select (table : String) (columns : List String) (joins : List Join)
      (conditions : List Clause) (limit offset : Option Nat)
  | insert (table : String) (columns : List String) (rows : List (List Value))
      (returned : List String)
  | update (table : String) (items : List (String × Value)) (conditions : List Clause)
      (returned : List String)
  | delete (table : String) (conditions : List Clause) (returned : List String)

/-! ## The parts of a statement -/

def Filter.reading (f : Filter) : Condition :=
  match f.operator, f.value.listed? with
  | .isIn, some [] => .constant false
  | .notIn, some [] => .constant true
  | operator, _ => .comparison f.column operator f.value

def Filters.reading : List Filter → List Clause
  | [] => []
  | f :: fs => (none, f.reading) :: fs.map fun g => (some g.connective, g.reading)

namespace Statement

/-- The columns that an insertion gives values to. -/
def insertedColumns (s : Statement) : List String :=
  ((s.payload.toRecords.getD []).headD []).map (·.1)

def reading (s : Statement) : Reading :=
  match s.operation with
  | .select =>
    .select s.table s.columns s.joins (Filters.reading s.filters) s.limit s.offset
  | .insert =>
    .insert s.table s.insertedColumns
      ((s.payload.toRecords.getD []).map (Record.row s.insertedColumns)) s.columns
  | .update => .update s.table s.payload.fields (Filters.reading s.filters) s.columns
  | .delete => .delete s.table (Filters.reading s.filters) s.columns

end Statement

/-! ## The reader -/

namespace Term

def named? : Term → Option String
  | name s => some s
  | literal _ | value _ => none

def held? : Term → Option Value
  | value v => some v
  | literal _ | name _ => none

def clauseWords : List String :=
  ["SELECT", "FROM", "WHERE", "LIMIT", "OFFSET", "INSERT", "INTO", "VALUES", "UPDATE", "SET",
    "DELETE", "RETURNING"]

/-- The clause that a term starts. -/
def clause? : Term → Option String
  | literal s => if s ∈ clauseWords then some s else none
  | name _ | value _ => none

def connective? : Term → Option Connective
  | literal s => Vocabulary.ofWord? s
  | name _ | value _ => none

end Term

namespace Word

def terms (ws : List Word) : List Term := ws.map (·.term)

def clause? (w : Word) : Option String := w.term.clause?

def connective? (w : Word) : Option Connective := w.term.connective?

/-- The word itself if it opens a row. -/
def opening? (w : Word) : Option Word := if '(' ∈ w.before then some w else none

end Word

namespace Reading

open Term in
def names? (ts : List Term) : Option (List String) := ts.mapM named?

/-- The value that is written out as `s`. -/
def writtenValue? : String → Option Value
  | "NULL" => some .null
  | "TRUE" => some (.bool true)
  | "FALSE" => some (.bool false)
  | _ => none

def condition? : List Term → Option Condition
  | [.literal "1=0"] => some (.constant false)
  | [.literal "1=1"] => some (.constant true)
  | .name column :: .literal "IN" :: ts =>
    (ts.mapM Term.held?).map fun vs => .comparison column .isIn (.tuple vs)
  | .name column :: .literal "NOT" :: .literal "IN" :: ts =>
    (ts.mapM Term.held?).map fun vs => .comparison column .notIn (.tuple vs)
  | [.name column, .literal "IS", .literal s] =>
    (writtenValue? s).map (.comparison column .is)
  | [.name column, .literal "IS", .literal "NOT", .literal s] =>
    (writtenValue? s).map (.comparison column .isNot)
  | [.name column, .literal s, .value v] =>
    (Vocabulary.ofWord? s).map fun operator => .comparison column operator v
  | _ => none

/-- Conditions from the words after `WHERE`, if there are any. -/
def conditions? (ws : List Word) : Option (List Clause) :=
  if ws.isEmpty then some []
  else do
    let first ← condition? (Word.terms (leading Word.connective? ws))
    let others ← (sections Word.connective? ws).mapM fun part =>
      (condition? (Word.terms part.2)).map fun condition => (some part.1, condition)
    return (none, first) :: others

def joins? : List Term → Option (List Join)
  | [] => some []
  | .literal kind :: .literal "JOIN" :: .name table :: .literal "ON" :: .name leftColumn
      :: .literal operator :: .name rightColumn :: ts => do
    let kind ← Vocabulary.ofWord? kind
    return { kind, table, leftColumn, operator, rightColumn } :: (← joins? ts)
  | _ => none

def items? : List Term → Option (List (String × Value))
  | [] => some []
  | .name column :: .literal "=" :: .value v :: ts => do return (column, v) :: (← items? ts)
  | _ => none

def rows? (ws : List Word) : Option (List (List Value)) :=
  (sections Word.opening? ws).mapM fun part => (Word.terms (part.1 :: part.2)).mapM Term.held?

def count? : List Term → Option (Option Nat)
  | [] => some none
  | [.literal s] => some (some (Nat.ofDigitChars 10 s.toList 0))
  | _ => none

/-- The words of the clause that starts with `word`; none if it is not there. -/
def body (word : String) (clauses : List (String × List Word)) : List Word :=
  (clauses.lookup word).getD []

def ofClauses : List (String × List Word) → Option Reading
  | ("SELECT", columns) :: ("FROM", table :: joins) :: more => do
    return .select (← table.term.named?) (← names? (Word.terms columns))
      (← joins? (Word.terms joins)) (← conditions? (body "WHERE" more))
      (← count? (Word.terms (body "LIMIT" more))) (← count? (Word.terms (body "OFFSET" more)))
  | ("INSERT", []) :: ("INTO", table :: columns) :: ("VALUES", rows) :: more => do
    return .insert (← table.term.named?) (← names? (Word.terms columns)) (← rows? rows)
      (← names? (Word.terms (body "RETURNING" more)))
  | ("UPDATE", [table]) :: ("SET", items) :: more => do
    return .update (← table.term.named?) (← items? (Word.terms items))
      (← conditions? (body "WHERE" more)) (← names? (Word.terms (body "RETURNING" more)))
  | ("DELETE", []) :: ("FROM", [table]) :: more => do
    return .delete (← table.term.named?) (← conditions? (body "WHERE" more))
      (← names? (Word.terms (body "RETURNING" more)))
  | _ => none

end Reading

/-- What a compiled statement says. -/
def Compiled.read (c : Compiled) : Option Reading := do
  Reading.ofClauses (sections Word.clause? (← c.words?))

end SqlBuilder
