import SqlBuilder.Binding.BindText
import SqlBuilder.Binding.Lexeme
import SqlBuilder.Failure

/-!
# Statements with named binds

The marks `$1, $2, …` of a statement become the binds `:p1, :p2, …`, and colons that stand in the
statement are escaped so that they start no bind. Mappings, and lists that hold mappings, are bound
as JSON.
-/

namespace SqlBuilder

namespace Value

def isDict : Value → Bool
  | dict _ => true
  | _ => false

/-- Whether a value is bound as JSON. -/
def isStructured (v : Value) : Bool := v.isDict || (v.listed?.getD []).any isDict

end Value

/-- Statement text with binds, and values by name. -/
structure NamedStatement where
  /-- The text with the escapes in place. -/
  source : List Char
  values : List (String × Value)

namespace Binding

/-- The text of a statement with binds in place of its marks. -/
def namedText (sql : List Char) : List Char := (lexemes (escaped sql)).flatMap Lexeme.named

/-- The name of the value with the number `n`. -/
def bindName (n : Nat) : String := "p" ++ toString n

/-- Values under their names, numbered from `n` on. -/
def numbered : (n : Nat) → List Value → List (String × Value)
  | _, [] => []
  | n, v :: vs => (bindName n, v) :: numbered (n + 1) vs

/-- Shorter names come first, names of one length in the order of their characters. -/
def nameLe (a b : String) : Bool := a.length < b.length || (a.length = b.length && a ≤ b)

end Binding

namespace NamedStatement

/-- The statement as it is printed and sent. -/
def text (s : NamedStatement) : String := String.ofList (Binding.unescaped s.source)

/-- The names of the binds in the text, each once, in order. -/
def binds (s : NamedStatement) : List String :=
  ((Binding.bindNames false s.source).map String.ofList).eraseDups.mergeSort Binding.nameLe

/-- The names whose values are bound as JSON. -/
def structured (s : NamedStatement) : List String :=
  (s.values.filter fun value => value.2.isStructured).map (·.1)

/-- A statement with the values for its marks. A structured value needs a bind. -/
def ofMarks (sql : Value) (parameters : List Value) : Outcome NamedStatement := do
  let sql ← Outcome.textToReplaceIn sql
  let s := { source := Binding.namedText sql.toList, values := Binding.numbered 1 parameters }
  let binds := s.binds
  if s.structured.all fun name => name ∈ binds then return s else .error .unusedBind

/-- A statement of any type with anything that gives its values one by one. -/
def ofValues (sql parameters : Value) : Outcome NamedStatement := do
  let _ ← Outcome.textToReplaceIn sql
  ofMarks sql (← Outcome.ofOption .unfit parameters.elements?)

end NamedStatement

end SqlBuilder
