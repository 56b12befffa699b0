import SqlBuilder.Validation.Statement
import SqlBuilder.Value.Ordering

/-!
# Conditions as callers write them

A condition names a column and says what is asked of it: nothing stands for `IS NULL`, a mapping
for one comparison per key in a fixed order, and any other value for equality.
-/

namespace SqlBuilder

/-- A comparison of the column named `column`. -/
def Filter.on (connective : Connective) (column : Value) (operator : FilterOperator) (v : Value) :
    Outcome Filter :=
  (((Validation.text column).within (.named "column")).map fun name =>
    { connective, column := name, operator, value := v }).orInvalid RecordKind.filter.title

namespace Conditions

/-- The one key that has two spellings is read as the usual one. -/
def usualKey (key : Value) : Value := if key.text? = some "notIn" then .text "not_in" else key

/-- An operator mapping by usual keys; of two spellings of a key the later value counts. -/
def given (entries : List (Value × Value)) : List (Value × Value) :=
  entries.foldl (fun done (key, v) => putEntry (usualKey key) v done) []

/-- What the value `v` under a key asks of a column. -/
def comparison (column : Value) (key : String) (operator : FilterOperator) (v : Value) :
    Outcome (FilterOperator × Value) :=
  match operator with
  | .isIn | .notIn => match v.listed? with
    | some vs => .ok (operator, .tuple vs)
    | none => Outcome.reject (.invalidFilter column
        (.text ("'" ++ key ++ "' needs a list or tuple of values, got " ++ v.shown)))
  | .ne => match v with
    | .null => .ok (.isNot, .null)
    | v => .ok (.ne, v)
  | operator => .ok (operator, v)

/-- One filter per key that is known, in the order of the keys. -/
def known (connective : Connective) (column : Value) (given : List (Value × Value)) :
    List (String × FilterOperator) → Outcome (List Filter)
  | [] => .ok []
  | (key, operator) :: keys => match lookup? given (.text key) with
    | none => known connective column given keys
    | some v => do
      let (operator, v) ← comparison column key operator v
      let filter ← Filter.on connective column operator v
      return filter :: (← known connective column given keys)

/-- The refusal of a mapping none of whose keys is known; it lists the keys in order. -/
def unknownKeys (column : Value) (entries : List (Value × Value)) : Failure :=
  match Value.sorted (entries.map (·.1)) with
  | .error failure => failure
  | .ok keys => .rejected (.invalidFilter column
      (.text ("no recognized operator in " ++ (Value.list keys).shown)))

/-- The filters that an operator mapping stands for, at least one. -/
def ofOperators (connective : Connective) (column : Value) (entries : List (Value × Value)) :
    Outcome (List Filter) :=
  match known connective column (given entries) FilterOperator.keys with
  | .ok [] => .error (unknownKeys column entries)
  | outcome => outcome

/-- The filters that a column with a value stands for. -/
def ofEntry (connective : Connective) (column v : Value) : Outcome (List Filter) :=
  match v with
  | .null => (Filter.on connective column .is .null).map ([·])
  | .dict entries => ofOperators connective column entries
  | v => (Filter.on connective column .eq v).map ([·])

/-- The columns with their values from a mapping and from names; the names come last, and take the
place of the same names in the mapping. -/
def entries (conditions : Value) (named : Fields) : Outcome (List (Value × Value)) :=
  let merged (entries : List (Value × Value)) : List (Value × Value) :=
    named.foldl (fun done (name, v) => putEntry (.text name) v done) entries
  match conditions with
  | .dict entries => .ok (merged entries)
  | v => if v.isTruthy then .error .unfit else .ok (merged [])

end Conditions

end SqlBuilder
