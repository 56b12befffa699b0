import SqlBuilder.Builder.Basic
import SqlBuilder.Builder.Conditions

/-!
# Changes of a builder

A change that is refused may have taken effect in part: a write has already become the operation,
and of several columns with conditions those before the one at fault have been added.
-/

namespace SqlBuilder

/-- A change of one part of a builder. -/
inductive Change
  | select (columns : List Value)
  | insert (data : Value)
  | update (data : Value)
  | delete
  | join (kind : JoinKind) (table left operator right : Value)
  | filter (connective : Connective) (conditions : Value) (named : Fields)
  | limit (n : Value)
  | offset (n : Value)

/-- A builder after a change, and why the change was refused if it was. -/
structure Changed where
  builder : Builder
  refusal : Option Failure

/-- The operators that joins may compare with, in order. -/
def joinOperators : List String := ["!=", "<", "<=", "<>", "=", ">", ">="]

/-- The join operator a value stands for; what could not be looked up in a set is unfit. -/
def joinOperator? (left operator : Value) : Outcome String :=
  match operator with
  | .text s => if s ∈ joinOperators then .ok s else refused
  | .ownText t => if t.text ∈ joinOperators then .ok t.text else refused
  | .set _ => refused
  | v => if v.isHashable then refused else .error .unfit
where
  refused : Outcome String := Outcome.reject (.invalidFilter left
    (.text ("join operator " ++ operator.shown ++ " is not supported. Use one of: "
      ++ commaSeparated joinOperators)))

/-- A join of a table on two columns. -/
def Join.on (kind : JoinKind) (table left operator right : Value) : Outcome Join := do
  let operator ← joinOperator? left operator
  let join (table leftColumn rightColumn : String) : Join :=
    { kind, table, leftColumn, operator, rightColumn }
  (join <$> (Validation.text table).within (.named "table")
    <*> (Validation.text left).within (.named "left_column")
    <*> (Validation.text right).within (.named "right_column")).orInvalid RecordKind.join.title

/-- The record that data stands for; nothing stands for no record. -/
def writtenRecord (index : Nat) : Value → Outcome Value
  | .null => .ok .null
  | .dict entries => .ok (.dict entries)
  | v => Outcome.reject (.unfitRecord index v.kindName)

def writtenRecords : (start : Nat) → List Value → Outcome (List Value)
  | _, [] => .ok []
  | index, v :: vs => do
    let record ← writtenRecord index v
    return record :: (← writtenRecords (index + 1) vs)

/-- What data to insert stands for: nothing, a record, or a list of records. -/
def insertedPayload (table data : Value) : Outcome Value :=
  match data with
  | .null => .ok .null
  | .dict entries => .ok (.dict entries)
  | .list vs | .tuple vs => (writtenRecords 0 vs).map .list
  | v => Outcome.reject (.unfitInsert table v.kindName)

/-- What data to update with stands for: nothing or a record. -/
def updatedPayload (table data : Value) : Outcome Value :=
  match data with
  | .null => .ok .null
  | .dict entries => .ok (.dict entries)
  | v => Outcome.reject (.unfitUpdate table v.kindName)

/-- The count that a value is. -/
def count (table : Value) (clause : String) : Value → Outcome Nat
  | .int (.ofNat n) => .ok n
  | v => Outcome.reject (.unfitCount table clause v)

namespace Builder

def unchanged (b : Builder) (failure : Failure) : Changed := ⟨b, some failure⟩

/-- The operation is set before the data is looked at. -/
def write (b : Builder) (operation : Operation) (payload : Outcome Value) : Changed :=
  match payload with
  | .ok payload => ⟨{ b with operation, payload, returning := true }, none⟩
  | .error failure => ⟨{ b with operation }, some failure⟩

/-- Columns with conditions are added one by one, up to the first at fault. -/
def addEntries (connective : Connective) : List (Value × Value) → Builder → Changed
  | [], b => ⟨b, none⟩
  | (column, v) :: entries, b => match Conditions.ofEntry connective column v with
    | .ok filters => addEntries connective entries { b with filters := b.filters ++ filters }
    | .error failure => b.unchanged failure

def change (b : Builder) : Change → Changed
  | .select columns => ⟨{ b with projection := columns }, none⟩
  | .insert data => b.write .insert (insertedPayload b.table data)
  | .update data => b.write .update (updatedPayload b.table data)
  | .delete => ⟨{ b with operation := .delete, returning := true }, none⟩
  | .join kind table left operator right => match Join.on kind table left operator right with
    | .ok join => ⟨{ b with joins := b.joins ++ [join] }, none⟩
    | .error failure => b.unchanged failure
  | .filter connective conditions named => match Conditions.entries conditions named with
    | .ok entries => addEntries connective entries b
    | .error failure => b.unchanged failure
  | .limit n => match count b.table "limit" n with
    | .ok n => ⟨{ b with limit := some n }, none⟩
    | .error failure => b.unchanged failure
  | .offset n => match count b.table "offset" n with
    | .ok n => ⟨{ b with offset := some n }, none⟩
    | .error failure => b.unchanged failure

end Builder

end SqlBuilder
