import SqlBuilder.Validation.Scalar
import SqlBuilder.Value.Equality

/-!
# Reading the fields of a record

A record is made from named fields. Fields that the record does not have are ignored, a field
without a default has to be there, and the issues of a field carry its name.
-/

namespace SqlBuilder

/-- Named fields from which a record is made. -/
abbrev Fields := List (String × Value)

namespace Fields

/-- The entries of a mapping whose keys are texts. -/
def ofEntries (entries : List (Value × Value)) : Fields :=
  entries.filterMap fun (k, v) => k.text?.map fun name => (name, v)

variable {α : Type}

/-- A field that has to be there. -/
def required (fields : Fields) (name : String) (check : Value → Checked α) : Checked α :=
  match field? fields name with
  | some v => (check v).within (.named name)
  | none => (Checked.fail .missing).within (.named name)

/-- A field with a default. -/
def defaulted (fields : Fields) (name : String) (check : Value → Checked α) (default : α) :
    Checked α :=
  match field? fields name with
  | some v => (check v).within (.named name)
  | none => .valid default

end Fields

namespace Validation

/-- The step into a mapping at a key: integers of 64 bits count as indices. -/
def placeOfKey : Value → Place
  | .text s => .named s
  | .ownText t => .named t.text
  | .bool b => .at (if b then 1 else 0)
  | .int n => if isWide n then .at n else .named (toString n)
  | v => .named v.shown

/-- The entries of a mapping, its keys read as texts. -/
def recordEntries : List (Value × Value) → Checked Fields
  | [] => .valid []
  | (k, v) :: entries =>
    (fun name fields => (name, v) :: fields)
      <$> ((text k).within (.named "[key]")).within (placeOfKey k) <*> recordEntries entries

/-- A mapping from texts; a later entry takes the place of an earlier one. -/
def record : Value → Checked Fields
  | .dict entries => (recordEntries entries).map fun fields =>
    fields.foldl (fun done (name, v) => putField name v done) []
  | _ => .fail .notMapping

end Validation

end SqlBuilder
