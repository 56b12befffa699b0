import SqlBuilder.Value.Basic

/-!
# The parts of a value

The fields of column types and records as values, and the elements a value gives when it is read
one by one.
-/

namespace SqlBuilder

namespace PrimitiveKind

def word (kind : PrimitiveKind) : String := Vocabulary.word kind

end PrimitiveKind

namespace ColumnType

/-- The word that tells the column types apart; the bare type has none. -/
def brand? : ColumnType → Option String
  | bare => none
  | primitive _ => some "primitive"
  | json => some "json"
  | uuid => some "uuid"
  | enumerated _ => some "enum"
  | array _ => some "array"

/-- The fields of a column type after its brand. -/
def ownFields : ColumnType → List (String × Value)
  | primitive kind => [("kind", .text kind.word)]
  | enumerated values => [("values", .tuple (values.map .text))]
  | array item => [("item_type", .columnType (primitive item))]
  | bare | json | uuid => []

def fields (t : ColumnType) : List (String × Value) :=
  (t.brand?.map fun brand => ("brand", Value.text brand)).toList ++ t.ownFields

end ColumnType

namespace RecordKind

/-- The fields of a record with the default a column definition has when none was given. -/
def completed (kind : RecordKind) (fields : List (String × Value)) : List (String × Value) :=
  match kind with
  | columnDefinition =>
    if fields.any (·.1 == "default") then fields else fields ++ [("default", .null)]
  | filter | join | statement | queryResult => fields

end RecordKind

namespace Value

/-- The pairs a record gives when it is read one by one. -/
def pairs (fields : List (String × Value)) : List Value :=
  fields.map fun (field, v) => tuple [text field, v]

/-- The elements a value gives when it is read one by one, if it can be read so. -/
def elements? : Value → Option (List Value)
  | text s => some (s.toList.map fun c => text (String.singleton c))
  | ownText t => some (t.text.toList.map fun c => text (String.singleton c))
  | bytes octets => some (octets.map fun octet => int octet.toNat)
  | list items | tuple items | set items | frozenSet items => some items
  | dict entries => some (entries.map (·.1))
  | columnType t => some (pairs t.fields)
  | record kind fields => some (pairs (kind.completed fields))
  | null | bool _ | int _ | float _ | moment _ | day _ | clock _ | uuid _ | decimal _
  | typeName _ | handle .. => none

/-- The items of a list or a tuple, the two whose order is the one they were written in. -/
def listed? : Value → Option (List Value)
  | list items | tuple items => some items
  | _ => none

/-- The text of a value that is one. -/
def text? : Value → Option String
  | text s => some s
  | ownText t => some t.text
  | _ => none

/-- The text that a value equals. -/
def equalText? : Value → Option String
  | handle _ equalTo => equalTo
  | v => v.text?

theorem equalText?_of_text? {v : Value} {s : String} (hs : v.text? = some s) :
    v.equalText? = some s := by
  cases v <;> first | exact hs | simp [text?] at hs

/-- The texts of a list of values that are all texts. -/
def texts? (items : List Value) : Option (List String) := items.mapM text?

end Value

end SqlBuilder
