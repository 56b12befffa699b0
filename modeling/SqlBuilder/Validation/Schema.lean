import SqlBuilder.Failure
import SqlBuilder.Schema.ColumnDefinition
import SqlBuilder.Validation.Fields

/-!
# Reading column types and column definitions
-/

namespace SqlBuilder

/-- The primitive kind a type may stand for. -/
def TypeName.primitive? : TypeName → Option PrimitiveKind
  | .integer => some .number
  | .text => some .string
  | .boolean => some .boolean
  | .moment => some .date
  | _ => none

/-- A type is replaced by the column type it stands for; any other value is kept. -/
def Value.asColumnType (v : Value) : Value :=
  match v with
  | .typeName t => match t.primitive? with
    | some kind => .columnType (.primitive kind)
    | none => v
  | v => v

namespace Validation

def primitiveKind (fields : Fields) : Checked PrimitiveKind :=
  (fun _ kind => kind) <$> fields.defaulted "brand" (brand "primitive") ()
    <*> fields.required "kind" (member PrimitiveKind)

/-- A primitive column type, a type that stands for one, or its fields. -/
def primitiveType (v : Value) : Checked PrimitiveKind :=
  match v.asColumnType with
  | .columnType (.primitive kind) => .valid kind
  | .dict entries => primitiveKind (Fields.ofEntries entries)
  | _ => .fail (.notRecord TypeName.primitiveType.shortName)

/-- The allowed texts of an enumerated type, at least one. -/
def enumValues (v : Value) : Checked (List String) :=
  (tupleOf text v).andThen fun values =>
    if values.isEmpty then .fail .noEnumValues else .valid values

/-- A column type from its fields. -/
def columnTypeFields (t : TypeName) (fields : Fields) : Checked ColumnType :=
  match t with
  | .primitiveType => (primitiveKind fields).map .primitive
  | .jsonType => (fields.defaulted "brand" (brand "json") ()).map fun _ => .json
  | .uuidType => (fields.defaulted "brand" (brand "uuid") ()).map fun _ => .uuid
  | .enumType => (fun _ values => .enumerated values)
      <$> fields.defaulted "brand" (brand "enum") () <*> fields.required "values" enumValues
  | .arrayType => (fun _ item => .array item)
      <$> fields.defaulted "brand" (brand "array") () <*> fields.required "item_type" primitiveType
  | _ => .valid .bare

/-- A column type or a type that stands for one; a mapping gives the bare type. -/
def columnType (v : Value) : Checked ColumnType :=
  match v.asColumnType with
  | .columnType t => .valid t
  | .dict _ => .valid .bare
  | _ => .fail (.notRecord TypeName.columnType.shortName)

/-- A column definition from its fields. The default is looked at last. -/
def columnDefinition (fields : Fields) : Checked ColumnDefinition :=
  let default := field? fields "default"
  ((fun type name nullable primaryKey =>
      { type, name, nullable, primaryKey, default : ColumnDefinition })
    <$> fields.required "type" columnType
    <*> fields.defaulted "name" (optional text) none
    <*> fields.defaulted "nullable" boolean false
    <*> fields.defaulted "primary_key" boolean false).andThen fun d =>
  match d.type with
  | .enumerated values =>
    if ColumnDefinition.defaultAllowed d.type d.default then .valid d
    else .fail (.defaultOutside (d.default.getD .null).shown values)
  | _ => .valid d

end Validation

/-- A column definition from its fields. -/
def ColumnDefinition.ofFields (fields : Fields) : Outcome ColumnDefinition :=
  (Validation.columnDefinition fields).orInvalid RecordKind.columnDefinition.title

end SqlBuilder
