import SqlBuilder.Value.Equality

/-!
# Column definitions

A column type with nullability, primary key and default. A default counts only when it was given,
so a default of nothing differs from no default.
-/

namespace SqlBuilder

structure ColumnDefinition where
  type : ColumnType
  /-- A name that takes the place of the column's key. -/
  name : Option String
  nullable : Bool
  primaryKey : Bool
  default : Option Value

namespace ColumnDefinition

/-- A definition of a column type alone. -/
def ofType (type : ColumnType) : ColumnDefinition :=
  { type, name := none, nullable := false, primaryKey := false, default := none }

def toValue (d : ColumnDefinition) : Value :=
  .record .columnDefinition <|
    [("type", .columnType d.type), ("name", (d.name.map Value.text).getD .null),
      ("nullable", .bool d.nullable), ("primary_key", .bool d.primaryKey)]
    ++ (d.default.map fun v => ("default", v)).toList

/-- Whether the default of an enumerated column, if it is not nothing, equals one of its values. -/
def defaultAllowed (type : ColumnType) (default : Option Value) : Bool :=
  match type, default with
  | .enumerated _, none | .enumerated _, some .null => true
  | .enumerated values, some v => values.any fun s => v.equals (.text s)
  | _, _ => true

end ColumnDefinition

end SqlBuilder
