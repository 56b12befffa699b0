import SqlBuilder.Vocabulary

/-!
# Column types

A column holds one of four primitive kinds, a JSON document, a UUID, one of a list of allowed
texts, or an array of a primitive kind. The bare type stands for none of these and has no column.
-/

namespace SqlBuilder

/-- Scalar domains of a column. -/
inductive PrimitiveKind
  | number
  | string
  | boolean
  | date
  deriving DecidableEq, Repr

instance : Vocabulary PrimitiveKind where
  title := "PrimitiveKind"
  members := [.number, .string, .boolean, .date]
  label
    | .number => "NUMBER"
    | .string => "STRING"
    | .boolean => "BOOLEAN"
    | .date => "DATE"
  word
    | .number => "number"
    | .string => "string"
    | .boolean => "boolean"
    | .date => "date"

inductive ColumnType
  | bare
  | primitive (kind : PrimitiveKind)
  | json
  | uuid
  | enumerated (values : List String)
  | array (item : PrimitiveKind)
  deriving DecidableEq, Repr

end SqlBuilder
