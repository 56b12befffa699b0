import SqlBuilder.Schema.Literal
import SqlBuilder.Statement.Identifier
import SqlBuilder.Validation.Schema

/-!
# Columns and tables as SQL

A column is written as its name, its type, and the clauses its definition asks for; a table as the
list of its columns.
-/

namespace SqlBuilder

/-- The SQL type of a primitive kind. -/
def PrimitiveKind.sqlType : PrimitiveKind → String
  | .number => "INTEGER"
  | .string => "TEXT"
  | .boolean => "BOOLEAN"
  | .date => "TIMESTAMP"

/-- The SQL type of a column; the bare type has none. -/
def ColumnType.sqlType (t : ColumnType) (columnName : Value) : Outcome String :=
  match t with
  | .primitive kind => .ok kind.sqlType
  | .json => .ok "JSONB"
  | .uuid => .ok "UUID"
  | .enumerated _ => .ok "TEXT"
  | .array item => .ok (item.sqlType ++ "[]")
  | .bare => Outcome.reject (.unsupportedColumnType (.columnType t) columnName)

/-- The column type that a value is or stands for. -/
def ColumnType.resolve (v : Value) (columnName : Value) : Outcome ColumnType :=
  match v.asColumnType with
  | .columnType t => .ok t
  | _ => Outcome.reject (.unsupportedColumnType v columnName)

/-- An enumerated type with the given values. -/
def ColumnType.enumOf (values : List Value) : Outcome ColumnType :=
  ((Validation.enumValues (.tuple values)).within (.named "values")).map .enumerated
    |>.orInvalid TypeName.enumType.shortName

/-- An array of the primitive type that a value is or stands for. -/
def ColumnType.arrayOf (v : Value) : Outcome ColumnType := do
  match ← ColumnType.resolve v .null with
  | .primitive kind => return .array kind
  | _ => Outcome.reject (.unsupportedColumnType v .null)

namespace ColumnDefinition

/-- A definition from named options, all of whose names are texts, and a type. -/
def ofOptions (entries : List (Value × Value)) (type : ColumnType) : Outcome ColumnDefinition :=
  if entries.all fun entry => entry.1.text?.isSome then
    ofFields (putField "type" (.columnType type) (Fields.ofEntries entries))
  else .error .unfit

/-- The definition that an entry of a schema stands for: a definition, options with a type among
them, or a type alone. -/
def resolve (v : Value) (columnName : Value) : Outcome ColumnDefinition :=
  match v with
  | .record .columnDefinition fields => ofFields fields
  | .dict entries => match lookup? entries (.text "type") with
    | none => Outcome.reject (.unsupportedColumnType v columnName)
    | some type => do ofOptions entries (← ColumnType.resolve type columnName)
  | v => do return ofType (← ColumnType.resolve v columnName)

/-- The clause that restricts a column to the values of its type. -/
def checkClause (name : Value) : ColumnType → List Value
  | .enumerated values => [.text ("CHECK (" ++ name.plain ++ " IN ("
      ++ commaSeparated (values.map Literal.quoted) ++ "))")]
  | _ => []

/-- The name a column is written with: its own, unless that is missing or empty. -/
def columnName (d : ColumnDefinition) (key : Value) : Value :=
  match d.name with
  | none | some "" => key
  | some name => .text name

/-- The parts of a column that are separated by blanks. -/
def parts (quoting : Bool) (key : Value) (d : ColumnDefinition) : Outcome (List Value) := do
  let columnName := d.columnName key
  let name ← Identifier.written? quoting columnName
  let sqlType ← d.type.sqlType columnName
  let default ← match d.default with
    | none => .ok []
    | some v => do
      let literal ← Literal.render d.type columnName v
      .ok [Value.text ("DEFAULT " ++ literal)]
  return [name, .text sqlType]
    ++ (if d.nullable then [] else [.text "NOT NULL"])
    ++ (if d.primaryKey then [.text "PRIMARY KEY"] else [])
    ++ default ++ checkClause name d.type

/-- A column as SQL; its name has to be a text. -/
def sql (quoting : Bool) (key : Value) (d : ColumnDefinition) : Outcome String := do
  let parts ← d.parts quoting key
  return " ".intercalate (← Outcome.ofOption .unfit (Value.texts? parts))

end ColumnDefinition

/-- The columns of a table in order, by their keys. -/
abbrev Columns := List (Value × ColumnDefinition)

/-- The statement that creates a table unless it exists. -/
def createTable (quoting : Bool) (table : Value) (columns : Columns) : Outcome String := do
  let definitions ← columns.mapM fun (key, d) => d.sql quoting key
  let name ← Identifier.written? quoting table
  return "CREATE TABLE IF NOT EXISTS " ++ name.plain ++ " (" ++ commaSeparated definitions ++ ")"

end SqlBuilder
