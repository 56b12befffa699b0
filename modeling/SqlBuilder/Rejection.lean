import SqlBuilder.Value.Fields
import SqlBuilder.Value.Shown

/-!
# Why the library rejects what it is given

Rejections come before anything reaches a database. Each has a kind, a message that says what is
wrong and how to mend it, and a context that names the table, column or option at fault.
-/

namespace SqlBuilder

/-- Kinds of rejection; every kind but the first is a special case of another one. -/
inductive RejectionKind
  | general
  | connection
  | queryBuild
  | emptyPayload
  | unsupportedJoin
  | invalidFilter
  | schema
  | unsupportedColumnType
  | tableNotFound
  deriving DecidableEq, Repr

namespace RejectionKind

def title : RejectionKind → String
  | general => "PawQLError"
  | connection => "ConnectionError"
  | queryBuild => "QueryBuildError"
  | emptyPayload => "EmptyPayloadError"
  | unsupportedJoin => "UnsupportedJoinError"
  | invalidFilter => "InvalidFilterError"
  | schema => "SchemaError"
  | unsupportedColumnType => "UnsupportedColumnTypeError"
  | tableNotFound => "TableNotFoundError"

def all : List RejectionKind :=
  [general, connection, queryBuild, emptyPayload, unsupportedJoin, invalidFilter, schema,
    unsupportedColumnType, tableNotFound]

def ofTitle? (s : String) : Option RejectionKind := all.find? fun k => k.title == s

/-- The kind itself and the kinds it is a case of, the nearest first. -/
def lineage : RejectionKind → List RejectionKind
  | general => [general]
  | connection => [connection, general]
  | queryBuild => [queryBuild, general]
  | emptyPayload => [emptyPayload, queryBuild, general]
  | unsupportedJoin => [unsupportedJoin, queryBuild, general]
  | invalidFilter => [invalidFilter, queryBuild, general]
  | schema => [schema, general]
  | unsupportedColumnType => [unsupportedColumnType, schema, general]
  | tableNotFound => [tableNotFound, schema, general]

end RejectionKind

/-- What was found wrong. Names and values are kept as they were given. -/
inductive Rejection
  | stated (kind : RejectionKind) (message context : Value)
  | emptyPayload (operation table reason : Value)
  | unsupportedJoin (operation table : Value)
  | invalidFilter (column reason : Value)
  | missingColumns (table : String) (index : Nat) (missing : List String)
  | recordList (table : String)
  | unfitInsert (table : Value) (kindName : String)
  | unfitUpdate (table : Value) (kindName : String)
  | unfitRecord (index : Nat) (kindName : String)
  | unfitCount (table : Value) (clause : String) (given : Value)
  | unsupportedColumnType (columnType columnName : Value)
  | unlistedDefault (columnName default : Value)
  | unrenderableDefault (columnName default : Value)
  | tableNotFound (tableName available : Value) (listed : List String)
  | engineFailed (reason : String)
  | unsupportedDialect (dialect : String)
  | connectionTestFailed (reason : String)
  deriving Repr

namespace Rejection

/-- The keys an operator mapping may hold. -/
def validKeys : List String := FilterOperator.keys.map (·.1)

/-- The column types a schema may use. -/
def validTypes : List String :=
  ["number", "string", "boolean", "date", "json", "uuid", "enum", "array"]

/-- The dialects an engine may have. -/
def supportedDialects : List String := ["postgresql", "sqlite"]

def kind : Rejection → RejectionKind
  | stated kind .. => kind
  | emptyPayload .. => .emptyPayload
  | unsupportedJoin .. => .unsupportedJoin
  | invalidFilter .. => .invalidFilter
  | missingColumns .. | recordList _ | unfitInsert .. | unfitUpdate .. | unfitRecord ..
  | unfitCount .. => .queryBuild
  | unsupportedColumnType .. => .unsupportedColumnType
  | unlistedDefault .. | unrenderableDefault .. => .schema
  | tableNotFound .. => .tableNotFound
  | engineFailed _ | unsupportedDialect _ | connectionTestFailed _ => .connection

/-- The message, which is a text unless another value was stated in its place. -/
def message : Rejection → Value
  | stated _ message _ => message
  | emptyPayload operation table reason =>
    .text ("Cannot build " ++ operation.plain ++ " on '" ++ table.plain ++ "': " ++ reason.plain)
  | unsupportedJoin operation table =>
    .text (operation.plain ++ " on '" ++ table.plain ++ "' cannot have joins. "
      ++ "Joins are only supported on SELECT statements.")
  | invalidFilter column reason =>
    .text ("Invalid condition on '" ++ column.plain ++ "': " ++ reason.plain)
  | missingColumns table index missing =>
    .text ("Record " ++ toString index ++ " for INSERT on '" ++ table ++ "' is missing column(s): "
      ++ commaSeparated missing ++ ". All records must share the first record's keys.")
  | recordList table =>
    .text ("UPDATE on '" ++ table ++ "' takes a single record, not a list.")
  | unfitInsert _ kindName =>
    .text ("INSERT data must be a mapping or a list of mappings, got " ++ kindName)
  | unfitUpdate _ kindName => .text ("UPDATE data must be a mapping, got " ++ kindName)
  | unfitRecord index kindName =>
    .text ("Record " ++ toString index ++ " must be a mapping of column to value, got " ++ kindName)
  | unfitCount _ clause given =>
    .text (clause ++ " must be a non-negative integer, got " ++ given.shown)
  | unsupportedColumnType columnType columnName =>
    let place := if columnName.isTruthy then " for column '" ++ columnName.plain ++ "'" else ""
    .text ("Unsupported column type " ++ columnType.shown ++ place ++ ". Valid types: "
      ++ commaSeparated validTypes)
  | unlistedDefault columnName default =>
    .text ("Default for array column '" ++ columnName.plain ++ "' must be a list, got "
      ++ default.shown)
  | unrenderableDefault columnName default =>
    .text ("Cannot render default " ++ default.shown ++ " for column '" ++ columnName.plain ++ "'")
  | tableNotFound tableName available listed =>
    .text ("Table '" ++ tableName.plain ++ "' not found. "
      ++ (if available.isTruthy then "Available tables: " ++ commaSeparated listed
        else "No tables are declared."))
  | engineFailed reason => .text ("Failed to create database engine: " ++ reason)
  | unsupportedDialect dialect =>
    .text ("Unsupported database dialect: " ++ dialect ++ ". Supported: "
      ++ commaSeparated supportedDialects)
  | connectionTestFailed reason => .text ("Database connection test failed: " ++ reason)

/-- The named parts of a rejection that callers may ask for. -/
def attributes : Rejection → List (String × Value)
  | emptyPayload operation table reason =>
    [("operation", operation), ("table", table), ("reason", reason)]
  | unsupportedJoin operation table => [("operation", operation), ("table", table)]
  | invalidFilter column reason => [("column", column), ("reason", reason)]
  | unsupportedColumnType columnType columnName =>
    [("column_type", columnType), ("column_name", columnName)]
  | tableNotFound tableName available _ =>
    [("table_name", tableName), ("available_tables", available.orElse (.list []))]
  | _ => []

def dictOf (fields : List (String × Value)) : Value :=
  .dict (fields.map fun (field, v) => (.text field, v))

/-- What a rejection is about, by name; an empty mapping if nothing was stated. -/
def context : Rejection → Value
  | stated _ _ context => context.orElse (.dict [])
  | r@(emptyPayload ..) | r@(unsupportedJoin ..) | r@(tableNotFound ..) => dictOf r.attributes
  | r@(invalidFilter ..) => dictOf (r.attributes ++ [("valid_keys", .texts validKeys)])
  | missingColumns table index missing =>
    dictOf [("table", .text table), ("record_index", .int index),
      ("missing_columns", .texts missing)]
  | recordList table => dictOf [("table", .text table)]
  | unfitInsert table _ | unfitUpdate table _ => dictOf [("table", table)]
  | unfitRecord index _ => dictOf [("record_index", .int index)]
  | unfitCount table clause given => dictOf [("table", table), (clause, .text given.shown)]
  | unsupportedColumnType columnType columnName =>
    dictOf [("column_type", .text columnType.shown), ("column_name", columnName),
      ("valid_types", .texts validTypes)]
  | unlistedDefault columnName default | unrenderableDefault columnName default =>
    dictOf [("column_name", columnName), ("default", .text default.shown)]
  | engineFailed _ | connectionTestFailed _ => dictOf []
  | unsupportedDialect dialect => dictOf [("dialect", .text dialect)]

/-- A rejection as a mapping of its kind, message and context. -/
def toDict (r : Rejection) : Value :=
  dictOf [("error", .text r.kind.title), ("message", r.message), ("context", r.context)]

/-- A table that is not among `available`, whose elements have to be texts. -/
def tableNotFound? (tableName available : Value) : Option Rejection := do
  let listed ← if available.isTruthy then available.elements?.bind Value.texts? else some []
  return tableNotFound tableName available listed

/-- The rejection of a kind with its parts given in order, if they are as many as it has. -/
def ofParts? : RejectionKind → List Value → Option Rejection
  | .emptyPayload, [operation, table, reason] => some (emptyPayload operation table reason)
  | .unsupportedJoin, [operation, table] => some (unsupportedJoin operation table)
  | .invalidFilter, [column, reason] => some (invalidFilter column reason)
  | .unsupportedColumnType, [columnType] => some (unsupportedColumnType columnType .null)
  | .unsupportedColumnType, [columnType, columnName] =>
    some (unsupportedColumnType columnType columnName)
  | .tableNotFound, [tableName] => tableNotFound? tableName .null
  | .tableNotFound, [tableName, available] => tableNotFound? tableName available
  | .emptyPayload, _ | .unsupportedJoin, _ | .invalidFilter, _ | .unsupportedColumnType, _
  | .tableNotFound, _ => none
  | kind, [message] => some (stated kind message .null)
  | kind, [message, context] => some (stated kind message context)
  | _, _ => none

end Rejection

end SqlBuilder
