import SqlBuilder.Statement.Condition
import SqlBuilder.Value.Equality

/-!
# Compiled statements

A statement is compiled to SQL text with marks `$1, $2, …` and the values for them, or to nothing
at all: joins outside a selection, a write without anything to write, records that lack a column of
the first one and conditions that cannot be written are refused.

Whole numbers are written at any size: the limit that an interpreter sets to digits is left out.
-/

namespace SqlBuilder

/-- SQL text and the values for its marks. -/
structure Compiled where
  sql : String
  parameters : List Value

/-- A join as it follows the table selected from. -/
def Join.sql (quoting : Bool) (j : Join) : String :=
  " " ++ j.kind.word ++ " JOIN " ++ Identifier.written quoting j.table
    ++ " ON " ++ Identifier.written quoting j.leftColumn ++ " " ++ j.operator ++ " "
    ++ Identifier.written quoting j.rightColumn

/-- Joins in order. -/
def joinClause (quoting : Bool) (joins : List Join) : String :=
  String.join (joins.map (Join.sql quoting))

/-- A record to write: columns with their values. -/
abbrev Record := List (String × Value)

namespace Record

/-- Those of the columns that a record has no value for. -/
def lacking (columns : List String) (record : Record) : List String :=
  columns.filter fun column => (field? record column).isNone

/-- The values of a record for the columns. -/
def row (columns : List String) (record : Record) : List Value :=
  columns.filterMap (field? record)

/-- The rows of records, all of which need a value for every column. -/
def rows (table : String) (columns : List String) : (start : Nat) → List Record →
    Outcome (List (List Value))
  | _, [] => .ok []
  | index, record :: records =>
    match lacking columns record with
    | [] => do return row columns record :: (← rows table columns (index + 1) records)
    | missing => Outcome.reject (.missingColumns table index missing)

end Record

/-- The records to write, if any were given. -/
def Payload.toRecords : Payload → Option (List Record)
  | .nothing => none
  | .record fields => some [fields]
  | .records rows => some rows

namespace Statement

/-- The columns to select or to return. -/
def columnList (quoting : Bool) (columns : List String) : String :=
  commaSeparated (columns.map (Identifier.written quoting))

def projected (quoting : Bool) (s : Statement) : String :=
  if s.projection.isEmpty then "*" else columnList quoting s.projection

/-- What a write gives back. -/
def returningClause (quoting : Bool) (s : Statement) : String :=
  if s.returning then " RETURNING " ++ s.projected quoting else ""

/-- A count after its word. -/
def countClause (word : String) : Option Nat → String
  | none => ""
  | some n => " " ++ word ++ " " ++ toString n

/-- The refusal of a write that has nothing to write. -/
def nothingToWrite (s : Statement) (reason : String) : Outcome Draft :=
  Outcome.reject (.emptyPayload (.text s.operation.word) (.text s.table) (.text reason))

def selectDraft (quoting : Bool) (s : Statement) : Outcome Draft := do
  let start := "SELECT " ++ s.projected quoting ++ " FROM " ++ Identifier.written quoting s.table
    ++ joinClause quoting s.joins
  let conditions ← Filters.whereClause quoting s.filters
  return .text start :: (conditions
    ++ [.text (countClause "LIMIT" s.limit ++ countClause "OFFSET" s.offset)])

/-- The first record decides the columns of every row. -/
def insertDraft (quoting : Bool) (s : Statement) : Outcome Draft :=
  match s.payload.toRecords with
  | none => s.nothingToWrite "no data provided"
  | some [] => s.nothingToWrite "empty list of records"
  | some ([] :: _) => s.nothingToWrite "no columns to insert"
  | some (first :: others) => do
    let columns := first.map (·.1)
    let rows ← Record.rows s.table columns 0 (first :: others)
    let start := "INSERT INTO " ++ Identifier.written quoting s.table
      ++ " (" ++ columnList quoting columns ++ ") VALUES "
    return .text start :: (Draft.commaSeparated (rows.map Draft.enclosed)
      ++ [.text (s.returningClause quoting)])

/-- A column that takes a new value. -/
def assignment (quoting : Bool) (field : String × Value) : Draft :=
  [.text (Identifier.written quoting field.1 ++ " = "), .bound field.2]

def updateDraft (quoting : Bool) (s : Statement) : Outcome Draft :=
  match s.payload with
  | .nothing => s.nothingToWrite "no data provided"
  | .records _ => Outcome.reject (.recordList s.table)
  | .record [] => s.nothingToWrite "no columns to update"
  | .record fields => do
    let conditions ← Filters.whereClause quoting s.filters
    return .text ("UPDATE " ++ Identifier.written quoting s.table ++ " SET ")
      :: (Draft.commaSeparated (fields.map (assignment quoting)) ++ conditions
        ++ [.text (s.returningClause quoting)])

def deleteDraft (quoting : Bool) (s : Statement) : Outcome Draft := do
  let conditions ← Filters.whereClause quoting s.filters
  return .text ("DELETE FROM " ++ Identifier.written quoting s.table)
    :: (conditions ++ [.text (s.returningClause quoting)])

/-- A statement with its values still in place. -/
def draft (quoting : Bool) (s : Statement) : Outcome Draft :=
  if !s.joins.isEmpty && s.operation ≠ .select then
    Outcome.reject (.unsupportedJoin (.text s.operation.word) (.text s.table))
  else match s.operation with
    | .select => s.selectDraft quoting
    | .insert => s.insertDraft quoting
    | .update => s.updateDraft quoting
    | .delete => s.deleteDraft quoting

/-- The text of a statement and its parameters. -/
def compile (quoting : Bool) (s : Statement) : Outcome Compiled := do
  let draft ← s.draft quoting
  return { sql := draft.sql 1, parameters := draft.bound }

end Statement

end SqlBuilder
