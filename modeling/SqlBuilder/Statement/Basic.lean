import SqlBuilder.Value.Fields
import SqlBuilder.Vocabulary

/-!
# Statements

A statement is one operation on one table with everything it needs: what to select or return,
conditions, joins, the record or records to write, and paging.
-/

namespace SqlBuilder

/-- One comparison and its connective to the one before. -/
structure Filter where
  connective : Connective
  column : String
  operator : FilterOperator
  value : Value

/-- A join with another table. -/
structure Join where
  kind : JoinKind
  table : String
  leftColumn : String
  operator : String
  rightColumn : String
  deriving DecidableEq, Repr

/-- What an operation writes: nothing, one record, or a list of records. -/
inductive Payload
  | nothing
  | record (fields : List (String × Value))
  | records (rows : List (List (String × Value)))

structure Statement where
  table : String
  operation : Operation
  projection : List String
  filters : List Filter
  joins : List Join
  payload : Payload
  limit : Option Nat
  offset : Option Nat
  returning : Bool

/-- Rows given back by an adapter, and how many rows a statement touched. -/
structure QueryResult where
  rows : List (List (String × Value))
  rowCount : Int

/-! ## As values -/

/-- A record as a mapping. -/
def recordValue (fields : List (String × Value)) : Value :=
  .dict (fields.map fun (name, v) => (.text name, v))

def Filter.toValue (f : Filter) : Value :=
  .record .filter [("connective", .text f.connective.word), ("column", .text f.column),
    ("operator", .text f.operator.word), ("value", f.value)]

def Join.toValue (j : Join) : Value :=
  .record .join [("kind", .text j.kind.word), ("table", .text j.table),
    ("left_column", .text j.leftColumn), ("operator", .text j.operator),
    ("right_column", .text j.rightColumn)]

def Payload.toValue : Payload → Value
  | .nothing => .null
  | .record fields => recordValue fields
  | .records rows => .list (rows.map recordValue)

def optionalCount (n : Option Nat) : Value := (n.map fun n => Value.int n).getD .null

def Statement.toValue (s : Statement) : Value :=
  .record .statement [("table", .text s.table), ("operation", .text s.operation.word),
    ("projection", .tuple (s.projection.map .text)),
    ("filters", .tuple (s.filters.map Filter.toValue)),
    ("joins", .tuple (s.joins.map Join.toValue)),
    ("payload", s.payload.toValue), ("limit", optionalCount s.limit),
    ("offset", optionalCount s.offset), ("returning", .bool s.returning)]

def QueryResult.toValue (r : QueryResult) : Value :=
  .record .queryResult [("rows", .list (r.rows.map recordValue)), ("row_count", .int r.rowCount)]

end SqlBuilder
