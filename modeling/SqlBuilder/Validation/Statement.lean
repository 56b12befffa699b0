import SqlBuilder.Failure
import SqlBuilder.Statement.Basic
import SqlBuilder.Validation.Fields

/-!
# Reading filters, joins, statements and query results
-/

namespace SqlBuilder.Validation

def filter (fields : Fields) : Checked Filter :=
  Filter.mk <$> fields.defaulted "connective" (member Connective) .and
    <*> fields.required "column" text
    <*> fields.defaulted "operator" (member FilterOperator) .eq
    <*> .valid ((field? fields "value").getD .null)

def join (fields : Fields) : Checked Join :=
  Join.mk <$> fields.required "kind" (member JoinKind)
    <*> fields.required "table" text
    <*> fields.required "left_column" text
    <*> fields.defaulted "operator" text "="
    <*> fields.required "right_column" text

/-- A record of the shape `kind`, or its fields in a mapping. -/
def recordOrFields {α : Type} (kind : RecordKind) (check : Fields → Checked α) :
    Value → Checked α
  | .dict entries => check (Fields.ofEntries entries)
  | .record k fields => if k = kind then check fields else .fail (.notRecord kind.title)
  | _ => .fail (.notRecord kind.title)

/-- A record, a list of records or nothing; if it is none of these, what keeps it from being the
first and what keeps it from being the second. -/
def payload (v : Value) : Checked Payload :=
  match v with
  | .null => .valid .nothing
  | v => match record v with
    | .valid fields => .valid (.record fields)
    | .faulty first => match listOf record v with
      | .valid rows => .valid (.records rows)
      | .faulty rest =>
        (fun _ _ => Payload.nothing)
          <$> (Checked.faulty first : Checked Unit).within (.named "dict[str,any]")
          <*> (Checked.faulty rest : Checked Unit).within (.named "list[dict[str,any]]")

def statement (fields : Fields) : Checked Statement :=
  Statement.mk <$> fields.required "table" text
    <*> fields.defaulted "operation" (member Operation) .select
    <*> fields.defaulted "projection" (tupleOf text) []
    <*> fields.defaulted "filters" (tupleOf (recordOrFields .filter filter)) []
    <*> fields.defaulted "joins" (tupleOf (recordOrFields .join join)) []
    <*> fields.defaulted "payload" payload .nothing
    <*> fields.defaulted "limit" (optional count) none
    <*> fields.defaulted "offset" (optional count) none
    <*> fields.defaulted "returning" boolean false

def queryResult (fields : Fields) : Checked QueryResult :=
  QueryResult.mk <$> fields.defaulted "rows" (listOf record) []
    <*> fields.defaulted "row_count" integer 0

end SqlBuilder.Validation

namespace SqlBuilder

/-- A filter from its fields. -/
def Filter.ofFields (fields : Fields) : Outcome Filter :=
  (Validation.filter fields).orInvalid RecordKind.filter.title

/-- A join from its fields. -/
def Join.ofFields (fields : Fields) : Outcome Join :=
  (Validation.join fields).orInvalid RecordKind.join.title

/-- A statement from its fields. -/
def Statement.ofFields (fields : Fields) : Outcome Statement :=
  (Validation.statement fields).orInvalid RecordKind.statement.title

/-- A query result from its fields. -/
def QueryResult.ofFields (fields : Fields) : Outcome QueryResult :=
  (Validation.queryResult fields).orInvalid RecordKind.queryResult.title

end SqlBuilder
