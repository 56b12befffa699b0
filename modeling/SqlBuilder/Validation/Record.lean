import SqlBuilder.Failure
import SqlBuilder.Validation.Schema
import SqlBuilder.Validation.Statement

/-!
# Making records and changing their fields

Every record shape and column type can be made from named fields. All but query results are frozen:
they refuse to be changed. The fields of a query result take any value.
-/

namespace SqlBuilder

/-- A record or column type of the type `t` from named fields. -/
def construct (t : TypeName) (fields : Fields) : Outcome Value :=
  match t with
  | .record .columnDefinition => (ColumnDefinition.ofFields fields).map ColumnDefinition.toValue
  | .record .filter => (Filter.ofFields fields).map Filter.toValue
  | .record .join => (Join.ofFields fields).map Join.toValue
  | .record .statement => (Statement.ofFields fields).map Statement.toValue
  | .record .queryResult => (QueryResult.ofFields fields).map QueryResult.toValue
  | t => ((Validation.columnTypeFields t fields).map Value.columnType).orInvalid t.shortName

/-- Whether a name is set aside and never one of a record's fields. -/
def isReserved (name : String) : Bool := name.startsWith "_"

/-- The record `v` after its field `name` was set to `new`. -/
def assign (v : Value) (name : String) (new : Value) : Outcome Value :=
  if isReserved name then .ok v
  else match v with
    | .record .queryResult fields =>
      if (field? fields name).isSome then .ok (.record .queryResult (putField name new fields))
      else .error .unlisted
    | .record kind _ => .error (.invalid kind.title [⟨[.named name], .frozen⟩])
    | .columnType t => .error (.invalid t.typeName.shortName [⟨[.named name], .frozen⟩])
    | _ => .error .lacking

/-- Assignments made one after the other, each with the record after it or why it failed. -/
def assignAll (v : Value) : Fields → List (Outcome Value)
  | [] => []
  | (name, new) :: rest => match assign v name new with
    | .ok w => .ok w :: assignAll w rest
    | .error failure => .error failure :: assignAll v rest

end SqlBuilder
