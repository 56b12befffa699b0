import SqlBuilder.Builder.Change

/-!
# What can be asked of a builder by name

A request comes as a word with arguments, given by position or by name. Each parameter takes exactly
one argument.
-/

namespace SqlBuilder

/-- A change of a builder, or something to be read from it or run by it. -/
inductive Request
  | change (c : Change)
  | compiled
  | snapshot
  | tableName
  | execute
  | first
  | rows

namespace Request

/-- The arguments for `parameters` in their order; the first ones are given by position. -/
def bindNamed (parameters : List String) (named : Fields) : Outcome (List Value) :=
  if named.all fun argument => argument.1 ∈ parameters then
    Outcome.ofOption .unfit (parameters.mapM (field? named))
  else .error .unfit

def bind (parameters : List String) (args : List Value) (named : Fields) : Outcome (List Value) :=
  if parameters.length < args.length then .error .unfit
  else do return args ++ (← bindNamed (parameters.drop args.length) named)

/-- A request without arguments. -/
def plain (r : Request) (args : List Value) (named : Fields) : Outcome Request := do
  let _ ← bind [] args named
  return r

def single (parameter : String) (make : Value → Change) (args : List Value) (named : Fields) :
    Outcome Request := do
  match ← bind [parameter] args named with
  | [v] => return .change (make v)
  | _ => .error .unfit

def join (kind : JoinKind) (args : List Value) (named : Fields) : Outcome Request := do
  match ← bind ["table", "left", "operator", "right"] args named with
  | [table, left, operator, right] => return .change (.join kind table left operator right)
  | _ => .error .unfit

/-- A mapping of conditions by position, and columns by name. -/
def filter (connective : Connective) (args : List Value) (named : Fields) : Outcome Request :=
  match args with
  | [] => .ok (.change (.filter connective .null named))
  | [conditions] => .ok (.change (.filter connective conditions named))
  | _ => .error .unfit

/-- Columns by position alone. -/
def select (args : List Value) (named : Fields) : Outcome Request :=
  if named.isEmpty then .ok (.change (.select args)) else .error .unfit

/-- The request that a word with arguments stands for. -/
def ofWord (word : String) (args : List Value) (named : Fields) : Outcome Request :=
  match word with
  | "select" => select args named
  | "insert" => single "data" .insert args named
  | "update" => single "data" .update args named
  | "delete" => plain (.change .delete) args named
  | "inner_join" => join .inner args named
  | "left_join" => join .left args named
  | "right_join" => join .right args named
  | "full_join" => join .full args named
  | "where" => filter .and args named
  | "or_where" => filter .or args named
  | "limit" => single "limit" .limit args named
  | "offset" => single "offset" .offset args named
  | "to_sql" => plain .compiled args named
  | "execute" => plain .execute args named
  | "first" => plain .first args named
  | "state" => .ok .snapshot
  | "table" => .ok .tableName
  | "iter" => .ok .rows
  | _ => .error .lacking

end Request

end SqlBuilder
