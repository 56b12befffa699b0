import SqlBuilder.Schema.Column

/-!
# Registries of tables

A registry holds the columns of each declared table, resolved when it is built, and is never changed
afterwards. Tables keep the order of their declaration.
-/

namespace SqlBuilder

structure Registry where
  tables : List (Value × Columns)

/-- The entries of a mapping that is read entry by entry. -/
def Value.entries : Value → Outcome (List (Value × Value))
  | dict entries => .ok entries
  | typeName .mapping => .error .unfit
  | _ => .error .lacking

/-- The columns of a table from a mapping of keys to what they stand for. -/
def Columns.ofValue (columns : Value) : Outcome Columns := do
  (← columns.entries).mapM fun (key, v) => do return (key, ← ColumnDefinition.resolve v key)

def Columns.toValue (columns : Columns) : Value :=
  .dict (columns.map fun (key, d) => (key, d.toValue))

namespace Registry

def ofValue (schema : Value) : Outcome Registry := do
  let tables ← (← schema.entries).mapM fun (name, columns) => do
    return (name, ← Columns.ofValue columns)
  return ⟨tables⟩

/-- The names of the tables, in order. -/
def names (r : Registry) : List Value := r.tables.map (·.1)

def size (r : Registry) : Nat := r.tables.length

/-- What is declared under a name that could be a key. -/
def lookup (r : Registry) (name : Value) : Outcome (Option Columns) :=
  if name.isHashable then .ok (lookup? r.tables name) else .error .unfit

def contains (r : Registry) (name : Value) : Outcome Bool := do
  return (← r.lookup name).isSome

/-- The refusal of a name that is not declared; it lists the names that are. -/
def missing (r : Registry) (name : Value) : Failure :=
  match Rejection.tableNotFound? name (.list r.names) with
  | some reason => .rejected reason
  | none => .unfit

/-- The columns of a declared table. -/
def get (r : Registry) (name : Value) : Outcome Columns := do
  match ← r.lookup name with
  | some columns => return columns
  | none => .error (r.missing name)

/-- The columns of a table cannot be set. -/
def set (r : Registry) (name : Value) : Outcome Unit := do
  let _ ← r.get name
  .error .unfit

def shown (r : Registry) : String :=
  "SchemaRegistry(tables=" ++ (Value.list r.names).shown ++ ")"

/-- The statement that creates a declared table. -/
def createTable (quoting : Bool) (r : Registry) (name : Value) : Outcome String := do
  SqlBuilder.createTable quoting name (← r.get name)

/-- The statements that create all tables, in order. -/
def createTables (quoting : Bool) (r : Registry) : Outcome (List String) :=
  r.tables.mapM fun (name, columns) => SqlBuilder.createTable quoting name columns

end Registry

end SqlBuilder
