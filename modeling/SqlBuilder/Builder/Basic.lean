import SqlBuilder.Statement.Compiled
import SqlBuilder.Validation.Statement

/-!
# Builders

A builder collects the parts of one statement. Names and records are kept as they were given; they
are checked when a snapshot of the builder is taken as a statement.
-/

namespace SqlBuilder

structure Builder where
  table : Value
  operation : Operation := .select
  projection : List Value := []
  filters : List Filter := []
  joins : List Join := []
  payload : Value := .null
  limit : Option Nat := none
  offset : Option Nat := none
  returning : Bool := false

namespace Builder

/-- The statement a builder stands for, if its names are texts and its records have texts as
columns. -/
def snapshot (b : Builder) : Outcome Statement :=
  let statement (table : String) (projection : List String) (payload : Payload) : Statement :=
    { b with table, projection, payload }
  (statement <$> (Validation.text b.table).within (.named "table")
    <*> (Checked.each Validation.text 0 b.projection).within (.named "projection")
    <*> (Validation.payload b.payload).within (.named "payload")).orInvalid
      RecordKind.statement.title

/-- The statement as SQL with its parameters. -/
def compile (quoting : Bool) (b : Builder) : Outcome Compiled := do (← b.snapshot).compile quoting

end Builder

end SqlBuilder
