import SqlBuilder.Session.Adapter

/-!
# Recorders

A recorder runs nothing. It notes every statement it is sent and where transactions start and end,
and answers without rows. All handles share one log.
-/

namespace SqlBuilder

namespace Recorder

inductive Entry
  | start
  | commit
  | rollback
  | statement (sql : Value) (parameters : List Value)

/-- What was noted, the oldest first. -/
abbrev Log := List Entry

/-- Whether a handle is scoped to a transaction. -/
abbrev Handle := Bool

/-- An entry as the statement it is noted as. -/
def Entry.asStatement : Entry → Value × List Value
  | start => (.text "BEGIN", [])
  | commit => (.text "COMMIT", [])
  | rollback => (.text "ROLLBACK", [])
  | statement sql parameters => (sql, parameters)

def noRows : QueryResult := { rows := [], rowCount := 0 }

/-- The entry that ends a transaction. -/
def ending : Option Failure → Entry
  | none => .commit
  | some _ => .rollback

end Recorder

open Recorder in
def recorder : Adapter Log Handle where
  send _ sql parameters log := (.ok noRows, log ++ [.statement sql parameters])
  isScoped inner := inner
  start _ log := (.ok true, log ++ [.start])
  finish _ failure log := (failure, log ++ [ending failure])
  close _ log := log

end SqlBuilder
