import SqlBuilder.Failure
import SqlBuilder.Statement.Basic

/-!
# Adapters

An adapter hands statements to whatever runs them. Work goes through a handle: either one of the
adapter itself, or one that is scoped to a transaction and lives as long as it does.
-/

namespace SqlBuilder

structure Adapter (World Handle : Type) where
  /-- Sends a statement with its parameters. -/
  send : Handle → Value → List Value → World → Outcome QueryResult × World
  /-- Whether work through a handle is part of a transaction. -/
  isScoped : Handle → Bool
  /-- Opens a transaction and gives a handle scoped to it. -/
  start : Handle → World → Outcome Handle × World
  /-- Ends the transaction of a scoped handle by how the work in it ended, and tells how the whole
  ended. -/
  finish : Handle → Option Failure → World → Option Failure × World
  close : Handle → World → World

namespace Adapter

variable {World Handle α : Type}

/-- The values to send with a statement; what counts as not given stands for none. -/
def parameters (v : Value) : Outcome (List Value) :=
  if v.isTruthy then Outcome.ofOption .unfit v.elements? else .ok []

/-- Work inside a transaction. In a handle that is scoped already, the work joins the transaction
that is open. Nothing of the work is done if the transaction cannot be opened. -/
def transaction (A : Adapter World Handle) (h : Handle)
    (work : Handle → World → (α × Option Failure) × World) (idle : α) (w : World) :
    (α × Option Failure) × World :=
  if A.isScoped h then work h w
  else match A.start h w with
    | (.error failure, w) => ((idle, some failure), w)
    | (.ok inner, w) =>
      let ((a, failure), w) := work inner w
      let (failure, w) := A.finish inner failure w
      ((a, failure), w)

end Adapter

end SqlBuilder
