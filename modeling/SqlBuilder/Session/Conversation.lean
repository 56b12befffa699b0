import SqlBuilder.Builder.Request
import SqlBuilder.Session.Adapter

/-!
# Conversations with a builder

Calls are made on one builder in turn. A call that asks for rows compiles the statement first, and
only a statement that compiles reaches the adapter.
-/

namespace SqlBuilder

/-- A request by name with its arguments. -/
structure Call where
  word : String
  args : List Value
  named : Fields

inductive Answer
  | changed
  | compiled (c : Compiled)
  | snapshot (s : Statement)
  | tableName (name : Value)
  | rows (rows : List Record)
  | first (row : Option Record)

namespace Builder

variable {World Handle : Type} (A : Adapter World Handle) (quoting : Bool) (h : Handle)

/-- The rows that the statement of a builder gives. -/
def execute (b : Builder) (w : World) : Outcome (List Record) × World :=
  match b.compile quoting with
  | .error failure => (.error failure, w)
  | .ok c => match A.send h (.text c.sql) c.parameters w with
    | (.error failure, w) => (.error failure, w)
    | (.ok result, w) => (.ok result.rows, w)

def request (b : Builder) (w : World) : Request → (Outcome Answer × Builder) × World
  | .change c =>
    let changed := b.change c
    match changed.refusal with
    | none => ((.ok .changed, changed.builder), w)
    | some failure => ((.error failure, changed.builder), w)
  | .compiled => (((b.compile quoting).map .compiled, b), w)
  | .snapshot => ((b.snapshot.map .snapshot, b), w)
  | .tableName => ((.ok (.tableName b.table), b), w)
  | .execute | .rows =>
    let (rows, w) := b.execute A quoting h w
    ((rows.map .rows, b), w)
  | .first =>
    let (rows, w) := b.execute A quoting h w
    ((rows.map fun rows => .first rows.head?, b), w)

/-- A call whose arguments do not fit changes nothing. -/
def call (b : Builder) (w : World) (c : Call) : (Outcome Answer × Builder) × World :=
  match Request.ofWord c.word c.args c.named with
  | .error failure => ((.error failure, b), w)
  | .ok r => b.request A quoting h w r

/-- All calls in turn, whichever fail; each answer with the builder after it. -/
def converse (b : Builder) (w : World) : List Call → List (Outcome Answer × Builder) × World
  | [] => ([], w)
  | c :: calls =>
    let ((answer, b), w) := b.call A quoting h w c
    let (answers, w) := converse b w calls
    ((answer, b) :: answers, w)

/-- Calls up to the first that fails. The answer is that of the last call, or the statement of the
builder if that call changed it; `last` is the answer if there is no call. -/
def chain (b : Builder) (last : Answer) (w : World) : List Call → Outcome Answer × World
  | [] => match last with
    | .changed => (b.snapshot.map .snapshot, w)
    | last => (.ok last, w)
  | c :: calls => match b.call A quoting h w c with
    | ((.error failure, _), w) => (.error failure, w)
    | ((.ok answer, b), w) => chain b answer w calls

end Builder

end SqlBuilder
