import SqlBuilder.Schema.Registry
import SqlBuilder.Session.Conversation

/-!
# Programs over a database

A database ties a registry to an adapter. A program is a tree of steps: transactions and attempts
hold steps of their own, and a failure leaves every step around it up to the next attempt. Steps of
a transaction work through a handle scoped to it, unless they ask for the outer one or for that of a
transaction further out.
-/

namespace SqlBuilder

structure Database where
  schema : Registry
  quoting : Bool

inductive Step
  | query (table : Value) (calls : List Call)
  | createTableSql (table : Value)
  | createTables
  | send (sql parameters : Value)
  | tables
  | sameHandle
  | inTransaction
  | close
  | raise (message : String)
  | attempt (step : Step)
  | outer (step : Step)
  | enclosing (depth : Nat) (step : Step)
  | closing (steps : List Step)
  | transaction (steps : List Step) (result : Value)

inductive Reply
  | answer (a : Answer)
  | sql (text : String)
  | result (r : QueryResult)
  | tables (names : List Value)
  | sameHandle (schema adapter : Bool)
  | inTransaction (b : Bool)
  | done
  | block (replies : List Reply)
  | returned (replies : List Reply) (result : Value)
  | failed (failure : Failure) (replies : Option (List Reply))

namespace Reply

/-- The reply to a step without steps of its own, and the failure that leaves it. -/
def ofOutcome : Outcome Reply → Reply × Option Failure
  | .ok reply => (reply, none)
  | .error failure => (failed failure none, some failure)

/-- The reply to a step around other steps. -/
def around (complete : Reply) (replies : List Reply) : Option Failure → Reply × Option Failure
  | none => (complete, none)
  | some failure => (failed failure (some replies), some failure)

end Reply

namespace Database

variable {World Handle : Type} (A : Adapter World Handle) (d : Database) (root : Handle)

/-- A statement on a declared table. -/
def query (h : Handle) (table : Value) (calls : List Call) (w : World) : Outcome Answer × World :=
  match d.schema.get table with
  | .error failure => (.error failure, w)
  | .ok _ => Builder.chain A d.quoting h { table } .changed w calls

/-- Each table is written and created before the next. -/
def create (h : Handle) (w : World) : List (Value × Columns) → Outcome Unit × World
  | [] => (.ok (), w)
  | (name, columns) :: tables => match createTable d.quoting name columns with
    | .error failure => (.error failure, w)
    | .ok sql => match A.send h (.text sql) [] w with
      | (.error failure, w) => (.error failure, w)
      | (.ok _, w) => create h w tables

def send (h : Handle) (sql parameters : Value) (w : World) : Outcome QueryResult × World :=
  match Adapter.parameters parameters with
  | .error failure => (.error failure, w)
  | .ok parameters => A.send h sql parameters w

mutual

/-- The reply to a step, with the failure that leaves the step if there is one; `scopes` are the
handles of the transactions around it, the innermost first. -/
def run (scopes : List Handle) (h : Handle) (w : World) : Step → (Reply × Option Failure) × World
  | .query table calls =>
    let (answer, w) := d.query A h table calls w
    (Reply.ofOutcome (answer.map .answer), w)
  | .createTableSql table =>
    (Reply.ofOutcome ((d.schema.createTable d.quoting table).map .sql), w)
  | .createTables =>
    let (outcome, w) := d.create A h w d.schema.tables
    (Reply.ofOutcome (outcome.map fun _ => .done), w)
  | .send sql parameters =>
    let (result, w) := send A h sql parameters w
    (Reply.ofOutcome (result.map .result), w)
  | .tables => ((.tables d.schema.names, none), w)
  | .sameHandle => ((.sameHandle true (!A.isScoped h), none), w)
  | .inTransaction => ((.inTransaction (A.isScoped h), none), w)
  | .close => ((.done, none), A.close h w)
  | .raise message => (Reply.ofOutcome (.error (.raised message)), w)
  | .attempt step =>
    let ((reply, _), w) := run scopes h w step
    ((reply, none), w)
  | .outer step => run scopes root w step
  | .enclosing depth step => run scopes (scopes.getD depth root) w step
  | .closing steps =>
    let ((replies, failure), w) := runAll scopes h w steps
    (Reply.around (.block replies) replies failure, A.close h w)
  | .transaction steps result =>
    let ((replies, failure), w) :=
      A.transaction h (fun inner w => runAll (inner :: scopes) inner w steps) [] w
    (Reply.around (.returned replies result) replies failure, w)

/-- The replies to steps up to the first that fails. -/
def runAll (scopes : List Handle) (h : Handle) (w : World) :
    List Step → (List Reply × Option Failure) × World
  | [] => (([], none), w)
  | step :: steps => match run scopes h w step with
    | ((reply, some failure), w) => (([reply], some failure), w)
    | ((reply, none), w) =>
      let ((replies, failure), w) := runAll scopes h w steps
      ((reply :: replies, failure), w)

end

/-- A program whose steps are all made in turn, whichever fail; each reply with the world after. -/
def session (w : World) : List Step → List (Reply × World)
  | [] => []
  | step :: steps =>
    let ((reply, _), w) := d.run A root [] root w step
    (reply, w) :: session w steps

end Database

end SqlBuilder
