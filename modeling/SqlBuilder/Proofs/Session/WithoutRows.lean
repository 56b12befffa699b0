import SqlBuilder.Proofs.Builder.Reachable
import SqlBuilder.Session.Program
import SqlBuilder.Session.Recorder

/-!
# Programs without their rows

No step of a program depends on rows that an earlier one was answered.  So an
adapter whose answers lose their rows takes a program the same way through the
same worlds, and only the rows in its replies are lost.
-/

namespace SqlBuilder

def Answer.withoutRows : Answer → Answer
  | .rows _ => .rows []
  | .first _ => .first none
  | answer => answer

namespace Reply

mutual

/-- A reply with no rows in it, nor in the replies to steps inside. -/
def withoutRows : Reply → Reply
  | answer a => answer a.withoutRows
  | result _ => result Recorder.noRows
  | block replies => block (withoutRowsAll replies)
  | returned replies value => returned (withoutRowsAll replies) value
  | failed failure (some replies) => failed failure (some (withoutRowsAll replies))
  | failed failure none => failed failure none
  | sql text => sql text
  | tables names => tables names
  | sameHandle schema adapter => sameHandle schema adapter
  | inTransaction b => inTransaction b
  | done => done

def withoutRowsAll : List Reply → List Reply
  | [] => []
  | reply :: replies => reply.withoutRows :: withoutRowsAll replies

end

theorem withoutRows_around
    (complete : Reply) (replies : List Reply) (failure : Option Failure) :
    around complete.withoutRows (withoutRowsAll replies) failure =
      Prod.map withoutRows id (around complete replies failure) := by
  cases failure <;> rfl

end Reply

variable {World Handle : Type} (A : Adapter World Handle)

/-- An adapter that answers without rows. -/
def Adapter.withoutRows : Adapter World Handle :=
  { A with
    send := fun h sql parameters w =>
      Prod.map (Except.map fun _ => Recorder.noRows) id (A.send h sql parameters w) }

theorem Adapter.withoutRows_transaction
    {α β : Type} (f : α → β) (h : Handle)
    {work : Handle → World → (α × Option Failure) × World}
    {work' : Handle → World → (β × Option Failure) × World}
    (hwork : ∀ h w, work' h w = Prod.map (Prod.map f id) id (work h w)) (idle : α) (w : World) :
    A.withoutRows.transaction h work' (f idle) w =
      Prod.map (Prod.map f id) id (A.transaction h work idle w) := by
  have hscoped : A.withoutRows.isScoped h = A.isScoped h := rfl
  have hstart : A.withoutRows.start h w = A.start h w := rfl
  unfold transaction
  rw [hscoped, hstart]
  split
  next => exact hwork h w
  next =>
    obtain ⟨outcome, w'⟩ := A.start h w
    cases outcome with
    | error failure => rfl
    | ok inner =>
        simp only [hwork]
        rfl

namespace Builder

variable (quoting : Bool) (h : Handle)

theorem execute_withoutRows
    (b : Builder) (w : World) :
    b.execute A.withoutRows quoting h w =
      Prod.map (Except.map fun _ => []) id (b.execute A quoting h w) := by
  unfold execute
  cases b.compile quoting with
  | error failure => rfl
  | ok c =>
      simp only [Adapter.withoutRows]
      obtain ⟨answer, w'⟩ := A.send h (.text c.sql) c.parameters w
      cases answer <;> rfl

theorem call_withoutRows
    (b : Builder) (w : World) (c : Call) :
    b.call A.withoutRows quoting h w c =
      Prod.map (Prod.map (Except.map Answer.withoutRows) id) id (b.call A quoting h w c) := by
  unfold call
  cases Request.ofWord c.word c.args c.named with
  | error failure => rfl
  | ok r =>
      cases r with
      | change c =>
          simp only [request]
          cases (b.change c).refusal <;> rfl
      | compiled =>
          simp only [request]
          cases b.compile quoting <;> rfl
      | snapshot =>
          simp only [request]
          cases b.snapshot <;> rfl
      | tableName => rfl
      | execute | first | rows =>
          simp only [request, execute_withoutRows]
          obtain ⟨rows, w'⟩ := b.execute A quoting h w
          cases rows <;> rfl

theorem chain_withoutRows
    (calls : List Call) :
    ∀ (b : Builder) (last : Answer) (w : World),
      chain A.withoutRows quoting h b last.withoutRows w calls =
        Prod.map (Except.map Answer.withoutRows) id (chain A quoting h b last w calls) := by
  induction calls with
  | nil =>
      intro b last w
      cases last with
      | changed =>
          simp only [chain, Answer.withoutRows]
          cases b.snapshot <;> rfl
      | compiled | snapshot | tableName | rows | first => rfl
  | cons c calls ih =>
      intro b last w
      unfold chain
      rw [call_withoutRows]
      obtain ⟨⟨outcome, b'⟩, w'⟩ := b.call A quoting h w c
      cases outcome with
      | error failure => rfl
      | ok answer => exact ih b' answer w'

end Builder

namespace Database

variable (d : Database) (h : Handle)

theorem query_withoutRows
    (table : Value) (calls : List Call) (w : World) :
    d.query A.withoutRows h table calls w =
      Prod.map (Except.map Answer.withoutRows) id (d.query A h table calls w) := by
  unfold query
  cases d.schema.get table with
  | error failure => rfl
  | ok columns => exact Builder.chain_withoutRows A d.quoting h calls { table } .changed w

theorem create_withoutRows
    (tables : List (Value × Columns)) (w : World) :
    d.create A.withoutRows h w tables = d.create A h w tables := by
  induction tables generalizing w with
  | nil => rfl
  | cons table tables ih =>
      obtain ⟨name, columns⟩ := table
      unfold create
      cases createTable d.quoting name columns with
      | error failure => rfl
      | ok sql =>
          simp only [Adapter.withoutRows]
          obtain ⟨answer, w'⟩ := A.send h (.text sql) [] w
          cases answer with
          | error failure => rfl
          | ok result => exact ih w'

theorem send_withoutRows
    (sql parameters : Value) (w : World) :
    send A.withoutRows h sql parameters w =
      Prod.map (Except.map fun _ => Recorder.noRows) id (send A h sql parameters w) := by
  unfold send
  cases Adapter.parameters parameters <;> rfl

variable (root : Handle)

mutual

theorem run_withoutRows
    (scopes : List Handle) (h : Handle) (w : World) :
    ∀ step : Step, d.run A.withoutRows root scopes h w step =
      Prod.map (Prod.map Reply.withoutRows id) id (d.run A root scopes h w step)
  | .query table calls => by
      simp only [run, query_withoutRows]
      obtain ⟨answer, w'⟩ := d.query A h table calls w
      cases answer <;> rfl
  | .createTables => by
      simp only [run, create_withoutRows]
      obtain ⟨outcome, w'⟩ := d.create A h w d.schema.tables
      cases outcome <;> rfl
  | .send sql parameters => by
      simp only [run, send_withoutRows]
      obtain ⟨result, w'⟩ := send A h sql parameters w
      cases result <;> rfl
  | .createTableSql table => by
      simp only [run]
      cases d.schema.createTable d.quoting table <;> rfl
  | .tables | .sameHandle | .inTransaction | .close | .raise _ => rfl
  | .attempt step => by
      simp only [run, run_withoutRows scopes h w step]
      rfl
  | .outer step => run_withoutRows scopes root w step
  | .enclosing depth step => run_withoutRows scopes (scopes.getD depth root) w step
  | .closing steps => by
      simp only [run, runAll_withoutRows scopes h w steps]
      obtain ⟨⟨replies, failure⟩, w'⟩ := d.runAll A root scopes h w steps
      exact Prod.ext (Reply.withoutRows_around (.block replies) replies failure) rfl
  | .transaction steps result => by
      have hwork := A.withoutRows_transaction Reply.withoutRowsAll h
        (fun inner w => runAll_withoutRows (inner :: scopes) inner w steps) [] w
      simp only [run]
      rw [Reply.withoutRowsAll] at hwork
      rw [hwork]
      obtain ⟨⟨replies, failure⟩, w'⟩ :=
        A.transaction h (fun inner w => d.runAll A root (inner :: scopes) inner w steps) [] w
      exact Prod.ext (Reply.withoutRows_around (.returned replies result) replies failure) rfl

theorem runAll_withoutRows
    (scopes : List Handle) (h : Handle) (w : World) :
    ∀ steps : List Step, d.runAll A.withoutRows root scopes h w steps =
      Prod.map (Prod.map Reply.withoutRowsAll id) id (d.runAll A root scopes h w steps)
  | [] => rfl
  | step :: steps => by
      simp only [runAll, run_withoutRows scopes h w step]
      obtain ⟨⟨reply, failure⟩, w'⟩ := d.run A root scopes h w step
      cases failure with
      | some failure => rfl
      | none =>
          simp only [Prod.map, id, runAll_withoutRows scopes h w' steps]
          rfl

end

end Database

end SqlBuilder
