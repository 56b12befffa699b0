import SqlBuilder.Proofs.Session.Simulation
import SqlBuilder.Session.Recorder

/-!
# Logs of recorders

What a program does is a tree: it sends statements, opens transactions around
what is done in them, and joins transactions that are open already.  A recorder
notes this tree from left to right and nothing else, so that its log is read
back by pairing each end of a transaction with the latest start that has none.
-/

namespace SqlBuilder

namespace Recorder

/-- What a program does.  A transaction ends by how the work in it ended, and
work that joins one does not end it. -/
inductive Act
  | statement (sql : Value) (parameters : List Value)
  | transaction (acts : List Act) (failure : Option Failure)
  | joined (acts : List Act)

namespace Act

mutual

/-- What is noted for an act. -/
def entries : Act → Log
  | statement sql parameters => [.statement sql parameters]
  | transaction acts failure => .start :: (entriesAll acts ++ [ending failure])
  | joined acts => entriesAll acts

def entriesAll : List Act → Log
  | [] => []
  | act :: acts => act.entries ++ entriesAll acts

end

theorem entriesAll_append
    (acts later : List Act) :
    entriesAll (acts ++ later) = entriesAll acts ++ entriesAll later := by
  induction acts with
  | nil => rfl
  | cons act acts ih => rw [List.cons_append, entriesAll, entriesAll, ih, List.append_assoc]

/-- The acts of statements that were sent. -/
def ofSends (sends : List (Sent Handle)) : List Act :=
  sends.map fun s => .statement s.sql s.parameters

theorem entriesAll_ofSends
    (sends : List (Sent Handle)) :
    entriesAll (ofSends sends) = sends.map fun s => Entry.statement s.sql s.parameters := by
  induction sends with
  | nil => rfl
  | cons s sends ih =>
      rw [List.map_cons, ← ih]
      rfl

end Act

/-! ## Pairing starts and ends -/

/-- A log with its transactions put together, and whether each was committed. -/
inductive Passage
  | statement (sql : Value) (parameters : List Value)
  | transaction (passages : List Passage) (isCommitted : Bool)

/-- A log read entry by entry: `done` is what was read since the latest start
without an end, and `around` what was read before it and before those further
out.  An end without a start, and a start without an end, cannot be read. -/
def paired : (around : List (List Passage)) → (done : List Passage) → Log →
    Option (List Passage)
  | [], done, [] => some done
  | around, done, .statement sql parameters :: log =>
    paired around (done ++ [.statement sql parameters]) log
  | around, done, .start :: log => paired (done :: around) [] log
  | before :: around, done, .commit :: log =>
    paired around (before ++ [.transaction done true]) log
  | before :: around, done, .rollback :: log =>
    paired around (before ++ [.transaction done false]) log
  | _ :: _, _, [] | [], _, .commit :: _ | [], _, .rollback :: _ => none

theorem paired_ending
    (before : List Passage) (around : List (List Passage)) (done : List Passage)
    (failure : Option Failure) (log : Log) :
    paired (before :: around) done (ending failure :: log) =
      paired around (before ++ [.transaction done failure.isNone]) log := by
  cases failure <;> simp [ending, paired]

namespace Act

mutual

/-- What is read of an act: work that joined a transaction is not told from the
work around it. -/
def passages : Act → List Passage
  | statement sql parameters => [.statement sql parameters]
  | transaction acts failure => [.transaction (passagesAll acts) failure.isNone]
  | joined acts => passagesAll acts

def passagesAll : List Act → List Passage
  | [] => []
  | act :: acts => act.passages ++ passagesAll acts

end

mutual

theorem paired_entries
    (around : List (List Passage)) (done : List Passage) (log : Log) :
    ∀ act : Act, paired around done (act.entries ++ log) = paired around (done ++ act.passages) log
  | statement sql parameters => by simp [entries, passages, paired]
  | transaction acts failure => by
      rw [entries, passages, List.cons_append, List.append_assoc, paired,
        paired_entriesAll, List.nil_append, List.singleton_append, paired_ending]
  | joined acts => by
      rw [entries, passages]
      exact paired_entriesAll around done log acts

theorem paired_entriesAll
    (around : List (List Passage)) (done : List Passage) (log : Log) :
    ∀ acts : List Act,
      paired around done (entriesAll acts ++ log) = paired around (done ++ passagesAll acts) log
  | [] => by simp [entriesAll, passagesAll]
  | act :: acts => by
      rw [entriesAll, passagesAll, List.append_assoc, paired_entries, paired_entriesAll,
        List.append_assoc]

end

/-- The log of acts is well nested, and its transactions are those of the acts. -/
theorem paired_log
    (acts : List Act) : paired [] [] (entriesAll acts) = some (passagesAll acts) := by
  have hread := paired_entriesAll [] [] [] acts
  rw [List.append_nil, List.nil_append, paired] at hread
  exact hread

end Act

/-! ## The acts of a program -/

/-- An adapter that answers as a recorder does and notes nothing. -/
def silent : Adapter Unit Handle where
  send _ _ _ _ := (.ok noRows, ())
  isScoped inner := inner
  start _ _ := (.ok true, ())
  finish _ failure _ := (failure, ())
  close _ _ := ()

end Recorder

open Recorder

namespace Database

variable (d : Database)

mutual

/-- How a step ends when every statement is answered without rows, and what is
done in it.  Statements are those that reach an adapter which notes nothing
else, in the order in which they reach it. -/
def course (scopes : List Handle) (h : Handle) : Step → (Reply × Option Failure) × List Act
  | .attempt step =>
    let ((reply, _), acts) := course scopes h step
    ((reply, none), acts)
  | .outer step => course scopes false step
  | .enclosing depth step => course scopes (scopes.getD depth false) step
  | .closing steps =>
    let ((replies, failure), acts) := courseAll scopes h steps
    (Reply.around (.block replies) replies failure, acts)
  | .transaction steps result =>
    let ((replies, failure), acts) := courseAll (true :: scopes) true steps
    (Reply.around (.returned replies result) replies failure,
      [if h then .joined acts else .transaction acts failure])
  | step =>
    let (ended, _, sends) := d.run silent.observed false scopes h ((), []) step
    (ended, Act.ofSends sends)

/-- Steps up to the first that fails. -/
def courseAll (scopes : List Handle) (h : Handle) :
    List Step → (List Reply × Option Failure) × List Act
  | [] => (([], none), [])
  | step :: steps => match course scopes h step with
    | ((reply, some failure), acts) => (([reply], some failure), acts)
    | ((reply, none), acts) =>
      let ((replies, failure), later) := courseAll scopes h steps
      ((reply :: replies, failure), acts ++ later)

end

theorem answers_silent
    (h : Handle) (log : Log) :
    Adapter.Answers silent.observed recorder (fun _ _ => True) h h
      fun w v => v = log ++ Act.entriesAll (Act.ofSends w.2) := by
  rintro ⟨_, sends⟩ v sql parameters - rfl
  refine ⟨rfl, ?_⟩
  simp only [recorder, Adapter.observed, Act.entriesAll_ofSends, List.map_append,
    List.append_assoc]
  rfl

mutual

theorem run_recorder
    (log : Log) (scopes : List Handle) (h : Handle) :
    ∀ step : Step, d.run recorder false scopes h log step =
      ((d.course scopes h step).1, log ++ Act.entriesAll (d.course scopes h step).2)
  | .query table calls => by
      have hquery : Agree _ (d.query silent.observed h table calls ((), []))
          (d.query recorder h table calls log) :=
        (answers_silent h log).query (List.append_nil log).symm fun _ _ _ _ => trivial
      obtain ⟨_, _, _, hA, hB, rfl⟩ := hquery.split
      simp only [run, course, hA, hB]
  | .createTables => by
      obtain ⟨_, _, _, hA, hB, rfl⟩ := ((answers_silent h log).create (d := d)
        (fun _ => trivial) d.schema.tables (w := ((), [])) (List.append_nil log).symm).split
      simp only [run, course, hA, hB]
  | .send sql parameters => by
      have hsent : Agree _ (send silent.observed h sql parameters ((), []))
          (send recorder h sql parameters log) :=
        (answers_silent h log).sendValues (List.append_nil log).symm fun _ _ => trivial
      obtain ⟨_, _, _, hA, hB, rfl⟩ := hsent.split
      simp only [run, course, hA, hB]
  | .createTableSql _ | .tables | .sameHandle | .inTransaction | .close | .raise _ =>
      congrArg (Prod.mk _) (List.append_nil log).symm
  | .attempt step => by
      simp only [run, course, run_recorder log scopes h step]
  | .outer step => by
      simp only [run, course, run_recorder log scopes false step]
  | .enclosing depth step => by
      simp only [run, course, run_recorder log scopes (scopes.getD depth false) step]
  | .closing steps => by
      simp only [run, course, runAll_recorder log scopes h steps]
      rfl
  | .transaction steps result => by
      cases h with
      | true =>
          -- Joined work goes on in the transaction around it and leaves no marks of its own.
          have hjoined := runAll_recorder log (true :: scopes) true steps
          simp only [run, course, Adapter.transaction_scoped (A := recorder) (h := true) rfl,
            hjoined, Act.entriesAll, Act.entries, List.append_nil, if_true]
      | false =>
          have hopened := runAll_recorder (log ++ [.start]) (true :: scopes) true steps
          have hcourse : recorder.transaction false
              (fun inner w => d.runAll recorder false (inner :: scopes) inner w steps) [] log = _ :=
            Adapter.transaction_opened rfl rfl hopened
          simp only [run, course, hcourse]
          simp [recorder, Act.entriesAll, Act.entries]

theorem runAll_recorder
    (log : Log) (scopes : List Handle) (h : Handle) :
    ∀ steps : List Step, d.runAll recorder false scopes h log steps =
      ((d.courseAll scopes h steps).1, log ++ Act.entriesAll (d.courseAll scopes h steps).2)
  | [] => congrArg (Prod.mk _) (List.append_nil log).symm
  | step :: steps => by
      simp only [runAll, courseAll, run_recorder log scopes h step]
      obtain ⟨⟨reply, failure⟩, acts⟩ := d.course scopes h step
      cases failure with
      | some failure => rfl
      | none =>
          simp only [runAll_recorder (log ++ Act.entriesAll acts) scopes h steps,
            Act.entriesAll_append, List.append_assoc]

end

end Database

/-! ## The statements of a log -/

namespace Recorder

/-- The statements that were noted, in order. -/
def statements (log : Log) : List (Value × List Value) :=
  log.filterMap fun
    | .statement sql parameters => some (sql, parameters)
    | .start | .commit | .rollback => none

theorem statements_append
    (log later : Log) : statements (log ++ later) = statements log ++ statements later :=
  List.filterMap_append

/-- Beside a recorder, what it is sent is what it notes as statements. -/
structure Observed (log : Log) (opened : List (Handle × Handle)) (w : Log × List (Sent Handle))
    (v : Log) : Prop where
  opened : ∀ p ∈ opened, p = (true, true)
  same : w.1 = v
  noted : statements v = statements log ++ w.2.map fun s => (s.sql, s.parameters)

theorem Observed.marked
    {log v : Log} {opened opened' : List (Handle × Handle)} {w : Log × List (Sent Handle)}
    (hw : Observed log opened w v) (hopened : ∀ p ∈ opened', p = (true, true)) {e : Entry}
    (he : statements [e] = []) :
    Observed log opened' (w.1 ++ [e], w.2) (v ++ [e]) where
  opened := hopened
  same := congrArg (· ++ [e]) hw.same
  noted := by rw [statements_append, he, List.append_nil, hw.noted]

theorem observed_simulation
    (log : Log) :
    Adapter.Simulation recorder.observed recorder .unlimited (false, false) [(true, true)]
      (Observed log) where
  outer := ⟨rfl, rfl⟩
  inner := by
    intro opened w v p hw hp
    -- A program may start in a transaction that it has not opened itself.
    obtain rfl : p = (true, true) := by
      rcases List.mem_append.mp hp with hp | hp
      · exact hw.opened p hp
      · exact List.mem_singleton.mp hp
    exact ⟨rfl, rfl⟩
  send := by
    rintro opened p - - ⟨_, sends⟩ v sql parameters - ⟨hopened, rfl, hnoted⟩
    refine ⟨rfl, hopened, rfl, ?_⟩
    change statements (_ ++ [Entry.statement sql parameters]) = _
    rw [statements_append, hnoted, List.append_assoc]
    simp only [Adapter.observed, List.map_append]
    rfl
  start := by
    rintro opened w v hw -
    right
    refine ⟨(true, true), (w.1 ++ [.start], w.2), v ++ [.start], rfl, rfl, ?_⟩
    exact hw.marked (List.forall_mem_cons.mpr ⟨rfl, hw.opened⟩) rfl
  finish := by
    intro opened w v inner failure hw
    refine ⟨rfl, hw.marked (List.forall_mem_cons.mp hw.opened).2 ?_⟩
    cases failure <;> rfl
  close := by
    intro opened w v p hw _
    exact ⟨hw.opened, hw.same, hw.noted⟩

/-- A run of a program over a recorder: what it does is noted after what was
noted before, with its transactions well nested, and the statements among it are
those that were sent, in the order in which they were. -/
structure Recorded (d : Database) (scopes : List Handle) (h : Handle) (log : Log)
    (steps : List Step) (replies : List Reply) (failure : Option Failure) (acts : List Act) :
    Prop where
  course : d.courseAll scopes h steps = ((replies, failure), acts)
  run : d.runAll recorder false scopes h log steps =
    ((replies, failure), log ++ Act.entriesAll acts)
  nested : paired [] [] (Act.entriesAll acts) = some (Act.passagesAll acts)
  executed : ∃ sends, d.runAll recorder.observed false scopes h (log, []) steps =
      ((replies, failure), log ++ Act.entriesAll acts, sends) ∧
    statements (Act.entriesAll acts) = sends.map fun s => (s.sql, s.parameters)

theorem exists_recorded
    (d : Database) (scopes : List Handle) (h : Handle) (log : Log) (steps : List Step) :
    ∃ replies failure acts, Recorded d scopes h log steps replies failure acts := by
  have hrun := d.runAll_recorder log scopes h steps
  refine ⟨_, _, _, rfl, hrun, Act.paired_log _, ?_⟩
  have hhandle : ∀ b : Bool, (b, b) ∈ (false, false) :: ([] ++ [(true, true)]) := by decide
  have hscopes : scopes.map (fun b => (b, b)) ⊆ (false, false) :: ([] ++ [(true, true)]) := by
    intro p hp
    obtain ⟨b, _, rfl⟩ := List.mem_map.mp hp
    exact hhandle b
  have hstart : Observed log [] (log, []) log := ⟨by simp, rfl, (List.append_nil _).symm⟩
  obtain ⟨_, ⟨_, sends⟩, v, hobserved, hplain, -, rfl, hnoted⟩ :=
    (d.runAll_agree (observed_simulation log) hstart hscopes (hhandle h) steps).split
  simp only [List.map_map, Function.comp_def, List.map_id'] at hobserved hplain
  -- The second of the compared runs is the one whose course is known.
  obtain ⟨rfl, rfl⟩ := Prod.mk.inj (hplain.symm.trans hrun)
  refine ⟨sends, hobserved, ?_⟩
  rw [statements_append] at hnoted
  exact List.append_cancel_left hnoted

/-- Whatever a program nests, catches and raises, a recorder notes just what is
done in it.  A transaction opened by it is noted by its start and by how its work
ended, around what the work does; one that joins another is not noted.  Either
gives the result of its work or fails as the work failed, whatever work it is. -/
theorem recorded_program
    (d : Database) (scopes : List Handle) (h : Handle) (log : Log) (steps : List Step) :
    (∃ replies failure acts, Recorded d scopes h log steps replies failure acts) ∧
    (∀ result, ∃ replies failure acts,
      Recorded d (true :: scopes) true (if h then log else log ++ [.start]) steps
        replies failure acts ∧
      d.course scopes h (.transaction steps result) =
        (Reply.around (.returned replies result) replies failure,
          [if h then .joined acts else .transaction acts failure]) ∧
      d.run recorder false scopes h log (.transaction steps result) =
        (Reply.around (.returned replies result) replies failure,
          if h then log ++ Act.entriesAll acts
          else log ++ .start :: (Act.entriesAll acts ++ [ending failure]))) ∧
    ∀ (α : Type) (work : Handle → Log → (α × Option Failure) × Log) (idle : α),
      recorder.transaction true work idle log = work true log ∧
      recorder.transaction false work idle log =
        ((work true (log ++ [.start])).1,
          (work true (log ++ [.start])).2 ++ [ending (work true (log ++ [.start])).1.2]) := by
  refine ⟨exists_recorded d scopes h log steps, ?_, fun α work idle => ⟨rfl, rfl⟩⟩
  intro result
  obtain ⟨replies, failure, acts, hwork⟩ := exists_recorded d (true :: scopes) true
    (if h then log else log ++ [.start]) steps
  have hcourse : d.course scopes h (.transaction steps result) =
      (Reply.around (.returned replies result) replies failure,
        [if h then .joined acts else .transaction acts failure]) := by
    rw [Database.course, hwork.course]
  refine ⟨replies, failure, acts, hwork, hcourse, ?_⟩
  rw [d.run_recorder, hcourse]
  cases h <;> simp [Act.entriesAll, Act.entries]

end Recorder

end SqlBuilder
