import SqlBuilder.Proofs.Builder.Reachable
import SqlBuilder.Proofs.Builder.Words
import SqlBuilder.Session.Recorder

/-!
# What a conversation sends

A builder sends a statement when it is asked for rows, and only one that it could
compile.  Nothing else that is said to a builder is heard outside, whether it is
carried out or refused, and neither is anything of a statement that is not
complete.
-/

namespace SqlBuilder

/-- A call that asks for rows.  Being iterated over is not a call with arguments. -/
def Call.Runs (c : Call) : Prop :=
  c.word = "iter" ∨ (c.word = "execute" ∨ c.word = "first") ∧ c.args = [] ∧ c.named = []

/-- A request for rows. -/
def Request.Runs : Request → Prop
  | .execute | .first | .rows => True
  | .change _ | .compiled | .snapshot | .tableName => False

theorem Request.runs_iff
    (r : Request) : r.Runs ↔ r.word = "execute" ∨ r.word = "first" ∨ r.word = "iter" := by
  cases r with
  | change c =>
      cases c with
      | join kind => cases kind <;> simp [Runs, word, Change.word]
      | filter connective => cases connective <;> simp [Runs, word, Change.word]
      | select | insert | update | delete | limit | offset => simp [Runs, word, Change.word]
  | compiled | snapshot | tableName | execute | first | rows => simp [Runs, word]

/-- The calls that ask for rows are those that stand for such a request. -/
theorem Call.runs_iff
    (c : Call) : c.Runs ↔ ∃ r, Request.ofWord c.word c.args c.named = .ok r ∧ r.Runs := by
  constructor
  · intro hruns
    rcases hruns with hiter | ⟨hexecute | hfirst, hargs, hnamed⟩
    · exact ⟨.rows, by rw [hiter]; rfl, trivial⟩
    · exact ⟨.execute, by rw [hexecute, hargs, hnamed]; rfl, trivial⟩
    · exact ⟨.first, by rw [hfirst, hargs, hnamed]; rfl, trivial⟩
  · rintro ⟨r, hr, hruns⟩
    have hword := Request.word_of_ofWord hr
    rw [Request.runs_iff, hword] at hruns
    rcases hruns with hexecute | hfirst | hiter
    · rw [hexecute] at hr
      exact Or.inr ⟨Or.inl hexecute, (Request.plain_eq_ok.mp hr).2⟩
    · rw [hfirst] at hr
      exact Or.inr ⟨Or.inr hfirst, (Request.plain_eq_ok.mp hr).2⟩
    · exact Or.inl hiter

namespace Builder

/-- How a call on a builder is answered, and what is noted for it. -/
inductive Sends (quoting : Bool) (b : Builder) (c : Call) : Outcome Answer → Recorder.Log → Prop
  | sent {compiled : Compiled} {answer : Answer} (runs : c.Runs)
      (complete : b.compile quoting = .ok compiled) :
      Sends quoting b c (.ok answer) [.statement (.text compiled.sql) compiled.parameters]
  | incomplete {failure : Failure} (runs : c.Runs)
      (incomplete : b.compile quoting = .error failure) :
      Sends quoting b c (.error failure) []
  | quiet {answer : Outcome Answer} (quiet : ¬c.Runs) : Sends quoting b c answer []

/-- The turns of a conversation with a builder, and what is noted in the course of it. -/
inductive Course (quoting : Bool) : Builder → List Call → List (Outcome Answer × Builder) →
    Recorder.Log → Prop
  | nil {b : Builder} : Course quoting b [] [] []
  | cons {b : Builder} {c : Call} {calls : List Call} {answer : Outcome Answer}
      {turns : List (Outcome Answer × Builder)} {entries later : Recorder.Log}
      (head : Sends quoting b c answer entries)
      (tail : Course quoting (b.after c) calls turns later) :
      Course quoting b (c :: calls) ((answer, b.after c) :: turns) (entries ++ later)

/-- What runs a statement notes it, if it compiles, and is answered with no rows. -/
theorem execute_recorder
    (quoting isScoped : Bool) (log : Recorder.Log) (b : Builder) :
    b.execute recorder quoting isScoped log =
      match b.compile quoting with
      | .error failure => (.error failure, log)
      | .ok compiled =>
        (.ok [], log ++ [.statement (.text compiled.sql) compiled.parameters]) := by
  unfold execute
  cases b.compile quoting <;> rfl

theorem request_runs
    (quoting isScoped : Bool) (log : Recorder.Log) (b : Builder) {r : Request} (hruns : r.Runs) :
    ∃ answer, b.request recorder quoting isScoped log r =
      match b.compile quoting with
      | .error failure => ((.error failure, b), log)
      | .ok compiled =>
        ((.ok answer, b), log ++ [.statement (.text compiled.sql) compiled.parameters]) := by
  cases r with
  | execute | rows =>
      refine ⟨.rows [], ?_⟩
      simp only [request, execute_recorder]
      cases b.compile quoting <;> rfl
  | first =>
      refine ⟨.first none, ?_⟩
      simp only [request, execute_recorder]
      cases b.compile quoting <;> rfl
  | change | compiled | snapshot | tableName => exact hruns.elim

theorem request_quiet
    (quoting isScoped : Bool) (log : Recorder.Log) (b : Builder) {r : Request} (hquiet : ¬r.Runs) :
    (b.request recorder quoting isScoped log r).2 = log := by
  cases r with
  | change change =>
      simp only [request]
      cases (b.change change).refusal <;> rfl
  | compiled | snapshot | tableName => rfl
  | execute | first | rows => exact absurd trivial hquiet

theorem call_sends
    (quoting isScoped : Bool) (log : Recorder.Log) (b : Builder) (c : Call) :
    ∃ entries, b.Sends quoting c (b.call recorder quoting isScoped log c).1.1 entries ∧
      (b.call recorder quoting isScoped log c).2 = log ++ entries := by
  unfold call
  cases hr : Request.ofWord c.word c.args c.named with
  | error failure =>
      have hquiet : ¬c.Runs := by simp [Call.runs_iff, hr]
      exact ⟨[], .quiet hquiet, (List.append_nil log).symm⟩
  | ok r =>
      have hiff : c.Runs ↔ r.Runs := by simp [Call.runs_iff, hr]
      by_cases hruns : r.Runs
      · obtain ⟨answer, hrequest⟩ := request_runs quoting isScoped log b hruns
        simp only [hrequest]
        cases hcompiled : b.compile quoting with
        | error failure =>
            exact ⟨[], .incomplete (hiff.mpr hruns) hcompiled, (List.append_nil log).symm⟩
        | ok compiled => exact ⟨_, .sent (hiff.mpr hruns) hcompiled, rfl⟩
      · refine ⟨[], .quiet (fun h => hruns (hiff.mp h)), ?_⟩
        rw [List.append_nil]
        exact request_quiet quoting isScoped log b hruns

/-- In any conversation with a builder, the log of a recorder grows by the
statements of those calls that ask for rows where the builder compiles, in their
order; each is the one that would be answered to whoever asked for the statement
instead.  No other call adds to it, and none that is refused. -/
theorem converse_sends
    (quoting isScoped : Bool) (log : Recorder.Log) (b : Builder) (calls : List Call) :
    (∃ entries, Course quoting b calls (b.converse recorder quoting isScoped log calls).1 entries ∧
      (b.converse recorder quoting isScoped log calls).2 = log ++ entries) ∧
    ∀ (b' : Builder) (log' : Recorder.Log),
      b'.call recorder quoting isScoped log' ⟨"to_sql", [], []⟩ =
        (((b'.compile quoting).map .compiled, b'), log') := by
  refine ⟨?_, fun b' log' => rfl⟩
  induction calls generalizing b log with
  | nil => exact ⟨[], .nil, (List.append_nil log).symm⟩
  | cons c calls ih =>
      obtain ⟨entries, hhead, hlog⟩ := call_sends quoting isScoped log b c
      obtain ⟨later, htail, hlater⟩ := ih (log ++ entries) (b.after c)
      have hafter := call_builder recorder quoting isScoped b log c
      obtain ⟨⟨⟨answer, b'⟩, log'⟩, hcall⟩ :
        ∃ turn, b.call recorder quoting isScoped log c = turn := ⟨_, rfl⟩
      rw [hcall] at hhead hlog hafter
      simp only at hhead hlog hafter
      subst hlog hafter
      refine ⟨entries ++ later, ?_, ?_⟩
      · simp only [converse, hcall]
        exact .cons hhead htail
      · simp only [converse, hcall, hlater, List.append_assoc]

/-- The second statement is not complete until there is something to update. -/
example :
    (({ table := .text "t" } : Builder).converse recorder true false []
      [⟨"select", [.text "id"], []⟩, ⟨"to_sql", [], []⟩, ⟨"iter", [], []⟩, ⟨"first", [.int 1], []⟩,
        ⟨"update", [.list []], []⟩, ⟨"execute", [], []⟩,
        ⟨"update", [.dict [(.text "a", .int 1)]], []⟩, ⟨"first", [], []⟩]).2 =
      [.statement (.text "SELECT \"id\" FROM \"t\"") [],
        .statement (.text "UPDATE \"t\" SET \"a\" = $1 RETURNING \"id\"") [.int 1]] := by
  cbv

end Builder

end SqlBuilder
