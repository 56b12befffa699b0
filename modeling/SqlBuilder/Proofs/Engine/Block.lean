import SqlBuilder.Proofs.Engine.Ownership

/-!
# Work in a block over an owner

The work of a block calls the owner, takes connections of the engines that it was
given, and may go on with an engine after the owner let go of it.  It is a tree of
requests, so what is asked for next can depend on every reply.  However it ends,
the owner is closed behind it, and no engine is open but those that the work let
go of itself.  A block that is not entered has no such end: an engine that was
made before the test failed stays open.
-/

namespace SqlBuilder

open Host

namespace Owner

/-- What work can ask for, with the type of the reply.  A call comes with what an
attempt to make an engine ends as. -/
inductive Request : Type → Type where
  | call (made : Except BlueprintFault Blueprint) (c : Call) : Request (Outcome Value)
  | acquire (engine : Nat) : Request (Outcome Lease)
  | start (l : Lease) : Request Unit
  | execute (l : Lease) (sql : Value) (arguments : Option (List (String × Value))) :
      Request (Outcome QueryResult)
  | commit (l : Lease) : Request (Option Failure)
  | rollback (l : Lease) : Request (Option Failure)
  | release (l : Lease) : Request Unit
  | dispose (engine : Nat) : Request Unit

/-- Work ends with what it returns or raises, or goes on by the reply to a
request. -/
inductive Work (α : Type) : Type 1 where
  | done (a : α)
  | request {β : Type} (r : Request β) (next : β → Work α)

/-- An owner and its host, with the engines that the owner let go of. -/
structure Scene where
  owner : Owner
  host : Host
  letGo : List Nat := []

namespace Scene

/-- Work was given the engine that the owner holds and those that it let go of. -/
def InHand (s : Scene) (e : Nat) : Prop := s.owner.engine = some e ∨ e ∈ s.letGo

instance (s : Scene) (e : Nat) : Decidable (s.InHand e) := inferInstanceAs (Decidable (_ ∨ _))

def onHost {β : Type} (s : Scene) (replied : β × Host) : β × Scene :=
  (replied.1, { s with host := replied.2 })

/-- The reply to a request, and what is left. -/
def reply {β : Type} (s : Scene) : Request β → β × Scene
  | .call made c =>
    let (answer, o, h) := s.owner.answerWith made s.host c.question
    let letGo := if o.engine = s.owner.engine then s.letGo else s.owner.engine.toList ++ s.letGo
    (answer, ⟨o, h, letGo⟩)
  | .acquire e => if s.InHand e then s.onHost (s.host.acquire e) else (.error .lacking, s)
  | .start l => s.onHost ((), s.host.start l)
  | .execute l sql arguments => s.onHost (s.host.execute l sql arguments)
  | .commit l => s.onHost (s.host.commit l)
  | .rollback l => s.onHost (s.host.rollback l)
  | .release l => s.onHost ((), s.host.release l)
  | .dispose e => if s.InHand e then s.onHost ((), s.host.dispose e) else ((), s)

end Scene

def Work.run {α : Type} : Work α → Scene → α × Scene
  | done a, s => (a, s)
  | request r next, s =>
    let (replied, s) := s.reply r
    (next replied).run s

/-- A block over a new owner: how it ends, and what is left. -/
def block {α : Type} (url : String) (script : Script) (made : Except BlueprintFault Blueprint)
    (work : Work α) : Outcome α × Scene :=
  let (ended, o, h) := (ofUrl url).withinWith made { script } fun o h =>
    let (a, s) := work.run { owner := o, host := h }
    ((a, s.letGo), s.owner, s.host)
  match ended with
  | .error failure => (.error failure, { owner := o, host := h })
  | .ok (a, letGo) => (.ok a, ⟨o, h, letGo⟩)

/-! ## What work leaves -/

namespace Scene

variable {s : Scene} {h : Host} {e : Nat}

/-- No engine is open but the one that is held, of a supported dialect, and those
that were let go of. -/
def Keeps (s : Scene) : Prop := Owns s.letGo s.owner s.host

theorem Keeps.of_engines
    (hkeeps : s.Keeps) (hengines : h.engines = s.host.engines) :
    Keeps { s with host := h } := by
  refine ⟨?_, ?_⟩
  · intro e he
    have hsupported := hkeeps.supported e he
    unfold engineAt at hsupported ⊢
    rwa [hengines]
  · intro e he
    unfold Host.IsOpen at he
    rw [hengines] at he
    exact hkeeps.others e he

theorem Keeps.acquire
    (hkeeps : s.Keeps) (he : s.InHand e) : Keeps { s with host := (s.host.acquire e).2 } :=
  Owns.of_used hkeeps he (engines_acquire s.host e)

theorem Keeps.dispose
    (hkeeps : s.Keeps) (e : Nat) : Keeps { s with host := s.host.dispose e } := by
  refine ⟨?_, ?_⟩
  · intro x hx
    rw [dialect_dispose]
    exact hkeeps.supported x hx
  · intro x hx
    exact hkeeps.others x ((isOpen_dispose s.host e x).mp hx).1

theorem Keeps.call
    (hkeeps : s.Keeps) (made : Except BlueprintFault Blueprint) (c : Call) :
    (s.reply (.call made c)).2.Keeps := by
  have howns := Owns.answerWith hkeeps made c.question
  refine ⟨howns.supported, ?_⟩
  intro e he
  refine (howns.others e he).imp_right fun he => ?_
  simp only [reply]
  split
  next => exact he
  next => exact List.mem_append_right _ he

theorem Keeps.reply
    (hkeeps : s.Keeps) {β : Type} (r : Request β) : (s.reply r).2.Keeps := by
  cases r with
  | call made c => exact hkeeps.call made c
  | acquire e =>
      simp only [Scene.reply]
      split
      next he => exact hkeeps.acquire he
      next => exact hkeeps
  | start l => exact hkeeps.of_engines (sends_start _ l).engines
  | execute l sql arguments => exact hkeeps.of_engines (sends_execute _ l sql arguments).engines
  | commit l => exact hkeeps.of_engines (sends_commit _ l).engines
  | rollback l => exact hkeeps.of_engines (sends_rollback _ l).engines
  | release l => exact hkeeps.of_engines (engines_release _ l)
  | dispose e =>
      simp only [Scene.reply]
      split
      next => exact hkeeps.dispose e
      next => exact hkeeps

theorem Keeps.run
    {α : Type} (hkeeps : s.Keeps) (work : Work α) : (work.run s).2.Keeps := by
  induction work generalizing s with
  | done a => exact hkeeps
  | request r next ih => exact ih (s.reply r).1 (hkeeps.reply r)

end Scene

/-! ## What a block leaves -/

variable {α : Type} {script : Script} {made : Except BlueprintFault Blueprint}

/-- What the driver refuses of the first test of an engine: the connection, or
else the rollback or the statement. -/
def refusal (script : Script) (b : Blueprint) : Option Failure :=
  let statement := match b.isLocal, script.statements with
    | false, .fail message :: _ => some (.driver message)
    | _, _ => none
  ((next script.connects).1.or (next script.rollbacks).1).or statement

/-- An engine can be made for the test that a block is entered by, and then the
driver refuses the test. -/
def FailsLate
    (script : Script) (made : Except BlueprintFault Blueprint) (failure : Failure) : Prop :=
  ∃ b, made = .ok b ∧ b.dialect ∈ Rejection.supportedDialects ∧ refusal script b = some failure

theorem probe_create
    (script : Script) (b : Blueprint) :
    (probe (Host.create { script } b).2 0).1 = refusal script b := by
  rcases script with ⟨statements, connects, commits, rollbacks⟩
  rcases b with ⟨dialect, isLocal⟩
  rcases connects with _ | ⟨_ | message, connects⟩
  case cons.some => rfl
  all_goals
    rcases rollbacks with _ | ⟨_ | message, rollbacks⟩
    all_goals
      cases isLocal
      · rcases statements with _ | ⟨_ | _ | _, statements⟩ <;> rfl
      · rfl

/-- The test that a block over a new owner is entered by, once an engine is made. -/
theorem testWith_ofUrl
    (url : String) (script : Script) {b : Blueprint}
    (hdialect : b.dialect ∈ Rejection.supportedDialects) :
    (ofUrl url).testWith (.ok b) { script } =
      ((refusal script b).map testFailure,
        { ofUrl url with engine := some 0 }, (probe (Host.create { script } b).2 0).2) := by
  have hopened : (ofUrl url).openWith (.ok b) { script } =
      (.ok 0, { ofUrl url with engine := some 0 }, (Host.create { script } b).2) :=
    if_pos hdialect
  unfold testWith
  rw [hopened, ← probe_create]

theorem block_of_failed
    {url : String} {o : Owner} {h : Host} {failure : Failure}
    (htested : (ofUrl url).testWith made { script } = (some failure, o, h)) (work : Work α) :
    block url script made work = (.error failure, { owner := o, host := h }) := by
  unfold block withinWith
  rw [htested]

theorem block_of_passed
    {url : String} {o : Owner} {h : Host}
    (htested : (ofUrl url).testWith made { script } = (none, o, h)) (work : Work α) :
    let ran := work.run { owner := o, host := h }
    block url script made work =
      (.ok ran.1, ⟨(ran.2.owner.close ran.2.host).1, (ran.2.owner.close ran.2.host).2,
        ran.2.letGo⟩) := by
  unfold block withinWith
  rw [htested]

theorem keeps_block
    (url : String) (script : Script) (made : Except BlueprintFault Blueprint) (work : Work α) :
    (block url script made work).2.Keeps := by
  have hentered := (owns_ofUrl url script).testWith made
  rcases htested : (ofUrl url).testWith made { script } with ⟨_ | failure, o, h⟩
  all_goals rw [htested] at hentered
  · rw [block_of_passed htested]
    have hran := Scene.Keeps.run (s := { owner := o, host := h }) hentered work
    exact Owns.close hran
  · rw [block_of_failed htested]
    exact hentered

theorem engine_block
    (hgood : ∀ failure, ¬FailsLate script made failure) (url : String) (work : Work α) :
    (block url script made work).2.owner.engine = none := by
  rcases htested : (ofUrl url).testWith made { script } with ⟨_ | failure, o, h⟩
  · rw [block_of_passed htested]
    exact engine_close _ _
  · rw [block_of_failed htested]
    -- The test failed before there was an engine to keep.
    rcases (ofUrl url).openWith_cases { script } made with
      ⟨_, hengine, _⟩ | ⟨hnone, ⟨_, _, hopened⟩ | ⟨b, rfl, ⟨hdialect, _⟩ | ⟨_, hopened⟩⟩⟩
    · cases hengine
    · simp only [testWith, hopened] at htested
      cases htested
      exact hnone
    · rw [testWith_ofUrl url script hdialect, Prod.mk.injEq, Option.map_eq_some_iff] at htested
      obtain ⟨⟨refused, hrefused, _⟩, _⟩ := htested
      exact absurd ⟨b, rfl, hdialect, hrefused⟩ (hgood refused)
    · simp only [testWith, hopened] at htested
      cases htested
      exact hnone

theorem block_of_failsLate
    {failure : Failure} (hlate : FailsLate script made failure) (url : String) (work : Work α) :
    ∃ h, (∀ e, h.IsOpen e ↔ e = 0) ∧ block url script made work =
      (.error (testFailure failure),
        { owner := { ofUrl url with engine := some 0 }, host := h }) := by
  obtain ⟨b, rfl, hdialect, hrefused⟩ := hlate
  have htested := testWith_ofUrl url script hdialect
  rw [hrefused] at htested
  refine ⟨_, ?_, block_of_failed htested work⟩
  intro e
  -- The probe uses the one engine that was made.
  rw [isOpen_used (borrows_probe (Host.create { script } b).2 0).engines, isOpen_create]
  have hnew : ¬Host.IsOpen { script } e := by
    rintro ⟨_, hnone, _⟩
    cases hnone
  have hzero : (Host.create { script } b).1 = 0 := rfl
  have hmade : 0 < (Host.create { script } b).2.engines.length := Nat.one_pos
  simp [hnew, hzero, hmade]

/-- A block leaves an engine open that its work did not let go of just if the
engine was made and the test failed: the block fails by the test, and the engine
is still held.  In every other case the owner holds none.  Once the test passed, a
block ends with what its work ends with. -/
theorem isOpen_block_iff
    (url : String) (script : Script) (made : Except BlueprintFault Blueprint) (work : Work α) :
    let ending := block url script made work
    ((∃ e, ending.2.host.IsOpen e ∧ e ∉ ending.2.letGo) ↔
        ∃ failure, FailsLate script made failure) ∧
      (∀ failure, FailsLate script made failure →
        ending.1 = .error (testFailure failure) ∧ ending.2.owner.engine = some 0 ∧
          ∀ e, ending.2.host.IsOpen e ↔ e = 0) ∧
      ((∀ failure, ¬FailsLate script made failure) → ending.2.owner.engine = none) ∧
      ∀ o h, (ofUrl url).testWith made { script } = (none, o, h) →
        ending.1 = .ok (work.run { owner := o, host := h }).1 := by
  intro ending
  refine ⟨⟨?_, ?_⟩, ?_, fun hgood => engine_block hgood url work, ?_⟩
  · rintro ⟨e, hopen, hkept⟩
    by_contra hgood
    have hnone := engine_block (not_exists.mp hgood) url work
    have hheld := ((keeps_block url script made work).others e hopen).resolve_right hkept
    cases hnone.symm.trans hheld
  · rintro ⟨failure, hlate⟩
    obtain ⟨h, hopen, hends⟩ := block_of_failsLate hlate url work
    change ending = _ at hends
    rw [hends]
    exact ⟨0, (hopen 0).mpr rfl, List.not_mem_nil⟩
  · intro failure hlate
    obtain ⟨h, hopen, hends⟩ := block_of_failsLate hlate url work
    change ending = _ at hends
    rw [hends]
    exact ⟨rfl, rfl, hopen⟩
  · intro o h htested
    exact congrArg Prod.fst (block_of_passed htested work)

/-- The server can be reached and refuses the statement of the test. -/
theorem isOpen_block_iff_refused :
    let script : Script := { statements := [.fail "boom"] }
    let ending := block "sqlite+fake://" script (Blueprint.ofUrl "sqlite+fake://") (.done ())
    (∃ e, ending.2.host.IsOpen e ∧ e ∉ ending.2.letGo) ∧
      ending.1 = Outcome.reject (.connectionTestFailed "boom") ∧
      ending.2.owner.engine = some 0 ∧ ∀ e, ending.2.host.IsOpen e ↔ e = 0 := by
  intro script ending
  have hlate : FailsLate script (Blueprint.ofUrl "sqlite+fake://") (.driver "boom") :=
    ⟨⟨"sqlite", false⟩, rfl, by decide, rfl⟩
  obtain ⟨hleaves, hfailed, _⟩ :=
    isOpen_block_iff "sqlite+fake://" script (Blueprint.ofUrl "sqlite+fake://") (.done ())
  exact ⟨hleaves.mpr ⟨_, hlate⟩, hfailed _ hlate⟩

-- The work closes the owner and goes on with the engine.
example :
    let made : Except BlueprintFault Blueprint := .ok ⟨"sqlite", false⟩
    let work : Work Unit :=
      .request (.call made .close) fun _ => .request (.acquire 0) fun _ => .done ()
    let ending := block "sqlite+fake://" { statements := [] } made work
    ending.2.host.engines.map (·.isDisposed) = [false] ∧ ending.2.letGo = [0] := by
  exact ⟨rfl, rfl⟩

end Owner

end SqlBuilder
