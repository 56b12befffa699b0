import Mathlib.Data.List.Induction
import Mathlib.Logic.Function.Basic
import SqlBuilder.Proofs.Engine.Disposal
import SqlBuilder.Proofs.Engine.World

/-!
# Adapters that share an owner

Adapters over one owner keep the engine they were given.  An adapter that closes
lets go of its engine with the owner; an adapter that does not still has the
engine when the owner is closed in another way.  From then on it is stale: it
uses an engine that its owner does not hold, and that nobody disposes of after
it.  The same goes for a transaction that outlasts its owner's engine.
-/

namespace SqlBuilder

/-! ## What an adapter does to the engine of its owner -/

namespace EngineWorld

open Host

variable {w w' : EngineWorld} {o o' : Owner}

/-- The engine that an adapter has stays with it, and one that it has only now is its owner's. -/
structure Asks (o o' : Owner) (w w' : EngineWorld) : Prop where
  owner : w'.owner = some o'
  keeps : Owner.Keeps o w.host o' w'.host
  kept : ∀ engine, w.engine = some engine → w'.engine = some engine
  fresh : w.engine = none → ∀ engine, w'.engine = some engine → o'.engine = some engine

theorem Asks.withPools
    {h : Host} (hasks : Asks o o' w w') (hsame : SamePools w'.host h) :
    Asks o o' w { w' with host := h } :=
  ⟨hasks.owner, hasks.keeps.withPools hsame, hasks.kept, hasks.fresh⟩

theorem Asks.of_samePools
    {h : Host} (hw : w.owner = some o) (hh : w.host.InUse) (ho : o.Known w.host)
    (hsame : SamePools w.host h) : Asks o o w { w with host := h } where
  owner := hw
  keeps := .of_samePools hh ho hsame
  kept _ hengine := hengine
  fresh hnone engine hengine := by
    rw [hnone] at hengine
    cases hengine

theorem asks_toEngine
    (hw : w.owner = some o) (hh : w.host.InUse) (ho : o.Known w.host) :
    ∃ outcome o' w', w.toEngine = (outcome, w') ∧ Asks o o' w w' ∧
      ∀ engine, outcome = .ok engine → w'.engine = some engine := by
  obtain ⟨owner, known, host⟩ := w
  obtain rfl : owner = some o := hw
  unfold toEngine
  cases known with
  | some engine =>
      refine ⟨_, o, _, rfl, ⟨rfl, .refl hh ho, fun _ hengine => hengine, nofun⟩, ?_⟩
      rintro _ ⟨⟩
      rfl
  | none =>
      obtain ⟨outcome, o', h', hopened, hkeeps, hheld⟩ := Owner.keeps_toEngine hh ho
      simp only [hopened]
      cases outcome with
      | error failure =>
          exact ⟨_, o', _, rfl, ⟨rfl, hkeeps, nofun, nofun⟩, nofun⟩
      | ok engine =>
          refine ⟨_, o', _, rfl, ⟨rfl, hkeeps, nofun, ?_⟩, ?_⟩
          · rintro _ _ ⟨⟩
            exact hheld engine rfl
          · rintro _ ⟨⟩
            rfl

/-- A statement out of a transaction leaves the engine and its owner as asking for it does. -/
theorem send_root
    (w : EngineWorld) (sql : Value) (parameters : List Value) :
    ∃ h, (w.send sql parameters .root).2 = { w.toEngine.2 with host := h } ∧
      SamePools w.toEngine.2.host h := by
  unfold send
  simp only
  rcases w.toEngine with ⟨outcome, w'⟩
  cases outcome with
  | error failure => exact ⟨w'.host, rfl, .refl _⟩
  | ok engine => exact ⟨_, rfl, (borrows_performAlone _ engine sql parameters).samePools⟩

/-- So does opening a transaction. -/
theorem start_snd
    (w : EngineWorld) :
    ∃ h, w.start.2 = { w.toEngine.2 with host := h } ∧ SamePools w.toEngine.2.host h := by
  unfold start
  rcases w.toEngine with ⟨outcome, w'⟩
  cases outcome with
  | error failure => exact ⟨w'.host, rfl, .refl _⟩
  | ok engine =>
      have hacquired := samePools_acquire w'.host engine
      simp only
      rcases hacquire : w'.host.acquire engine with ⟨lent, h⟩
      rw [hacquire] at hacquired
      cases lent with
      | error failure => exact ⟨h, rfl, hacquired⟩
      | ok l => exact ⟨_, rfl, hacquired.trans (.of_sends (sends_start h l))⟩

end EngineWorld

/-! ## Adapters over one owner -/

/-- A connection that an adapter lent to a transaction, with the engine it comes from. -/
structure Loan where
  adapter : Nat
  engine : Option Nat
  lease : Lease

/-- An owner, what each of the adapters over it keeps, and the transactions that are open. -/
structure Shared where
  owner : Owner
  kept : Nat → Option Nat
  loans : List Loan
  host : Host

namespace Shared

open Host

def ofUrl (url : String) (script : Script) : Shared :=
  { owner := Owner.ofUrl url, kept := fun _ => none, loans := [], host := { script } }

/-- One of the adapters. -/
def adapter (s : Shared) (i : Nat) : EngineWorld :=
  { owner := some s.owner, engine := s.kept i, host := s.host }

/-- What is left when the adapter `i` is left as `w`. -/
def set (s : Shared) (i : Nat) (w : EngineWorld) : Shared :=
  { s with
    owner := w.owner.getD s.owner
    kept := Function.update s.kept i w.engine
    host := w.host }

/-- What is done with the owner, with an adapter, and in a transaction that is open.  A block over
the owner is a test, what is done in the block, and closing. -/
inductive Move
  | ask (q : Owner.Question)
  | engine (i : Nat)
  | send (i : Nat) (sql : Value) (parameters : List Value)
  | start (i : Nat)
  | sendWithin (k : Nat) (sql : Value) (parameters : List Value)
  | finish (k : Nat) (failure : Option Failure)
  | close (i : Nat)

/-- Opens a transaction. -/
def start (s : Shared) (i : Nat) : Shared :=
  match (s.adapter i).start with
  | (.ok (.lent l), w) => { s.set i w with loans := ⟨i, w.engine, l⟩ :: s.loans }
  | (_, w) => s.set i w

/-- Does something on a connection that is lent. -/
def onLoan (s : Shared) (k : Nat) (work : Loan → EngineWorld → EngineWorld) : Shared :=
  match s.loans[k]? with
  | some loan => s.set loan.adapter (work loan (s.adapter loan.adapter))
  | none => s

def after (s : Shared) : Move → Shared
  | .ask q => { s with owner := (s.owner.answer s.host q).2.1, host := (s.owner.answer s.host q).2.2 }
  | .engine i => s.set i (s.adapter i).toEngine.2
  | .send i sql parameters => s.set i ((s.adapter i).send sql parameters .root).2
  | .start i => s.start i
  | .sendWithin k sql parameters =>
    s.onLoan k fun loan w => (w.send sql parameters (.lent loan.lease)).2
  | .finish k failure =>
    { s.onLoan k fun loan w => (w.finish failure (.lent loan.lease)).2 with
      loans := s.loans.eraseIdx k }
  | .close i => s.set i (s.adapter i).close

def afterAll (s : Shared) (moves : List Move) : Shared := moves.foldl after s

/-- Whether a move ends with the owner closed. -/
def Closes (s : Shared) : Move → Prop
  | .ask q => s.owner.Closes s.host q
  | .close _ => True
  | _ => False

/-- Whether an adapter keeps an engine that its owner does not hold. -/
def IsStale (s : Shared) (i : Nat) : Prop :=
  ∃ engine, s.kept i = some engine ∧ s.owner.engine ≠ some engine

/-- Engines use pools that there are, and whoever knows an engine knows one that there is. -/
structure Sound (s : Shared) : Prop where
  inUse : s.host.InUse
  owner : s.owner.Known s.host
  kept : ∀ i engine, s.kept i = some engine → engine < s.host.engines.length
  loans : ∀ loan ∈ s.loans, ∀ engine, loan.engine = some engine → engine < s.host.engines.length

variable {s s' : Shared} {m : Move}

/-- What a move does that does not close the owner. -/
structure Goes (s s' : Shared) : Prop where
  keeps : Owner.Keeps s.owner s.host s'.owner s'.host
  kept : ∀ i engine, s.kept i = some engine → s'.kept i = some engine
  fresh : ∀ i, s.kept i = none → ∀ engine, s'.kept i = some engine →
    s'.owner.engine = some engine
  loans : ∀ loan ∈ s'.loans, loan ∈ s.loans ∨ ∃ i, loan.engine = s'.kept i

/-- What a move does that closes the owner: only an adapter that closes lets go of its engine. -/
structure Shuts (m : Move) (s s' : Shared) : Prop where
  letsGo : Owner.LetsGo s.owner s.host s'.owner s'.host
  kept : ∀ i, m ≠ .close i → s'.kept i = s.kept i
  closed : ∀ i, m = .close i → s'.kept i = none
  loans : s'.loans = s.loans

theorem goes_set
    {i : Nat} {o : Owner} {w : EngineWorld} (hasks : EngineWorld.Asks s.owner o (s.adapter i) w) :
    Goes s (s.set i w) := by
  have howner : (s.set i w).owner = o := by simp [set, hasks.owner]
  refine ⟨howner ▸ hasks.keeps, ?_, ?_, fun loan hloan => .inl hloan⟩
  · intro j engine hengine
    by_cases hj : j = i
    · subst hj
      simpa [set] using hasks.kept engine hengine
    · simpa [set, hj] using hengine
  · intro j hnone engine hengine
    by_cases hj : j = i
    · subst hj
      rw [howner]
      exact hasks.fresh hnone engine (by simpa [set] using hengine)
    · simp [set, hj, hnone] at hengine

theorem Goes.withLoans
    (hgoes : Goes s s') {loans : List Loan}
    (hloans : ∀ loan ∈ loans, loan ∈ s.loans ∨ ∃ i, loan.engine = s'.kept i) :
    Goes s { s' with loans } :=
  ⟨hgoes.keeps, hgoes.kept, hgoes.fresh, hloans⟩

theorem goes_refl
    (hs : s.Sound) : Goes s s where
  keeps := .refl hs.inUse hs.owner
  kept _ _ hengine := hengine
  fresh i hnone engine hengine := by
    rw [hnone] at hengine
    cases hengine
  loans loan hloan := .inl hloan

theorem goes_start
    {i : Nat} {o : Owner}
    (hasks : EngineWorld.Asks s.owner o (s.adapter i) (s.adapter i).start.2) :
    Goes s (s.start i) := by
  unfold start
  rcases hstart : (s.adapter i).start with ⟨opened, w⟩
  rw [hstart] at hasks
  have hgoes := goes_set hasks
  have hloan : ∀ l, Goes s { s.set i w with loans := ⟨i, w.engine, l⟩ :: s.loans } := by
    intro l
    refine hgoes.withLoans (List.forall_mem_cons.mpr ⟨.inr ⟨i, ?_⟩, fun loan hloan => .inl hloan⟩)
    simp [set]
  rcases opened with failure | _ | l
  · exact hgoes
  · exact hgoes
  · exact hloan l

theorem goes_onLoan
    (hs : s.Sound) (k : Nat) (work : Loan → EngineWorld → EngineWorld)
    (hwork : ∀ loan w, ∃ h, work loan w = { w with host := h } ∧ SamePools w.host h) :
    Goes s (s.onLoan k work) := by
  unfold onLoan
  cases s.loans[k]? with
  | none => exact goes_refl hs
  | some loan =>
      obtain ⟨h, hresult, hsame⟩ := hwork loan (s.adapter loan.adapter)
      simp only [hresult]
      exact goes_set (.of_samePools rfl hs.inUse hs.owner hsame)

theorem goes_after
    (hs : s.Sound) (hm : ¬s.Closes m) : Goes s (s.after m) := by
  have hasked : ∀ i, ∃ o, EngineWorld.Asks s.owner o (s.adapter i) (s.adapter i).toEngine.2 := by
    intro i
    obtain ⟨_, o, w, htoEngine, hasks, _⟩ :=
      EngineWorld.asks_toEngine (w := s.adapter i) rfl hs.inUse hs.owner
    exact ⟨o, by rwa [htoEngine]⟩
  cases m with
  | ask q =>
      refine ⟨Owner.keeps_answer hs.inUse hs.owner hm, fun _ _ hengine => hengine, ?_,
        fun loan hloan => .inl hloan⟩
      intro i hnone engine hengine
      cases hnone.symm.trans hengine
  | engine i =>
      obtain ⟨o, hasks⟩ := hasked i
      exact goes_set hasks
  | send i sql parameters =>
      obtain ⟨o, hasks⟩ := hasked i
      obtain ⟨h, hsent, hsame⟩ := (s.adapter i).send_root sql parameters
      refine goes_set (o := o) ?_
      rw [hsent]
      exact hasks.withPools hsame
  | start i =>
      obtain ⟨o, hasks⟩ := hasked i
      obtain ⟨h, hstarted, hsame⟩ := (s.adapter i).start_snd
      refine goes_start (o := o) ?_
      rw [hstarted]
      exact hasks.withPools hsame
  | sendWithin k sql parameters =>
      exact goes_onLoan hs k _ fun loan w =>
        ⟨_, rfl, .of_sends (sends_perform w.host loan.lease sql parameters)⟩
  | finish k failure =>
      have hgoes := goes_onLoan hs k (fun loan w => (w.finish failure (.lent loan.lease)).2)
        fun loan w => ⟨_, rfl, samePools_finish w.host loan.lease failure⟩
      exact hgoes.withLoans fun loan hloan => .inl (List.mem_of_mem_eraseIdx hloan)
  | close i => exact absurd trivial hm

theorem shuts_after
    (hs : s.Sound) (hm : s.Closes m) : Shuts m s (s.after m) := by
  cases m with
  | ask q =>
      refine ⟨Owner.letsGo_answer hs.inUse hs.owner hm, fun _ _ => rfl, ?_, rfl⟩
      rintro _ ⟨⟩
  | close i =>
      refine ⟨Owner.letsGo_close hs.inUse hs.owner, ?_, ?_, rfl⟩
      · intro j hj
        have hne : j ≠ i := by
          rintro rfl
          exact hj rfl
        exact Function.update_of_ne hne _ _
      · rintro _ ⟨⟩
        exact Function.update_self i _ _
  | engine i | send i sql parameters | start i | sendWithin k sql parameters | finish k failure =>
      exact hm.elim

/-! ## One move -/

theorem Sound.after
    (hs : s.Sound) (m : Move) : (s.after m).Sound := by
  by_cases hm : s.Closes m
  · have hshuts := shuts_after hs hm
    have hengines := hshuts.letsGo.engines
    refine ⟨hshuts.letsGo.inUse, ?_, ?_, ?_⟩
    · intro engine hengine
      rw [hshuts.letsGo.none] at hengine
      cases hengine
    · intro i engine hengine
      by_cases hi : m = .close i
      · rw [hshuts.closed i hi] at hengine
        cases hengine
      · rw [hshuts.kept i hi] at hengine
        exact Nat.lt_of_lt_of_le (hs.kept i engine hengine) hengines
    · intro loan hloan engine hengine
      rw [hshuts.loans] at hloan
      exact Nat.lt_of_lt_of_le (hs.loans loan hloan engine hengine) hengines
  · have hgoes := goes_after hs hm
    have hengines := hgoes.keeps.engines
    have hkept : ∀ i engine, (s.after m).kept i = some engine →
        engine < (s.after m).host.engines.length := by
      intro i engine hengine
      cases hbefore : s.kept i with
      | none => exact hgoes.keeps.known engine (hgoes.fresh i hbefore engine hengine)
      | some known =>
          obtain rfl : known = engine :=
            Option.some.inj ((hgoes.kept i known hbefore).symm.trans hengine)
          exact Nat.lt_of_lt_of_le (hs.kept i known hbefore) hengines
    refine ⟨hgoes.keeps.inUse, hgoes.keeps.known, hkept, ?_⟩
    intro loan hloan engine hengine
    rcases hgoes.loans loan hloan with hold | ⟨i, hnew⟩
    · exact Nat.lt_of_lt_of_le (hs.loans loan hold engine hengine) hengines
    · exact hkept i engine (hnew ▸ hengine)

theorem lt_length_after
    (hs : s.Sound) (m : Move) : s.host.engines.length ≤ (s.after m).host.engines.length := by
  by_cases hm : s.Closes m
  · exact (shuts_after hs hm).letsGo.engines
  · exact (goes_after hs hm).keeps.engines

/-- An adapter gets stale by having an engine when the owner is closed by another, and stays so
until it is closed itself. -/
theorem isStale_after
    (hs : s.Sound) (m : Move) (i : Nat) :
    (s.after m).IsStale i ↔
      m ≠ .close i ∧ (s.IsStale i ∨ s.kept i ≠ none ∧ s.Closes m) := by
  by_cases hm : s.Closes m
  · have hshuts := shuts_after hs hm
    by_cases hi : m = .close i
    · have hfresh : ¬(s.after m).IsStale i := by
        rintro ⟨engine, hengine, _⟩
        cases (hshuts.closed i hi).symm.trans hengine
      exact iff_of_false hfresh fun h => h.1 hi
    · cases hkept : s.kept i <;>
        simp [IsStale, hshuts.kept i hi, hshuts.letsGo.none, hi, hm, hkept]
  · have hgoes := goes_after hs hm
    have hi : m ≠ .close i := by
      rintro rfl
      exact hm trivial
    have hsame : (s.after m).IsStale i ↔ s.IsStale i := by
      cases hkept : s.kept i with
      | none =>
          constructor
          · rintro ⟨engine, hengine, hother⟩
            exact absurd (hgoes.fresh i hkept engine hengine) hother
          · rintro ⟨engine, hengine, _⟩
            cases hkept.symm.trans hengine
      | some engine =>
          have hheld := hgoes.keeps.held engine (hs.kept i engine hkept)
          simp [IsStale, hkept, hgoes.kept i engine hkept, hheld]
    simp [hsame, hi, hm]

/-- Of the engines there are, a move disposes of the one the owner holds if it closes the owner,
and otherwise of none; the owner holds no other of them than before. -/
theorem course_after
    (hs : s.Sound) (m : Move) {engine : Nat} (hengine : engine < s.host.engines.length) :
    ((s.after m).owner.engine = some engine ↔ s.owner.engine = some engine ∧ ¬s.Closes m) ∧
      (s.owner.engine = some engine ∧ s.Closes m → s.host.DisposedSince (s.after m).host engine) ∧
      (¬(s.owner.engine = some engine ∧ s.Closes m) →
        (s.after m).host.poolOf engine = s.host.poolOf engine) := by
  by_cases hm : s.Closes m
  · have hletsGo := (shuts_after hs hm).letsGo
    refine ⟨?_, ?_, ?_⟩
    · simp [hletsGo.none, hm]
    · rintro ⟨hheld, _⟩
      exact hletsGo.disposed engine hheld
    · intro hheld
      exact hletsGo.poolOf engine hengine fun h => hheld ⟨h, hm⟩
  · have hkeeps := (goes_after hs hm).keeps
    refine ⟨?_, ?_, ?_⟩
    · simp [hkeeps.held engine hengine, hm]
    · rintro ⟨_, hcloses⟩
      exact absurd hcloses hm
    · intro _
      exact hkeeps.poolOf engine hengine

/-! ## All moves -/

theorem afterAll_append
    (s : Shared) (moves later : List Move) :
    s.afterAll (moves ++ later) = (s.afterAll moves).afterAll later :=
  List.foldl_append

theorem afterAll_concat
    (s : Shared) (moves : List Move) (m : Move) :
    s.afterAll (moves ++ [m]) = (s.afterAll moves).after m :=
  afterAll_append s moves [m]

theorem Sound.afterAll
    (hs : s.Sound) (moves : List Move) : (s.afterAll moves).Sound := by
  induction moves generalizing s with
  | nil => exact hs
  | cons m moves ih => exact ih (hs.after m)

theorem sound_ofUrl
    (url : String) (script : Script) : (ofUrl url script).Sound where
  inUse _ hengine := absurd hengine (Nat.not_lt_zero _)
  owner := nofun
  kept := nofun
  loans := nofun

theorem length_afterAll
    (hs : s.Sound) (moves : List Move) :
    s.host.engines.length ≤ (s.afterAll moves).host.engines.length := by
  induction moves generalizing s with
  | nil => exact Nat.le_refl _
  | cons m moves ih => exact Nat.le_trans (lt_length_after hs m) (ih (hs.after m))

theorem isStale_afterAll
    (hs : s.Sound) {i : Nat} (hi : ¬s.IsStale i) (moves : List Move) :
    (s.afterAll moves).IsStale i ↔
      ∃ before m later, moves = before ++ m :: later ∧ (s.afterAll before).kept i ≠ none ∧
        (s.afterAll before).Closes m ∧ m ≠ .close i ∧ .close i ∉ later := by
  induction moves using List.reverseRecOn with
  | nil =>
      constructor
      · intro hstale
        exact absurd hstale hi
      · rintro ⟨before, m, later, hmoves, _⟩
        simp at hmoves
  | append_singleton moves last ih =>
      rw [afterAll_concat, isStale_after (hs.afterAll moves), ih]
      constructor
      · rintro ⟨hlast, ⟨before, m, later, rfl, hkept, hcloses, hm, hlater⟩ | ⟨hkept, hcloses⟩⟩
        · refine ⟨before, m, later ++ [last], by simp, hkept, hcloses, hm, ?_⟩
          simpa [hlater] using hlast.symm
        · exact ⟨moves, last, [], rfl, hkept, hcloses, hlast, List.not_mem_nil⟩
      · rintro ⟨before, m, later, hmoves, hkept, hcloses, hm, hlater⟩
        rcases List.eq_nil_or_concat later with rfl | ⟨later, next, rfl⟩
        · obtain ⟨rfl, hsame⟩ := List.append_inj' hmoves rfl
          obtain rfl := List.singleton_inj.mp hsame
          exact ⟨hm, .inr ⟨hkept, hcloses⟩⟩
        · have hsplit : moves ++ [last] = (before ++ m :: later) ++ [next] := by
            simpa using hmoves
          obtain ⟨rfl, hsame⟩ := List.append_inj' hsplit rfl
          obtain rfl := List.singleton_inj.mp hsame
          obtain ⟨hearlier, hnext⟩ : .close i ∉ later ∧ .close i ≠ last := by
            simpa [not_or] using hlater
          exact ⟨hnext.symm, .inl ⟨before, m, later, rfl, hkept, hcloses, hm, hearlier⟩⟩

/-- An engine that the owner does not hold is left alone. -/
theorem afterAll_of_apart
    (hs : s.Sound) {engine : Nat} (hengine : engine < s.host.engines.length)
    (hapart : s.owner.engine ≠ some engine) (moves : List Move) :
    (s.afterAll moves).owner.engine ≠ some engine ∧
      (s.afterAll moves).host.poolOf engine = s.host.poolOf engine := by
  induction moves using List.reverseRecOn with
  | nil => exact ⟨hapart, rfl⟩
  | append_singleton moves m ih =>
      obtain ⟨hother, hpool⟩ := ih
      have hlt := Nat.lt_of_lt_of_le hengine (length_afterAll hs moves)
      obtain ⟨hheld, _, hsame⟩ := course_after (hs.afterAll moves) m hlt
      rw [afterAll_concat]
      refine ⟨fun h => hother (hheld.mp h).1, ?_⟩
      rw [hsame fun h => hother h.1, hpool]

/-- The engine that the owner holds stays with it or is disposed of. -/
theorem afterAll_of_held
    (hs : s.Sound) {engine : Nat} (hheld : s.owner.engine = some engine) (moves : List Move) :
    (s.afterAll moves).owner.engine = some engine ∧
        (s.afterAll moves).host.poolOf engine = s.host.poolOf engine ∨
      (s.afterAll moves).owner.engine ≠ some engine ∧
        s.host.DisposedSince (s.afterAll moves).host engine := by
  induction moves using List.reverseRecOn with
  | nil => exact .inl ⟨hheld, rfl⟩
  | append_singleton moves m ih =>
      have hlt := Nat.lt_of_lt_of_le (hs.owner engine hheld) (length_afterAll hs moves)
      obtain ⟨hafter, hdisposed, hsame⟩ := course_after (hs.afterAll moves) m hlt
      rw [afterAll_concat]
      unfold DisposedSince at hdisposed ⊢
      rcases ih with ⟨hstill, hpool⟩ | ⟨hgone, hpool⟩
      · by_cases hm : (s.afterAll moves).Closes m
        · have hlarger := hdisposed ⟨hstill, hm⟩
          exact .inr ⟨fun h => (hafter.mp h).2 hm, hpool ▸ hlarger⟩
        · rw [hsame fun h => hm h.2]
          exact .inl ⟨hafter.mpr ⟨hstill, hm⟩, hpool⟩
      · rw [hsame fun h => hgone h.1]
        exact .inr ⟨fun h => hgone (hafter.mp h).1, hpool⟩

/-- Until an adapter is closed, the engine that the owner holds is disposed of, and no other. -/
theorem disposedSince_close_iff
    (hs : s.Sound) {engine : Nat} (hengine : engine < s.host.engines.length) (moves : List Move)
    (i : Nat) :
    s.host.DisposedSince (s.afterAll (moves ++ [.close i])).host engine ↔
      s.owner.engine = some engine := by
  have hnone : (s.afterAll (moves ++ [.close i])).owner.engine = none := by
    rw [afterAll_concat]
    exact (shuts_after (hs.afterAll moves) (m := .close i) trivial).letsGo.none
  constructor
  · intro hdisposed
    by_contra hapart
    have hpool := (afterAll_of_apart hs hengine hapart (moves ++ [.close i])).2
    exact Nat.ne_of_gt hdisposed hpool
  · intro hheld
    rcases afterAll_of_held hs hheld (moves ++ [.close i]) with ⟨hstill, _⟩ | ⟨_, hdisposed⟩
    · cases hnone.symm.trans hstill
    · exact hdisposed

/-! ## What adapters use -/

/-- Whether an adapter asks for its engine. -/
def Move.IsBy (i : Nat) : Move → Prop
  | .engine j | .send j _ _ | .start j => j = i
  | _ => False

/-- Whether an adapter uses an engine: it asks for it and gets it, or goes on with a transaction
that it opened on it. -/
def Uses (s : Shared) (i engine : Nat) (m : Move) : Prop :=
  m.IsBy i ∧ (s.adapter i).toEngine.1 = .ok engine ∨
    ∃ k loan, s.loans[k]? = some loan ∧ loan.adapter = i ∧ loan.engine = some engine ∧
      ((∃ sql parameters, m = .sendWithin k sql parameters) ∨ ∃ failure, m = .finish k failure)

theorem kept_after_isBy
    (hs : s.Sound) {i engine : Nat} (hm : m.IsBy i)
    (hengine : (s.adapter i).toEngine.1 = .ok engine) : (s.after m).kept i = some engine := by
  obtain ⟨outcome, o, w, htoEngine, _, hkept⟩ :=
    EngineWorld.asks_toEngine (w := s.adapter i) rfl hs.inUse hs.owner
  rw [htoEngine] at hengine
  have hw := hkept engine hengine
  cases m with
  | engine j =>
      obtain rfl : j = i := hm
      simp [after, set, htoEngine, hw]
  | send j sql parameters =>
      obtain rfl : j = i := hm
      obtain ⟨h, hsent, _⟩ := (s.adapter j).send_root sql parameters
      simp [after, set, hsent, htoEngine, hw]
  | start j =>
      obtain rfl : j = i := hm
      obtain ⟨h, hstarted, _⟩ := (s.adapter j).start_snd
      rw [htoEngine] at hstarted
      have hset : ∀ w', w' = (s.adapter j).start.2 → (s.set j w').kept j = some engine := by
        rintro _ rfl
        simp [set, hstarted, hw]
      unfold after start
      simp only
      rcases hstart : (s.adapter j).start with ⟨opened, w'⟩
      rw [hstart] at hset
      rcases opened with failure | _ | l
      · exact hset w' rfl
      · exact hset w' rfl
      · exact hset w' rfl
  | ask | sendWithin | finish | close => exact hm.elim

theorem lt_length_of_uses
    (hs : s.Sound) {i engine : Nat} (huses : s.Uses i engine m) :
    engine < (s.after m).host.engines.length := by
  rcases huses with ⟨hm, hengine⟩ | ⟨k, loan, hloan, _, hengine, _⟩
  · exact (hs.after m).kept i engine (kept_after_isBy hs hm hengine)
  · have hlt := hs.loans loan (List.mem_of_getElem? hloan) engine hengine
    exact Nat.lt_of_lt_of_le hlt (lt_length_after hs m)

/-- An adapter that asks for its engine gets the one that its owner holds unless it is stale. -/
theorem held_after_isBy
    (hs : s.Sound) {i engine : Nat} (hm : m.IsBy i)
    (hengine : (s.adapter i).toEngine.1 = .ok engine) :
    (s.after m).owner.engine = some engine ↔ ¬s.IsStale i := by
  have hkept := kept_after_isBy hs hm hengine
  have hcloses : ¬s.Closes m := by
    intro hcloses
    cases m with
    | ask | close => exact hm
    | engine | send | start | sendWithin | finish => exact hcloses
  have hstale : (s.after m).IsStale i ↔ s.IsStale i := by
    rw [isStale_after hs]
    have hne : m ≠ .close i := by
      rintro rfl
      exact hcloses trivial
    simp [hne, hcloses]
  rw [← hstale]
  simp [IsStale, hkept]

/-- An adapter is stale just if the owner was closed by another while it had an engine, and it was
not closed itself since.  What it asks for is the engine that its owner holds unless it is stale,
and between a use of an engine and the closing of the adapter that engine is disposed of just if
the owner held it on that use. -/
theorem disposed_after_use
    (url : String) (script : Script) (moves : List Move) (i : Nat) :
    let s := (ofUrl url script).afterAll moves
    (s.IsStale i ↔ ∃ before m later, moves = before ++ m :: later ∧
      ((ofUrl url script).afterAll before).kept i ≠ none ∧
      ((ofUrl url script).afterAll before).Closes m ∧ m ≠ .close i ∧ .close i ∉ later) ∧
    ∀ m engine, s.Uses i engine m →
      (m.IsBy i → ((s.after m).owner.engine = some engine ↔ ¬s.IsStale i)) ∧
      ∀ later, (s.after m).host.DisposedSince
          ((s.after m).afterAll (later ++ [.close i])).host engine ↔
        (s.after m).owner.engine = some engine := by
  intro s
  have hstart := sound_ofUrl url script
  have hs : s.Sound := hstart.afterAll moves
  refine ⟨isStale_afterAll hstart ?_ moves, ?_⟩
  · rintro ⟨engine, hengine, _⟩
    cases hengine
  · intro m engine huses
    refine ⟨?_, fun later =>
      disposedSince_close_iff (hs.after m) (lt_length_of_uses hs huses) later i⟩
    intro hm
    rcases huses with ⟨_, hengine⟩ | ⟨k, loan, _, _, _, hwithin⟩
    · exact held_after_isBy hs hm hengine
    · rcases hwithin with ⟨sql, parameters, rfl⟩ | ⟨failure, rfl⟩ <;> exact hm.elim

/-- An adapter whose owner is closed between two statements: the connection of the second is left
open when the adapter is closed. -/
theorem disposed_after_use_stale :
    let query : Move := .send 0 (.text "SELECT 1") []
    let s := (ofUrl "sqlite+fake://" { statements := [] }).afterAll [query, .ask .close]
    s.IsStale 0 ∧ s.Uses 0 0 query ∧
      ¬(s.after query).host.DisposedSince ((s.after query).afterAll [.close 0]).host 0 ∧
      ((s.after query).afterAll [.close 0]).host.events =
        [.connect 0, .start 0, .statement 0 (.text "SELECT 1") none, .commit 0, .close 0,
          .connect 1, .start 1, .statement 1 (.text "SELECT 1") none, .commit 1] := by
  intro query s
  obtain ⟨hstale, huses⟩ :=
    disposed_after_use "sqlite+fake://" { statements := [] } [query, .ask .close] 0
  have hs : s.IsStale 0 :=
    hstale.mpr ⟨[query], .ask .close, [], rfl, by decide, .inl rfl, nofun, List.not_mem_nil⟩
  have huse : s.Uses 0 0 query := .inl ⟨rfl, rfl⟩
  obtain ⟨hheld, hdisposed⟩ := huses query 0 huse
  have hapart : (s.after query).owner.engine ≠ some 0 := fun h => (hheld rfl).mp h hs
  exact ⟨hs, huse, fun h => hapart ((hdisposed []).mp h), rfl⟩

end Shared

end SqlBuilder
