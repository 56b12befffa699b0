import SqlBuilder.Proofs.Engine.Owner

/-!
# Which engines are disposed of

Disposing of an engine gives it a new pool with a number of its own, and nothing
else does, so the numbers tell whether an engine was disposed of in between.
What an owner is asked either leaves every engine with its pool, and the owner
with the engine it has, or lets go of that engine and disposes of it alone.
-/

namespace SqlBuilder

/-! ## Engines and their pools -/

namespace Host

variable {h h' h'' : Host}

/-- The number of the pool that an engine uses. -/
def poolOf (h : Host) (engine : Nat) : Nat := (h.engineAt engine).pool

/-- Every engine uses a pool that there is. -/
def InUse (h : Host) : Prop := ∀ engine < h.engines.length, h.poolOf engine < h.pools.length

/-- Between the two an engine was disposed of: its pool has a greater number. -/
def DisposedSince (h h' : Host) (engine : Nat) : Prop := h.poolOf engine < h'.poolOf engine

/-- There are the same engines with the same pools. -/
structure SamePools (h h' : Host) : Prop where
  engines : h'.engines.length = h.engines.length
  pools : h'.pools.length = h.pools.length
  poolOf : ∀ engine, h'.poolOf engine = h.poolOf engine

namespace SamePools

theorem refl
    (h : Host) : SamePools h h :=
  ⟨rfl, rfl, fun _ => rfl⟩

theorem trans
    (hfirst : SamePools h h') (hsecond : SamePools h' h'') : SamePools h h'' where
  engines := hsecond.engines.trans hfirst.engines
  pools := hsecond.pools.trans hfirst.pools
  poolOf engine := (hsecond.poolOf engine).trans (hfirst.poolOf engine)

theorem of_engines
    (hengines : h'.engines = h.engines) (hpools : h'.pools.length = h.pools.length) :
    SamePools h h' where
  engines := congrArg List.length hengines
  pools := hpools
  poolOf engine := by simp only [Host.poolOf, engineAt, hengines]

theorem of_sends
    {noted : List Event} (hsends : Sends noted h h') : SamePools h h' :=
  of_engines hsends.engines (congrArg List.length hsends.pools)

theorem of_serves
    {c : Nat} (hserves : Serves c h h') : SamePools h h' := by
  obtain ⟨noted, hsends, _⟩ := hserves
  exact of_sends hsends

theorem inUse
    (hsame : SamePools h h') (hh : h.InUse) : h'.InUse := by
  intro engine hengine
  rw [hsame.poolOf, hsame.pools]
  exact hh engine (hsame.engines ▸ hengine)

end SamePools

theorem samePools_setPool
    (h : Host) (pool : Nat) (p : Pool) : SamePools h (h.setPool pool p) :=
  .of_engines rfl List.length_set

theorem samePools_release
    (h : Host) (l : Lease) : SamePools h (h.release l) := by
  unfold release
  simp only
  split
  next => exact samePools_setPool h _ _
  next => exact (samePools_setPool h _ _).trans (.of_engines rfl rfl)

theorem samePools_connect
    (h : Host) (pool : Nat) (isLocal : Bool) : SamePools h (h.connect pool isLocal).2 := by
  unfold connect
  split
  next => exact .of_engines rfl rfl
  next => exact .of_engines rfl List.length_set

theorem poolOf_setEngine
    (h : Host) {engine : Nat} (hengine : engine < h.engines.length) (e : Engine) (other : Nat) :
    poolOf { h with engines := h.engines.set engine e } other =
      if other = engine then e.pool else h.poolOf other := by
  unfold poolOf engineAt
  rw [List.getElem?_set]
  by_cases hother : other = engine
  · subst hother
    simp [hengine]
  · simp [hother, Ne.symm hother]

theorem samePools_setEngine
    (h : Host) (engine : Nat) {e : Engine} (he : e.pool = h.poolOf engine) :
    SamePools h { h with engines := h.engines.set engine e } := by
  refine ⟨List.length_set, rfl, fun other => ?_⟩
  by_cases hengine : engine < h.engines.length
  · rw [poolOf_setEngine h hengine]
    split
    next hother => rw [he, hother]
    next => rfl
  · simp only [List.set_eq_of_length_le (Nat.le_of_not_lt hengine)]

theorem samePools_acquire
    (h : Host) (engine : Nat) : SamePools h (h.acquire engine).2 := by
  have hset := samePools_setEngine h engine
    (e := { h.engineAt engine with isDisposed := false }) rfl
  unfold acquire
  simp only
  split
  next => exact hset.trans (samePools_setPool _ _ _)
  next =>
    split
    next => exact hset
    next => exact hset.trans (samePools_connect _ _ _)

theorem samePools_finish
    (h : Host) (l : Lease) (failure : Option Failure) : SamePools h (h.finish l failure).2 := by
  cases failure with
  | none => exact (SamePools.of_sends (sends_commit h l)).trans (samePools_release _ l)
  | some failure => exact (SamePools.of_sends (sends_rollback h l)).trans (samePools_release _ l)

theorem Borrows.samePools
    {engine : Nat} (hborrows : Borrows engine h h') : SamePools h h' := by
  have hacquired := samePools_acquire h engine
  cases hborrows with
  | refused hacquire =>
      rw [hacquire] at hacquired
      exact hacquired
  | lent hacquire hserves =>
      rw [hacquire] at hacquired
      exact (hacquired.trans (.of_serves hserves)).trans (samePools_release _ _)

theorem poolOf_create
    (h : Host) (b : Blueprint) {engine : Nat} (hengine : engine < h.engines.length) :
    (h.create b).2.poolOf engine = h.poolOf engine := by
  simp [poolOf, engineAt, create, List.getElem?_append_left hengine]

theorem InUse.create
    (hh : h.InUse) (b : Blueprint) : (h.create b).2.InUse := by
  intro engine hengine
  have hpools : (h.create b).2.pools.length = h.pools.length + 1 := by simp [Host.create]
  have hengines : (h.create b).2.engines.length = h.engines.length + 1 := by simp [Host.create]
  rw [hpools]
  by_cases hold : engine < h.engines.length
  · rw [poolOf_create h b hold]
    exact Nat.lt_succ_of_lt (hh engine hold)
  · obtain rfl : engine = h.engines.length := by omega
    simp [poolOf, engineAt, Host.create]

/-- The connections that are closed leave engines and pools alone, so what is left of disposing is
the new pool of the engine. -/
theorem dispose_eq
    (h : Host) (engine : Nat) :
    ∃ h₁, SamePools h h₁ ∧ h₁.engines = h.engines ∧ h.dispose engine =
      { h₁ with
        engines := h₁.engines.set engine
          { h.engineAt engine with pool := h₁.pools.length, isDisposed := true }
        pools := h₁.pools ++ [{}] } := by
  have hsent := sends_closeAll (h.engineAt engine).isLocal
    (h.poolAt (h.engineAt engine).pool).idle h
  have hclosed := SamePools.of_sends hsent
  exact ⟨_, hclosed.trans (samePools_setPool _ _ _), hsent.engines, rfl⟩

theorem poolOf_dispose
    (h : Host) {engine : Nat} (hengine : engine < h.engines.length) (other : Nat) :
    (h.dispose engine).poolOf other =
      if other = engine then h.pools.length else h.poolOf other := by
  obtain ⟨h₁, hsame, _, hdispose⟩ := dispose_eq h engine
  rw [hdispose, ← hsame.pools, ← hsame.poolOf other]
  exact poolOf_setEngine { h₁ with pools := h₁.pools ++ [{}] } (hsame.engines ▸ hengine) _ other

theorem length_dispose
    (h : Host) (engine : Nat) :
    (h.dispose engine).engines.length = h.engines.length ∧
      (h.dispose engine).pools.length = h.pools.length + 1 := by
  obtain ⟨h₁, hsame, _, hdispose⟩ := dispose_eq h engine
  rw [hdispose]
  simp [hsame.engines, hsame.pools]

theorem InUse.dispose
    (hh : h.InUse) {engine : Nat} (hengine : engine < h.engines.length) :
    (h.dispose engine).InUse := by
  intro other hother
  obtain ⟨hengines, hpools⟩ := length_dispose h engine
  rw [poolOf_dispose h hengine, hpools]
  split
  next => exact Nat.lt_succ_self _
  next => exact Nat.lt_succ_of_lt (hh other (hengines ▸ hother))

end Host

/-! ## Owners -/

namespace Owner

open Host

variable {o o' o'' : Owner} {h h' h'' : Host}

/-- Every engine keeps its pool, and the owner holds of the engines there were what it held. -/
structure Keeps (o : Owner) (h : Host) (o' : Owner) (h' : Host) : Prop where
  inUse : h'.InUse
  known : o'.Known h'
  engines : h.engines.length ≤ h'.engines.length
  held : ∀ engine < h.engines.length, o'.engine = some engine ↔ o.engine = some engine
  poolOf : ∀ engine < h.engines.length, h'.poolOf engine = h.poolOf engine

/-- The owner holds no engine any more, and the one it held is disposed of, alone of those there
were. -/
structure LetsGo (o : Owner) (h : Host) (o' : Owner) (h' : Host) : Prop where
  inUse : h'.InUse
  engines : h.engines.length ≤ h'.engines.length
  none : o'.engine = none
  disposed : ∀ engine, o.engine = some engine → h.DisposedSince h' engine
  poolOf : ∀ engine < h.engines.length, o.engine ≠ some engine → h'.poolOf engine = h.poolOf engine

theorem Keeps.of_samePools
    (hh : h.InUse) (ho : o.Known h) (hsame : SamePools h h') : Keeps o h o h' where
  inUse := hsame.inUse hh
  known := ho.mono (Nat.le_of_eq hsame.engines.symm)
  engines := Nat.le_of_eq hsame.engines.symm
  held _ _ := Iff.rfl
  poolOf engine _ := hsame.poolOf engine

theorem Keeps.refl
    (hh : h.InUse) (ho : o.Known h) : Keeps o h o h :=
  .of_samePools hh ho (.refl h)

theorem Keeps.trans
    (hfirst : Keeps o h o' h') (hsecond : Keeps o' h' o'' h'') : Keeps o h o'' h'' where
  inUse := hsecond.inUse
  known := hsecond.known
  engines := Nat.le_trans hfirst.engines hsecond.engines
  held engine hengine :=
    (hsecond.held engine (Nat.lt_of_lt_of_le hengine hfirst.engines)).trans
      (hfirst.held engine hengine)
  poolOf engine hengine :=
    (hsecond.poolOf engine (Nat.lt_of_lt_of_le hengine hfirst.engines)).trans
      (hfirst.poolOf engine hengine)

theorem Keeps.withPools
    (hkeeps : Keeps o h o' h') (hsame : SamePools h' h'') : Keeps o h o' h'' :=
  hkeeps.trans (.of_samePools hkeeps.inUse hkeeps.known hsame)

theorem LetsGo.after
    (ho : o.Known h) (hkeeps : Keeps o h o' h') (hletsGo : LetsGo o' h' o'' h'') :
    LetsGo o h o'' h'' where
  inUse := hletsGo.inUse
  engines := Nat.le_trans hkeeps.engines hletsGo.engines
  none := hletsGo.none
  disposed engine hengine := by
    have hlt := ho engine hengine
    have hdisposed := hletsGo.disposed engine ((hkeeps.held engine hlt).mpr hengine)
    rwa [DisposedSince, hkeeps.poolOf engine hlt] at hdisposed
  poolOf engine hlt hengine := by
    have hother : o'.engine ≠ some engine := mt (hkeeps.held engine hlt).mp hengine
    rw [hletsGo.poolOf engine (Nat.lt_of_lt_of_le hlt hkeeps.engines) hother,
      hkeeps.poolOf engine hlt]

theorem keeps_create
    (hh : h.InUse) (hnone : o.engine = none) (b : Blueprint) :
    Keeps o h { o with engine := some (h.create b).1 } (h.create b).2 where
  inUse := hh.create b
  known := by
    rintro _ ⟨⟩
    exact create_lt h b
  engines := by simp [create]
  held engine hengine := by
    have hne : h.engines.length ≠ engine := (Nat.ne_of_lt hengine).symm
    simp [hnone, create, hne]
  poolOf engine hengine := poolOf_create h b hengine

theorem keeps_dispose_create
    (hh : h.InUse) (hnone : o.engine = none) (b : Blueprint) :
    Keeps o h o ((h.create b).2.dispose (h.create b).1) where
  inUse := (hh.create b).dispose (create_lt h b)
  known engine hengine := by
    rw [hnone] at hengine
    cases hengine
  engines := by
    rw [(length_dispose _ _).1]
    simp [create]
  held _ _ := Iff.rfl
  poolOf engine hengine := by
    have hne : engine ≠ (h.create b).1 := Nat.ne_of_lt hengine
    rw [poolOf_dispose _ (create_lt h b), if_neg hne, poolOf_create h b hengine]

theorem keeps_openWith
    (hh : h.InUse) (ho : o.Known h) (made : Except BlueprintFault Blueprint) :
    ∃ outcome o' h', o.openWith made h = (outcome, o', h') ∧ Keeps o h o' h' ∧
      ∀ engine, outcome = .ok engine → o'.engine = some engine := by
  rcases o.openWith_cases h made with
    ⟨engine, hengine, hopened⟩ | ⟨hnone, ⟨fault, _, hopened⟩ | ⟨b, _, ⟨_, hopened⟩ | ⟨_, hopened⟩⟩⟩
  · refine ⟨_, _, _, hopened, .refl hh ho, ?_⟩
    rintro _ ⟨⟩
    exact hengine
  · exact ⟨_, _, _, hopened, .refl hh ho, nofun⟩
  · refine ⟨_, _, _, hopened, keeps_create hh hnone b, ?_⟩
    rintro _ ⟨⟩
    rfl
  · exact ⟨_, _, _, hopened, keeps_dispose_create hh hnone b, nofun⟩

theorem keeps_toEngine
    (hh : h.InUse) (ho : o.Known h) :
    ∃ outcome o' h', o.toEngine h = (outcome, o', h') ∧ Keeps o h o' h' ∧
      ∀ engine, outcome = .ok engine → o'.engine = some engine :=
  keeps_openWith hh ho (Blueprint.ofUrl o.url)

theorem keeps_testWith
    (hh : h.InUse) (ho : o.Known h) (made : Except BlueprintFault Blueprint) :
    Keeps o h (o.testWith made h).2.1 (o.testWith made h).2.2 := by
  refine testWith_preserves (P := Keeps o h) ?_ ?_ (.refl hh ho)
  · intro o₁ h₁ hkeeps
    obtain ⟨_, _, _, hopened, hopening, _⟩ := keeps_openWith hkeeps.inUse hkeeps.known made
    rw [hopened]
    exact hkeeps.trans hopening
  · intro o₁ h₁ engine hkeeps _
    exact hkeeps.withPools (borrows_probe h₁ engine).samePools

theorem letsGo_close
    (hh : h.InUse) (ho : o.Known h) : LetsGo o h (o.close h).1 (o.close h).2 := by
  unfold close
  cases hengine : o.engine with
  | none =>
      refine ⟨hh, Nat.le_refl _, hengine, ?_, fun _ _ _ => rfl⟩
      intro engine hheld
      rw [hengine] at hheld
      cases hheld
  | some engine =>
      have hlt := ho engine hengine
      refine ⟨hh.dispose hlt, Nat.le_of_eq (length_dispose h engine).1.symm, rfl, ?_, ?_⟩
      · intro held hheld
        obtain rfl : engine = held := by simpa [hengine] using hheld
        rw [DisposedSince, poolOf_dispose h hlt, if_pos rfl]
        exact hh engine hlt
      · intro other _ hother
        have hne : other ≠ engine := by
          rintro rfl
          exact hother hengine
        rw [poolOf_dispose h hlt, if_neg hne]

/-- Whether a question ends with the owner closed: work between a test and closing does so unless
the test fails. -/
def Closes (o : Owner) (h : Host) (q : Question) : Prop :=
  q = .close ∨ q = .within ∧ (o.test h).1 = none

theorem keeps_answer
    (hh : h.InUse) (ho : o.Known h) {q : Question} (hq : ¬o.Closes h q) :
    Keeps o h (o.answer h q).2.1 (o.answer h q).2.2 := by
  have htested := keeps_testWith hh ho (Blueprint.ofUrl o.url)
  rw [answer, answerWith_snd]
  cases q with
  | url | isOpen => exact .refl hh ho
  | engine | dialect | isPostgres =>
      obtain ⟨_, _, _, hopened, hkeeps, _⟩ := keeps_openWith hh ho (Blueprint.ofUrl o.url)
      simp only [hopened]
      exact hkeeps
  | test => exact htested
  | close => exact absurd (.inl rfl) hq
  | within =>
      have hfailed : (o.test h).1 ≠ none := fun htest => hq (.inr ⟨rfl, htest⟩)
      rw [test] at hfailed
      simp only [if_neg hfailed]
      exact htested

theorem letsGo_answer
    (hh : h.InUse) (ho : o.Known h) {q : Question} (hq : o.Closes h q) :
    LetsGo o h (o.answer h q).2.1 (o.answer h q).2.2 := by
  rw [answer, answerWith_snd]
  rcases hq with rfl | ⟨rfl, htest⟩
  · exact letsGo_close hh ho
  · have htested := keeps_testWith hh ho (Blueprint.ofUrl o.url)
    rw [test] at htest
    simp only [if_pos htest]
    exact .after ho htested (letsGo_close htested.inUse htested.known)

end Owner

end SqlBuilder
