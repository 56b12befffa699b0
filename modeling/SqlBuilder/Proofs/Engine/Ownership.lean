import SqlBuilder.Proofs.Engine.Disposal

/-!
# An owner has one engine

Whatever is called on an owner, and however the attempts to make an engine end,
at most one engine is open: the one that the owner holds, and its dialect is
supported.  An attempt that comes to nothing is told as a failure of the
connection and leaves the owner as it was, so the next call that needs an engine
makes another one.
-/

namespace SqlBuilder

/-! ## Which engines are open -/

namespace Host

variable {h h' : Host} {engine : Nat}

/-- An engine that was not disposed of, or that was used since. -/
def IsOpen (h : Host) (engine : Nat) : Prop :=
  ∃ e, h.engines[engine]? = some e ∧ e.isDisposed = false

theorem isOpen_create
    (h : Host) (b : Blueprint) (x : Nat) :
    (h.create b).2.IsOpen x ↔ h.IsOpen x ∨ x = (h.create b).1 := by
  have hengines : (h.create b).2.engines =
      h.engines ++ [⟨b.dialect, b.isLocal, h.pools.length, false⟩] := rfl
  have hnew : (h.create b).1 = h.engines.length := rfl
  unfold IsOpen
  rw [hengines, hnew]
  rcases Nat.lt_trichotomy x h.engines.length with hx | rfl | hx
  · simp [List.getElem?_append_left hx, Nat.ne_of_lt hx]
  · simp
  · have hnone : (h.engines ++ [⟨b.dialect, b.isLocal, h.pools.length, false⟩])[x]? = none :=
      List.getElem?_eq_none (by simpa using Nat.succ_le_of_lt hx)
    simp [hnone, List.getElem?_eq_none (Nat.le_of_lt hx), Nat.ne_of_gt hx]

theorem isOpen_dispose
    (h : Host) (engine x : Nat) : (h.dispose engine).IsOpen x ↔ h.IsOpen x ∧ x ≠ engine := by
  obtain ⟨h₁, _, hengines, hdispose⟩ := dispose_eq h engine
  rw [hdispose]
  unfold IsOpen
  simp only [hengines, List.getElem?_set]
  by_cases hx : engine = x
  · subst hx
    by_cases hengine : engine < h.engines.length <;> simp [hengine]
  · simp [hx, Ne.symm hx]

theorem engines_acquire
    (h : Host) (engine : Nat) :
    (h.acquire engine).2.engines =
      h.engines.set engine { h.engineAt engine with isDisposed := false } := by
  unfold acquire
  simp only
  split
  next => rfl
  next =>
    split
    next => rfl
    next =>
      unfold connect
      split <;> rfl

theorem engines_release
    (h : Host) (l : Lease) : (h.release l).engines = h.engines := by
  unfold release
  simp only
  split <;> rfl

theorem Borrows.engines
    (hborrows : Borrows engine h h') :
    h'.engines = h.engines.set engine { h.engineAt engine with isDisposed := false } := by
  rw [← engines_acquire]
  cases hborrows with
  | refused hacquire => rw [hacquire]
  | lent hacquire hserves =>
      obtain ⟨noted, hsends, _⟩ := hserves
      rw [engines_release, hsends.engines, hacquire]

theorem isOpen_used
    (hengines : h'.engines = h.engines.set engine { h.engineAt engine with isDisposed := false })
    (x : Nat) : h'.IsOpen x ↔ h.IsOpen x ∨ x = engine ∧ engine < h.engines.length := by
  unfold IsOpen
  rw [hengines, List.getElem?_set]
  by_cases hx : engine = x
  · subst hx
    by_cases hengine : engine < h.engines.length <;> simp [hengine]
  · simp [hx, Ne.symm hx]

theorem dialect_set
    {e : Engine} (hengines : h'.engines = h.engines.set engine e)
    (he : e.dialect = (h.engineAt engine).dialect) (x : Nat) :
    (h'.engineAt x).dialect = (h.engineAt x).dialect := by
  unfold engineAt at he ⊢
  rw [hengines, List.getElem?_set]
  by_cases hx : engine = x
  · subst hx
    by_cases hengine : engine < h.engines.length <;> simp [hengine, he]
  · simp [hx]

theorem dialect_dispose
    (h : Host) (engine x : Nat) :
    ((h.dispose engine).engineAt x).dialect = (h.engineAt x).dialect := by
  obtain ⟨h₁, _, hengines, hdispose⟩ := dispose_eq h engine
  have hset := congrArg Host.engines hdispose
  rw [hengines] at hset
  exact dialect_set hset rfl x

theorem dialect_create
    (h : Host) (b : Blueprint) : ((h.create b).2.engineAt (h.create b).1).dialect = b.dialect := by
  simp [create, engineAt]

end Host

namespace Owner

open Host

variable {o : Owner} {h h' : Host} {made : Except BlueprintFault Blueprint} {used : List Nat}

/-! ## What owners keep -/

/-- The engine of an owner has a supported dialect, and no other engine is open
but those in `used`. -/
structure Owns (used : List Nat) (o : Owner) (h : Host) : Prop where
  supported : ∀ e, o.engine = some e → (h.engineAt e).dialect ∈ Rejection.supportedDialects
  others : ∀ e, h.IsOpen e → o.engine = some e ∨ e ∈ used

/-- The engine that an owner holds is open. -/
def HoldsOpen (o : Owner) (h : Host) : Prop := ∀ e, o.engine = some e → h.IsOpen e

theorem Owns.of_used
    (howns : Owns used o h) {engine : Nat} (hengine : o.engine = some engine ∨ engine ∈ used)
    (hengines : h'.engines = h.engines.set engine { h.engineAt engine with isDisposed := false }) :
    Owns used o h' where
  supported e he := by
    rw [dialect_set hengines rfl]
    exact howns.supported e he
  others e he := by
    rcases (isOpen_used hengines e).mp he with he | ⟨rfl, _⟩
    · exact howns.others e he
    · exact hengine

theorem Owns.openWith
    (howns : Owns used o h) (made : Except BlueprintFault Blueprint) :
    Owns used (o.openWith made h).2.1 (o.openWith made h).2.2 := by
  rcases o.openWith_cases h made with
    ⟨_, _, hopened⟩ | ⟨hnone, ⟨_, _, hopened⟩ | ⟨b, _, ⟨hdialect, hopened⟩ | ⟨_, hopened⟩⟩⟩
  all_goals rw [hopened]
  · exact howns
  · exact howns
  · refine ⟨?_, ?_⟩
    · rintro _ ⟨⟩
      rwa [dialect_create]
    · intro e he
      rcases (isOpen_create h b e).mp he with he | rfl
      · have hother := (howns.others e he).resolve_left (by simp [hnone])
        exact .inr hother
      · exact .inl rfl
  · refine ⟨by simp [hnone], ?_⟩
    intro e he
    -- The new engine is closed again, so what is open was open before.
    obtain ⟨he, hold⟩ := (isOpen_dispose _ _ e).mp he
    exact howns.others e (((isOpen_create h b e).mp he).resolve_right hold)

theorem engine_close
    (o : Owner) (h : Host) : (o.close h).1.engine = none := by
  unfold Owner.close
  cases hengine : o.engine with
  | none => exact hengine
  | some engine => rfl

theorem Owns.close
    (howns : Owns used o h) : Owns used (o.close h).1 (o.close h).2 := by
  unfold Owner.close
  cases hengine : o.engine with
  | none => exact howns
  | some engine =>
      refine ⟨nofun, ?_⟩
      intro e he
      obtain ⟨he, hother⟩ := (isOpen_dispose h engine e).mp he
      refine .inr ((howns.others e he).resolve_left ?_)
      rw [hengine, Option.some.injEq]
      exact Ne.symm hother

theorem Owns.testWith
    (howns : Owns used o h) (made : Except BlueprintFault Blueprint) :
    Owns used (o.testWith made h).2.1 (o.testWith made h).2.2 :=
  testWith_preserves (P := Owns used) (fun _ _ howns => howns.openWith made)
    (fun _ h engine howns hheld => howns.of_used (.inl hheld) (borrows_probe h engine).engines)
    howns

theorem Owns.answerWith
    (howns : Owns used o h) (made : Except BlueprintFault Blueprint) (q : Question) :
    Owns used (o.answerWith made h q).2.1 (o.answerWith made h q).2.2 :=
  answerWith_preserves (P := Owns used) (fun _ _ howns => howns.openWith made)
    (fun _ h engine howns hheld => howns.of_used (.inl hheld) (borrows_probe h engine).engines)
    (fun _ _ howns => howns.close) howns q

theorem HoldsOpen.openWith
    (hholds : HoldsOpen o h) (made : Except BlueprintFault Blueprint) :
    HoldsOpen (o.openWith made h).2.1 (o.openWith made h).2.2 := by
  rcases o.openWith_cases h made with
    ⟨_, _, hopened⟩ | ⟨hnone, ⟨_, _, hopened⟩ | ⟨b, _, ⟨_, hopened⟩ | ⟨_, hopened⟩⟩⟩
  all_goals rw [hopened]
  · exact hholds
  · exact hholds
  · rintro _ ⟨⟩
    exact (isOpen_create h b _).mpr (.inr rfl)
  · intro e he
    cases hnone.symm.trans he

theorem HoldsOpen.answerWith
    (hholds : HoldsOpen o h) (made : Except BlueprintFault Blueprint) (q : Question) :
    HoldsOpen (o.answerWith made h q).2.1 (o.answerWith made h q).2.2 := by
  refine answerWith_preserves (P := HoldsOpen) (fun _ _ hholds => hholds.openWith made)
    ?_ ?_ hholds q
  · intro o h engine hholds _ e he
    exact (isOpen_used (borrows_probe h engine).engines e).mpr (.inl (hholds e he))
  · intro o h hholds
    unfold Owner.close
    cases hengine : o.engine with
    | none => exact hholds
    | some engine => nofun

/-! ## Calls -/

/-- What is called on an owner.  A block over it is entered by a test and left by
closing. -/
inductive Call
  | engine
  | dialect
  | isPostgres
  | test
  | close
  | enter
  | leave
  deriving DecidableEq

def Call.question : Call → Question
  | engine => .engine
  | dialect => .dialect
  | isPostgres => .isPostgres
  | test | enter => .test
  | close | leave => .close

/-- A call that needs an engine. -/
def Call.Opens (c : Call) : Prop := c ≠ .close ∧ c ≠ .leave

/-- What is left after calls in turn, each with what an attempt to make an engine
comes to. -/
def afterCalls (o : Owner) (h : Host) :
    List (Except BlueprintFault Blueprint × Call) → Owner × Host
  | [] => (o, h)
  | (made, c) :: calls =>
    let (_, o, h) := o.answerWith made h c.question
    afterCalls o h calls

theorem afterCalls_preserves
    {P : Owner → Host → Prop}
    (hanswer : ∀ o h made q, P o h → P (o.answerWith made h q).2.1 (o.answerWith made h q).2.2)
    (hP : P o h) (calls : List (Except BlueprintFault Blueprint × Call)) :
    P (o.afterCalls h calls).1 (o.afterCalls h calls).2 := by
  induction calls generalizing o h with
  | nil => exact hP
  | cons call calls ih => exact ih (hanswer o h call.1 call.2.question hP)

/-- Attempts to make an engine that end alike are told alike. -/
theorem answerWith_congr
    {other : Except BlueprintFault Blueprint} (hsame : o.openWith other h = o.openWith made h)
    (q : Question) : o.answerWith other h q = o.answerWith made h q := by
  have htested : o.testWith other h = o.testWith made h := by
    unfold testWith
    rw [hsame]
  cases q with
  | url | isOpen | close => rfl
  | engine => simp only [answerWith, hsame]
  | dialect | isPostgres => simp only [answerWith, dialectWith, hsame]
  | test => simp only [answerWith, htested]
  | within => simp only [answerWith, withinWith, htested]

/-- A call that needs an engine and gets none fails as the attempt did. -/
theorem answerWith_of_error
    {c : Call} (hc : c.Opens) {failure : Failure} {o' : Owner}
    (hopened : o.openWith made h = (.error failure, o', h')) :
    o.answerWith made h c.question = (.error failure, o', h') := by
  cases c with
  | engine | dialect | isPostgres | test | enter =>
      simp only [Call.question, answerWith, dialectWith, testWith, hopened] <;> rfl
  | close => exact absurd rfl hc.1
  | leave => exact absurd rfl hc.2

theorem engine_answerWith
    {c : Call} (hc : c.Opens) (o : Owner) (h : Host) (made : Except BlueprintFault Blueprint) :
    (o.answerWith made h c.question).2.1 = (o.openWith made h).2.1 := by
  have htested : (o.testWith made h).2.1 = (o.openWith made h).2.1 := by
    unfold testWith
    rcases o.openWith made h with ⟨_ | _, _, _⟩ <;> rfl
  rw [answerWith_snd]
  cases c with
  | engine | dialect | isPostgres => rfl
  | test | enter => exact htested
  | close => exact absurd rfl hc.1
  | leave => exact absurd rfl hc.2

/-! ## Failures -/

/-- A failure that the library tells of the connection. -/
def OfConnection (failure : Failure) : Prop :=
  ∃ r : Rejection, failure = .rejected r ∧ r.kind = .connection

theorem ofConnection_openWith
    (o : Owner) (h : Host) (made : Except BlueprintFault Blueprint) :
    ∀ failure, (o.openWith made h).1 = .error failure → OfConnection failure := by
  rcases o.openWith_cases h made with
    ⟨_, _, hopened⟩ | ⟨_, ⟨_, _, hopened⟩ | ⟨_, _, ⟨_, hopened⟩ | ⟨_, hopened⟩⟩⟩
  all_goals rw [hopened]
  · nofun
  · rintro _ ⟨⟩
    exact ⟨_, rfl, rfl⟩
  · nofun
  · rintro _ ⟨⟩
    exact ⟨_, rfl, rfl⟩

theorem ofConnection_testFailure
    (failure : Failure) : OfConnection (testFailure failure) := by
  cases failure <;> exact ⟨_, rfl, rfl⟩

theorem ofConnection_testWith
    (o : Owner) (h : Host) (made : Except BlueprintFault Blueprint) :
    ∀ failure, (o.testWith made h).1 = some failure → OfConnection failure := by
  have hopening := ofConnection_openWith o h made
  unfold testWith
  rcases hopened : o.openWith made h with ⟨refused | engine, o', h'⟩
  · rw [hopened] at hopening
    rintro _ ⟨⟩
    exact hopening refused rfl
  · intro failure hfailed
    obtain ⟨probed, _, rfl⟩ := Option.map_eq_some_iff.mp hfailed
    exact ofConnection_testFailure probed

/-- All that a question fails with is told of the connection. -/
theorem ofConnection_answerWith
    (o : Owner) (h : Host) (made : Except BlueprintFault Blueprint) (q : Question) :
    ∀ failure, (o.answerWith made h q).1 = .error failure → OfConnection failure := by
  have hopening := ofConnection_openWith o h made
  have htesting := ofConnection_testWith o h made
  intro failure hfailed
  cases q with
  | url | isOpen | close => cases hfailed
  | engine | dialect | isPostgres =>
      simp only [answerWith, dialectWith] at hfailed
      rcases hopened : o.openWith made h with ⟨refused | engine, o', h'⟩
      all_goals rw [hopened] at hfailed hopening
      · cases hfailed
        exact hopening failure rfl
      · cases hfailed
  | test | within =>
      simp only [answerWith, withinWith] at hfailed
      rcases htested : o.testWith made h with ⟨_ | refused, o', h'⟩
      all_goals rw [htested] at hfailed htesting
      · cases hfailed
      · cases hfailed
        exact htesting failure rfl

/-! ## All calls -/

/-- How a call goes when an attempt to make an engine ends as `made`.  An attempt
is made just for a call that needs an engine while none is open. -/
structure Goes (o : Owner) (h : Host) (made : Except BlueprintFault Blueprint) (c : Call) :
    Prop where
  unneeded : ¬(c.Opens ∧ o.engine = none) →
    ∀ other, o.answerWith other h c.question = o.answerWith made h c.question
  failed : c.Opens → o.engine = none → ∀ fault, made = .error fault →
    o.answerWith made h c.question =
      (Outcome.reject (.engineFailed fault.message), o, h)
  refused : c.Opens → o.engine = none → ∀ b, made = .ok b →
    b.dialect ∉ Rejection.supportedDialects →
    o.answerWith made h c.question =
      (Outcome.reject (.unsupportedDialect b.dialect), o, (h.create b).2.dispose (h.create b).1)
  stored : c.Opens → o.engine = none → ∀ b, made = .ok b →
    b.dialect ∈ Rejection.supportedDialects →
    (o.answerWith made h c.question).2.1.engine = some (h.create b).1
  handed : ∀ e, (o.openWith made h).1 = .ok e →
    ((o.openWith made h).2.2.engineAt e).dialect ∈ Rejection.supportedDialects
  told : ∀ failure, (o.answerWith made h c.question).1 = .error failure → OfConnection failure

theorem goes_call
    (howns : Owns used o h) (made : Except BlueprintFault Blueprint) (c : Call) :
    Goes o h made c := by
  refine ⟨?_, ?_, ?_, ?_, ?_, ofConnection_answerWith o h made c.question⟩
  · intro hneedless other
    by_cases hc : c.Opens
    · -- An engine is open already, and no attempt is made.
      have hsome : o.engine ≠ none := fun hnone => hneedless ⟨hc, hnone⟩
      obtain ⟨engine, hengine⟩ := Option.ne_none_iff_exists'.mp hsome
      have hsame : o.openWith other h = o.openWith made h := by simp only [openWith, hengine]
      exact answerWith_congr hsame c.question
    · cases c with
      | close | leave => rfl
      | engine | dialect | isPostgres | test | enter => exact absurd ⟨nofun, nofun⟩ hc
  · rintro hc hnone fault rfl
    exact answerWith_of_error hc (by simp only [openWith, hnone]; rfl)
  · rintro hc hnone b rfl hdialect
    exact answerWith_of_error hc (by simp only [openWith, hnone, if_neg hdialect]; rfl)
  · rintro hc hnone b rfl hdialect
    rw [engine_answerWith hc]
    simp only [openWith, hnone, if_pos hdialect]
  · intro e he
    exact (howns.openWith made).supported e (engine_of_openWith o h made e he)

theorem owns_ofUrl
    (url : String) (script : Script) : Owns [] (ofUrl url) { script } := by
  refine ⟨?_, ?_⟩
  · intro e he
    cases he
  · rintro e ⟨_, hnone, _⟩
    cases hnone

theorem holdsOpen_ofUrl
    (url : String) (script : Script) : HoldsOpen (ofUrl url) { script } := by
  intro e he
  cases he

/-- After all calls, however they went, the engine that is open is the one that
the owner holds, if it holds one; its dialect is supported, and so the next call
goes. -/
theorem isOpen_iff_held
    (url : String) (script : Script)
    (calls : List (Except BlueprintFault Blueprint × Call)) :
    let o := ((ofUrl url).afterCalls { script } calls).1
    let h := ((ofUrl url).afterCalls { script } calls).2
    (∀ e, h.IsOpen e ↔ o.engine = some e) ∧
      (∀ e, o.engine = some e →
        (h.engineAt e).dialect ∈ Rejection.supportedDialects) ∧
      ∀ made c, Goes o h made c := by
  intro o h
  have howns : Owns [] o h :=
    afterCalls_preserves (P := Owns []) (fun _ _ made q howns => howns.answerWith made q)
      (owns_ofUrl url script) calls
  have hholds : HoldsOpen o h :=
    afterCalls_preserves (P := HoldsOpen) (fun _ _ made q hholds => hholds.answerWith made q)
      (holdsOpen_ofUrl url script) calls
  refine ⟨fun e => ⟨fun he => ?_, hholds e⟩, howns.supported, fun made c => goes_call howns made c⟩
  exact (howns.others e he).resolve_right List.not_mem_nil

/-- A driver that is missing, a dialect that is refused, a server that is down
when the block is entered, and a new engine after the block. -/
theorem isOpen_iff_held_reopened :
    let script : Script := { statements := [], connects := [some "down"] }
    let calls : List (Except BlueprintFault Blueprint × Call) :=
      [(.error (.missingModule "psycopg2"), .engine), (.ok ⟨"mysql", false⟩, .test),
        (.ok ⟨"sqlite", false⟩, .enter), (.ok ⟨"sqlite", false⟩, .leave),
        (.ok ⟨"postgresql", false⟩, .dialect)]
    let o := ((ofUrl "postgresql://host/db").afterCalls { script } calls).1
    let h := ((ofUrl "postgresql://host/db").afterCalls { script } calls).2
    h.engines.length = 3 ∧ o.engine = some 2 ∧ (∀ e, h.IsOpen e ↔ e = 2) ∧
      (h.engineAt 2).dialect ∈ Rejection.supportedDialects := by
  intro script calls o h
  obtain ⟨hopen, hdialect, _⟩ := isOpen_iff_held "postgresql://host/db" script calls
  have hheld : o.engine = some 2 := by rfl
  have hlength : h.engines.length = 3 := by rfl
  refine ⟨hlength, hheld, fun e => ?_, hdialect 2 hheld⟩
  rw [hopen e, hheld, Option.some.injEq]
  exact eq_comm

end Owner

end SqlBuilder
