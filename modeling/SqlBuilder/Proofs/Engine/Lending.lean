import SqlBuilder.Proofs.Engine.Pool

/-!
# Lending a connection and taking it back

Whatever an engine does without a lease spares the connections that are lent:
they stay lent and nothing reaches them.  A lease is made for a connection that
nobody has, and ends with the connection idle again or closed.
-/

namespace SqlBuilder.Host

variable {h h' h'' : Host} {leases : List Lease} {l : Lease} {engine : Nat} {noted : List Event}

/-- The connections that are lent stay so, and nothing reaches them. -/
structure Spares (leases : List Lease) (h h' : Host) : Prop where
  holds : h'.Holds leases
  engines : h.engines.length ≤ h'.engines.length
  untouched : ∀ l ∈ leases, h'.eventsOn l.connection = h.eventsOn l.connection

/-- A connection is made before it is lent, unless it was idle. -/
def Making (c : Nat) (made : List Event) : Prop :=
  made = [] ∨ made = [.connect c]

/-- A connection that is given back is closed, unless it is idle by then. -/
def Leaving (h : Host) (c : Nat) (closed : List Event) : Prop :=
  closed = [] ∧ c ∈ h.idle ∨ closed = [.close c]

theorem Making.connection
    {c : Nat} {made : List Event} (hmade : Making c made) :
    ∀ e ∈ made, e.connection = c := by
  rcases hmade with rfl | rfl <;> simp [Event.connection]

theorem Leaving.connection
    {c : Nat} {closed : List Event} (hclosed : Leaving h c closed) :
    ∀ e ∈ closed, e.connection = c := by
  rcases hclosed with ⟨rfl, _⟩ | rfl <;> simp [Event.connection]

/-- A connection that nobody had is lent. -/
structure Lends (leases : List Lease) (l : Lease) (h h' : Host) : Prop where
  holds : h'.Holds (l :: leases)
  engines : h.engines.length ≤ h'.engines.length
  events : ∃ made, h'.events = h.events ++ made ∧ Making l.connection made

/-- A connection that was lent is given back. -/
structure Regains (leases : List Lease) (l : Lease) (h h' : Host) : Prop where
  holds : h'.Holds leases
  engines : h.engines.length ≤ h'.engines.length
  events : ∃ closed, h'.events = h.events ++ closed ∧ Leaving h' l.connection closed

theorem Spares.refl
    (hh : h.Holds leases) :
    Spares leases h h :=
  ⟨hh, Nat.le_refl _, fun _ _ => rfl⟩

theorem Spares.trans
    (hfirst : Spares leases h h') (hsecond : Spares leases h' h'') :
    Spares leases h h'' where
  holds := hsecond.holds
  engines := Nat.le_trans hfirst.engines hsecond.engines
  untouched l hl := (hsecond.untouched l hl).trans (hfirst.untouched l hl)

theorem untouched_of_events
    (hevents : h'.events = h.events ++ noted) (hown : ∀ e ∈ noted, e.connection = l.connection)
    (hl : l.connection ∉ leases.map (·.connection)) :
    ∀ k ∈ leases, h'.eventsOn k.connection = h.eventsOn k.connection := by
  intro k hk
  apply eventsOn_of_none hevents
  intro e he hek
  apply hl
  rw [← hown e he, hek]
  exact List.mem_map_of_mem hk

theorem Lends.untouched
    (hlends : Lends leases l h h') :
    ∀ k ∈ leases, h'.eventsOn k.connection = h.eventsOn k.connection := by
  obtain ⟨made, hevents, hmade⟩ := hlends.events
  exact untouched_of_events hevents hmade.connection hlends.holds.connection_not_mem

theorem Regains.untouched
    (hregains : Regains leases l h h') (hl : l.connection ∉ leases.map (·.connection)) :
    ∀ k ∈ leases, h'.eventsOn k.connection = h.eventsOn k.connection := by
  obtain ⟨closed, hevents, hclosed⟩ := hregains.events
  exact untouched_of_events hevents hclosed.connection hl

/-! ## Engines -/

theorem engineAt_mem
    (hengine : engine < h.engines.length) :
    h.engineAt engine ∈ h.engines := by
  unfold engineAt
  rw [List.getElem?_eq_getElem hengine, Option.getD_some]
  exact List.getElem_mem hengine

theorem Holds.pool_lt_of_engine
    (hh : h.Holds leases) (hengine : engine < h.engines.length) :
    (h.engineAt engine).pool < h.pools.length :=
  hh.inUse _ (engineAt_mem hengine)

theorem Holds.setEngine
    (hh : h.Holds leases) (engine : Nat) {e : Engine} (he : e.pool < h.pools.length) :
    Holds { h with engines := h.engines.set engine e } leases := by
  refine ⟨?_, hh.counted, hh.apart, hh.known⟩
  intro e' he'
  rcases List.mem_or_eq_of_mem_set he' with he' | rfl
  · exact hh.inUse e' he'
  · exact he

theorem Holds.addPool
    (hh : h.Holds leases) :
    Holds { h with pools := h.pools ++ [{}] } leases := by
  have hpoolAt : ∀ pool,
      poolAt { h with pools := h.pools ++ [{}] } pool = h.poolAt pool := by
    intro pool
    simp only [poolAt, List.getElem?_append]
    by_cases hpool : pool < h.pools.length
    · rw [if_pos hpool]
    · rw [if_neg hpool, List.getElem?_eq_none (Nat.le_of_not_lt hpool)]
      cases pool - h.pools.length <;> rfl
  have hidle : idle { h with pools := h.pools ++ [{}] } = h.idle := by
    simp [idle]
  constructor
  · intro e he
    have hpool := hh.inUse e he
    simp only [List.length_append]
    omega
  · intro pool
    rw [hpoolAt]
    exact hh.counted pool
  · unfold held
    rw [hidle]
    exact hh.apart
  · unfold held
    rw [hidle]
    exact hh.known

theorem spares_create
    (hh : h.Holds leases) (b : Blueprint) :
    Spares leases h (h.create b).2 := by
  have hadded := hh.addPool
  refine ⟨⟨?_, hadded.counted, hadded.apart, hadded.known⟩, ?_, fun l _ => rfl⟩
  · intro e he
    have hlength : (h.create b).2.pools.length = h.pools.length + 1 := by
      simp [create]
    rcases List.mem_append.mp he with he | he
    · exact lt_of_lt_of_eq (Nat.lt_succ_of_lt (hh.inUse e he)) hlength.symm
    · rw [List.mem_singleton.mp he, hlength]
      exact Nat.lt_succ_self _
  · simp [create]

theorem create_lt
    (h : Host) (b : Blueprint) :
    (h.create b).1 < (h.create b).2.engines.length := by
  simp [create]

theorem sends_closeAll
    (isLocal : Bool) (cs : List Nat) :
    ∀ h : Host, Sends (cs.map .close) h (closeAll isLocal h cs) := by
  induction cs with
  | nil => exact Sends.refl
  | cons c cs ih =>
      intro h
      exact (sends_note h isLocal (.close c)).trans (ih (h.note isLocal (.close c)))

theorem events_dispose
    (h : Host) (engine : Nat) :
    (h.dispose engine).events =
      h.events ++ (h.poolAt (h.engineAt engine).pool).idle.map .close :=
  (sends_closeAll (h.engineAt engine).isLocal _ h).events

theorem spares_dispose
    (hh : h.Holds leases) (hengine : engine < h.engines.length) :
    Spares leases h (h.dispose engine) := by
  have hpool := hh.pool_lt_of_engine hengine
  have hclosed := sends_closeAll (h.engineAt engine).isLocal
    (h.poolAt (h.engineAt engine).pool).idle h
  refine ⟨?_, ?_, ?_⟩
  · have hemptied := (hh.of_sends hclosed).emptied (hclosed.pools ▸ hpool)
    rw [hclosed.poolAt] at hemptied
    exact hemptied.addPool.setEngine engine (by simp)
  · have hlength : (h.dispose engine).engines.length = h.engines.length := by
      unfold dispose
      rw [List.length_set]
      exact congrArg List.length hclosed.engines
    exact Nat.le_of_eq hlength.symm
  · intro l hl
    apply eventsOn_of_none (events_dispose h engine)
    intro e he
    obtain ⟨c, hc, rfl⟩ := List.mem_map.mp he
    exact (hh.not_lent_of_idle (mem_idle_of_poolAt _ hc) hl).symm

theorem events_dispose_create
    (h : Host) (b : Blueprint) :
    ((h.create b).2.dispose (h.create b).1).events = h.events := by
  rw [events_dispose]
  simp [create, engineAt, poolAt, events]

theorem script_closeAll
    (isLocal : Bool) (cs : List Nat) :
    ∀ h : Host, (closeAll isLocal h cs).script = h.script := by
  induction cs with
  | nil =>
      intro h
      rfl
  | cons c cs ih =>
      intro h
      exact ih (h.note isLocal (.close c))

theorem script_dispose
    (h : Host) (engine : Nat) :
    (h.dispose engine).script = h.script :=
  script_closeAll _ _ h

/-! ## Leases -/

theorem connect_spec
    (hh : h.Holds leases) {pool : Nat} (hpool : pool < h.pools.length) (isLocal : Bool) :
    (∃ failure h', h.connect pool isLocal = (.error failure, h') ∧ Spares leases h h' ∧
      h'.events = h.events ∧ (next h.script.connects).1 = some failure) ∨
    ∃ l h', h.connect pool isLocal = (.ok l, h') ∧ Lends leases l h h' := by
  unfold connect
  cases hnext : next h.script.connects with
  | mk failure connects =>
      cases failure with
      | some failure =>
          left
          refine ⟨_, _, rfl, ⟨?_, Nat.le_refl _, fun _ _ => rfl⟩, rfl, rfl⟩
          exact hh.congr rfl rfl rfl
      | none =>
          right
          have hconnected := hh.connected hpool
            (p := { h.poolAt pool with made := (h.poolAt pool).made + 1 }) rfl rfl isLocal
          refine ⟨_, _, rfl, ?_, Nat.le_refl _, _, events_note _ _ _, .inr rfl⟩
          exact hconnected.congr rfl rfl rfl

/-- A connection is lent unless the pool is used up or a new one cannot be
made. -/
theorem acquire_spec
    (hh : h.Holds leases) (hengine : engine < h.engines.length) :
    (∃ failure h', h.acquire engine = (.error failure, h') ∧ Spares leases h h' ∧
      h'.events = h.events ∧
      (failure = .exhausted ∧ mostConnections ≤ leases.length ∨
        (next h.script.connects).1 = some failure)) ∨
    ∃ l h', h.acquire engine = (.ok l, h') ∧ Lends leases l h h' := by
  have hpool := hh.pool_lt_of_engine hengine
  have hset := hh.setEngine engine (e := { h.engineAt engine with isDisposed := false }) hpool
  have hlength : h.engines.length ≤
      (h.engines.set engine { h.engineAt engine with isDisposed := false }).length :=
    Nat.le_of_eq List.length_set.symm
  have hsame : Spares leases h
      { h with engines := h.engines.set engine { h.engineAt engine with isDisposed := false } } :=
    ⟨hset, hlength, fun _ _ => rfl⟩
  unfold acquire
  simp only
  cases hidle : (h.poolAt (h.engineAt engine).pool).idle with
  | cons c idle =>
      right
      exact ⟨_, _, rfl, hset.lend hpool hidle _, hlength, [], (List.append_nil _).symm, .inl rfl⟩
  | nil =>
      simp only
      by_cases hfull : mostConnections ≤ (h.poolAt (h.engineAt engine).pool).made
      · left
        rw [if_pos hfull]
        -- Nothing is idle, so all connections that the pool counts are lent.
        have hcounted := hh.counted (h.engineAt engine).pool
        rw [hidle, List.length_nil, Nat.zero_add] at hcounted
        have hlent := leases.countP_le_length (p := (·.pool = (h.engineAt engine).pool))
        refine ⟨_, _, rfl, hsame, rfl, .inl ⟨rfl, ?_⟩⟩
        omega
      · rw [if_neg hfull]
        rcases connect_spec hset hpool (h.engineAt engine).isLocal with
          ⟨failure, h', hconnect, hspares, hevents, hnext⟩ | ⟨l, h', hconnect, hlends⟩
        · left
          exact ⟨failure, h', hconnect, hsame.trans hspares, hevents, .inr hnext⟩
        · right
          exact ⟨l, h', hconnect, hlends.holds, Nat.le_trans hlength hlends.engines,
            hlends.events⟩

theorem regains_release
    (hh : h.Holds (l :: leases)) :
    Regains leases l h (h.release l) := by
  unfold release
  by_cases hroom : (h.poolAt l.pool).idle.length < mostIdle
  · simp only [if_pos hroom]
    refine ⟨hh.keep, Nat.le_refl _, [], (List.append_nil _).symm, .inl ⟨rfl, ?_⟩⟩
    have hpool := hh.pool_lt (List.mem_cons_self ..)
    apply mem_idle_of_poolAt l.pool
    rw [poolAt_setPool hpool, if_pos rfl]
    exact List.mem_append_right _ (List.mem_singleton.mpr rfl)
  · simp only [if_neg hroom]
    refine ⟨?_, Nat.le_refl _, _, events_note _ _ _, .inr rfl⟩
    exact hh.drop.congr rfl rfl rfl

/-- Work on a lease made for it spares those that were there before. -/
theorem Lends.spares_release
    (hlends : Lends leases l h h') (hserves : Serves l.connection h' h'') :
    Spares leases h (h''.release l) := by
  obtain ⟨noted, hsends, hown⟩ := hserves
  have hnew := hlends.holds.connection_not_mem
  have hregains := regains_release (hlends.holds.of_sends hsends)
  refine ⟨hregains.holds, ?_, ?_⟩
  · have hengines := hregains.engines
    rw [hsends.engines] at hengines
    exact Nat.le_trans hlends.engines hengines
  · intro k hk
    rw [hregains.untouched hnew k hk, untouched_of_events hsends.events hown hnew k hk,
      hlends.untouched k hk]

/-- A connection of an engine is lent for some work and given back, unless there is none. -/
inductive Borrows (engine : Nat) (h : Host) : Host → Prop
  | refused {failure : Failure} {h₁ : Host} (hacquire : h.acquire engine = (.error failure, h₁)) :
      Borrows engine h h₁
  | lent {l : Lease} {h₁ worked : Host} (hacquire : h.acquire engine = (.ok l, h₁))
      (hserves : Serves l.connection h₁ worked) : Borrows engine h (worked.release l)

/-- A statement in a transaction of its own is all that is done on its connection. -/
theorem borrows_performAlone
    (h : Host) (engine : Nat) (sql : Value) (parameters : List Value) :
    Borrows engine h (h.performAlone engine sql parameters).2 := by
  unfold performAlone
  rcases hacquire : h.acquire engine with ⟨failure | l, h₁⟩
  · exact .refused hacquire
  · have hperformed := (serves_start h₁ l).trans (serves_perform (h₁.start l) l sql parameters)
    simp only
    rcases hperform : (h₁.start l).perform l sql parameters with ⟨failure | result, performed⟩
    · rw [hperform] at hperformed
      exact .lent hacquire (hperformed.trans (serves_rollback performed l))
    · rw [hperform] at hperformed
      have hended := hperformed.trans (serves_commit performed l)
      simp only
      rcases hcommit : performed.commit l with ⟨_ | failure, committed⟩
      · rw [hcommit] at hended
        exact .lent hacquire hended
      · rw [hcommit] at hended
        exact .lent hacquire (hended.trans (serves_rollback committed l))

theorem Borrows.spares
    (hborrows : Borrows engine h h') (hh : h.Holds leases) (hengine : engine < h.engines.length) :
    Spares leases h h' := by
  cases hborrows with
  | refused hacquire =>
      rcases acquire_spec hh hengine with ⟨_, _, hrefused, hspares, _⟩ | ⟨_, _, hlent, _⟩
      · cases hacquire.symm.trans hrefused
        exact hspares
      · cases hacquire.symm.trans hlent
  | lent hacquire hserves =>
      rcases acquire_spec hh hengine with ⟨_, _, hrefused, _⟩ | ⟨_, _, hlent, hlends⟩
      · cases hacquire.symm.trans hrefused
      · cases hacquire.symm.trans hlent
        exact hlends.spares_release hserves

end SqlBuilder.Host
