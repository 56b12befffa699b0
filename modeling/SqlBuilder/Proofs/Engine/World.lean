import SqlBuilder.Engine.EngineAdapter
import SqlBuilder.Proofs.Engine.Owner

/-!
# Adapters over engines spare what is lent

One description for each operation of the adapter: what it does to the books
and to the events on the connections that are lent.
-/

namespace SqlBuilder.EngineWorld

variable {w w' w'' : EngineWorld} {leases : List Lease} {l : Lease}

/-- The books are right, and the adapter and its owner know engines there are. -/
structure Holds (w : EngineWorld) (leases : List Lease) : Prop where
  host : w.host.Holds leases
  engine : ∀ engine, w.engine = some engine → engine < w.host.engines.length
  owner : ∀ o, w.owner = some o → o.Known w.host

/-- The connections that are lent stay so, and nothing reaches them. -/
structure Spares (leases : List Lease) (w w' : EngineWorld) : Prop where
  holds : w'.Holds leases
  untouched : ∀ l ∈ leases, w'.host.eventsOn l.connection = w.host.eventsOn l.connection

/-- A transaction is opened on a connection that nobody had. -/
structure Starts (leases : List Lease) (l : Lease) (w w' : EngineWorld) : Prop where
  holds : w'.Holds (l :: leases)
  events : ∃ made, w'.host.events = w.host.events ++ (made ++ [Event.start l.connection]) ∧
    Host.Making l.connection made

/-- What ends a transaction, by what came out of the work in it. -/
def ending (c : Nat) : Option Failure → Event
  | none => .commit c
  | some _ => .rollback c

/-- A transaction is ended, and its connection given back. -/
structure Finishes (leases : List Lease) (l : Lease) (failure : Option Failure)
    (w w' : EngineWorld) : Prop where
  holds : w'.Holds leases
  events : ∃ closed,
    w'.host.events = w.host.events ++ ([ending l.connection failure] ++ closed) ∧
    w'.host.Leaving l.connection closed

theorem Spares.refl
    (hw : w.Holds leases) :
    Spares leases w w :=
  ⟨hw, fun _ _ => rfl⟩

theorem Spares.trans
    (hfirst : Spares leases w w') (hsecond : Spares leases w' w'') :
    Spares leases w w'' where
  holds := hsecond.holds
  untouched l hl := (hsecond.untouched l hl).trans (hfirst.untouched l hl)

theorem Holds.withHost
    {h : Host} (hw : w.Holds leases) (hspares : Host.Spares leases w.host h) :
    Spares leases w { w with host := h } where
  holds :=
    { host := hspares.holds
      engine := fun engine hengine =>
        Nat.lt_of_lt_of_le (hw.engine engine hengine) hspares.engines
      owner := fun o ho => (hw.owner o ho).mono hspares.engines }
  untouched := hspares.untouched

theorem connection_ending
    (c : Nat) (failure : Option Failure) :
    (ending c failure).connection = c := by
  cases failure <;> rfl

theorem Starts.own
    (hstarts : Starts leases l w w') :
    ∃ made, w'.host.events = w.host.events ++ (made ++ [Event.start l.connection]) ∧
      Host.Making l.connection made ∧
      ∀ e ∈ made ++ [Event.start l.connection], e.connection = l.connection := by
  obtain ⟨made, hevents, hmade⟩ := hstarts.events
  refine ⟨made, hevents, hmade, List.forall_mem_append.mpr ⟨hmade.connection, ?_⟩⟩
  simp [Event.connection]

theorem Starts.untouched
    (hstarts : Starts leases l w w') :
    ∀ k ∈ leases, w'.host.eventsOn k.connection = w.host.eventsOn k.connection := by
  obtain ⟨made, hevents, _, hown⟩ := hstarts.own
  exact Host.untouched_of_events hevents hown hstarts.holds.host.connection_not_mem

theorem Starts.eventsOn
    (hstarts : Starts leases l w w') :
    ∃ made, w'.host.eventsOn l.connection =
        w.host.eventsOn l.connection ++ (made ++ [Event.start l.connection]) ∧
      Host.Making l.connection made := by
  obtain ⟨made, hevents, hmade, hown⟩ := hstarts.own
  exact ⟨made, Host.eventsOn_of_all hevents hown, hmade⟩

theorem Finishes.own
    {failure : Option Failure} (hfinishes : Finishes leases l failure w w') :
    ∃ closed, w'.host.events = w.host.events ++ ([ending l.connection failure] ++ closed) ∧
      w'.host.Leaving l.connection closed ∧
      ∀ e ∈ [ending l.connection failure] ++ closed, e.connection = l.connection := by
  obtain ⟨closed, hevents, hclosed⟩ := hfinishes.events
  refine ⟨closed, hevents, hclosed, List.forall_mem_append.mpr ⟨?_, hclosed.connection⟩⟩
  simp [connection_ending]

theorem Finishes.untouched
    {failure : Option Failure} (hw : w.Holds (l :: leases))
    (hfinishes : Finishes leases l failure w w') :
    ∀ k ∈ leases, w'.host.eventsOn k.connection = w.host.eventsOn k.connection := by
  obtain ⟨closed, hevents, _, hown⟩ := hfinishes.own
  exact Host.untouched_of_events hevents hown hw.host.connection_not_mem

theorem Finishes.eventsOn
    {failure : Option Failure} (hfinishes : Finishes leases l failure w w') :
    ∃ closed, w'.host.eventsOn l.connection =
        w.host.eventsOn l.connection ++ ([ending l.connection failure] ++ closed) ∧
      w'.host.Leaving l.connection closed := by
  obtain ⟨closed, hevents, hclosed, hown⟩ := hfinishes.own
  exact ⟨closed, Host.eventsOn_of_all hevents hown, hclosed⟩

/-! ## The operations -/

theorem toEngine_spec
    (hw : w.Holds leases) :
    ∃ outcome w', w.toEngine = (outcome, w') ∧ Spares leases w w' ∧
      w'.host.events = w.host.events ∧ w'.host.script = w.host.script ∧
      ∀ engine, outcome = .ok engine → engine < w'.host.engines.length := by
  obtain ⟨owner, known, host⟩ := w
  unfold toEngine
  cases known with
  | some engine =>
      refine ⟨_, _, rfl, Spares.refl hw, rfl, rfl, ?_⟩
      rintro _ ⟨⟩
      exact hw.engine engine rfl
  | none =>
      cases owner with
      | none =>
          refine ⟨_, _, rfl, Spares.refl hw, rfl, rfl, ?_⟩
          rintro _ ⟨⟩
      | some o =>
          obtain ⟨outcome, o', h', hopened, hspares, hknown, hevents, hscript, hlt⟩ :=
            o.toEngine_spec hw.host (hw.owner o rfl)
          simp only [hopened]
          cases outcome with
          | error failure =>
              refine ⟨_, _, rfl, ⟨⟨hspares.holds, ?_, ?_⟩, hspares.untouched⟩, hevents,
                hscript, ?_⟩
              · rintro _ ⟨⟩
              · rintro _ ⟨⟩
                exact hknown
              · rintro _ ⟨⟩
          | ok engine =>
              refine ⟨_, _, rfl, ⟨⟨hspares.holds, ?_, ?_⟩, hspares.untouched⟩, hevents,
                hscript, ?_⟩
              · rintro _ ⟨⟩
                exact hlt engine rfl
              · rintro _ ⟨⟩
                exact hknown
              · exact hlt

theorem spares_send
    (hw : w.Holds leases) (sql : Value) (parameters : List Value) :
    Spares leases w (w.send sql parameters .root).2 := by
  obtain ⟨outcome, w₁, hasked, hspares, _, _, hlt⟩ := toEngine_spec hw
  unfold send
  rw [hasked]
  cases outcome with
  | error failure => exact hspares
  | ok engine =>
      have hborrows := Host.borrows_performAlone w₁.host engine sql parameters
      have hperformed := hborrows.spares hspares.holds.host (hlt engine rfl)
      exact hspares.trans (hspares.holds.withHost hperformed)

/-- A statement sent through a lease reaches its connection and no other. -/
theorem sends_send
    (w : EngineWorld) (l : Lease) (sql : Value) (parameters : List Value) :
    Host.Sends (Host.statementEvents l.connection sql parameters) w.host
      (w.send sql parameters (.lent l)).2.host :=
  Host.sends_perform w.host l sql parameters

theorem holds_send
    (hw : w.Holds leases) (l : Lease) (sql : Value) (parameters : List Value) :
    (w.send sql parameters (.lent l)).2.Holds leases := by
  have hsends := sends_send w l sql parameters
  refine ⟨hw.host.of_sends hsends, ?_, ?_⟩
  · intro engine hengine
    rw [hsends.engines]
    exact hw.engine engine hengine
  · intro o ho
    exact (hw.owner o ho).mono (Nat.le_of_eq (congrArg List.length hsends.engines.symm))

theorem spares_close
    (hw : w.Holds leases) :
    Spares leases w w.close := by
  obtain ⟨owner, known, host⟩ := w
  unfold close
  cases owner with
  | some o =>
      obtain ⟨hspares, hknown⟩ := o.spares_close hw.host (hw.owner o rfl)
      refine ⟨⟨hspares.holds, ?_, ?_⟩, hspares.untouched⟩
      · rintro _ ⟨⟩
      · rintro _ ⟨⟩
        exact hknown
  | none =>
      cases known with
      | none => exact Spares.refl hw
      | some engine =>
          exact hw.withHost (Host.spares_dispose hw.host (hw.engine engine rfl))

/-- A transaction can be opened if there is an engine, its pool is not used
up and a new connection, where one is needed, can be made. -/
theorem start_spec
    (hw : w.Holds leases) :
    (∃ failure w', w.start = (.error failure, w') ∧ Spares leases w w' ∧
      w'.host.events = w.host.events ∧
      (w.toEngine.1 = .error failure ∨
        failure = .exhausted ∧ Host.mostConnections ≤ leases.length ∨
        (Host.next w.host.script.connects).1 = some failure)) ∨
    ∃ l w', w.start = (.ok (.lent l), w') ∧ Starts leases l w w' := by
  obtain ⟨outcome, w₁, hasked, hspares, hevents, hscript, hlt⟩ := toEngine_spec hw
  unfold start
  rw [hasked]
  cases outcome with
  | error failure =>
      left
      exact ⟨failure, w₁, rfl, hspares, hevents, .inl rfl⟩
  | ok engine =>
      simp only
      rcases Host.acquire_spec hspares.holds.host (hlt engine rfl) with
        ⟨failure, h₂, hacquire, hkept, hsame, hreason⟩ | ⟨l, h₂, hacquire, hlends⟩
      · left
        rw [hacquire]
        refine ⟨failure, _, rfl, hspares.trans (hspares.holds.withHost hkept),
          hsame.trans hevents, .inr ?_⟩
        rw [← hscript]
        exact hreason
      · right
        rw [hacquire]
        have hstarted := Host.sends_start h₂ l
        refine ⟨l, _, rfl, ⟨hlends.holds.of_sends hstarted, ?_, ?_⟩, ?_⟩
        · intro engine hengine
          exact Nat.lt_of_lt_of_le (hspares.holds.engine engine hengine) hlends.engines
        · intro o ho
          exact (hspares.holds.owner o ho).mono hlends.engines
        · obtain ⟨made, hlent, hmade⟩ := hlends.events
          refine ⟨made, ?_, hmade⟩
          have hall := hstarted.events
          rw [hlent, hevents, List.append_assoc] at hall
          exact hall

theorem finish_spec
    (hw : w.Holds (l :: leases)) (failure : Option Failure) :
    Finishes leases l failure w (w.finish failure (.lent l)).2 := by
  have hended : ∃ h', (w.finish failure (.lent l)).2 = { w with host := h'.release l } ∧
      Host.Sends [ending l.connection failure] w.host h' := by
    cases failure with
    | none => exact ⟨_, rfl, Host.sends_commit w.host l⟩
    | some failure => exact ⟨_, rfl, Host.sends_rollback w.host l⟩
  obtain ⟨h', hfinish, hsends⟩ := hended
  rw [hfinish]
  have hregains := Host.regains_release (hw.host.of_sends hsends)
  have hengines : w.host.engines.length ≤ (h'.release l).engines.length := by
    rw [← hsends.engines]
    exact hregains.engines
  refine ⟨⟨hregains.holds, ?_, ?_⟩, ?_⟩
  · intro engine hengine
    exact Nat.lt_of_lt_of_le (hw.engine engine hengine) hengines
  · intro o ho
    exact (hw.owner o ho).mono hengines
  · obtain ⟨closed, hevents, hclosed⟩ := hregains.events
    rw [hsends.events, List.append_assoc] at hevents
    exact ⟨closed, hevents, hclosed⟩

end SqlBuilder.EngineWorld
