import SqlBuilder.Engine.Host

/-!
# What reaches a connection

Starting, sending and ending on a lease only add events of its connection to
the trace; engines and pools stay as they are.
-/

namespace SqlBuilder.Host

variable {h h' h'' : Host} {noted later : List Event}

/-- What reached connections, the oldest first. -/
def events (h : Host) : List Event :=
  h.trace.map (·.event)

/-- What reached one connection. -/
def eventsOn (h : Host) (c : Nat) : List Event :=
  h.events.filter (·.connection = c)

@[simp] theorem events_note
    (h : Host) (isLocal : Bool) (e : Event) :
    (h.note isLocal e).events = h.events ++ [e] := by
  simp [events, note]

theorem eventsOn_of_events
    (hevents : h'.events = h.events ++ noted) (c : Nat) :
    h'.eventsOn c = h.eventsOn c ++ noted.filter (·.connection = c) := by
  unfold eventsOn
  rw [hevents, List.filter_append]

theorem eventsOn_of_all
    {c : Nat} (hevents : h'.events = h.events ++ noted)
    (hall : ∀ e ∈ noted, e.connection = c) :
    h'.eventsOn c = h.eventsOn c ++ noted := by
  rw [eventsOn_of_events hevents, List.filter_eq_self.mpr]
  simpa using hall

theorem eventsOn_of_none
    {c : Nat} (hevents : h'.events = h.events ++ noted)
    (hnone : ∀ e ∈ noted, e.connection ≠ c) :
    h'.eventsOn c = h.eventsOn c := by
  rw [eventsOn_of_events hevents, List.filter_eq_nil_iff.mpr, List.append_nil]
  simpa using hnone

/-- Work that only adds events. -/
structure Sends (noted : List Event) (h h' : Host) : Prop where
  engines : h'.engines = h.engines
  pools : h'.pools = h.pools
  connections : h'.connections = h.connections
  events : h'.events = h.events ++ noted

theorem Sends.refl
    (h : Host) :
    Sends [] h h :=
  ⟨rfl, rfl, rfl, (List.append_nil _).symm⟩

theorem Sends.trans
    (hfirst : Sends noted h h') (hsecond : Sends later h' h'') :
    Sends (noted ++ later) h h'' where
  engines := hsecond.engines.trans hfirst.engines
  pools := hsecond.pools.trans hfirst.pools
  connections := hsecond.connections.trans hfirst.connections
  events := by rw [hsecond.events, hfirst.events, List.append_assoc]

theorem Sends.poolAt
    (hsends : Sends noted h h') (pool : Nat) :
    h'.poolAt pool = h.poolAt pool := by
  unfold Host.poolAt
  rw [hsends.pools]

theorem sends_note
    (h : Host) (isLocal : Bool) (e : Event) :
    Sends [e] h (h.note isLocal e) :=
  ⟨rfl, rfl, rfl, events_note h isLocal e⟩

theorem Sends.withScript
    (hsends : Sends noted h h') (script : Script) :
    Sends noted h { h' with script } :=
  ⟨hsends.engines, hsends.pools, hsends.connections, hsends.events⟩

theorem sends_start
    (h : Host) (l : Lease) :
    Sends [.start l.connection] h (h.start l) :=
  sends_note h l.isLocal (.start l.connection)

theorem sends_commit
    (h : Host) (l : Lease) :
    Sends [.commit l.connection] h (h.commit l).2 := by
  have hnoted := sends_note h l.isLocal (.commit l.connection)
  exact hnoted.withScript { h.script with commits := (next h.script.commits).2 }

theorem sends_rollback
    (h : Host) (l : Lease) :
    Sends [.rollback l.connection] h (h.rollback l).2 := by
  have hnoted := sends_note h l.isLocal (.rollback l.connection)
  exact hnoted.withScript { h.script with rollbacks := (next h.script.rollbacks).2 }

theorem sends_execute
    (h : Host) (l : Lease) (sql : Value) (arguments : Option (List (String × Value))) :
    Sends [.statement l.connection sql arguments] h (h.execute l sql arguments).2 := by
  have hnoted := sends_note h l.isLocal (.statement l.connection sql arguments)
  unfold execute
  by_cases hlocal : l.isLocal = true
  · rw [if_pos hlocal]
    exact hnoted
  · rw [if_neg hlocal]
    cases (h.note l.isLocal (.statement l.connection sql arguments)).script.statements with
    | nil => exact hnoted
    | cons reply statements => exact hnoted.withScript _

/-- What reaches a connection for a statement with its parameters: nothing if
they cannot be prepared. -/
def statementEvents (c : Nat) (sql : Value) (parameters : List Value) : List Event :=
  match prepared sql parameters with
  | .error _ => []
  | .ok (sql, arguments) => [.statement c sql arguments]

theorem connection_of_mem_statementEvents
    {c : Nat} {sql : Value} {parameters : List Value} {e : Event}
    (he : e ∈ statementEvents c sql parameters) :
    e.connection = c := by
  unfold statementEvents at he
  cases hprepared : prepared sql parameters with
  | error failure =>
      rw [hprepared] at he
      cases he
  | ok sent =>
      rw [hprepared] at he
      rw [List.mem_singleton.mp he]
      rfl

theorem sends_perform
    (h : Host) (l : Lease) (sql : Value) (parameters : List Value) :
    Sends (statementEvents l.connection sql parameters) h (h.perform l sql parameters).2 := by
  unfold perform statementEvents
  cases prepared sql parameters with
  | error failure => exact Sends.refl h
  | ok sent => exact sends_execute h l sent.1 sent.2

/-- Work on one connection. -/
def Serves (c : Nat) (h h' : Host) : Prop :=
  ∃ noted, Sends noted h h' ∧ ∀ e ∈ noted, e.connection = c

theorem Serves.trans
    {c : Nat} (hfirst : Serves c h h') (hsecond : Serves c h' h'') :
    Serves c h h'' := by
  obtain ⟨noted, hnoted, hown⟩ := hfirst
  obtain ⟨later, hlater, hownLater⟩ := hsecond
  refine ⟨noted ++ later, hnoted.trans hlater, ?_⟩
  intro e he
  exact (List.mem_append.mp he).elim (hown e) (hownLater e)

theorem serves_start
    (h : Host) (l : Lease) :
    Serves l.connection h (h.start l) :=
  ⟨_, sends_start h l, by simp [Event.connection]⟩

theorem serves_commit
    (h : Host) (l : Lease) :
    Serves l.connection h (h.commit l).2 :=
  ⟨_, sends_commit h l, by simp [Event.connection]⟩

theorem serves_rollback
    (h : Host) (l : Lease) :
    Serves l.connection h (h.rollback l).2 :=
  ⟨_, sends_rollback h l, by simp [Event.connection]⟩

theorem serves_execute
    (h : Host) (l : Lease) (sql : Value) (arguments : Option (List (String × Value))) :
    Serves l.connection h (h.execute l sql arguments).2 :=
  ⟨_, sends_execute h l sql arguments, by simp [Event.connection]⟩

theorem serves_perform
    (h : Host) (l : Lease) (sql : Value) (parameters : List Value) :
    Serves l.connection h (h.perform l sql parameters).2 :=
  ⟨_, sends_perform h l sql parameters, fun _ => connection_of_mem_statementEvents⟩

end SqlBuilder.Host
