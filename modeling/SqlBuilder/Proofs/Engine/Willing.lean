import SqlBuilder.Proofs.Engine.World

/-!
# Drivers that never fail

Over a driver that never fails, and with an engine to be had, every operation
of an adapter succeeds while its pool has room.  The driver is then told what
the operation is for and nothing else.
-/

namespace SqlBuilder

/-- What a driver is told, on whichever connection. -/
inductive Command
  | start
  | statement (sql : Value) (arguments : Option (List (String × Value)))
  | commit
  | rollback

/-- The command of an event.  Connections come and go without one. -/
def Event.command? : Event → Option Command
  | .start _ => some .start
  | .statement _ sql arguments => some (.statement sql arguments)
  | .commit _ => some .commit
  | .rollback _ => some .rollback
  | .connect _ | .close _ => none

/-- Whether no failure of a driver is to come. -/
structure Script.IsWilling (s : Script) : Prop where
  statements : ∀ reply ∈ s.statements, ∀ message, reply ≠ .fail message
  connects : ∀ failure ∈ s.connects, failure = none
  commits : ∀ failure ∈ s.commits, failure = none
  rollbacks : ∀ failure ∈ s.rollbacks, failure = none

theorem Script.isWilling_of_statements
    {statements : List DriverReply}
    (hstatements : ∀ reply ∈ statements, ∀ message, reply ≠ .fail message) :
    Script.IsWilling { statements } :=
  ⟨hstatements, List.forall_mem_nil _, List.forall_mem_nil _, List.forall_mem_nil _⟩

namespace Host

variable {h h' h'' : Host} {leases : List Lease} {l : Lease} {engine : Nat}
  {noted : List Event} {told later : List Command}

/-- What drivers were told, the oldest first. -/
def commands (h : Host) : List Command :=
  h.events.filterMap Event.command?

/-- Work that willing drivers get through, and what they are told in it. -/
structure Tells (told : List Command) (h h' : Host) : Prop where
  willing : h'.script.IsWilling
  commands : h'.commands = h.commands ++ told

theorem Tells.refl
    (hh : h.script.IsWilling) :
    Tells [] h h :=
  ⟨hh, (List.append_nil _).symm⟩

theorem Tells.trans
    (hfirst : Tells told h h') (hsecond : Tells later h' h'') :
    Tells (told ++ later) h h'' where
  willing := hsecond.willing
  commands := by rw [hsecond.commands, hfirst.commands, List.append_assoc]

theorem tells_of_events
    (hevents : h'.events = h.events ++ noted) (hscript : h'.script.IsWilling) :
    Tells (noted.filterMap Event.command?) h h' := by
  refine ⟨hscript, ?_⟩
  unfold commands
  rw [hevents, List.filterMap_append]

theorem next_willing
    {failures : List (Option String)} (hfailures : ∀ failure ∈ failures, failure = none) :
    (next failures).1 = none ∧ ∀ failure ∈ (next failures).2, failure = none := by
  cases failures with
  | nil => exact ⟨rfl, hfailures⟩
  | cons failure rest =>
      obtain ⟨rfl, hrest⟩ := List.forall_mem_cons.mp hfailures
      exact ⟨rfl, hrest⟩

theorem tells_start
    (hh : h.script.IsWilling) (l : Lease) :
    Tells [.start] h (h.start l) :=
  tells_of_events (sends_start h l).events hh

theorem commit_willing
    (hh : h.script.IsWilling) (l : Lease) :
    ∃ h', h.commit l = (none, h') ∧ Tells [.commit] h h' := by
  obtain ⟨hnone, hrest⟩ := next_willing hh.commits
  refine ⟨_, Prod.ext hnone rfl, ?_⟩
  exact tells_of_events (sends_commit h l).events
    ⟨hh.statements, hh.connects, hrest, hh.rollbacks⟩

theorem rollback_willing
    (hh : h.script.IsWilling) (l : Lease) :
    ∃ h', h.rollback l = (none, h') ∧ Tells [.rollback] h h' := by
  obtain ⟨hnone, hrest⟩ := next_willing hh.rollbacks
  refine ⟨_, Prod.ext hnone rfl, ?_⟩
  exact tells_of_events (sends_rollback h l).events
    ⟨hh.statements, hh.connects, hh.commits, hrest⟩

theorem result_willing
    {reply : DriverReply} (hreply : ∀ message, reply ≠ .fail message) :
    ∃ answer, result reply = .ok answer := by
  cases reply with
  | rows columns rows => exact ⟨_, rfl⟩
  | count n => exact ⟨_, rfl⟩
  | fail message => exact absurd rfl (hreply message)

theorem execute_willing
    (hh : h.script.IsWilling) (l : Lease) (sql : Value)
    (arguments : Option (List (String × Value))) :
    ∃ result h', h.execute l sql arguments = (.ok result, h') ∧
      Tells [.statement sql arguments] h h' := by
  have hevents := (sends_execute h l sql arguments).events
  have hanswered : ∃ result h', h.execute l sql arguments = (.ok result, h') ∧
      h'.script.IsWilling := by
    unfold execute
    simp only
    split
    next => exact ⟨_, _, rfl, hh⟩
    next =>
      split
      next => exact ⟨_, _, rfl, hh⟩
      next reply statements hstatements =>
        obtain ⟨hreply, hrest⟩ := List.forall_mem_cons.mp (hstatements ▸ hh.statements)
        obtain ⟨answer, hanswer⟩ := result_willing hreply
        refine ⟨answer, _, Prod.ext hanswer rfl, ?_⟩
        exact ⟨hrest, hh.connects, hh.commits, hh.rollbacks⟩
  obtain ⟨result, h', hexecute, hscript⟩ := hanswered
  rw [hexecute] at hevents
  exact ⟨result, h', hexecute, tells_of_events hevents hscript⟩

theorem perform_willing
    (hh : h.script.IsWilling) (l : Lease) {sql : Value} {parameters : List Value}
    {sent : Value × Option (List (String × Value))} (hsent : prepared sql parameters = .ok sent) :
    ∃ result h', h.perform l sql parameters = (.ok result, h') ∧
      Tells [.statement sent.1 sent.2] h h' := by
  unfold perform
  rw [hsent]
  exact execute_willing hh l sent.1 sent.2

theorem willing_connect
    (hh : h.script.IsWilling) (pool : Nat) (isLocal : Bool) :
    (h.connect pool isLocal).2.script.IsWilling := by
  obtain ⟨hnone, hrest⟩ := next_willing hh.connects
  unfold connect
  split
  next hnext =>
    rw [hnext] at hnone
    cases hnone
  next hnext =>
    rw [hnext] at hrest
    exact ⟨hh.statements, hrest, hh.commits, hh.rollbacks⟩

theorem willing_acquire
    (hh : h.script.IsWilling) (engine : Nat) :
    (h.acquire engine).2.script.IsWilling := by
  unfold acquire
  simp only
  split
  next => exact hh
  next =>
    split
    next => exact hh
    next => exact willing_connect (by exact hh) _ _

theorem acquire_willing
    (hh : h.script.IsWilling) (hholds : h.Holds leases) (hengine : engine < h.engines.length)
    (hroom : leases.length < mostConnections) :
    ∃ l h', h.acquire engine = (.ok l, h') ∧ Lends leases l h h' ∧ Tells [] h h' := by
  have hscript := willing_acquire hh engine
  rcases acquire_spec hholds hengine with
    ⟨failure, h', _, _, _, ⟨_, hfull⟩ | hfailed⟩ | ⟨l, h', hacquire, hlends⟩
  · exact absurd hroom (Nat.not_lt.mpr hfull)
  · rw [(next_willing hh.connects).1] at hfailed
    cases hfailed
  · rw [hacquire] at hscript
    obtain ⟨made, hevents, hmade⟩ := hlends.events
    have htold := tells_of_events hevents hscript
    refine ⟨l, h', hacquire, hlends, ?_⟩
    rcases hmade with rfl | rfl <;> exact htold

theorem tells_release
    (hh : h.script.IsWilling) (l : Lease) :
    Tells [] h (h.release l) := by
  unfold release
  simp only
  split
  next => exact ⟨hh, (List.append_nil _).symm⟩
  next =>
    have hclosed := events_note
      (h.setPool l.pool { h.poolAt l.pool with made := (h.poolAt l.pool).made - 1 })
      l.isLocal (.close l.connection)
    have htold := tells_of_events hclosed hh
    exact ⟨htold.willing, htold.commands⟩

theorem filterMap_command_close
    (cs : List Nat) : (cs.map Event.close).filterMap Event.command? = [] := by
  rw [List.filterMap_map]
  exact List.filterMap_none cs

theorem tells_dispose
    (hh : h.script.IsWilling) (engine : Nat) :
    Tells [] h (h.dispose engine) := by
  have htold := tells_of_events (events_dispose h engine) (script_dispose h engine ▸ hh)
  rwa [filterMap_command_close] at htold

theorem performAlone_willing
    (hh : h.script.IsWilling) (hholds : h.Holds leases) (hengine : engine < h.engines.length)
    (hroom : leases.length < mostConnections) {sql : Value} {parameters : List Value}
    {sent : Value × Option (List (String × Value))} (hsent : prepared sql parameters = .ok sent) :
    ∃ result h', h.performAlone engine sql parameters = (.ok result, h') ∧
      Tells [.start, .statement sent.1 sent.2, .commit] h h' := by
  obtain ⟨l, h₁, hacquire, _, hmade⟩ := acquire_willing hh hholds hengine hroom
  have hstarted := tells_start hmade.willing l
  obtain ⟨result, h₂, hperform, hperformed⟩ := perform_willing hstarted.willing l hsent
  obtain ⟨h₃, hcommit, hcommitted⟩ := commit_willing hperformed.willing l
  have hreleased := tells_release hcommitted.willing l
  unfold performAlone
  simp only [hacquire, hperform, hcommit]
  exact ⟨_, _, rfl, (((hmade.trans hstarted).trans hperformed).trans hcommitted).trans hreleased⟩

/-- What ends a transaction, by what came out of the work in it. -/
def ending : Option Failure → Command
  | none => .commit
  | some _ => .rollback

theorem finish_willing
    (hh : h.script.IsWilling) (l : Lease) (failure : Option Failure) :
    ∃ h', h.finish l failure = (failure, h') ∧ Tells [ending failure] h h' := by
  cases failure with
  | none =>
      obtain ⟨h₁, hcommit, hcommitted⟩ := commit_willing hh l
      unfold finish
      simp only [hcommit]
      exact ⟨_, rfl, hcommitted.trans (tells_release hcommitted.willing l)⟩
  | some failure =>
      obtain ⟨h₁, hrollback, hended⟩ := rollback_willing hh l
      unfold finish
      simp only [hrollback]
      exact ⟨_, rfl, hended.trans (tells_release hended.willing l)⟩

end Host

/-- Whether an engine can be had for the URL of an owner. -/
def Owner.IsSupplied (o : Owner) : Prop :=
  ∃ b, Blueprint.ofUrl o.url = .ok b ∧ b.dialect ∈ Rejection.supportedDialects

theorem Owner.IsSupplied.toEngine
    {o : Owner} (ho : o.IsSupplied) (h : Host) :
    ∃ engine o' h', o.toEngine h = (.ok engine, o', h') ∧ o'.url = o.url := by
  obtain ⟨b, hmade, hdialect⟩ := ho
  unfold Owner.toEngine Owner.openWith
  cases o.engine with
  | some engine => exact ⟨_, _, _, rfl, rfl⟩
  | none =>
      simp only [hmade, if_pos hdialect]
      exact ⟨_, _, _, rfl, rfl⟩

theorem Owner.IsSupplied.congr
    {o o' : Owner} (ho : o.IsSupplied) (hurl : o'.url = o.url) :
    o'.IsSupplied := by
  unfold IsSupplied
  rwa [hurl]

theorem Owner.url_close
    (o : Owner) (h : Host) :
    (o.close h).1.url = o.url := by
  unfold close
  cases o.engine <;> rfl

theorem Owner.tells_close
    (o : Owner) {h : Host} (hh : h.script.IsWilling) :
    Host.Tells [] h (o.close h).2 := by
  unfold close
  cases o.engine with
  | none => exact Host.Tells.refl hh
  | some engine => exact Host.tells_dispose hh engine

namespace EngineWorld

variable {w w' : EngineWorld} {leases : List Lease} {told : List Command}

/-- An adapter over willing drivers that can come by its engine. -/
structure IsWilling (w : EngineWorld) : Prop where
  script : w.host.script.IsWilling
  owner : ∀ o, w.owner = some o → o.IsSupplied
  engine : w.owner = none → w.engine ≠ none

theorem isWilling_ofOwner
    {o : Owner} (ho : o.IsSupplied) {script : Script} (hscript : script.IsWilling) :
    (ofOwner o script).IsWilling := by
  refine ⟨hscript, ?_, ?_⟩
  · rintro _ ⟨⟩
    exact ho
  · rintro ⟨⟩

theorem isWilling_ofBlueprint
    (b : Blueprint) {script : Script} (hscript : script.IsWilling) :
    (ofBlueprint b script).IsWilling := by
  refine ⟨hscript, ?_, ?_⟩
  · rintro _ ⟨⟩
  · rintro _ ⟨⟩

/-- Work that a willing adapter gets through, and what drivers are told in it. -/
structure Tells (told : List Command) (w w' : EngineWorld) : Prop where
  willing : w'.IsWilling
  commands : w'.host.commands = w.host.commands ++ told

theorem Tells.trans
    {later : List Command} {w'' : EngineWorld} (hfirst : Tells told w w')
    (hsecond : Tells later w' w'') :
    Tells (told ++ later) w w'' where
  willing := hsecond.willing
  commands := by rw [hsecond.commands, hfirst.commands, List.append_assoc]

theorem IsWilling.withHost
    {h : Host} (hw : w.IsWilling) (htold : Host.Tells told w.host h) :
    Tells told w { w with host := h } :=
  ⟨⟨htold.willing, hw.owner, hw.engine⟩, htold.commands⟩

theorem IsWilling.toEngine
    (hw : w.IsWilling) :
    ∃ engine w', w.toEngine = (.ok engine, w') ∧ w'.engine = some engine ∧
      ∀ o, w'.owner = some o → o.IsSupplied := by
  obtain ⟨owner, known, host⟩ := w
  unfold EngineWorld.toEngine
  cases known with
  | some engine => exact ⟨engine, _, rfl, rfl, hw.owner⟩
  | none =>
      cases owner with
      | none => exact absurd rfl (hw.engine rfl)
      | some o =>
          have ho : o.IsSupplied := hw.owner o rfl
          obtain ⟨engine, o', h', hopened, hurl⟩ := ho.toEngine host
          simp only [hopened]
          refine ⟨engine, _, rfl, rfl, ?_⟩
          rintro _ ⟨⟩
          exact ho.congr hurl

theorem toEngine_willing
    (hw : w.IsWilling) (hholds : w.Holds leases) :
    ∃ engine w', w.toEngine = (.ok engine, w') ∧ w'.Holds leases ∧
      engine < w'.host.engines.length ∧ Tells [] w w' := by
  obtain ⟨engine, w', hasked, hengine, hsupplied⟩ := hw.toEngine
  obtain ⟨_, _, hasked', hspares, hevents, hscript, hlt⟩ := toEngine_spec hholds
  cases hasked.symm.trans hasked'
  refine ⟨engine, w', hasked, hspares.holds, hlt engine rfl,
    ⟨hscript ▸ hw.script, hsupplied, ?_⟩, ?_⟩
  · intro _ hnone
    rw [hengine] at hnone
    cases hnone
  · unfold Host.commands
    rw [hevents, List.append_nil]

/-- A statement through the outer handle has a transaction of its own. -/
theorem send_root_willing
    (hw : w.IsWilling) (hholds : w.Holds leases) (hroom : leases.length < Host.mostConnections)
    {sql : Value} {parameters : List Value} {sent : Value × Option (List (String × Value))}
    (hsent : Host.prepared sql parameters = .ok sent) :
    ∃ result w', w.send sql parameters .root = (.ok result, w') ∧
      Tells [.start, .statement sent.1 sent.2, .commit] w w' := by
  obtain ⟨engine, w₁, hasked, hheld, hengine, hgiven⟩ := toEngine_willing hw hholds
  obtain ⟨result, h₂, hperformed, htold⟩ :=
    Host.performAlone_willing hgiven.willing.script hheld.host hengine hroom hsent
  unfold send
  simp only [hasked, hperformed]
  exact ⟨result, _, rfl, hgiven.trans (hgiven.willing.withHost htold)⟩

theorem send_lent_willing
    (hw : w.IsWilling) (l : Lease) {sql : Value} {parameters : List Value}
    {sent : Value × Option (List (String × Value))}
    (hsent : Host.prepared sql parameters = .ok sent) :
    ∃ result w', w.send sql parameters (.lent l) = (.ok result, w') ∧
      Tells [.statement sent.1 sent.2] w w' := by
  obtain ⟨result, h', hperformed, htold⟩ := Host.perform_willing hw.script l hsent
  unfold send
  simp only [hperformed]
  exact ⟨result, _, rfl, hw.withHost htold⟩

theorem start_willing
    (hw : w.IsWilling) (hholds : w.Holds leases)
    (hroom : leases.length < Host.mostConnections) :
    ∃ l w', w.start = (.ok (.lent l), w') ∧ Tells [.start] w w' := by
  obtain ⟨engine, w₁, hasked, hheld, hengine, hgiven⟩ := toEngine_willing hw hholds
  obtain ⟨l, h₂, hacquire, _, hmade⟩ :=
    Host.acquire_willing hgiven.willing.script hheld.host hengine hroom
  have hstarted := hmade.trans (Host.tells_start hmade.willing l)
  unfold start
  simp only [hasked, hacquire]
  exact ⟨l, _, rfl, hgiven.trans (hgiven.willing.withHost hstarted)⟩

theorem finish_willing
    (hw : w.IsWilling) (l : Lease) (failure : Option Failure) :
    ∃ w', w.finish failure (.lent l) = (failure, w') ∧ Tells [Host.ending failure] w w' := by
  obtain ⟨h', hfinish, htold⟩ := Host.finish_willing hw.script l failure
  unfold finish
  simp only [hfinish]
  exact ⟨_, rfl, hw.withHost htold⟩

theorem close_willing
    (hw : w.IsWilling) :
    Tells [] w w.close := by
  obtain ⟨owner, known, host⟩ := w
  unfold close
  cases owner with
  | some o =>
      have ho : o.IsSupplied := hw.owner o rfl
      have htold := o.tells_close hw.script
      refine ⟨⟨htold.willing, ?_, ?_⟩, htold.commands⟩
      · rintro _ ⟨⟩
        exact ho.congr (o.url_close host)
      · rintro ⟨⟩
  | none =>
      -- Without an owner the adapter keeps the engine, which then connects anew.
      cases known with
      | none => exact absurd rfl (hw.engine rfl)
      | some engine => exact hw.withHost (Host.tells_dispose hw.script engine)

end EngineWorld

end SqlBuilder
