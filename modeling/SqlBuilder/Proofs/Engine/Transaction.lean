import SqlBuilder.Proofs.Engine.World
import SqlBuilder.Proofs.Session.Simulation

/-!
# Transactions over engines

A transaction has a connection of its own from its start to its end, and all
that is sent through its handle reaches that connection, whatever else the
work in it does.
-/

namespace SqlBuilder.EngineWorld

variable {w w' v : EngineWorld} {leases scopes : List Lease} {l : Lease}

/-- The worlds that an adapter over an engine can come to, with the leases of
the transactions that are open.  Its owner may be asked by others. -/
inductive Reachable : List Lease → EngineWorld → Prop
  | ofOwner (o : Owner) (script : Script) (ho : o.engine = none) :
      Reachable [] (ofOwner o script)
  | ofBlueprint (b : Blueprint) (script : Script) :
      Reachable [] (ofBlueprint b script)
  | asked {leases : List Lease} {w : EngineWorld} {o : Owner} (q : Owner.Question)
      (hw : Reachable leases w) (ho : w.owner = some o) :
      Reachable leases
        { w with owner := some (o.answer w.host q).2.1, host := (o.answer w.host q).2.2 }
  | sent {leases : List Lease} {w : EngineWorld} {handle : EngineHandle} (sql : Value)
      (parameters : List Value) (hw : Reachable leases w)
      (hhandle : handle ∈ EngineHandle.root :: leases.map .lent) :
      Reachable leases (engineAdapter.send handle sql parameters w).2
  | refused {leases : List Lease} {w w' : EngineWorld} {failure : Failure}
      (hw : Reachable leases w) (hstart : engineAdapter.start .root w = (.error failure, w')) :
      Reachable leases w'
  | started {leases : List Lease} {w w' : EngineWorld} {l : Lease}
      (hw : Reachable leases w) (hstart : engineAdapter.start .root w = (.ok (.lent l), w')) :
      Reachable (l :: leases) w'
  | finished {leases : List Lease} {w : EngineWorld} {l : Lease} (failure : Option Failure)
      (hw : Reachable leases w) (hl : l ∈ leases) :
      Reachable (leases.erase l) (engineAdapter.finish (.lent l) failure w).2
  | closed {leases : List Lease} {w : EngineWorld} (hw : Reachable leases w) :
      Reachable leases (engineAdapter.close .root w)

theorem holds_fresh
    (script : Script) :
    Host.Holds { script } [] := by
  refine ⟨?_, ?_, ?_, ?_⟩
  · rintro e ⟨⟩
  · intro pool
    rfl
  · exact List.nodup_nil
  · rintro c ⟨⟩

theorem Reachable.holds
    (hw : Reachable leases w) :
    w.Holds leases := by
  induction hw with
  | ofOwner o script ho =>
      refine ⟨holds_fresh script, ?_, ?_⟩
      · rintro _ ⟨⟩
      · rintro _ ⟨⟩
        intro engine hengine
        rw [ho] at hengine
        cases hengine
  | ofBlueprint b script =>
      have hcreated := Host.spares_create (holds_fresh script) b
      refine ⟨hcreated.holds, ?_, ?_⟩
      · rintro _ ⟨⟩
        exact Host.create_lt { script } b
      · rintro _ ⟨⟩
  | @asked leases w o q hw ho ih =>
      obtain ⟨hspares, hknown⟩ := o.spares_answer ih.host (ih.owner o ho) q
      refine ⟨hspares.holds, ?_, ?_⟩
      · intro engine hengine
        exact Nat.lt_of_lt_of_le (ih.engine engine hengine) hspares.engines
      · rintro _ ⟨⟩
        exact hknown
  | sent sql parameters hw hhandle ih =>
      rcases List.mem_cons.mp hhandle with rfl | hlent
      · exact (spares_send ih sql parameters).holds
      · obtain ⟨l, _, rfl⟩ := List.mem_map.mp hlent
        exact holds_send ih l sql parameters
  | @refused leases w w' failure hw hstart ih =>
      rcases start_spec ih with ⟨_, _, hrefused, hspares, _, _⟩ | ⟨_, _, hstarted, _⟩
      · cases hstart.symm.trans hrefused
        exact hspares.holds
      · cases hstart.symm.trans hstarted
  | @started leases w w' l hw hstart ih =>
      rcases start_spec ih with ⟨_, _, hrefused, _, _, _⟩ | ⟨_, _, hstarted, hstarts⟩
      · cases hstart.symm.trans hrefused
      · cases hstart.symm.trans hstarted
        exact hstarts.holds
  | finished failure hw hl ih =>
      have hfirst := ih.host.perm (List.perm_cons_erase hl)
      exact (finish_spec ⟨hfirst, ih.engine, ih.owner⟩ failure).holds
  | closed hw ih => exact (spares_close ih).holds

/-- What reaches the connection of a lease for the statements sent through
it. -/
def reached (l : Lease) (sends : List (Sent EngineHandle)) : List Event :=
  (sends.filter (·.handle = .lent l)).flatMap fun s =>
    Host.statementEvents l.connection s.sql s.parameters

/-- Handles that are the same on both sides. -/
def twice (leases : List Lease) : List (EngineHandle × EngineHandle) :=
  leases.map fun l => (.lent l, .lent l)

/-- A moment inside a transaction: of what was sent since it was opened, just
what went through its lease has reached its connection. -/
structure Within (leases : List Lease) (l : Lease) (before : List Event)
    (opened : List (EngineHandle × EngineHandle)) (w : EngineWorld × List (Sent EngineHandle))
    (v : EngineWorld) : Prop where
  same : w.1 = v
  reachable : ∃ later, opened = twice later ∧ v.Reachable (later ++ l :: leases)
  events : v.host.eventsOn l.connection = before ++ reached l w.2

theorem reached_append_other
    {sends : List (Sent EngineHandle)} {s : Sent EngineHandle} (hs : s.handle ≠ .lent l) :
    reached l (sends ++ [s]) = reached l sends := by
  simp [reached, List.filter_append, hs]

theorem reached_append_own
    (sends : List (Sent EngineHandle)) (sql : Value) (parameters : List Value) :
    reached l (sends ++ [⟨.lent l, sql, parameters⟩]) =
      reached l sends ++ Host.statementEvents l.connection sql parameters := by
  simp [reached, List.filter_append]

theorem mem_root_twice
    {later : List Lease} {p : EngineHandle × EngineHandle}
    (hp : p ∈ (.root, .root) :: (twice later ++ twice leases)) :
    p = (.root, .root) ∨ ∃ k ∈ later ++ leases, p = (.lent k, .lent k) := by
  rcases List.mem_cons.mp hp with rfl | hp
  · exact .inl rfl
  · unfold twice at hp
    rw [← List.map_append] at hp
    obtain ⟨k, hk, rfl⟩ := List.mem_map.mp hp
    exact .inr ⟨k, hk, rfl⟩

theorem eventsOn_send_other
    {k : Lease} (hw : w.Holds leases) (hk : k ∈ leases) (hl : l ∈ leases) (hkl : k ≠ l)
    (sql : Value) (parameters : List Value) :
    (w.send sql parameters (.lent k)).2.host.eventsOn l.connection =
      w.host.eventsOn l.connection := by
  have hleases : (leases.map (·.connection)).Nodup := hw.host.apart.of_append_right
  have hconnection : k.connection ≠ l.connection := by
    intro hsame
    exact hkl (List.inj_on_of_nodup_map hleases hk hl hsame)
  apply Host.eventsOn_of_none (sends_send w k sql parameters).events
  intro e he
  rw [Host.connection_of_mem_statementEvents he]
  exact hconnection

theorem within_of_untouched
    {before : List Event} {sends : List (Sent EngineHandle)} {later : List Lease}
    (hevents : w.host.eventsOn l.connection = before ++ reached l sends)
    (hw' : w'.Reachable (later ++ l :: leases))
    (huntouched : w'.host.eventsOn l.connection = w.host.eventsOn l.connection) :
    Within leases l before (twice later) (w', sends) w' :=
  ⟨rfl, ⟨later, rfl, hw'⟩, huntouched.trans hevents⟩

theorem within_send
    {before : List Event} {sends : List (Sent EngineHandle)} {later : List Lease}
    {p : EngineHandle × EngineHandle} (sql : Value) (parameters : List Value)
    (hw : w.Reachable (later ++ l :: leases))
    (hevents : w.host.eventsOn l.connection = before ++ reached l sends)
    (hp : p ∈ (.root, .root) :: (twice later ++ twice (l :: leases))) :
    Agree (Within leases l before (twice later))
      (engineAdapter.observed.send p.1 sql parameters (w, sends))
      (engineAdapter.send p.2 sql parameters w) := by
  have hl : l ∈ later ++ l :: leases := List.mem_append_right later (List.mem_cons_self ..)
  rcases mem_root_twice hp with rfl | ⟨k, hk, rfl⟩
  · -- The outer handle takes a connection of its own for the statement.
    have hreached : reached l (sends ++ [⟨.root, sql, parameters⟩]) = reached l sends :=
      reached_append_other (by simp)
    rw [← hreached] at hevents
    exact ⟨rfl, within_of_untouched hevents (hw.sent sql parameters (List.mem_cons_self ..))
      ((spares_send hw.holds sql parameters).untouched l hl)⟩
  · have hhandle : .lent k ∈ EngineHandle.root :: (later ++ l :: leases).map .lent :=
      List.mem_cons_of_mem _ (List.mem_map_of_mem hk)
    have hw' := hw.sent sql parameters hhandle
    by_cases hkl : k = l
    · subst hkl
      have hsent := Host.eventsOn_of_all (sends_send w k sql parameters).events
        fun e => Host.connection_of_mem_statementEvents
      rw [hevents, List.append_assoc, ← reached_append_own] at hsent
      exact ⟨rfl, rfl, ⟨later, rfl, hw'⟩, hsent⟩
    · have hreached : reached l (sends ++ [⟨.lent k, sql, parameters⟩]) = reached l sends :=
        reached_append_other (by simpa using hkl)
      rw [← hreached] at hevents
      exact ⟨rfl, within_of_untouched hevents hw'
        (eventsOn_send_other hw.holds hk hl hkl sql parameters)⟩

/-- Observed or not, a program inside the transaction does the same. -/
theorem within_simulation
    (leases : List Lease) (l : Lease) (before : List Event) :
    Adapter.Simulation engineAdapter.observed engineAdapter .unlimited (.root, .root)
      (twice (l :: leases)) (Within leases l before) where
  outer := ⟨rfl, rfl⟩
  inner := by
    rintro opened w v p ⟨_, ⟨later, rfl, _⟩, _⟩ hp
    rcases List.mem_append.mp hp with hp | hp
    · obtain ⟨k, _, rfl⟩ := List.mem_map.mp hp
      exact ⟨rfl, rfl⟩
    · obtain ⟨k, _, rfl⟩ := List.mem_map.mp hp
      exact ⟨rfl, rfl⟩
  send := by
    rintro opened p hp - ⟨w, sends⟩ v sql parameters - ⟨rfl, ⟨later, rfl, hw⟩, hevents⟩
    exact within_send sql parameters hw hevents hp
  start := by
    rintro opened ⟨w, sends⟩ v ⟨rfl, ⟨later, rfl, hw⟩, hevents⟩ _
    have hl : l ∈ later ++ l :: leases := List.mem_append_right later (List.mem_cons_self ..)
    rcases start_spec hw.holds with
      ⟨failure, w', hstart, hspares, _, _⟩ | ⟨k, w', hstart, hstarts⟩
    · left
      exact ⟨failure, (w', sends), w', Adapter.observed_start hstart sends, hstart,
        within_of_untouched hevents (hw.refused hstart) (hspares.untouched l hl)⟩
    · right
      have hw' : w'.Reachable (k :: later ++ l :: leases) := hw.started hstart
      exact ⟨(.lent k, .lent k), (w', sends), w', Adapter.observed_start hstart sends, hstart,
        within_of_untouched hevents hw' (hstarts.untouched l hl)⟩
  finish := by
    rintro opened ⟨w, sends⟩ v inner failure ⟨rfl, ⟨later, hlater, hw⟩, hevents⟩
    cases later with
    | nil => cases hlater
    | cons k later =>
        cases hlater
        have hl : l ∈ later ++ l :: leases := List.mem_append_right later (List.mem_cons_self ..)
        have hw' := hw.finished failure (List.mem_cons_self ..)
        rw [List.cons_append, List.erase_cons_head] at hw'
        have hfinished := finish_spec hw.holds failure
        exact ⟨rfl, within_of_untouched hevents hw' (hfinished.untouched hw.holds l hl)⟩
  close := by
    rintro opened ⟨w, sends⟩ v p ⟨rfl, ⟨later, rfl, hw⟩, hevents⟩ hp
    have hl : l ∈ later ++ l :: leases := List.mem_append_right later (List.mem_cons_self ..)
    rcases mem_root_twice hp with rfl | ⟨k, _, rfl⟩
    · exact within_of_untouched hevents hw.closed ((spares_close hw.holds).untouched l hl)
    · exact ⟨rfl, ⟨later, rfl, hw⟩, hevents⟩

theorem map_fst_twice
    (leases : List Lease) :
    (twice leases).map (·.1) = leases.map .lent := by
  simp [twice, Function.comp_def]

theorem map_snd_twice
    (leases : List Lease) :
    (twice leases).map (·.2) = leases.map .lent := by
  simp [twice, Function.comp_def]

/-- The course of a transaction whose work starts in `opened`, sends `sends`,
and ends with a failure or without one. -/
structure Course (leases : List Lease) (l : Lease) (sends : List (Sent EngineHandle))
    (failure : Option Failure) (w opened ended : EngineWorld) : Prop where
  fresh : l.connection ∉ leases.map (·.connection)
  lent : ∀ pool, opened.host.lent pool = w.host.lent pool + if l.pool = pool then 1 else 0
  events : ∃ made closed,
    ended.host.eventsOn l.connection = w.host.eventsOn l.connection ++
      (made ++ [Event.start l.connection] ++ reached l sends ++
        [ending l.connection failure] ++ closed) ∧
    Host.Making l.connection made ∧ ended.host.Leaving l.connection closed
  released : ∀ pool, ended.host.lent pool = w.host.lent pool
  reachable : ended.Reachable leases

/-- The work in a transaction goes the same way whether it is observed or not,
and what reaches the connection is what it sends through the lease. -/
theorem callback_spec
    {opened : EngineWorld} (hopened : opened.Reachable (l :: leases)) (hscopes : scopes ⊆ leases)
    (d : Database) (steps : List Step) :
    ∃ replies failure worked sends,
      d.callback engineAdapter.observed .root (scopes.map .lent) steps (.lent l) (opened, []) =
        ((replies, failure), worked, sends) ∧
      d.callback engineAdapter .root (scopes.map .lent) steps (.lent l) opened =
        ((replies, failure), worked) ∧
      worked.Reachable (l :: leases) ∧
      worked.host.eventsOn l.connection = opened.host.eventsOn l.connection ++ reached l sends := by
  have hwithin : Within leases l (opened.host.eventsOn l.connection) [] (opened, []) opened :=
    ⟨rfl, ⟨[], rfl, hopened⟩, (List.append_nil _).symm⟩
  have hl : (EngineHandle.lent l, EngineHandle.lent l) ∈
      (EngineHandle.root, EngineHandle.root) :: ([] ++ twice (l :: leases)) :=
    List.mem_cons_of_mem _ (List.mem_cons_self ..)
  have hhandles : (.lent l, .lent l) :: twice scopes ⊆
      (EngineHandle.root, EngineHandle.root) :: ([] ++ twice (l :: leases)) := by
    intro p hp
    rcases List.mem_cons.mp hp with rfl | hp
    · exact hl
    · obtain ⟨k, hk, rfl⟩ := List.mem_map.mp hp
      exact List.mem_cons_of_mem _ (List.mem_map_of_mem (List.mem_cons_of_mem l (hscopes hk)))
  obtain ⟨⟨replies, failure⟩, ⟨worked, sends⟩, _, hobserved, hplain, hafter⟩ :=
    (Database.runAll_agree (within_simulation leases l _) d hwithin hhandles hl steps).split
  obtain ⟨rfl, ⟨later, hlater, hworked⟩, hevents⟩ := hafter
  simp only [List.map_cons, map_fst_twice, map_snd_twice] at hobserved hplain
  -- What the work opened it has ended: nothing but the transaction itself is open.
  cases later with
  | cons k later => cases hlater
  | nil => exact ⟨replies, failure, worked, sends, hobserved, hplain, hworked, hevents⟩

theorem course_of_stages
    {sends : List (Sent EngineHandle)} {opened worked : EngineWorld} (failure : Option Failure)
    (hw : w.Holds leases) (hstarts : Starts leases l w opened)
    (hworked : worked.Reachable (l :: leases))
    (hreached : worked.host.eventsOn l.connection =
      opened.host.eventsOn l.connection ++ reached l sends) :
    Course leases l sends failure w opened (engineAdapter.finish (.lent l) failure worked).2 := by
  have hended := hworked.finished failure (List.mem_cons_self ..)
  rw [List.erase_cons_head] at hended
  refine ⟨hstarts.holds.host.connection_not_mem, ?_, ?_, ?_, hended⟩
  · intro pool
    rw [hw.host.lent_eq, hstarts.holds.host.lent_eq, List.countP_cons]
    simp
  · obtain ⟨made, hopened, hmade⟩ := hstarts.eventsOn
    obtain ⟨closed, hfinished, hclosed⟩ := (finish_spec hworked.holds failure).eventsOn
    refine ⟨made, closed, ?_, hmade, hclosed⟩
    rw [hreached, hopened] at hfinished
    simp only [List.append_assoc] at hfinished ⊢
    exact hfinished
  · intro pool
    rw [hw.host.lent_eq, hended.holds.host.lent_eq]

/-- A transaction either cannot be opened, and then nothing of its work is
done, or runs its course on a connection of its own.  Transactions in it and
closing through its handle do nothing of their own. -/
theorem transaction_course
    (hw : w.Reachable leases) (hscopes : scopes ⊆ leases) (d : Database) (steps : List Step) :
    (∃ failure ended,
      engineAdapter.transaction .root
        (d.callback engineAdapter .root (scopes.map .lent) steps) [] w =
          (([], some failure), ended) ∧
      ended.Reachable leases ∧
      ended.host.events = w.host.events ∧
      (∀ pool, ended.host.lent pool = w.host.lent pool) ∧
      (w.toEngine.1 = .error failure ∨
        failure = .exhausted ∧ Host.mostConnections ≤ leases.length ∨
        (Host.next w.host.script.connects).1 = some failure)) ∨
    ∃ l opened replies failure worked sends raised ended,
      engineAdapter.start .root w = (.ok (.lent l), opened) ∧
      d.callback engineAdapter.observed .root (scopes.map .lent) steps (.lent l) (opened, []) =
        ((replies, failure), worked, sends) ∧
      d.callback engineAdapter .root (scopes.map .lent) steps (.lent l) opened =
        ((replies, failure), worked) ∧
      engineAdapter.transaction .root
        (d.callback engineAdapter .root (scopes.map .lent) steps) [] w =
          ((replies, raised), ended) ∧
      Course leases l sends failure w opened ended ∧
      (∀ (α : Type) (work : EngineHandle → EngineWorld → (α × Option Failure) × EngineWorld)
        (idle : α) (v : EngineWorld),
        engineAdapter.transaction (.lent l) work idle v = work (.lent l) v) ∧
      ∀ v : EngineWorld, engineAdapter.close (.lent l) v = v := by
  rcases start_spec hw.holds with
    ⟨failure, ended, hstart, _, hevents, hreason⟩ | ⟨l, opened, hstart, hstarts⟩
  · left
    have hended := hw.refused hstart
    refine ⟨failure, ended, Adapter.transaction_refused rfl hstart, hended, hevents, ?_, hreason⟩
    intro pool
    rw [hw.holds.host.lent_eq, hended.holds.host.lent_eq]
  · right
    obtain ⟨replies, failure, worked, sends, hobserved, hplain, hworked, hreached⟩ :=
      callback_spec (hw.started hstart) hscopes d steps
    have hscoped : engineAdapter.isScoped .root = false := rfl
    have hcourse := course_of_stages failure hw.holds hstarts hworked hreached
    refine ⟨l, opened, replies, failure, worked, sends, _, _, hstart, hobserved, hplain,
      Adapter.transaction_opened hscoped hstart hplain, hcourse, ?_, ?_⟩
    · intro α work idle v
      exact Adapter.transaction_scoped rfl
    · intro v
      rfl

/-- Work that nests transactions, closes its handle, goes around it, gets over
a statement that fails, and fails in the end. -/
def mixedSteps : List Step :=
  [.send (.text "A") .null,
    .attempt (.send (.text "B") .null),
    .transaction [.send (.text "C") .null] .null,
    .close,
    .outer (.send (.text "D") .null),
    .outer (.transaction [.enclosing 1 (.send (.text "E") .null)] .null),
    .raise "stop"]

/-- An adapter whose driver refuses the second statement. -/
def refusingSecond : EngineWorld :=
  ofBlueprint ⟨"postgresql", false⟩ { statements := [.count 1, .fail "no"] }

theorem transaction_course_mixed :
    refusingSecond.Reachable [] ∧ ([] : List Lease) ⊆ [] ∧
    ∃ l sends failure opened ended,
      Course [] l sends (some failure) refusingSecond opened ended ∧
      ended.host.eventsOn l.connection =
        [.connect l.connection, .start l.connection,
          .statement l.connection (.text "A") none, .statement l.connection (.text "B") none,
          .statement l.connection (.text "C") none, .statement l.connection (.text "E") none,
          .rollback l.connection] := by
  have hw : refusingSecond.Reachable [] := .ofBlueprint _ _
  have hscopes : ([] : List Lease) ⊆ [] := List.Subset.refl []
  refine ⟨hw, hscopes, ?_⟩
  rcases transaction_course hw hscopes ⟨⟨[]⟩, true⟩ mixedSteps with
    ⟨failure, ended, hrefused, _⟩ |
      ⟨l, opened, replies, failure, worked, sends, raised, ended, hstart, _, hplain, hended,
        hcourse, _⟩
  · cases congrArg (·.1.1.length) hrefused
  · have hl : EngineHandle.lent l = .lent ⟨0, 0, false⟩ :=
      Except.ok.inj (congrArg Prod.fst hstart).symm
    cases hl
    obtain rfl : opened = (engineAdapter.start .root refusingSecond).2 :=
      (congrArg Prod.snd hstart).symm
    obtain rfl : failure = some (.raised "stop") := (congrArg (·.1.2) hplain).symm
    have hlast := congrArg Prod.snd hended
    refine ⟨_, sends, _, _, ended, hcourse, ?_⟩
    subst hlast
    rfl

end SqlBuilder.EngineWorld
