import SqlBuilder.Proofs.Session.Demand

/-!
# Programs over adapters that do the same

Two adapters do the same when each operation on related worlds gives the same
answer and related worlds.  The relation may know which transactions a program
has open, and only their handles are used, the outer one, and those of
transactions that stay open around the program.  Adapters may also do the same
within a limit only.  Then no program that keeps within it tells them apart,
whatever it nests, catches and mixes.
-/

namespace SqlBuilder

variable {World World' Handle Handle' α : Type}

namespace Adapter

variable {A : Adapter World Handle} {h inner : Handle} {w w' w'' : World}
  {work : Handle → World → (α × Option Failure) × World} {idle : α}

theorem transaction_scoped
    (hscoped : A.isScoped h = true) :
    A.transaction h work idle w = work h w := by
  unfold transaction
  rw [if_pos hscoped]

theorem transaction_refused
    {failure : Failure} (hscoped : A.isScoped h = false)
    (hstart : A.start h w = (.error failure, w')) :
    A.transaction h work idle w = ((idle, some failure), w') := by
  unfold transaction
  rw [if_neg (by simp [hscoped]), hstart]

theorem transaction_opened
    {a : α} {failure : Option Failure} (hscoped : A.isScoped h = false)
    (hstart : A.start h w = (.ok inner, w')) (hwork : work inner w' = ((a, failure), w'')) :
    A.transaction h work idle w =
      ((a, (A.finish inner failure w'').1), (A.finish inner failure w'').2) := by
  unfold transaction
  rw [if_neg (by simp [hscoped]), hstart]
  simp only [hwork]

end Adapter

/-- The same answer in related worlds. -/
def Agree (Related : World → World' → Prop) (x : α × World) (y : α × World') : Prop :=
  x.1 = y.1 ∧ Related x.2 y.2

theorem Agree.split
    {Related : World → World' → Prop} {x : α × World} {y : α × World'}
    (hxy : Agree Related x y) :
    ∃ a w v, x = (a, w) ∧ y = (a, v) ∧ Related w v := by
  obtain ⟨a, w⟩ := x
  obtain ⟨b, v⟩ := y
  obtain ⟨rfl, hR⟩ := hxy
  exact ⟨a, w, v, rfl, rfl, hR⟩

/-- Statements that may be sent get the same answers through two handles. -/
def Adapter.Answers (A : Adapter World Handle) (B : Adapter World' Handle')
    (mayBeSent : Value → List Value → Prop) (h : Handle) (h' : Handle')
    (Related : World → World' → Prop) : Prop :=
  ∀ w v (sql : Value) (parameters : List Value), mayBeSent sql parameters → Related w v →
    Agree Related (A.send h sql parameters w) (B.send h' sql parameters v)

namespace Adapter.Answers

variable {A : Adapter World Handle} {B : Adapter World' Handle'}
  {mayBeSent : Value → List Value → Prop} {h : Handle} {h' : Handle'}
  {Related : World → World' → Prop} {w : World} {v : World'} {d : Database}

theorem execute
    (hsend : Answers A B mayBeSent h h' Related) (hR : Related w v) {quoting : Bool} {b : Builder}
    (hb : ∀ c, b.compile quoting = .ok c → mayBeSent (.text c.sql) c.parameters) :
    Agree Related (b.execute A quoting h w) (b.execute B quoting h' v) := by
  unfold Builder.execute
  cases hc : b.compile quoting with
  | error failure => exact ⟨rfl, hR⟩
  | ok c =>
      obtain ⟨answer, _, _, hA, hB, hafter⟩ :=
        (hsend w v (.text c.sql) c.parameters (hb c hc) hR).split
      simp only [hA, hB]
      cases answer <;> exact ⟨rfl, hafter⟩

theorem call
    (hsend : Answers A B mayBeSent h h' Related) (hR : Related w v) {quoting : Bool} {b : Builder}
    (hb : ∀ c, b.compile quoting = .ok c → mayBeSent (.text c.sql) c.parameters) (c : Call) :
    Agree Related (b.call A quoting h w c) (b.call B quoting h' v c) := by
  unfold Builder.call
  cases Request.ofWord c.word c.args c.named with
  | error failure => exact ⟨rfl, hR⟩
  | ok r =>
      obtain ⟨rows, _, _, hA, hB, hafter⟩ := (hsend.execute hR hb).split
      cases r with
      | change c =>
          simp only [Builder.request]
          cases (b.change c).refusal <;> exact ⟨rfl, hR⟩
      | compiled | snapshot | tableName => exact ⟨rfl, hR⟩
      | execute | first | rows =>
          simp only [Builder.request, hA, hB]
          exact ⟨rfl, hafter⟩

theorem chain
    (hsend : Answers A B mayBeSent h h' Related) {quoting : Bool} (calls : List Call) :
    ∀ {w v} (b : Builder) (last : Answer), Related w v →
      (∀ b' ∈ b.met calls, ∀ c, b'.compile quoting = .ok c →
        mayBeSent (.text c.sql) c.parameters) →
      Agree Related (Builder.chain A quoting h b last w calls)
        (Builder.chain B quoting h' b last v calls) := by
  induction calls with
  | nil =>
      intro w v b last hR _
      unfold Builder.chain
      cases last <;> exact ⟨rfl, hR⟩
  | cons c calls ih =>
      intro w v b last hR hmet
      obtain ⟨⟨outcome, b'⟩, _, _, hA, hB, hafter⟩ :=
        (hsend.call hR (hmet b (List.mem_cons_self ..)) c).split
      have hb' : b' = b.after c := by
        rw [← Builder.call_builder A quoting h b w c, hA]
      unfold Builder.chain
      rw [hA, hB]
      cases outcome with
      | error failure => exact ⟨rfl, hafter⟩
      | ok answer =>
          subst hb'
          exact ih (b.after c) answer hafter fun b' hb' => hmet b' (List.mem_cons_of_mem b hb')

theorem create
    (hsend : Answers A B mayBeSent h h' Related) (hcreated : ∀ sql, mayBeSent (.text sql) [])
    (tables : List (Value × Columns)) :
    ∀ {w v}, Related w v →
      Agree Related (d.create A h w tables) (d.create B h' v tables) := by
  induction tables with
  | nil =>
      intro w v hR
      exact ⟨rfl, hR⟩
  | cons table tables ih =>
      intro w v hR
      obtain ⟨name, columns⟩ := table
      unfold Database.create
      cases createTable d.quoting name columns with
      | error failure => exact ⟨rfl, hR⟩
      | ok sql =>
          obtain ⟨answer, _, _, hA, hB, hafter⟩ :=
            (hsend w v (.text sql) [] (hcreated sql) hR).split
          simp only [hA, hB]
          cases answer with
          | error failure => exact ⟨rfl, hafter⟩
          | ok result => exact ih hafter

theorem query
    (hsend : Answers A B mayBeSent h h' Related) (hR : Related w v) {table : Value}
    {calls : List Call}
    (hmet : ∀ b ∈ ({ table } : Builder).met calls, ∀ c, b.compile d.quoting = .ok c →
      mayBeSent (.text c.sql) c.parameters) :
    Agree Related (d.query A h table calls w) (d.query B h' table calls v) := by
  unfold Database.query
  cases d.schema.get table with
  | error failure => exact ⟨rfl, hR⟩
  | ok columns => exact hsend.chain calls _ _ hR hmet

theorem sendValues
    (hsend : Answers A B mayBeSent h h' Related) (hR : Related w v) {sql parameters : Value}
    (hsent : ∀ given, Adapter.parameters parameters = .ok given → mayBeSent sql given) :
    Agree Related (Database.send A h sql parameters w) (Database.send B h' sql parameters v) := by
  unfold Database.send
  cases hgiven : Adapter.parameters parameters with
  | error failure => exact ⟨rfl, hR⟩
  | ok given => exact hsend w v sql given (hsent given hgiven) hR

end Adapter.Answers

/-- Operations that agree as long as a program keeps within a limit; `opened`
are the handles of the transactions that it has open, the innermost first, and
`around` those that stay open around it. -/
structure Adapter.Simulation (A : Adapter World Handle) (B : Adapter World' Handle')
    (limit : Limit) (root : Handle × Handle') (around : List (Handle × Handle'))
    (Related : List (Handle × Handle') → World → World' → Prop) : Prop where
  outer : A.isScoped root.1 = false ∧ B.isScoped root.2 = false
  inner : ∀ {opened w v p}, Related opened w v → p ∈ opened ++ around →
    A.isScoped p.1 = true ∧ B.isScoped p.2 = true
  send : ∀ {opened p}, p ∈ root :: (opened ++ around) →
    (A.isScoped p.1 = false → limit.opens opened.length) →
    Answers A B limit.sends p.1 p.2 (Related opened)
  start : ∀ {opened w v}, Related opened w v → limit.opens opened.length →
    (∃ failure w' v', A.start root.1 w = (.error failure, w') ∧
      B.start root.2 v = (.error failure, v') ∧ Related opened w' v') ∨
    (∃ inner w' v', A.start root.1 w = (.ok inner.1, w') ∧
      B.start root.2 v = (.ok inner.2, v') ∧ Related (inner :: opened) w' v')
  finish : ∀ {opened w v inner} (failure : Option Failure), Related (inner :: opened) w v →
    Agree (Related opened) (A.finish inner.1 failure w) (B.finish inner.2 failure v)
  close : ∀ {opened w v p}, Related opened w v → p ∈ root :: (opened ++ around) →
    Related opened (A.close p.1 w) (B.close p.2 v)

namespace Adapter.Simulation

variable {A : Adapter World Handle} {B : Adapter World' Handle'} {limit : Limit}
  {root : Handle × Handle'} {Related : List (Handle × Handle') → World → World' → Prop}
  {opened around : List (Handle × Handle')} {w : World} {v : World'} {p : Handle × Handle'}

theorem isScoped_eq
    (hsim : Simulation A B limit root around Related) (hR : Related opened w v)
    (hp : p ∈ root :: (opened ++ around)) :
    A.isScoped p.1 = B.isScoped p.2 := by
  rcases List.mem_cons.mp hp with rfl | hp
  · rw [hsim.outer.1, hsim.outer.2]
  · rw [(hsim.inner hR hp).1, (hsim.inner hR hp).2]

/-- Transactions agree when the work in them does: in the handle itself if it
is scoped, and else in the one that was opened for it. -/
theorem transaction
    (hsim : Simulation A B limit root around Related)
    (work : Handle → World → (α × Option Failure) × World)
    (work' : Handle' → World' → (α × Option Failure) × World')
    (hR : Related opened w v) (hp : p ∈ root :: (opened ++ around))
    (hjoined : A.isScoped p.1 = true →
      Agree (Related opened) (work p.1 w) (work' p.2 v))
    (hroom : A.isScoped p.1 = false → limit.opens opened.length)
    (hopened : A.isScoped p.1 = false → ∀ {inner w v}, Related (inner :: opened) w v →
      Agree (Related (inner :: opened)) (work inner.1 w) (work' inner.2 v))
    (idle : α) :
    Agree (Related opened) (A.transaction p.1 work idle w) (B.transaction p.2 work' idle v) := by
  rcases List.mem_cons.mp hp with rfl | hp
  · obtain ⟨hA, hB⟩ := hsim.outer
    rcases hsim.start hR (hroom hA) with
      ⟨failure, w', v', hstartA, hstartB, hR'⟩ | ⟨inner, w', v', hstartA, hstartB, hR'⟩
    · rw [transaction_refused hA hstartA, transaction_refused hB hstartB]
      exact ⟨rfl, hR'⟩
    · obtain ⟨⟨a, failure⟩, w'', v'', hworkA, hworkB, hafter⟩ := (hopened hA hR').split
      obtain ⟨ended, hfinished⟩ := hsim.finish failure hafter
      rw [transaction_opened hA hstartA hworkA, transaction_opened hB hstartB hworkB]
      exact ⟨congrArg (Prod.mk a) ended, hfinished⟩
  · obtain ⟨hA, hB⟩ := hsim.inner hR hp
    rw [transaction_scoped hA, transaction_scoped hB]
    exact hjoined hA

end Adapter.Simulation

namespace Database

variable {A : Adapter World Handle} {B : Adapter World' Handle'} {limit : Limit}
  {root : Handle × Handle'} {around : List (Handle × Handle')}
  {Related : List (Handle × Handle') → World → World' → Prop}

theorem getD_mem
    {scopes handles : List (Handle × Handle')} (hscopes : scopes ⊆ root :: handles)
    (depth : Nat) :
    scopes.getD depth root ∈ root :: handles := by
  rw [List.getD_eq_getElem?_getD]
  cases hp : scopes[depth]? with
  | none => exact List.mem_cons_self ..
  | some p => exact hscopes (List.mem_of_getElem? hp)

theorem getD_map
    {β γ : Type} (f : β → γ) (bs : List β) (n : Nat) (b : β) :
    (bs.map f).getD n (f b) = f (bs.getD n b) := by
  simp [List.getD_eq_getElem?_getD, Option.getD_map]

/-- Whether handles are scoped, as the first adapter has it. -/
def scopedness (A : Adapter World Handle) (scopes : List (Handle × Handle')) : List Bool :=
  scopes.map fun p => A.isScoped p.1

mutual

/-- No step within the limit tells adapters apart that do the same. -/
theorem run_agree_within
    (hsim : Adapter.Simulation A B limit root around Related) (d : Database)
    {opened scopes : List (Handle × Handle')} {w : World} {v : World'} {p : Handle × Handle'}
    (hR : Related opened w v) (hscopes : scopes ⊆ root :: (opened ++ around))
    (hp : p ∈ root :: (opened ++ around)) :
    ∀ step : Step, limit.Admits d opened.length step.queries step.sends
        (step.demand (scopedness A scopes) (A.isScoped p.1)) →
      Agree (Related opened) (d.run A root.1 (scopes.map (·.1)) p.1 w step)
        (d.run B root.2 (scopes.map (·.2)) p.2 v step)
  | .query table calls, hlimit => by
      have hroom : A.isScoped p.1 = false → limit.opens opened.length := fun houter =>
        hlimit.room _ (Nat.le_refl _) (by simp [Step.demand, houter])
      have hsend := hsim.send hp hroom
      have hmet := hlimit.compiled (table, calls) (List.mem_cons_self ..)
      obtain ⟨_, _, _, hA, hB, hafter⟩ := (hsend.query hR hmet).split
      simp only [run, hA, hB]
      exact ⟨rfl, hafter⟩
  | .createTableSql table, _ => ⟨rfl, hR⟩
  | .createTables, hlimit => by
      have hroom : A.isScoped p.1 = false → limit.opens opened.length := fun houter =>
        hlimit.room _ (Nat.le_refl _) (by simp [Step.demand, houter])
      have hsend := hsim.send hp hroom
      obtain ⟨_, _, _, hA, hB, hafter⟩ :=
        (hsend.create (d := d) hlimit.created d.schema.tables hR).split
      simp only [run, hA, hB]
      exact ⟨rfl, hafter⟩
  | .send sql parameters, hlimit => by
      have hroom : A.isScoped p.1 = false → limit.opens opened.length := fun houter =>
        hlimit.room _ (Nat.le_refl _) (by simp [Step.demand, houter])
      have hsend := hsim.send hp hroom
      have hsent := hlimit.sent (sql, parameters) (List.mem_cons_self ..)
      obtain ⟨_, _, _, hA, hB, hafter⟩ := (hsend.sendValues hR hsent).split
      simp only [run, hA, hB]
      exact ⟨rfl, hafter⟩
  | .tables, _ => ⟨rfl, hR⟩
  | .sameHandle, _ => by
      simp only [run]
      rw [hsim.isScoped_eq hR hp]
      exact ⟨rfl, hR⟩
  | .inTransaction, _ => by
      simp only [run]
      rw [hsim.isScoped_eq hR hp]
      exact ⟨rfl, hR⟩
  | .close, _ => ⟨rfl, hsim.close hR hp⟩
  | .raise message, _ => ⟨rfl, hR⟩
  | .attempt step, hlimit => by
      obtain ⟨_, _, _, hA, hB, hafter⟩ :=
        (run_agree_within hsim d hR hscopes hp step hlimit).split
      simp only [run, hA, hB]
      exact ⟨rfl, hafter⟩
  | .outer step, hlimit => by
      simp only [run]
      apply run_agree_within hsim d hR hscopes (List.mem_cons_self ..) step
      rw [hsim.outer.1]
      exact hlimit
  | .enclosing depth step, hlimit => by
      simp only [run]
      rw [getD_map (·.1) scopes depth root, getD_map (·.2) scopes depth root]
      apply run_agree_within hsim d hR hscopes (getD_mem hscopes depth) step
      have hflag := getD_map (fun p : Handle × Handle' => A.isScoped p.1) scopes depth root
      rw [hsim.outer.1] at hflag
      rw [← hflag]
      exact hlimit
  | .closing steps, hlimit => by
      obtain ⟨_, _, _, hA, hB, hafter⟩ :=
        (runAll_agree_within hsim d hR hscopes hp steps hlimit).split
      simp only [run, hA, hB]
      exact ⟨rfl, hsim.close hafter hp⟩
  | .transaction steps result, hlimit => by
      have hagree := hsim.transaction
        (fun inner w => d.runAll A root.1 (inner :: scopes.map (·.1)) inner w steps)
        (fun inner v => d.runAll B root.2 (inner :: scopes.map (·.2)) inner v steps)
        hR hp ?_ ?_ ?_ []
      · obtain ⟨_, _, _, hA, hB, hafter⟩ := hagree.split
        simp only [run, hA, hB]
        exact ⟨rfl, hafter⟩
      · intro hjoined
        have hscopes' : p :: scopes ⊆ root :: (opened ++ around) :=
          List.cons_subset.mpr ⟨hp, hscopes⟩
        apply runAll_agree_within hsim d hR hscopes' hp steps
        simpa [Step.queries, Step.sends, Step.demand, scopedness, hjoined] using hlimit
      · intro houter
        apply hlimit.room _ (Nat.le_refl _)
        rw [Step.demand, houter, if_neg Bool.false_ne_true]
        omega
      · intro houter inner w v hR'
        -- Handles of the transactions around this one are still good inside it.
        have hwider : root :: (opened ++ around) ⊆ root :: ((inner :: opened) ++ around) :=
          List.cons_subset_cons root (List.subset_cons_self inner _)
        have hinner : inner ∈ root :: ((inner :: opened) ++ around) := by simp
        have hscopes' : inner :: scopes ⊆ root :: ((inner :: opened) ++ around) :=
          List.cons_subset.mpr ⟨hinner, List.Subset.trans hscopes hwider⟩
        have hscoped := (hsim.inner hR' (List.mem_append_left around (List.mem_cons_self ..))).1
        apply runAll_agree_within hsim d hR' hscopes' hinner steps
        refine hlimit.mono (List.Subset.refl _) (List.Subset.refl _) ?_ ?_
        · exact Nat.le_succ _
        · simp only [Step.demand, scopedness, List.map_cons, List.length_cons, houter, hscoped,
            Bool.false_eq_true, if_false]
          omega

theorem runAll_agree_within
    (hsim : Adapter.Simulation A B limit root around Related) (d : Database)
    {opened scopes : List (Handle × Handle')} {w : World} {v : World'} {p : Handle × Handle'}
    (hR : Related opened w v) (hscopes : scopes ⊆ root :: (opened ++ around))
    (hp : p ∈ root :: (opened ++ around)) :
    ∀ steps : List Step, limit.Admits d opened.length (Step.queriesAll steps)
        (Step.sendsAll steps) (Step.demandAll (scopedness A scopes) (A.isScoped p.1) steps) →
      Agree (Related opened) (d.runAll A root.1 (scopes.map (·.1)) p.1 w steps)
        (d.runAll B root.2 (scopes.map (·.2)) p.2 v steps)
  | [], _ => ⟨rfl, hR⟩
  | step :: steps, hlimit => by
      obtain ⟨⟨reply, failure⟩, _, _, hA, hB, hafter⟩ :=
        (run_agree_within hsim d hR hscopes hp step hlimit.head).split
      simp only [runAll, hA, hB]
      cases failure with
      | some failure => exact ⟨rfl, hafter⟩
      | none =>
          obtain ⟨_, _, _, hAll, hBll, hlast⟩ :=
            (runAll_agree_within hsim d hafter hscopes hp steps hlimit.tail).split
          simp only [hAll, hBll]
          exact ⟨rfl, hlast⟩

end

/-- No program tells adapters apart that do the same whatever they are asked. -/
theorem runAll_agree
    (hsim : Adapter.Simulation A B .unlimited root around Related) (d : Database)
    {opened scopes : List (Handle × Handle')} {w : World} {v : World'} {p : Handle × Handle'}
    (hR : Related opened w v) (hscopes : scopes ⊆ root :: (opened ++ around))
    (hp : p ∈ root :: (opened ++ around)) (steps : List Step) :
    Agree (Related opened) (d.runAll A root.1 (scopes.map (·.1)) p.1 w steps)
      (d.runAll B root.2 (scopes.map (·.2)) p.2 v steps) :=
  runAll_agree_within hsim d hR hscopes hp steps Limit.admits_unlimited

end Database

/-! ## Observed adapters -/

/-- A statement, and the handle it was sent through. -/
structure Sent (Handle : Type) where
  handle : Handle
  sql : Value
  parameters : List Value

/-- An adapter beside which everything that it is sent is noted. -/
def Adapter.observed (A : Adapter World Handle) :
    Adapter (World × List (Sent Handle)) Handle where
  send h sql parameters w :=
    ((A.send h sql parameters w.1).1, (A.send h sql parameters w.1).2,
      w.2 ++ [⟨h, sql, parameters⟩])
  isScoped := A.isScoped
  start h w := ((A.start h w.1).1, (A.start h w.1).2, w.2)
  finish h failure w := ((A.finish h failure w.1).1, (A.finish h failure w.1).2, w.2)
  close h w := (A.close h w.1, w.2)

theorem Adapter.observed_start
    {A : Adapter World Handle} {h : Handle} {w w' : World} {outcome : Outcome Handle}
    (hstart : A.start h w = (outcome, w')) (sends : List (Sent Handle)) :
    A.observed.start h (w, sends) = (outcome, w', sends) := by
  simp only [observed, hstart]

/-- Steps as the work of a transaction, through the handle they are given. -/
def Database.callback (A : Adapter World Handle) (d : Database) (root : Handle)
    (scopes : List Handle) (steps : List Step) (inner : Handle) (w : World) :
    (List Reply × Option Failure) × World :=
  d.runAll A root (inner :: scopes) inner w steps

end SqlBuilder
