import SqlBuilder.Proofs.Engine.Preparing
import SqlBuilder.Proofs.Engine.Transaction
import SqlBuilder.Proofs.Engine.Willing
import SqlBuilder.Proofs.Session.WithoutRows

/-!
# Dry runs

A recorder tells beforehand how a program goes over an engine whose driver never
fails, as long as the program needs no more connections at once than there may
be: it is answered the same but for rows, and the driver is told what was noted,
with a transaction around each statement that is not sent through a scoped
handle.
-/

namespace SqlBuilder

namespace Recorder

/-- What a driver is told for an entry. -/
def Entry.command : Entry → Command
  | start => .start
  | commit => .commit
  | rollback => .rollback
  | statement sql parameters =>
    .statement (Host.sentFor sql parameters).1 (Host.sentFor sql parameters).2

/-- An entry, and whether the handle it came through is scoped. -/
structure Noted where
  isScoped : Bool
  entry : Entry

/-- What a driver is told for an entry by its handle: a statement that does not
come through a scoped one has a transaction of its own. -/
def Noted.commands : Noted → List Command
  | ⟨false, .statement sql parameters⟩ =>
    [.start, (Entry.statement sql parameters).command, .commit]
  | ⟨_, entry⟩ => [entry.command]

/-- A recorder that notes with each entry what handle it came through. -/
def attributing : Adapter (List Noted) Handle where
  send isScoped sql parameters notes :=
    (.ok noRows, notes ++ [⟨isScoped, .statement sql parameters⟩])
  isScoped inner := inner
  start isScoped notes := (.ok true, notes ++ [⟨isScoped, .start⟩])
  finish isScoped failure notes := (failure, notes ++ [⟨isScoped, ending failure⟩])
  close _ notes := notes

/-- A log is the entries that were noted since it was `log`. -/
structure Plain (log : Log) (opened : List (Handle × Handle)) (notes : List Noted) (later : Log) :
    Prop where
  opened : ∀ p ∈ opened, p = (true, true)
  entries : later = log ++ notes.map (·.entry)

theorem Plain.noted
    {log later : Log} {opened opened' : List (Handle × Handle)} {notes : List Noted}
    (hplain : Plain log opened notes later) (hopened : ∀ p ∈ opened', p = (true, true))
    (n : Noted) :
    Plain log opened' (notes ++ [n]) (later ++ [n.entry]) where
  opened := hopened
  entries := by rw [hplain.entries, List.map_append, List.append_assoc]; rfl

theorem plain_simulation
    (log : Log) :
    Adapter.Simulation attributing recorder .unlimited (false, false) [] (Plain log) where
  outer := ⟨rfl, rfl⟩
  inner := by
    intro opened notes later p hplain hp
    rw [List.append_nil] at hp
    obtain rfl := hplain.opened p hp
    exact ⟨rfl, rfl⟩
  send := by
    intro opened p _ _ notes later sql parameters _ hplain
    exact ⟨rfl, hplain.noted hplain.opened ⟨p.1, .statement sql parameters⟩⟩
  start := by
    intro opened notes later hplain _
    exact .inr ⟨(true, true), _, _, rfl, rfl,
      hplain.noted (List.forall_mem_cons.mpr ⟨rfl, hplain.opened⟩) ⟨false, .start⟩⟩
  finish := by
    intro opened notes later inner failure hplain
    have hopened := (List.forall_mem_cons.mp hplain.opened).2
    exact ⟨rfl, hplain.noted hopened ⟨inner.1, ending failure⟩⟩
  close := by
    intro opened notes later p hplain _
    exact hplain

theorem commands_ending
    (isScoped : Bool) (failure : Option Failure) :
    Noted.commands ⟨isScoped, ending failure⟩ = [Host.ending failure] := by
  cases failure <;> cases isScoped <;> rfl

end Recorder

open Recorder

namespace EngineWorld

/-- The handles of leases beside those of a recorder. -/
def lentHandles (leases : List Lease) : List (Handle × EngineHandle) :=
  leases.map fun l => (true, .lent l)

/-- What drivers were told beyond `before` is what was noted. -/
structure Told (before : List Command) (opened : List (Handle × EngineHandle))
    (notes : List Noted) (w : EngineWorld) : Prop where
  reachable : ∃ leases, opened = lentHandles leases ∧ w.Reachable leases
  willing : w.IsWilling
  commands : w.host.commands = before ++ notes.flatMap Noted.commands

theorem Told.noted
    {before : List Command} {opened opened' : List (Handle × EngineHandle)}
    {notes : List Noted} {w w' : EngineWorld} {n : Noted} (htold : Told before opened notes w)
    (hreachable : ∃ leases, opened' = lentHandles leases ∧ w'.Reachable leases)
    (htells : Tells n.commands w w') :
    Told before opened' (notes ++ [n]) w' where
  reachable := hreachable
  willing := htells.willing
  commands := by
    rw [htells.commands, htold.commands, List.flatMap_append, List.flatMap_singleton,
      List.append_assoc]

/-- What can be bound is sent, while there may be more connections. -/
def ready : Limit where
  sends sql parameters := Host.prepared sql parameters = .ok (Host.sentFor sql parameters)
  opens n := n < Host.mostConnections

theorem told_send
    {before : List Command} {opened : List (Handle × EngineHandle)} {p : Handle × EngineHandle}
    (hp : p ∈ (false, .root) :: (opened ++ []))
    (hroom : p.1 = false → ready.opens opened.length) :
    Adapter.Answers attributing engineAdapter.withoutRows ready.sends p.1 p.2
      (Told before opened) := by
  rintro notes w sql parameters hsent htold
  obtain ⟨leases, rfl, hw⟩ := htold.reachable
  have hlength : (lentHandles leases).length = leases.length := List.length_map _
  rw [hlength] at hroom
  rw [List.append_nil] at hp
  rcases List.mem_cons.mp hp with rfl | hp
  · -- Through the outer handle the statement needs a connection besides those lent.
    obtain ⟨result, w', hsend, htells⟩ :=
      send_root_willing htold.willing hw.holds (hroom rfl) hsent
    have hw' := hw.sent sql parameters (List.mem_cons_self ..)
    simp only [engineAdapter, hsend] at hw'
    simp only [attributing, Adapter.withoutRows, engineAdapter, hsend]
    exact ⟨rfl, htold.noted ⟨leases, rfl, hw'⟩ htells⟩
  · obtain ⟨l, hl, rfl⟩ := List.mem_map.mp hp
    obtain ⟨result, w', hsend, htells⟩ := send_lent_willing htold.willing l hsent
    have hw' := hw.sent sql parameters (List.mem_cons_of_mem _ (List.mem_map_of_mem hl))
    simp only [engineAdapter, hsend] at hw'
    simp only [attributing, Adapter.withoutRows, engineAdapter, hsend]
    exact ⟨rfl, htold.noted ⟨leases, rfl, hw'⟩ htells⟩

theorem told_simulation
    (before : List Command) :
    Adapter.Simulation attributing engineAdapter.withoutRows ready (false, .root) []
      (Told before) where
  outer := ⟨rfl, rfl⟩
  inner := by
    rintro opened notes w p ⟨⟨leases, rfl, _⟩, _, _⟩ hp
    rw [List.append_nil] at hp
    obtain ⟨l, _, rfl⟩ := List.mem_map.mp hp
    exact ⟨rfl, rfl⟩
  send hp hroom := told_send hp hroom
  start := by
    intro opened notes w htold hroom
    obtain ⟨leases, rfl, hw⟩ := htold.reachable
    have hlength : (lentHandles leases).length = leases.length := List.length_map _
    rw [hlength] at hroom
    obtain ⟨l, w', hstart, htells⟩ := start_willing htold.willing hw.holds hroom
    right
    refine ⟨(true, .lent l), _, w', rfl, hstart, ?_⟩
    exact htold.noted ⟨l :: leases, rfl, hw.started hstart⟩ htells
  finish := by
    intro opened notes w inner failure htold
    obtain ⟨leases, hleases, hw⟩ := htold.reachable
    cases leases with
    | nil => cases hleases
    | cons l leases =>
        cases hleases
        obtain ⟨w', hfinish, htells⟩ := finish_willing htold.willing l failure
        have hw' := hw.finished failure (List.mem_cons_self ..)
        rw [List.erase_cons_head] at hw'
        simp only [engineAdapter, hfinish] at hw'
        rw [← commands_ending true failure] at htells
        simp only [attributing, Adapter.withoutRows, engineAdapter, hfinish]
        exact ⟨rfl, htold.noted ⟨leases, rfl, hw'⟩ htells⟩
  close := by
    intro opened notes w p htold hp
    obtain ⟨leases, rfl, hw⟩ := htold.reachable
    rw [List.append_nil] at hp
    rcases List.mem_cons.mp hp with rfl | hp
    · have htells := close_willing htold.willing
      refine ⟨⟨leases, rfl, hw.closed⟩, htells.willing, ?_⟩
      exact htells.commands.trans ((List.append_nil _).trans htold.commands)
    · obtain ⟨l, _, rfl⟩ := List.mem_map.mp hp
      exact htold

/-- Whether the statements of a program can be sent: the names in its queries are
regular and their parameters can be bound, and what is sent as it is has no
parameters. -/
structure Sendable (steps : List Step) : Prop where
  names : ∀ q ∈ Step.queriesAll steps, ∀ b ∈ ({ table := q.1 } : Builder).met q.2,
    ∀ s, b.snapshot = .ok s → s.HasRegularNames
  parameters : ∀ q ∈ Step.queriesAll steps, ∀ b ∈ ({ table := q.1 } : Builder).met q.2,
    ∀ c, b.compile true = .ok c → ∀ v ∈ c.parameters, v.IsBindable
  sends : ∀ s ∈ Step.sendsAll steps, ∀ parameters, Adapter.parameters s.2 = .ok parameters →
    parameters = []

theorem Sendable.admits
    {d : Database} {steps : List Step} (hsteps : Sendable steps) (hquoting : d.quoting = true)
    {demand : Nat} (hdemand : demand ≤ Host.mostConnections) :
    ready.Admits d 0 (Step.queriesAll steps) (Step.sendsAll steps) demand where
  compiled := by
    intro q hq b hb c hc
    rw [hquoting] at hc
    have hreached := (Builder.Reachable.fresh q.1).met q.2 b hb
    have hbindable := hsteps.parameters q hq b hb c hc
    exact Host.prepared_compile hreached (hsteps.names q hq b hb) hc hbindable
  sent := by
    intro s hs parameters hgiven
    rw [hsteps.sends s hs parameters hgiven]
    exact Host.prepared_verbatim s.1
  created sql := Host.prepared_verbatim (.text sql)
  room n _ hn := by
    rw [Nat.zero_add] at hn
    exact Nat.lt_of_lt_of_le hn hdemand

/-- A program goes alike over a recorder and over an engine: it ends alike with
the same replies but for rows, and drivers are told what the recorder notes, each
statement that does not come through a scoped handle in a transaction of its own. -/
def GoesAlike (d : Database) (steps : List Step) (log : Log) (w : EngineWorld) : Prop :=
  ∃ replies answered failure notes w',
    d.runAll recorder false [] false log steps =
      ((replies, failure), log ++ notes.map (·.entry)) ∧
    d.runAll attributing false [] false [] steps = ((replies, failure), notes) ∧
    d.runAll engineAdapter .root [] .root w steps = ((answered, failure), w') ∧
    Reply.withoutRowsAll answered = replies ∧
    w'.host.commands = w.host.commands ++ notes.flatMap Noted.commands

theorem not_goesAlike
    {d : Database} {steps : List Step} {w : EngineWorld} {failure : Failure}
    (hrecorder : (d.runAll recorder false [] false [] steps).1.2 = none)
    (hengine : (d.runAll engineAdapter .root [] .root w steps).1.2 = some failure) :
    ¬ GoesAlike d steps [] w := by
  rintro ⟨replies, answered, ended, notes, w', hlogged, _, hrun, _⟩
  rw [hlogged] at hrecorder
  rw [hrun] at hengine
  cases hrecorder.symm.trans hengine

/-! ## Documents that are inserted -/

def inserting (v : Value) : List Call :=
  [⟨"insert", [.dict [(.text "doc", v)]], []⟩, ⟨"execute", [], []⟩]

/-- A builder after the insertion of a document. -/
def inserted (v : Value) : Builder where
  table := .text "docs"
  operation := .insert
  payload := .dict [(.text "doc", v)]
  returning := true

def insertionText : String :=
  "INSERT INTO \"docs\" (\"doc\") VALUES ($1) RETURNING *"

theorem compile_inserted (v : Value) : (inserted v).compile true = .ok ⟨insertionText, [v]⟩ := by
  -- The pieces as they are drafted: no document has a part in the text.
  have hsql : "INSERT INTO " ++ Identifier.written true "docs" ++ " ("
      ++ Statement.columnList true ["doc"] ++ ") VALUES "
      ++ ("(" ++ (Draft.mark 1 ++ (")" ++ (" RETURNING *" ++ "")))) = insertionText := by
    decide +kernel
  exact congrArg (fun sql => (.ok ⟨sql, [v]⟩ : Outcome Compiled)) hsql

theorem met_inserting
    (v : Value) :
    ∀ b ∈ ({ table := .text "docs" } : Builder).met (inserting v),
      (∀ s, b.snapshot = .ok s → s.HasRegularNames) ∧
      ∀ c, b.compile true = .ok c → c.parameters = [] ∨ c.parameters = [v] := by
  have hregular : ∀ s : Statement, s.names = ["docs"] ∨ s.names = ["docs", "doc"] →
      s.HasRegularNames := by
    intro s hs
    unfold Statement.HasRegularNames
    rcases hs with hs | hs <;> rw [hs] <;> decide
  intro b hb
  rcases List.mem_cons.mp hb with rfl | hb
  · constructor
    · intro s hs
      obtain rfl := Except.ok.inj hs
      exact hregular _ (.inl rfl)
    · intro c hc
      obtain rfl := Except.ok.inj hc
      exact .inl rfl
  · -- Executing leaves the builder as the insertion made it.
    have hwritten : b = inserted v := by
      rcases List.mem_cons.mp hb with rfl | hb
      · rfl
      · exact List.mem_singleton.mp hb
    subst hwritten
    constructor
    · intro s hs
      obtain rfl := Except.ok.inj hs
      exact hregular _ (.inr rfl)
    · intro c hc
      obtain rfl := Except.ok.inj ((compile_inserted v).symm.trans hc)
      exact .inr rfl

theorem sendable_inserting
    {steps : List Step} (vs : List Value)
    (hqueries : Step.queriesAll steps = vs.map fun v => (.text "docs", inserting v))
    (hsends : Step.sendsAll steps = []) (hvs : ∀ v ∈ vs, v.IsBindable) :
    Sendable steps where
  names := by
    intro q hq b hb
    rw [hqueries] at hq
    obtain ⟨v, _, rfl⟩ := List.mem_map.mp hq
    exact (met_inserting v b hb).1
  parameters := by
    intro q hq b hb c hc
    rw [hqueries] at hq
    obtain ⟨v, hv, rfl⟩ := List.mem_map.mp hq
    rcases (met_inserting v b hb).2 c hc with hnone | hone
    · simp [hnone]
    · simpa [hone] using hvs v hv
  sends := by
    intro s hs
    rw [hsends] at hs
    cases hs

def docs : Database :=
  ⟨⟨[(.text "docs", [(.text "doc", .ofType .json)])]⟩, true⟩

/-- An adapter whose driver answers one statement and is asked for more. -/
def answering : EngineWorld :=
  ofOwner { url := "postgresql+fake://" } { statements := [.rows ["doc"] [[.text "x"]]] }

def unasked : EngineWorld :=
  ofBlueprint ⟨"postgresql", false⟩ { statements := [] }

/-- Transactions in each other, each opened by the outer handle. -/
def nested : Nat → Step
  | 0 => .inTransaction
  | n + 1 => .outer (.transaction [nested n] .null)

/-- A list that is sent as JSON and has no JSON text. -/
def mixed : Value :=
  .list [.dict [], .uuid 7]

theorem get_docs : docs.schema.get (.text "docs") = .ok [(.text "doc", .ofType .json)] := by
  simp [docs, Registry.get, Registry.lookup, lookup?, Value.isHashable, Value.equals]
  rfl

/-- An insertion of a document sends one statement. -/
theorem query_inserting
    {World Handle : Type} (A : Adapter World Handle) (h : Handle) (v : Value) (w : World) :
    docs.query A h (.text "docs") (inserting v) w =
      ((A.send h (.text insertionText) [v] w).1.map (.rows ·.rows),
        (A.send h (.text insertionText) [v] w).2) := by
  have hquoting : docs.quoting = true := rfl
  have hinsert : ({ table := .text "docs" } : Builder).call A true h w
      ⟨"insert", [.dict [(.text "doc", v)]], []⟩ = ((.ok .changed, inserted v), w) := rfl
  have hexecute : (inserted v).call A true h w ⟨"execute", [], []⟩ =
      (((A.send h (.text insertionText) [v] w).1.map (.rows ·.rows), inserted v),
        (A.send h (.text insertionText) [v] w).2) := by
    change (inserted v).request A true h w .execute = _
    simp only [Builder.request, Builder.execute, compile_inserted]
    rcases A.send h (.text insertionText) [v] w with ⟨_ | _, _⟩ <;> rfl
  unfold Database.query
  simp only [get_docs, hquoting, inserting, Builder.chain, hinsert, hexecute]
  rcases A.send h (.text insertionText) [v] w with ⟨_ | _, _⟩ <;> rfl

theorem prepared_mixed :
    Host.prepared (.text insertionText) [mixed] = .error .unsendable := by
  let n : NamedStatement :=
    ⟨Binding.namedText insertionText.toList, Binding.numbered 1 [mixed]⟩
  have hbinds : n.binds = ["p1"] := by decide +kernel
  have hmade : NamedStatement.ofMarks (.text insertionText) [mixed] = .ok n := by
    change (if n.structured.all (fun name => name ∈ n.binds) then _ else _) = _
    rw [hbinds]
    rfl
  have harguments : n.arguments = .error .unsendable := by
    unfold NamedStatement.arguments
    rw [hbinds]
    rfl
  unfold Host.prepared
  simp only [hmade, harguments, bind, Except.bind]
  rfl

/-! ## Over a driver that never fails -/

/-- Over drivers that never fail, programs whose statements can be sent go alike
over a recorder and over an engine, unless they may need more connections at once
than there can be. -/
theorem goesAlike_of_sendable
    {w : EngineWorld} (hw : w.Reachable []) (hwilling : w.IsWilling) {d : Database}
    (hquoting : d.quoting = true) {steps : List Step} (hsteps : Sendable steps)
    (hdemand : Step.demandAll [] false steps ≤ Host.mostConnections) (log : Log) :
    GoesAlike d steps log w := by
  have hplain : Plain log [] [] log := ⟨by simp, (List.append_nil _).symm⟩
  have htold : Told w.host.commands [] [] w :=
    ⟨⟨[], rfl, hw⟩, hwilling, (List.append_nil _).symm⟩
  obtain ⟨⟨replies, failure⟩, notes, _, hnoted, hlogged, _, rfl⟩ :=
    (d.runAll_agree (plain_simulation log) hplain (List.nil_subset _)
      (List.mem_cons_self ..) steps).split
  obtain ⟨_, _, w', hnoted', hsent, hafter⟩ :=
    (d.runAll_agree_within (told_simulation w.host.commands) htold (List.nil_subset _)
      (List.mem_cons_self ..) steps (hsteps.admits hquoting hdemand)).split
  -- The recorder that attributes its entries is in both comparisons.
  obtain ⟨rfl, rfl⟩ := Prod.mk.inj (hnoted.symm.trans hnoted')
  cases hrun : d.runAll engineAdapter .root [] .root w steps with
  | mk ended last =>
      rw [List.map_nil, d.runAll_withoutRows, hrun] at hsent
      cases hsent
      exact ⟨_, _, _, notes, _, hlogged, hnoted, hrun, rfl, hafter.commands⟩

theorem goesAlike_inserting :
    let steps : List Step :=
      [.query (.text "docs") (inserting (.dict [])),
        .transaction
          [.attempt (.outer (.transaction [.raise "stop"] .null)),
            .outer (.query (.text "docs") (inserting .null)),
            .transaction [.query (.text "docs") (inserting (.int 1))] .null] .null]
    let insertion (v : Value) : Command :=
      .statement (.text "INSERT INTO \"docs\" (\"doc\") VALUES (:p1) RETURNING *")
        (some [("p1", v)])
    answering.Reachable [] ∧ answering.IsWilling ∧ docs.quoting = true ∧ Sendable steps ∧
      Step.demandAll [] false steps ≤ Host.mostConnections ∧ GoesAlike docs steps [] answering ∧
      (docs.runAll engineAdapter .root [] .root answering steps).2.host.commands =
        [.start, insertion (.text "{}"), .commit, .start, .start, .rollback, .start,
          insertion .null, .commit, insertion (.int 1), .commit] := by
  intro steps insertion
  have hw : answering.Reachable [] := .ofOwner _ _ rfl
  have hwilling : answering.IsWilling := by
    apply isWilling_ofOwner
    · exact ⟨⟨"postgresql", false⟩, rfl, by decide⟩
    · exact Script.isWilling_of_statements (by simp)
  have hsteps : Sendable steps := by
    apply sendable_inserting [.dict [], .null, .int 1] rfl rfl
    decide
  have hdemand : Step.demandAll [] false steps ≤ Host.mostConnections := by decide
  have halike := goesAlike_of_sendable hw hwilling (d := docs) rfl hsteps hdemand []
  refine ⟨hw, hwilling, rfl, hsteps, hdemand, halike, ?_⟩
  obtain ⟨_, _, _, notes, w', _, hnoted, hrun, _, hcommands⟩ := halike
  obtain rfl : notes = (docs.runAll attributing false [] false [] steps).2 :=
    (congrArg Prod.snd hnoted).symm
  have hnotes : (docs.runAll attributing false [] false [] steps).2 =
      [⟨false, .statement (.text insertionText) [.dict []]⟩, ⟨false, .start⟩, ⟨false, .start⟩,
        ⟨true, .rollback⟩, ⟨false, .statement (.text insertionText) [.null]⟩,
        ⟨true, .statement (.text insertionText) [.int 1]⟩, ⟨true, .commit⟩] := by
    simp only [steps, Database.runAll, Database.run, query_inserting]
    rfl
  rw [hrun]
  refine hcommands.trans ?_
  rw [hnotes]
  rfl

/-- A recorder has room for any number of transactions at once, and for
parameters without JSON text even where all mappings among them have one. -/
theorem not_goesAlike_nested :
    let inserted := ({ table := .text "docs" } : Builder).met (inserting mixed)
    unasked.Reachable [] ∧ unasked.IsWilling ∧ docs.quoting = true ∧
      (Sendable [nested 16] ∧ ¬ GoesAlike docs [nested 16] [] unasked) ∧
      (∀ b ∈ inserted, (∀ s, b.snapshot = .ok s → s.HasRegularNames) ∧
        ∀ c, b.compile true = .ok c → ∀ v ∈ c.parameters, v.isDict = true → v.jsonText? ≠ none) ∧
      ¬ GoesAlike docs [.query (.text "docs") (inserting mixed)] [] unasked := by
  intro inserted
  have hwilling : unasked.IsWilling :=
    isWilling_ofBlueprint _ (Script.isWilling_of_statements (List.forall_mem_nil _))
  refine ⟨.ofBlueprint _ _, hwilling, rfl, ⟨?_, ?_⟩, ?_, ?_⟩
  · exact sendable_inserting [] rfl rfl (by simp)
  · exact not_goesAlike rfl (by rfl : _ = some Failure.exhausted)
  · intro b hb
    obtain ⟨hnames, hparameters⟩ := met_inserting mixed b hb
    refine ⟨hnames, ?_⟩
    intro c hc v hv hdict
    rcases hparameters c hc with hnone | hone
    · simp [hnone] at hv
    · obtain rfl : v = mixed := by simpa [hone] using hv
      cases hdict
  · refine not_goesAlike ?_ (?_ : _ = some Failure.unsendable)
    · simp only [Database.runAll, Database.run, query_inserting]
      rfl
    · simp only [Database.runAll, Database.run, query_inserting, engineAdapter, send,
        Host.performAlone, Host.perform, prepared_mixed]
      rfl

end EngineWorld

end SqlBuilder
