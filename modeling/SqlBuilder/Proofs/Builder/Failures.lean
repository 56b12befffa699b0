import SqlBuilder.Proofs.Builder.Reachable
import SqlBuilder.Proofs.Value.Fields

/-!
# How builders fail

A statement that cannot be compiled is rejected, with a reason that tells what
is wrong with the query.  A builder whose names are texts always has a statement,
but for one case: an insertion accepts a list with nothing in the place of a
record, and the check of the snapshot does not.  It reports every such place.
-/

namespace SqlBuilder

/-! ## Failures that say what is wrong with a query -/

def Failure.IsQueryBuild : Failure → Prop
  | rejected reason => .queryBuild ∈ reason.kind.lineage
  | _ => False

namespace Outcome

variable {α β : Type}

/-- The call fails in no other way than that its query is rejected. -/
def OnlyQueryBuild (x : Outcome α) : Prop :=
  ∀ failure, x = .error failure → failure.IsQueryBuild

theorem onlyQueryBuild_ok (a : α) : OnlyQueryBuild (.ok a : Outcome α) := failsOnly_ok a

theorem onlyQueryBuild_reject
    {reason : Rejection} (hreason : .queryBuild ∈ reason.kind.lineage) :
    OnlyQueryBuild (reject reason : Outcome α) := failsOnly_error hreason

theorem OnlyQueryBuild.bind
    {x : Outcome α} {f : α → Outcome β} (hx : OnlyQueryBuild x)
    (hf : ∀ a, OnlyQueryBuild (f a)) : OnlyQueryBuild (x >>= f) :=
  FailsOnly.bind hx fun a _ => hf a

end Outcome

open Outcome

theorem Filter.onlyQueryBuild_condition (quoting : Bool) (f : Filter) :
    OnlyQueryBuild (f.condition quoting) := by
  unfold condition
  cases f.operator with
  | isIn | notIn =>
      simp only
      split
      next => exact onlyQueryBuild_reject (List.mem_cons_of_mem _ List.mem_cons_self)
      next => exact onlyQueryBuild_ok _
      next => exact onlyQueryBuild_ok _
  | is | isNot | eq | ne | gt | lt | gte | lte | like | ilike => exact onlyQueryBuild_ok _

namespace Filters

theorem onlyQueryBuild_rest (quoting : Bool) (fs : List Filter) :
    OnlyQueryBuild (rest quoting fs) := by
  induction fs with
  | nil => exact onlyQueryBuild_ok []
  | cons f fs ih =>
      exact (f.onlyQueryBuild_condition quoting).bind fun _ => ih.bind fun _ => onlyQueryBuild_ok _

theorem onlyQueryBuild_whereClause (quoting : Bool) (fs : List Filter) :
    OnlyQueryBuild (whereClause quoting fs) := by
  cases fs with
  | nil => exact onlyQueryBuild_ok []
  | cons f fs =>
      have hchained : OnlyQueryBuild (chained quoting (f :: fs)) :=
        (f.onlyQueryBuild_condition quoting).bind fun _ =>
          (onlyQueryBuild_rest quoting fs).bind fun _ => onlyQueryBuild_ok _
      exact hchained.bind fun _ => onlyQueryBuild_ok _

end Filters

theorem Record.onlyQueryBuild_rows
    (table : String) (columns : List String) (index : Nat) (records : List Record) :
    OnlyQueryBuild (rows table columns index records) := by
  induction records generalizing index with
  | nil => exact onlyQueryBuild_ok []
  | cons record records ih =>
      unfold rows
      split
      next => exact (ih (index + 1)).bind fun _ => onlyQueryBuild_ok _
      next => exact onlyQueryBuild_reject List.mem_cons_self

namespace Statement

theorem onlyQueryBuild_nothingToWrite (s : Statement) (reason : String) :
    OnlyQueryBuild (s.nothingToWrite reason) :=
  onlyQueryBuild_reject (List.mem_cons_of_mem _ List.mem_cons_self)

theorem onlyQueryBuild_insertDraft (quoting : Bool) (s : Statement) :
    OnlyQueryBuild (s.insertDraft quoting) := by
  unfold insertDraft
  split
  next => exact s.onlyQueryBuild_nothingToWrite _
  next => exact s.onlyQueryBuild_nothingToWrite _
  next => exact s.onlyQueryBuild_nothingToWrite _
  next => exact (Record.onlyQueryBuild_rows _ _ _ _).bind fun _ => onlyQueryBuild_ok _

theorem onlyQueryBuild_updateDraft (quoting : Bool) (s : Statement) :
    OnlyQueryBuild (s.updateDraft quoting) := by
  unfold updateDraft
  split
  next => exact s.onlyQueryBuild_nothingToWrite _
  next => exact onlyQueryBuild_reject List.mem_cons_self
  next => exact s.onlyQueryBuild_nothingToWrite _
  next => exact (Filters.onlyQueryBuild_whereClause quoting _).bind fun _ => onlyQueryBuild_ok _

/-- A statement is compiled, or rejected as a query. -/
theorem onlyQueryBuild_compile (quoting : Bool) (s : Statement) :
    OnlyQueryBuild (s.compile quoting) := by
  have hfiltered : ∀ make : Draft → Draft,
      OnlyQueryBuild (do return make (← Filters.whereClause quoting s.filters)) :=
    fun make => (Filters.onlyQueryBuild_whereClause quoting s.filters).bind
      fun _ => onlyQueryBuild_ok _
  have hdraft : OnlyQueryBuild (s.draft quoting) := by
    unfold draft
    split
    next => exact onlyQueryBuild_reject (List.mem_cons_of_mem _ List.mem_cons_self)
    next =>
      cases s.operation with
      | select => exact hfiltered _
      | insert => exact onlyQueryBuild_insertDraft quoting s
      | update => exact onlyQueryBuild_updateDraft quoting s
      | delete => exact hfiltered _
  exact hdraft.bind fun _ => onlyQueryBuild_ok _

end Statement

/-! ## Records from texts -/

/-- A record whose columns are texts, or nothing in its place. -/
inductive Value.IsGiven : Value → Prop
  | nothing : IsGiven .null
  | record {entries : List (Value × Value)} (columns : ∀ entry ∈ entries, entry.1.IsText) :
      IsGiven (.dict entries)

/-- What a builder keeps of data to write: one record or a list of them. -/
inductive Value.IsKept : Value → Prop
  | single {v : Value} (given : v.IsGiven) : IsKept v
  | many {vs : List Value} (given : ∀ v ∈ vs, v.IsGiven) : IsKept (.list vs)

/-- The columns of every record in the data are texts. -/
def Value.HasTextColumns : Value → Prop
  | dict entries => ∀ entry ∈ entries, entry.1.IsText
  | list vs | tuple vs => ∀ entries, dict entries ∈ vs → ∀ entry ∈ entries, entry.1.IsText
  | _ => True

def blanksFrom : (start : Nat) → List Value → List Nat
  | _, [] => []
  | i, .null :: vs => i :: blanksFrom (i + 1) vs
  | i, _ :: vs => blanksFrom (i + 1) vs

/-- The places in data to write that hold nothing where a record is due. -/
def Value.blanks : Value → List Nat
  | list vs | tuple vs => blanksFrom 0 vs
  | _ => []

/-! ## What data is accepted -/

theorem isGiven_of_writtenRecord
    {index : Nat} {v w : Value}
    (hcolumns : ∀ entries, v = .dict entries → ∀ entry ∈ entries, entry.1.IsText)
    (hw : writtenRecord index v = .ok w) : w = v ∧ v.IsGiven := by
  unfold writtenRecord at hw
  split at hw
  next => exact ⟨(Except.ok.inj hw).symm, .nothing⟩
  next entries => exact ⟨(Except.ok.inj hw).symm, .record (hcolumns entries rfl)⟩
  next => exact absurd hw (Outcome.reject_ne_ok _ _)

theorem isGiven_of_writtenRecords
    {start : Nat} {vs ws : List Value}
    (hcolumns : ∀ entries, .dict entries ∈ vs → ∀ entry ∈ entries, entry.1.IsText)
    (hws : writtenRecords start vs = .ok ws) : ws = vs ∧ ∀ v ∈ vs, v.IsGiven := by
  induction vs generalizing start ws with
  | nil =>
      obtain rfl := Except.ok.inj hws
      simp
  | cons v vs ih =>
      unfold writtenRecords at hws
      obtain ⟨w, hw, hws⟩ := Outcome.bind_eq_ok.mp hws
      obtain ⟨others, hothers, hws⟩ := Outcome.bind_eq_ok.mp hws
      obtain rfl := Outcome.pure_eq_ok.mp hws
      have hfirst : ∀ entries, v = .dict entries → ∀ entry ∈ entries, entry.1.IsText := by
        rintro entries rfl
        exact hcolumns entries List.mem_cons_self
      have hrest : ∀ entries, .dict entries ∈ vs → ∀ entry ∈ entries, entry.1.IsText :=
        fun entries hentries => hcolumns entries (List.mem_cons_of_mem v hentries)
      obtain ⟨rfl, hgiven⟩ := isGiven_of_writtenRecord hfirst hw
      obtain ⟨rfl, hothers⟩ := ih hrest hothers
      exact ⟨rfl, List.forall_mem_cons.mpr ⟨hgiven, hothers⟩⟩

theorem isKept_of_insertedPayload
    {table data payload : Value} (hcolumns : data.HasTextColumns)
    (hpayload : insertedPayload table data = .ok payload) :
    payload.IsKept ∧ payload.blanks = data.blanks := by
  unfold insertedPayload at hpayload
  split at hpayload
  next =>
    obtain rfl := Except.ok.inj hpayload
    exact ⟨.single .nothing, rfl⟩
  next =>
    obtain rfl := Except.ok.inj hpayload
    exact ⟨.single (.record hcolumns), rfl⟩
  next =>
    obtain ⟨ws, hws, rfl⟩ := Outcome.map_eq_ok.mp hpayload
    obtain ⟨rfl, hgiven⟩ := isGiven_of_writtenRecords hcolumns hws
    exact ⟨.many hgiven, rfl⟩
  next =>
    obtain ⟨ws, hws, rfl⟩ := Outcome.map_eq_ok.mp hpayload
    obtain ⟨rfl, hgiven⟩ := isGiven_of_writtenRecords hcolumns hws
    exact ⟨.many hgiven, rfl⟩
  next => exact absurd hpayload (Outcome.reject_ne_ok _ _)

theorem isKept_of_updatedPayload
    {table data payload : Value} (hcolumns : data.HasTextColumns)
    (hpayload : updatedPayload table data = .ok payload) : payload.IsKept := by
  unfold updatedPayload at hpayload
  split at hpayload
  next =>
    obtain rfl := Except.ok.inj hpayload
    exact .single .nothing
  next =>
    obtain rfl := Except.ok.inj hpayload
    exact .single (.record hcolumns)
  next => exact absurd hpayload (Outcome.reject_ne_ok _ _)

/-! ## Checks that fail at blanks alone -/

namespace Checked

variable {α β : Type}

/-- The check of a value that is valid but for some issues. -/
def blaming (issues : List Issue) (a : α) : Checked α :=
  if issues = [] then valid a else faulty issues

theorem seq_blaming (issues others : List Issue) (f : α → β) (a : α) :
    blaming issues f <*> blaming others a = blaming (issues ++ others) (f a) := by
  cases issues <;> cases others <;> simp [blaming, Seq.seq, both]

theorem map_blaming (issues : List Issue) (f : α → β) (a : α) :
    f <$> blaming issues a = blaming issues (f a) := by
  cases issues <;> rfl

theorem within_blaming (place : Place) (issues : List Issue) (a : α) :
    (blaming issues a).within place =
      blaming (issues.map fun issue => { issue with path := place :: issue.path }) a := by
  cases issues <;> rfl

end Checked

namespace Validation

open Checked

theorem exists_recordEntries
    {entries : List (Value × Value)} (hcolumns : ∀ entry ∈ entries, entry.1.IsText) :
    ∃ fields, recordEntries entries = .valid fields := by
  induction entries with
  | nil => exact ⟨[], rfl⟩
  | cons entry entries ih =>
      obtain ⟨⟨name, hname⟩, hothers⟩ := List.forall_mem_cons.mp hcolumns
      obtain ⟨key, v⟩ := entry
      obtain rfl := hname
      obtain ⟨fields, hfields⟩ := ih hothers
      exact ⟨(name, v) :: fields, by rw [recordEntries, hfields]; rfl⟩

theorem exists_record
    {entries : List (Value × Value)} (hcolumns : ∀ entry ∈ entries, entry.1.IsText) :
    ∃ fields, record (.dict entries) = .valid fields := by
  obtain ⟨fields, hfields⟩ := exists_recordEntries hcolumns
  exact ⟨_, by rw [record, hfields]; rfl⟩

theorem exists_each_record
    {vs : List Value} (hvs : ∀ v ∈ vs, v.IsGiven) (start : Nat) :
    ∃ rows, each record start vs =
      blaming ((blanksFrom start vs).map fun (i : Nat) => ⟨[.at i], .notMapping⟩) rows := by
  induction vs generalizing start with
  | nil => exact ⟨[], rfl⟩
  | cons v vs ih =>
      obtain ⟨hv, hothers⟩ := List.forall_mem_cons.mp hvs
      obtain ⟨rows, hrows⟩ := ih hothers (start + 1)
      rw [each, hrows]
      -- a blank is an issue of its own, and a record is none
      cases hv with
      | nothing =>
          have hblank : (record .null).within (.at start) =
              blaming [⟨[.at start], .notMapping⟩] ([] : Fields) := rfl
          rw [hblank, map_blaming, seq_blaming]
          exact ⟨_, rfl⟩
      | record columns =>
          obtain ⟨fields, hfields⟩ := exists_record columns
          have hvalid : (Checked.valid fields).within (.at start) = blaming [] fields := rfl
          rw [hfields, hvalid, map_blaming, seq_blaming]
          exact ⟨_, rfl⟩

/-- Why a list with blanks is neither a record nor a list of records. -/
def blankIssues (blanks : List Nat) : List Issue :=
  if blanks = [] then []
  else ⟨[.named "dict[str,any]"], .notMapping⟩
    :: blanks.map fun (i : Nat) => ⟨[.named "list[dict[str,any]]", .at i], .notMapping⟩

theorem exists_payload
    {v : Value} (hv : v.IsKept) :
    ∃ p, payload v = blaming (blankIssues v.blanks) p := by
  cases hv with
  | single given =>
      cases given with
      | nothing => exact ⟨.nothing, rfl⟩
      | record columns =>
          obtain ⟨fields, hfields⟩ := exists_record columns
          refine ⟨.record fields, ?_⟩
          simp only [payload, hfields]
          rfl
  | @many vs given =>
      obtain ⟨rows, hrows⟩ := exists_each_record given 0
      have hlist : listOf record (.list vs) =
          blaming ((blanksFrom 0 vs).map fun (i : Nat) => ⟨[.at i], .notMapping⟩) rows := hrows
      have hmapping : record (.list vs) = .faulty [⟨[], .notMapping⟩] := rfl
      simp only [payload, hmapping, hlist, Value.blanks]
      cases blanksFrom 0 vs with
      | nil => exact ⟨.records rows, rfl⟩
      | cons i blanks =>
          refine ⟨.nothing, ?_⟩
          simp [blaming, blankIssues, within, Functor.map, map, Seq.seq, both]

end Validation

/-! ## Builders with texts as names -/

def Change.HasTextNames : Change → Prop
  | select columns => ∀ v ∈ columns, v.IsText
  | insert data | update data => data.HasTextColumns
  -- tables and columns of joins and conditions are checked by the change itself
  | delete | join .. | filter .. | limit _ | offset _ => True

/-- The names a call gives are texts, if it asks for a change at all. -/
def Call.HasTextNames (c : Call) : Prop :=
  ∀ change, Request.ofWord c.word c.args c.named = .ok (.change change) → change.HasTextNames

namespace Builder

structure HasTextNames (b : Builder) : Prop where
  table : b.table.IsText
  projection : ∀ v ∈ b.projection, v.IsText
  payload : b.payload.IsKept

theorem Step.hasTextNames
    {b b' : Builder} {c : Change} (hstep : b.Step c b') (hc : c.HasTextNames)
    (hb : b.HasTextNames) : b'.HasTextNames := by
  obtain ⟨htable, hprojection, hpayload⟩ := hb
  cases hstep with
  | refused | insertRefused | updateRefused | deleted | joined | filtered | limited | skipped =>
      exact ⟨htable, hprojection, hpayload⟩
  | selected => exact ⟨htable, hc, hpayload⟩
  | inserted hdata => exact ⟨htable, hprojection, (isKept_of_insertedPayload hc hdata).1⟩
  | updated hdata => exact ⟨htable, hprojection, isKept_of_updatedPayload hc hdata⟩

theorem hasTextNames_met
    {name : String} {calls : List Call} (hcalls : ∀ c ∈ calls, c.HasTextNames) :
    ∀ b ∈ ({ table := .text name } : Builder).met calls, b.HasTextNames := by
  apply forall_met
  · intro b hb c hc
    unfold after
    split
    next change hchange => exact (step_change b change).hasTextNames (hcalls c hc change hchange) hb
    next => exact hb
  · exact ⟨⟨name, rfl⟩, by simp, .single .nothing⟩

theorem each_text
    {vs : List Value} (hvs : ∀ v ∈ vs, v.IsText) (start : Nat) :
    ∃ names, Checked.each Validation.text start vs = .valid names := by
  induction vs generalizing start with
  | nil => exact ⟨[], rfl⟩
  | cons v vs ih =>
      obtain ⟨⟨name, rfl⟩, hothers⟩ := List.forall_mem_cons.mp hvs
      obtain ⟨names, hnames⟩ := ih hothers (start + 1)
      exact ⟨name :: names, by rw [Checked.each, hnames]; rfl⟩

/-- The issues of a snapshot whose payload has blanks. -/
def blankIssues (blanks : List Nat) : List Issue :=
  (Validation.blankIssues blanks).map fun issue =>
    { issue with path := .named "payload" :: issue.path }

theorem snapshot_of_blanks
    {b : Builder} (hb : b.HasTextNames) :
    (b.payload.blanks = [] → ∃ s, b.snapshot = .ok s) ∧
    (b.payload.blanks ≠ [] → b.snapshot =
      .error (.invalid RecordKind.statement.title (blankIssues b.payload.blanks))) := by
  obtain ⟨⟨name, hname⟩, hprojection, hpayload⟩ := hb
  obtain ⟨names, hnames⟩ := each_text hprojection 0
  obtain ⟨payload, hpayload⟩ := Validation.exists_payload hpayload
  have htable : Validation.text b.table = .valid name := by rw [hname]; rfl
  have hsnapshot : b.snapshot = (Checked.blaming (blankIssues b.payload.blanks)
      ({ b with table := name, projection := names, payload } : Statement)).orInvalid
        RecordKind.statement.title := by
    unfold snapshot
    rw [htable, hnames, hpayload, Checked.within_blaming]
    exact congrArg (Checked.orInvalid _) (Checked.seq_blaming [] _ _ payload)
  rw [hsnapshot]
  cases b.payload.blanks with
  | nil => exact ⟨fun _ => ⟨_, rfl⟩, fun h => absurd rfl h⟩
  | cons i blanks => exact ⟨fun h => absurd h (List.cons_ne_nil i blanks), fun _ => rfl⟩

theorem blanks_of_inserted
    {b : Builder} {data : Value} (hdata : data.HasTextColumns)
    (haccepted : (b.change (.insert data)).refusal = none) :
    (b.change (.insert data)).builder.payload.blanks = data.blanks := by
  unfold change write at haccepted ⊢
  simp only at haccepted ⊢
  split
  next hpayload => exact (isKept_of_insertedPayload hdata hpayload).2
  next hpayload => simp [hpayload] at haccepted

/-- Where a builder comes to by calls whose names are texts, it fails to be compiled for no other
reason than that its query is rejected, unless a list of records that it was given has blanks.  It
accepts such a list, and each compilation fails in the check of the snapshot, which finds every
blank and no other fault. -/
theorem compile_failure
    {name : String} {calls : List Call} (hcalls : ∀ c ∈ calls, c.HasTextNames) {b : Builder}
    (hb : b ∈ ({ table := .text name } : Builder).met calls) :
    (b.payload.blanks = [] →
      (∃ s, b.snapshot = .ok s) ∧
      ∀ quoting failure, b.compile quoting = .error failure → failure.IsQueryBuild) ∧
    (b.payload.blanks ≠ [] → ∀ quoting, b.compile quoting =
      .error (.invalid RecordKind.statement.title (blankIssues b.payload.blanks))) ∧
    ∀ data : Value, data.HasTextColumns → (b.change (.insert data)).refusal = none →
      ((∃ s, (b.change (.insert data)).builder.snapshot = .ok s) ↔ data.blanks = []) := by
  have hnames := hasTextNames_met hcalls b hb
  obtain ⟨hcomplete, hlacking⟩ := snapshot_of_blanks hnames
  refine ⟨?_, ?_, ?_⟩
  · intro hblanks
    obtain ⟨s, hs⟩ := hcomplete hblanks
    refine ⟨⟨s, hs⟩, ?_⟩
    intro quoting failure hfailure
    unfold compile at hfailure
    rw [hs] at hfailure
    exact Statement.onlyQueryBuild_compile quoting s failure hfailure
  · intro hblanks quoting
    unfold compile
    rw [hlacking hblanks]
    rfl
  · intro data hdata haccepted
    have hlater := (step_change b (.insert data)).hasTextNames hdata hnames
    obtain ⟨hcomplete, hlacking⟩ := snapshot_of_blanks hlater
    rw [blanks_of_inserted hdata haccepted] at hcomplete hlacking
    refine ⟨?_, hcomplete⟩
    rintro ⟨s, hs⟩
    by_contra hblanks
    rw [hlacking hblanks] at hs
    cases hs

/-- The second of two records is missing; this is accepted, and found when the statement is
compiled. -/
theorem compile_failure_blank :
    let data : Value := .list [.dict [(.text "a", .int 1)], .null]
    let calls : List Call := [⟨"insert", [data], []⟩, ⟨"select", [.text "id"], []⟩]
    let b := (({ table := .text "t" } : Builder).after ⟨"insert", [data], []⟩).after
      ⟨"select", [.text "id"], []⟩
    (∀ c ∈ calls, c.HasTextNames) ∧ b ∈ ({ table := .text "t" } : Builder).met calls ∧
      (b.change (.insert data)).refusal = none ∧
      b.compile true = .error (.invalid "StatementState"
        [⟨[.named "payload", .named "dict[str,any]"], .notMapping⟩,
          ⟨[.named "payload", .named "list[dict[str,any]]", .at 1], .notMapping⟩]) ∧
      ¬ ∃ s, (b.change (.insert data)).builder.snapshot = .ok s := by
  intro data calls b
  have hinsert : Request.ofWord "insert" [data] [] = .ok (.change (.insert data)) := by cbv
  have hselect : Request.ofWord "select" [.text "id"] [] =
      .ok (.change (.select [.text "id"])) := by cbv
  have hdata : data.HasTextColumns := by
    intro entries hentries entry hentry
    simp only [List.mem_cons, List.not_mem_nil, or_false, Value.dict.injEq,
      reduceCtorEq] at hentries
    subst hentries
    obtain rfl := List.mem_singleton.mp hentry
    exact ⟨"a", rfl⟩
  have hcalls : ∀ c ∈ calls, c.HasTextNames := by
    refine List.forall_mem_cons.mpr ⟨?_, List.forall_mem_singleton.mpr ?_⟩
    · intro change hchange
      cases hinsert.symm.trans hchange
      exact hdata
    · intro change hchange
      cases hselect.symm.trans hchange
      exact List.forall_mem_singleton.mpr ⟨"id", rfl⟩
  have hb : b ∈ ({ table := .text "t" } : Builder).met calls := by simp [b, calls, met]
  have hpayload : b.payload = data := by cbv
  have hblanks : b.payload.blanks = [1] := by rw [hpayload]; rfl
  obtain ⟨_, hfails, haccepts⟩ := compile_failure hcalls hb
  have haccepted : (b.change (.insert data)).refusal = none := rfl
  refine ⟨hcalls, hb, haccepted, ?_, ?_⟩
  · have hfailure := hfails (by simp [hblanks]) true
    rwa [hblanks] at hfailure
  · rw [haccepts data hdata haccepted]
    exact List.cons_ne_nil _ _

end Builder

end SqlBuilder
