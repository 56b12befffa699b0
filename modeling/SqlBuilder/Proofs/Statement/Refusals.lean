import SqlBuilder.Proofs.Statement.Rows

/-!
# When statements are refused

A statement is refused for one of four reasons, and they are looked for in this
order: joins outside a selection, nothing to write, records that cannot be
written, and a filter that asks for membership in what is no list.  An insertion
has its filters left alone, and a selection or deletion its records.  A statement
that none of the four applies to is compiled.
-/

namespace SqlBuilder

/-- The rejection that a call ends with. -/
def Outcome.rejection? {α : Type} : Outcome α → Option Rejection
  | .error (.rejected reason) => some reason
  | _ => none

@[simp] theorem Outcome.rejection?_reject {α : Type} (reason : Rejection) :
    (reject reason : Outcome α).rejection? = some reason := rfl

@[simp] theorem Outcome.rejection?_ok {α : Type} (a : α) :
    rejection? (.ok a : Outcome α) = none := rfl

/-! ## Filters -/

theorem Value.listed?_eq_none_iff {v : Value} :
    v.listed? = none ↔ ∀ items, v ≠ list items ∧ v ≠ tuple items := by
  cases v <;> simp [listed?]

namespace Filter

/-- A filter that asks for membership in what is neither a list nor a tuple. -/
def LacksList (f : Filter) : Prop :=
  (f.operator = .isIn ∨ f.operator = .notIn) ∧
    ∀ items, f.value ≠ .list items ∧ f.value ≠ .tuple items

/-- Why a filter without a list is refused. -/
def listDemand (f : Filter) : Rejection :=
  .invalidFilter (.text f.column)
    (.text (f.operator.word ++ " needs a list of values, got " ++ f.value.shown))

theorem condition_of_lacksList {f : Filter} (hf : f.LacksList) (quoting : Bool) :
    f.condition quoting = Outcome.reject f.listDemand := by
  obtain ⟨connective, column, operator, v⟩ := f
  obtain ⟨hoperator, hvalue⟩ := hf
  have hlisted := Value.listed?_eq_none_iff.mpr hvalue
  simp only at hoperator hlisted
  unfold condition
  rcases hoperator with rfl | rfl
  · simp only [hlisted]
    rfl
  · simp only [hlisted]
    rfl

theorem exists_condition {f : Filter} (hf : ¬ f.LacksList) (quoting : Bool) :
    ∃ d, f.condition quoting = .ok d := by
  obtain ⟨connective, column, operator, v⟩ := f
  unfold condition
  cases operator with
  | isIn | notIn =>
      have hlisted : v.listed? ≠ none := fun hnone =>
        hf ⟨by simp, Value.listed?_eq_none_iff.mp hnone⟩
      obtain ⟨items, hitems⟩ := Option.ne_none_iff_exists'.mp hlisted
      cases items <;> simp [hitems]
  | is | isNot | eq | ne | gt | lt | gte | lte | like | ilike => exact ⟨_, rfl⟩

end Filter

namespace Filters

theorem exists_rest
    {fs : List Filter} (hfs : ∀ f ∈ fs, ¬ f.LacksList) (quoting : Bool) :
    ∃ d, rest quoting fs = .ok d := by
  induction fs with
  | nil => exact ⟨[], rfl⟩
  | cons f fs ih =>
      obtain ⟨hf, hothers⟩ := List.forall_mem_cons.mp hfs
      obtain ⟨condition, hcondition⟩ := f.exists_condition hf quoting
      obtain ⟨others, hothers⟩ := ih hothers
      refine ⟨.text (" " ++ f.connective.word ++ " ") :: (condition ++ others), ?_⟩
      rw [rest, hcondition, hothers]
      rfl

theorem exists_whereClause
    {fs : List Filter} (hfs : ∀ f ∈ fs, ¬ f.LacksList) (quoting : Bool) :
    ∃ d, whereClause quoting fs = .ok d := by
  cases fs with
  | nil => exact ⟨[], rfl⟩
  | cons f fs =>
      obtain ⟨hf, hothers⟩ := List.forall_mem_cons.mp hfs
      obtain ⟨condition, hcondition⟩ := f.exists_condition hf quoting
      obtain ⟨others, hothers⟩ := exists_rest hothers quoting
      refine ⟨.text " WHERE " :: (condition ++ others), ?_⟩
      rw [whereClause, chained, hcondition, hothers]
      rfl

/-- Where filters lack a list, one is the first of them. -/
theorem exists_first {fs : List Filter} (hfs : ∃ f ∈ fs, f.LacksList) :
    ∃ before f after, fs = before ++ f :: after ∧ f.LacksList ∧ ∀ g ∈ before, ¬ g.LacksList := by
  classical
  obtain ⟨f, hfound⟩ : ∃ f, fs.find? (fun f => f.LacksList) = some f := by
    apply Option.isSome_iff_exists.mp
    simpa using hfs
  obtain ⟨hf, before, after, hsplit, hbefore⟩ := List.find?_eq_some_iff_append.mp hfound
  exact ⟨before, f, after, hsplit, by simpa using hf, by simpa using hbefore⟩

section

variable {before : List Filter} (hbefore : ∀ g ∈ before, ¬ g.LacksList) {f : Filter}
  (hf : f.LacksList) (after : List Filter) (quoting : Bool)

include hbefore hf

theorem rest_of_first :
    rest quoting (before ++ f :: after) = Outcome.reject f.listDemand := by
  induction before with
  | nil =>
      rw [List.nil_append, rest, f.condition_of_lacksList hf]
      rfl
  | cons g before ih =>
      obtain ⟨hg, hothers⟩ := List.forall_mem_cons.mp hbefore
      obtain ⟨condition, hcondition⟩ := g.exists_condition hg quoting
      rw [List.cons_append, rest, hcondition, ih hothers]
      rfl

/-- The first filter without a list is the one that conditions are refused for. -/
theorem whereClause_of_first :
    whereClause quoting (before ++ f :: after) = Outcome.reject f.listDemand := by
  cases before with
  | nil =>
      rw [List.nil_append, whereClause, chained, f.condition_of_lacksList hf]
      rfl
  | cons g before =>
      obtain ⟨hg, hothers⟩ := List.forall_mem_cons.mp hbefore
      obtain ⟨condition, hcondition⟩ := g.exists_condition hg quoting
      rw [List.cons_append, whereClause, chained, hcondition, rest_of_first hothers hf after]
      rfl

end

end Filters

/-! ## Records -/

namespace Record

/-- The record at `index` is the first that lacks any of the columns; `missing` are all of them
that it lacks, in order. -/
structure FirstLacking (columns : List String) (records : List Record) (index : Nat)
    (missing : List String) : Prop where
  earlier : ∀ record ∈ records.take index, ∀ column ∈ columns, column ∈ record.map (·.1)
  there : ∃ record, records[index]? = some record ∧
    missing = columns.filter fun column => column ∉ record.map (·.1)
  any : missing ≠ []

theorem lacking_eq_filter (columns : List String) (record : Record) :
    lacking columns record = columns.filter fun column => column ∉ record.map (·.1) := by
  unfold lacking
  apply List.filter_congr
  intro column _
  rw [Bool.eq_iff_iff, Option.isNone_iff_eq_none, field?_eq_none_iff, decide_eq_true_iff]

theorem rows_of_firstLacking
    {columns : List String} {records : List Record} {index : Nat} {missing : List String}
    (hlacking : FirstLacking columns records index missing) (table : String) (start : Nat) :
    rows table columns start records =
      Outcome.reject (.missingColumns table (start + index) missing) := by
  obtain ⟨hearlier, ⟨record, hrecord, hmissing⟩, hany⟩ := hlacking
  induction records generalizing index start with
  | nil => simp at hrecord
  | cons first records ih =>
      cases index with
      | zero =>
          obtain rfl := Option.some.inj hrecord
          rw [← lacking_eq_filter] at hmissing
          unfold rows
          split
          next hnone => exact absurd (hmissing.trans hnone) hany
          next => rw [hmissing, Nat.add_zero]
      | succ index =>
          obtain ⟨hfirst, hothers⟩ := List.forall_mem_cons.mp hearlier
          rw [rows, lacking_eq_nil_iff.mpr hfirst, ih (start + 1) hothers hrecord,
            Nat.add_right_comm start 1 index]
          rfl

theorem exists_firstLacking
    {columns : List String} {records : List Record}
    (hrecords : ∃ record ∈ records, ∃ column ∈ columns, column ∉ record.map (·.1)) :
    ∃ index missing, FirstLacking columns records index missing := by
  induction records with
  | nil => simp at hrecords
  | cons record records ih =>
      by_cases hrecord : ∀ column ∈ columns, column ∈ record.map (·.1)
      · obtain ⟨other, hother, column, hcolumn, hmissing⟩ := hrecords
        rcases List.mem_cons.mp hother with rfl | hother
        · exact absurd (hrecord column hcolumn) hmissing
        · obtain ⟨index, missing, hearlier, hthere, hany⟩ :=
            ih ⟨other, hother, column, hcolumn, hmissing⟩
          exact ⟨index + 1, missing, List.forall_mem_cons.mpr ⟨hrecord, hearlier⟩, hthere, hany⟩
      · refine ⟨0, _, by simp, ⟨record, rfl, rfl⟩, ?_⟩
        rwa [← lacking_eq_filter, ne_eq, lacking_eq_nil_iff]

end Record

/-! ## Statements -/

namespace Statement

/-- Joins outside a selection. -/
def HasMisplacedJoins (s : Statement) : Prop := s.joins ≠ [] ∧ s.operation ≠ .select

/-- A write without anything to write: no data, no record, or no columns in the first record. -/
def WritesNothing (s : Statement) : Prop :=
  (s.operation = .insert ∧ (s.payload = .nothing ∨ s.payload = .records [] ∨
    ∃ others, s.payload.toRecords = some ([] :: others))) ∨
  (s.operation = .update ∧ (s.payload = .nothing ∨ s.payload = .record []))

/-- Records that cannot be written: a list to update with, or one to insert that lacks a column of
the first one. -/
def HasUnfitRecords (s : Statement) : Prop :=
  (s.operation = .update ∧ ∃ rows, s.payload = .records rows) ∨
  (s.operation = .insert ∧ ∃ first others, s.payload.toRecords = some (first :: others) ∧
    ∃ record ∈ first :: others, ∃ column ∈ first.map (·.1), column ∉ record.map (·.1))

/-- A filter that is looked at and asks for membership in what is no list. -/
def HasListlessFilter (s : Statement) : Prop :=
  s.operation ≠ .insert ∧ ∃ f ∈ s.filters, f.LacksList

/-- What becomes of a statement, with the reason for it. -/
inductive Verdict (s : Statement) : Outcome Compiled → Prop
  | misplacedJoins (hjoins : s.HasMisplacedJoins) :
      Verdict s (Outcome.reject (.unsupportedJoin (.text s.operation.word) (.text s.table)))
  | nothing (hjoins : ¬ s.HasMisplacedJoins) (hnothing : s.WritesNothing) (reason : Value) :
      Verdict s (Outcome.reject
        (.emptyPayload (.text s.operation.word) (.text s.table) reason))
  | recordList (hjoins : ¬ s.HasMisplacedJoins) (hnothing : ¬ s.WritesNothing)
      (hunfit : s.HasUnfitRecords) (hupdate : s.operation = .update) :
      Verdict s (Outcome.reject (.recordList s.table))
  | missingColumns (hjoins : ¬ s.HasMisplacedJoins) (hnothing : ¬ s.WritesNothing)
      (hunfit : s.HasUnfitRecords) {first : Record} {others : List Record}
      (hrecords : s.payload.toRecords = some (first :: others)) {index : Nat}
      {missing : List String}
      (hlacking : Record.FirstLacking (first.map (·.1)) (first :: others) index missing) :
      Verdict s (Outcome.reject (.missingColumns s.table index missing))
  | listless (hjoins : ¬ s.HasMisplacedJoins) (hnothing : ¬ s.WritesNothing)
      (hrecords : ¬ s.HasUnfitRecords) (hinsert : s.operation ≠ .insert)
      {before after : List Filter} {f : Filter} (hfilters : s.filters = before ++ f :: after)
      (hbefore : ∀ g ∈ before, ¬ g.LacksList) (hf : f.LacksList) :
      Verdict s (Outcome.reject f.listDemand)
  | compiled (hjoins : ¬ s.HasMisplacedJoins) (hnothing : ¬ s.WritesNothing)
      (hrecords : ¬ s.HasUnfitRecords) (hfilters : ¬ s.HasListlessFilter) (c : Compiled) :
      Verdict s (.ok c)

theorem draft_of_placed {s : Statement} (hjoins : ¬ s.HasMisplacedJoins) (quoting : Bool) :
    s.draft quoting = match s.operation with
      | .select => s.selectDraft quoting
      | .insert => s.insertDraft quoting
      | .update => s.updateDraft quoting
      | .delete => s.deleteDraft quoting := by
  have hplaced : (!s.joins.isEmpty && decide (s.operation ≠ .select)) = false := by
    rw [Bool.eq_false_iff]
    intro h
    simp only [Bool.and_eq_true, Bool.not_eq_true', List.isEmpty_eq_false_iff,
      decide_eq_true_eq] at h
    exact hjoins h
  unfold draft
  refine (if_neg ?_).trans ?_
  · rw [hplaced]
    exact Bool.false_ne_true
  · cases s.operation <;> rfl

section

variable {s : Statement} (hinsert : s.operation = .insert) {first : Record} {others : List Record}
  (hrecords : s.payload.toRecords = some (first :: others))

include hinsert hrecords

theorem not_writesNothing_of_records (hfirst : first ≠ []) : ¬ s.WritesNothing := by
  rintro (⟨_, hpayload | hpayload | ⟨others, hempty⟩⟩ | ⟨hupdate, _⟩)
  · simp [hpayload, Payload.toRecords] at hrecords
  · simp [hpayload, Payload.toRecords] at hrecords
  · rw [hrecords] at hempty
    exact hfirst (List.cons.inj (Option.some.inj hempty)).1
  · simp [hinsert] at hupdate

theorem hasUnfitRecords_iff :
    s.HasUnfitRecords ↔
      ∃ record ∈ first :: others, ∃ column ∈ first.map (·.1), column ∉ record.map (·.1) := by
  constructor
  · rintro (⟨hupdate, _⟩ | ⟨_, first', others', hrecords', hlacking⟩)
    · simp [hinsert] at hupdate
    · rw [hrecords] at hrecords'
      obtain ⟨rfl, rfl⟩ := List.cons.inj (Option.some.inj hrecords')
      exact hlacking
  · intro hlacking
    exact .inr ⟨hinsert, first, others, hrecords, hlacking⟩

end

section

variable {s : Statement} {quoting : Bool} (hjoins : ¬ s.HasMisplacedJoins)

include hjoins

/-- What becomes of a statement is decided by its filters if all else is in order. -/
theorem verdict_of_filters
    (hnothing : ¬ s.WritesNothing) (hrecords : ¬ s.HasUnfitRecords) (hinsert : s.operation ≠ .insert)
    {make : Draft → Draft}
    (hdraft : s.draft quoting = (Filters.whereClause quoting s.filters).map make) :
    s.Verdict (s.compile quoting) := by
  unfold compile
  rw [hdraft]
  by_cases hfilters : ∃ f ∈ s.filters, f.LacksList
  · obtain ⟨before, f, after, hsplit, hf, hbefore⟩ := Filters.exists_first hfilters
    rw [hsplit, Filters.whereClause_of_first hbefore hf]
    exact .listless hjoins hnothing hrecords hinsert hsplit hbefore hf
  · have hlists : ∀ f ∈ s.filters, ¬ f.LacksList := fun f hf hlist => hfilters ⟨f, hf, hlist⟩
    obtain ⟨conditions, hconditions⟩ := Filters.exists_whereClause hlists quoting
    rw [hconditions]
    exact .compiled hjoins hnothing hrecords (fun h => hfilters h.2) _

theorem verdict_insert (hinsert : s.operation = .insert) : s.Verdict (s.compile quoting) := by
  have hdraft : s.draft quoting = s.insertDraft quoting := by
    rw [draft_of_placed hjoins, hinsert]
  have hrefused : s.WritesNothing → ∀ reason, s.insertDraft quoting = s.nothingToWrite reason →
      s.Verdict (s.compile quoting) := by
    intro hnothing reason hreason
    unfold compile
    rw [hdraft, hreason]
    exact .nothing hjoins hnothing _
  match hrecords : s.payload.toRecords with
  | none =>
      have hpayload : s.payload = .nothing := by
        cases hpayload : s.payload <;> simp [hpayload, Payload.toRecords] at hrecords ⊢
      exact hrefused (.inl ⟨hinsert, .inl hpayload⟩) _ (by rw [insertDraft, hrecords])
  | some [] =>
      have hpayload : s.payload = .records [] := by
        cases hpayload : s.payload <;> simp_all [Payload.toRecords]
      exact hrefused (.inl ⟨hinsert, .inr (.inl hpayload)⟩) _ (by rw [insertDraft, hrecords])
  | some ([] :: others) =>
      exact hrefused (.inl ⟨hinsert, .inr (.inr ⟨others, hrecords⟩)⟩) _
        (by rw [insertDraft, hrecords])
  | some ((field :: fields) :: others) =>
      have hnothing := not_writesNothing_of_records hinsert hrecords (List.cons_ne_nil field fields)
      by_cases hunfit : s.HasUnfitRecords
      · obtain ⟨index, missing, hlacking⟩ :=
          Record.exists_firstLacking ((hasUnfitRecords_iff hinsert hrecords).mp hunfit)
        unfold compile
        rw [hdraft, insertDraft_of_records quoting s hrecords (List.cons_ne_nil field fields),
          Record.rows_of_firstLacking hlacking, Nat.zero_add]
        exact .missingColumns hjoins hnothing hunfit hrecords hlacking
      · have hcomplete : ∀ record ∈ (field :: fields) :: others,
            ∀ column ∈ (field :: fields).map (·.1), column ∈ record.map (·.1) := by
          intro record hrecord column hcolumn
          by_contra hmissing
          exact hunfit ((hasUnfitRecords_iff hinsert hrecords).mpr
            ⟨record, hrecord, column, hcolumn, hmissing⟩)
        have hplaced : s.joins = [] := by
          by_contra hjoined
          exact hjoins ⟨hjoined, by simp [hinsert]⟩
        rw [compile_insert hinsert hplaced hrecords (List.cons_ne_nil field fields) hcomplete]
        exact .compiled hjoins hnothing hunfit (fun h => h.1 hinsert) _

theorem verdict_update (hupdate : s.operation = .update) : s.Verdict (s.compile quoting) := by
  have hdraft : s.draft quoting = s.updateDraft quoting := by
    rw [draft_of_placed hjoins, hupdate]
  cases hpayload : s.payload with
  | nothing =>
      unfold compile
      rw [hdraft, updateDraft, hpayload]
      exact .nothing hjoins (.inr ⟨hupdate, .inl hpayload⟩) _
  | records rows =>
      unfold compile
      rw [hdraft, updateDraft, hpayload]
      refine .recordList hjoins ?_ (.inl ⟨hupdate, rows, hpayload⟩) hupdate
      simp [WritesNothing, hupdate, hpayload]
  | record fields =>
      by_cases hfields : fields = []
      · subst hfields
        unfold compile
        rw [hdraft, updateDraft, hpayload]
        exact .nothing hjoins (.inr ⟨hupdate, .inr hpayload⟩) _
      · have hnothing : ¬ s.WritesNothing := by
          simp [WritesNothing, hupdate, hpayload, hfields]
        have hrecords : ¬ s.HasUnfitRecords := by
          simp [HasUnfitRecords, hupdate, hpayload]
        rw [updateDraft_of_record quoting s hpayload hfields] at hdraft
        exact verdict_of_filters hjoins hnothing hrecords (by simp [hupdate]) hdraft

end

theorem verdict_compile (quoting : Bool) (s : Statement) : s.Verdict (s.compile quoting) := by
  by_cases hjoins : s.HasMisplacedJoins
  · have hdraft : s.draft quoting =
        Outcome.reject (.unsupportedJoin (.text s.operation.word) (.text s.table)) := by
      unfold draft
      rw [if_pos (by simpa [HasMisplacedJoins] using hjoins)]
    unfold compile
    rw [hdraft]
    exact .misplacedJoins hjoins
  · have hdraft := draft_of_placed hjoins quoting
    cases hoperation : s.operation with
    | insert => exact verdict_insert hjoins hoperation
    | update => exact verdict_update hjoins hoperation
    | select | delete =>
        -- neither looks at a record
        rw [hoperation] at hdraft
        apply verdict_of_filters hjoins _ _ (by simp [hoperation]) hdraft
        · simp [WritesNothing, hoperation]
        · simp [HasUnfitRecords, hoperation]

/-- A statement is refused for the first of four reasons that applies to it, each with its own kind
of rejection, and compiled if none does.  Where a record lacks columns, the first such record and
all columns that it lacks are named; where a filter lacks a list, the column of the first such filter
is. -/
theorem compile_verdict (quoting : Bool) (s : Statement) :
    let rejection := (s.compile quoting).rejection?
    (rejection.map Rejection.kind = some .unsupportedJoin ↔ s.HasMisplacedJoins) ∧
    (rejection.map Rejection.kind = some .emptyPayload ↔
      ¬ s.HasMisplacedJoins ∧ s.WritesNothing) ∧
    (rejection.map Rejection.kind = some .queryBuild ↔
      ¬ s.HasMisplacedJoins ∧ ¬ s.WritesNothing ∧ s.HasUnfitRecords) ∧
    (rejection.map Rejection.kind = some .invalidFilter ↔
      ¬ s.HasMisplacedJoins ∧ ¬ s.WritesNothing ∧ ¬ s.HasUnfitRecords ∧ s.HasListlessFilter) ∧
    ((∃ c, s.compile quoting = .ok c) ↔
      ¬ s.HasMisplacedJoins ∧ ¬ s.WritesNothing ∧ ¬ s.HasUnfitRecords ∧ ¬ s.HasListlessFilter) ∧
    (rejection.map Rejection.kind = some .queryBuild → s.operation = .insert →
      ∃ first others index missing, s.payload.toRecords = some (first :: others) ∧
        Record.FirstLacking (first.map (·.1)) (first :: others) index missing ∧
        rejection.map Rejection.context = some (Rejection.dictOf [("table", .text s.table),
          ("record_index", .int index), ("missing_columns", .texts missing)])) ∧
    (rejection.map Rejection.kind = some .invalidFilter →
      ∃ before f after, s.filters = before ++ f :: after ∧ f.LacksList ∧
        (∀ g ∈ before, ¬ g.LacksList) ∧
        rejection.bind (field? ·.attributes "column") = some (.text f.column)) := by
  have hverdict := s.verdict_compile quoting
  generalize s.compile quoting = outcome at hverdict ⊢
  cases hverdict with
  | misplacedJoins hjoins => simp [hjoins, Rejection.kind, Outcome.reject_ne_ok]
  | nothing hjoins hnothing =>
      simp [hjoins, hnothing, Rejection.kind, Outcome.reject_ne_ok]
  | recordList hjoins hnothing hunfit hupdate =>
      simp [hjoins, hnothing, hunfit, hupdate, Rejection.kind, Outcome.reject_ne_ok]
  | missingColumns hjoins hnothing hunfit hrecords hlacking =>
      refine ⟨?_, ?_, ?_, ?_, ?_, ?named, ?_⟩
      case named => exact fun _ _ => ⟨_, _, _, _, hrecords, hlacking, rfl⟩
      all_goals simp [hjoins, hnothing, hunfit, Rejection.kind, Outcome.reject_ne_ok]
  | listless hjoins hnothing hrecords hinsert hfilters hbefore hf =>
      have hlistless : s.HasListlessFilter := ⟨hinsert, _, by simp [hfilters], hf⟩
      refine ⟨?_, ?_, ?_, ?_, ?_, ?_, ?named⟩
      case named => exact fun _ => ⟨_, _, _, hfilters, hf, hbefore, rfl⟩
      all_goals simp [hjoins, hnothing, hrecords, hlistless, Filter.listDemand, Rejection.kind,
        Outcome.reject_ne_ok]
  | compiled hjoins hnothing hrecords hfilters c => simp [hjoins, hnothing, hrecords, hfilters]

end Statement

end SqlBuilder
