import SqlBuilder.Proofs.Statement.Numbering
import SqlBuilder.Proofs.Statement.Reading
import SqlBuilder.Proofs.Text.Joining

/-!
# The composition of statement text

The text of a compiled statement is what it opens with, its conditions, and
what it closes with.  The conditions are one text for each filter, in order,
and their marks go on where the values before them end.  This holds of any
names, quoted or not.
-/

namespace SqlBuilder

/-- The marks of `k` values from the number `n` on, with commas between them. -/
def markList (n k : Nat) : String := commaSeparated ((List.range' n k).map Draft.mark)

/-- Marks between parentheses. -/
def markRow (n k : Nat) : String := "(" ++ markList n k ++ ")"

namespace Draft

theorem sql_places (n : Nat) (vs : List Value) : (places vs).sql n = markList n vs.length := by
  unfold places markList
  induction vs generalizing n with
  | nil => rfl
  | cons v vs ih =>
      cases vs with
      | nil => simp [commaSeparated, SqlBuilder.commaSeparated]
      | cons u vs =>
          have hrest := ih (n + 1)
          simp only [List.map_cons] at hrest ⊢
          rw [commaSeparated_cons_cons, sql_append, List.length_cons, List.range'_succ]
          simp only [sql_bound, sql_text, sql_nil, bound_bound, bound_nil, List.length_cons,
            List.length_nil, Nat.zero_add]
          rw [hrest]
          simp [SqlBuilder.commaSeparated, List.range'_succ, String.append_assoc]

theorem bound_commaSeparated (ds : List Draft) :
    (commaSeparated ds).bound = ds.flatMap bound := by
  unfold commaSeparated
  rw [Text.map_intercalate bound_nil bound_append, bound_text, bound_nil, Text.nil_intercalate,
    List.flatMap_def]

theorem bound_places (vs : List Value) : (places vs).bound = vs := by
  unfold places
  rw [bound_commaSeparated, List.flatMap_map]
  simp

theorem sql_enclosed (n : Nat) (vs : List Value) :
    (enclosed vs).sql n = markRow n vs.length := by
  simp [enclosed, markRow, sql_append, sql_places, String.append_assoc]

@[simp] theorem bound_enclosed (vs : List Value) : (enclosed vs).bound = vs := by
  simp [enclosed, bound_places]

end Draft

/-! ## Conditions -/

namespace Filter

/-- The condition of a filter whose first value has the number `n`. -/
def text (quoting : Bool) (n : Nat) (f : Filter) : String :=
  let start := Identifier.written quoting f.column ++ " " ++ f.operator.word ++ " "
  match f.operator with
  | .isIn => if f.bound.isEmpty then "1=0" else start ++ markRow n f.bound.length
  | .notIn => if f.bound.isEmpty then "1=1" else start ++ markRow n f.bound.length
  | .is | .isNot => start ++ writtenOut f.value
  | .eq | .ne | .gt | .lt | .gte | .lte | .like | .ilike => start ++ Draft.mark n

theorem condition_eq_ok
    {quoting : Bool} {f : Filter} {d : Draft} (hd : f.condition quoting = .ok d) :
    (∀ n, d.sql n = f.text quoting n) ∧ d.bound = f.bound := by
  obtain ⟨connective, column, operator, v⟩ := f
  unfold condition at hd
  unfold text bound
  cases operator with
  | isIn | notIn =>
      simp only at hd
      split at hd
      next => exact absurd hd (Outcome.reject_ne_ok _ _)
      next hlisted =>
        obtain rfl := Except.ok.inj hd
        simp [hlisted]
      next vs hempty hlisted =>
        obtain rfl := Except.ok.inj hd
        have hnonempty : vs ≠ [] := hempty
        simp [hlisted, hnonempty, Draft.sql_enclosed]
  | is | isNot =>
      obtain rfl := Except.ok.inj hd
      simp
  | eq | ne | gt | lt | gte | lte | like | ilike =>
      obtain rfl := Except.ok.inj hd
      simp

end Filter

namespace Filters

/-- The conditions of filters after the first, each after its connective; the
first value has the number `n`. -/
def restText (quoting : Bool) : (n : Nat) → List Filter → String
  | _, [] => ""
  | n, f :: fs =>
    " " ++ f.connective.word ++ " " ++ f.text quoting n
      ++ restText quoting (n + f.bound.length) fs

/-- The conditions of filters, the first value having the number `n`. -/
def whereText (quoting : Bool) (n : Nat) : List Filter → String
  | [] => ""
  | f :: fs => " WHERE " ++ f.text quoting n ++ restText quoting (n + f.bound.length) fs

theorem rest_eq_ok
    {quoting : Bool} {fs : List Filter} {d : Draft} (hd : rest quoting fs = .ok d) :
    (∀ n, d.sql n = restText quoting n fs) ∧ d.bound = fs.flatMap Filter.bound := by
  induction fs generalizing d with
  | nil =>
      obtain rfl := Except.ok.inj hd
      exact ⟨fun _ => rfl, rfl⟩
  | cons f fs ih =>
      unfold rest at hd
      obtain ⟨condition, hcondition, hd⟩ := Outcome.bind_eq_ok.mp hd
      obtain ⟨others, hothers, hd⟩ := Outcome.bind_eq_ok.mp hd
      obtain rfl := Outcome.pure_eq_ok.mp hd
      obtain ⟨hcondition, hbound⟩ := Filter.condition_eq_ok hcondition
      obtain ⟨hothers, hrest⟩ := ih hothers
      constructor
      · intro n
        simp [restText, Draft.sql_append, hcondition, hbound, hothers, String.append_assoc]
      · simp [hbound, hrest]

theorem whereClause_eq_ok
    {quoting : Bool} {fs : List Filter} {d : Draft} (hd : whereClause quoting fs = .ok d) :
    (∀ n, d.sql n = whereText quoting n fs) ∧ d.bound = fs.flatMap Filter.bound := by
  cases fs with
  | nil =>
      obtain rfl := Except.ok.inj hd
      exact ⟨fun _ => rfl, rfl⟩
  | cons f fs =>
      unfold whereClause at hd
      simp only [List.isEmpty_cons, Bool.false_eq_true, if_false] at hd
      obtain ⟨chain, hchain, hd⟩ := Outcome.bind_eq_ok.mp hd
      obtain rfl := Outcome.pure_eq_ok.mp hd
      unfold chained at hchain
      obtain ⟨condition, hcondition, hchain⟩ := Outcome.bind_eq_ok.mp hchain
      obtain ⟨others, hothers, hchain⟩ := Outcome.bind_eq_ok.mp hchain
      obtain rfl := Outcome.pure_eq_ok.mp hchain
      obtain ⟨hcondition, hbound⟩ := Filter.condition_eq_ok hcondition
      obtain ⟨hothers, hrest⟩ := rest_eq_ok hothers
      constructor
      · intro n
        simp [whereText, Draft.sql_append, hcondition, hbound, hothers, String.append_assoc]
      · simp [hbound, hrest]

end Filters

/-! ## Statements -/

namespace Statement

/-- What a statement opens with, its values in place. -/
def opening (quoting : Bool) (s : Statement) : Draft :=
  let table := Identifier.written quoting s.table
  match s.operation with
  | .select =>
    [.text ("SELECT " ++ s.projected quoting ++ " FROM " ++ table ++ joinClause quoting s.joins)]
  | .insert =>
    .text ("INSERT INTO " ++ table ++ " (" ++ columnList quoting s.insertedColumns ++ ") VALUES ")
      :: Draft.commaSeparated (((s.payload.toRecords.getD []).map
        (Record.row s.insertedColumns)).map Draft.enclosed)
  | .update =>
    .text ("UPDATE " ++ table ++ " SET ")
      :: Draft.commaSeparated (s.payload.fields.map (assignment quoting))
  | .delete => [.text ("DELETE FROM " ++ table)]

/-- The conditions of a statement, after the values that it writes; an insertion
has none. -/
def conditions (quoting : Bool) (s : Statement) : String :=
  match s.operation with
  | .insert => ""
  | .select | .update | .delete =>
    Filters.whereText quoting (1 + s.writtenValues.length) s.filters

theorem conditions_of_ne_insert
    (quoting : Bool) {s : Statement} (hs : s.operation ≠ .insert) :
    s.conditions quoting = Filters.whereText quoting (1 + s.writtenValues.length) s.filters := by
  unfold conditions
  split
  next hinsert => exact absurd hinsert hs
  next => rfl
  next => rfl
  next => rfl

/-- What a statement closes with. -/
def closing (quoting : Bool) (s : Statement) : String :=
  match s.operation with
  | .select => countClause "LIMIT" s.limit ++ countClause "OFFSET" s.offset
  | .insert | .update | .delete => s.returningClause quoting

theorem bound_assignments (quoting : Bool) (fields : List (String × Value)) :
    (Draft.commaSeparated (fields.map (assignment quoting))).bound = fields.map (·.2) := by
  rw [Draft.bound_commaSeparated, List.flatMap_map]
  induction fields with
  | nil => rfl
  | cons field fields ih => exact congrArg (field.2 :: ·) ih

theorem bound_opening (quoting : Bool) (s : Statement) :
    (s.opening quoting).bound = s.writtenValues := by
  unfold opening writtenValues
  cases s.operation with
  | select | delete => rfl
  | insert =>
      simp only [Draft.bound_text, Draft.bound_commaSeparated, List.flatMap_map,
        Draft.bound_enclosed, insertedColumns]
      match s.payload.toRecords with
      | none | some [] | some (_ :: _) => rfl
  | update => exact bound_assignments quoting s.payload.fields

/-- The parts that the draft of a statement is put together from. -/
structure IsComposed (quoting : Bool) (s : Statement) (d conditions : Draft) : Prop where
  draft : d = s.opening quoting ++ (conditions ++ [.text (s.closing quoting)])
  inserting : s.operation = .insert → conditions = []
  filtering : s.operation ≠ .insert → Filters.whereClause quoting s.filters = .ok conditions

theorem isComposed_selectDraft
    {quoting : Bool} {s : Statement} {d : Draft} (hoperation : s.operation = .select)
    (hd : s.selectDraft quoting = .ok d) : ∃ conditions, s.IsComposed quoting d conditions := by
  unfold selectDraft at hd
  obtain ⟨conditions, hconditions, hd⟩ := Outcome.bind_eq_ok.mp hd
  obtain rfl := Outcome.pure_eq_ok.mp hd
  refine ⟨conditions, ?_, by simp [hoperation], fun _ => hconditions⟩
  simp [opening, closing, hoperation]

theorem isComposed_insertDraft
    {quoting : Bool} {s : Statement} {d : Draft} (hoperation : s.operation = .insert)
    (hd : s.insertDraft quoting = .ok d) : ∃ conditions, s.IsComposed quoting d conditions := by
  unfold insertDraft at hd
  split at hd
  next => exact absurd hd (Outcome.reject_ne_ok _ _)
  next => exact absurd hd (Outcome.reject_ne_ok _ _)
  next => exact absurd hd (Outcome.reject_ne_ok _ _)
  next first others _ hrecords =>
    obtain ⟨rows, hrows, hd⟩ := Outcome.bind_eq_ok.mp hd
    obtain rfl := Outcome.pure_eq_ok.mp hd
    obtain ⟨rfl, _⟩ := Record.rows_eq_ok hrows
    refine ⟨[], ?_, fun _ => rfl, by simp [hoperation]⟩
    simp [opening, closing, insertedColumns, hoperation, hrecords]

theorem isComposed_updateDraft
    {quoting : Bool} {s : Statement} {d : Draft} (hoperation : s.operation = .update)
    (hd : s.updateDraft quoting = .ok d) : ∃ conditions, s.IsComposed quoting d conditions := by
  unfold updateDraft at hd
  split at hd
  next => exact absurd hd (Outcome.reject_ne_ok _ _)
  next => exact absurd hd (Outcome.reject_ne_ok _ _)
  next => exact absurd hd (Outcome.reject_ne_ok _ _)
  next fields _ hpayload =>
    obtain ⟨conditions, hconditions, hd⟩ := Outcome.bind_eq_ok.mp hd
    obtain rfl := Outcome.pure_eq_ok.mp hd
    refine ⟨conditions, ?_, by simp [hoperation], fun _ => hconditions⟩
    simp [opening, closing, Payload.fields, hoperation, hpayload]

theorem isComposed_deleteDraft
    {quoting : Bool} {s : Statement} {d : Draft} (hoperation : s.operation = .delete)
    (hd : s.deleteDraft quoting = .ok d) : ∃ conditions, s.IsComposed quoting d conditions := by
  unfold deleteDraft at hd
  obtain ⟨conditions, hconditions, hd⟩ := Outcome.bind_eq_ok.mp hd
  obtain rfl := Outcome.pure_eq_ok.mp hd
  refine ⟨conditions, ?_, by simp [hoperation], fun _ => hconditions⟩
  simp [opening, closing, hoperation]

theorem isComposed_draft
    {quoting : Bool} {s : Statement} {d : Draft} (hd : s.draft quoting = .ok d) :
    ∃ conditions, s.IsComposed quoting d conditions := by
  unfold draft at hd
  split at hd
  next => exact absurd hd (Outcome.reject_ne_ok _ _)
  next =>
    cases hoperation : s.operation with
    | select =>
        rw [hoperation] at hd
        exact isComposed_selectDraft hoperation hd
    | insert =>
        rw [hoperation] at hd
        exact isComposed_insertDraft hoperation hd
    | update =>
        rw [hoperation] at hd
        exact isComposed_updateDraft hoperation hd
    | delete =>
        rw [hoperation] at hd
        exact isComposed_deleteDraft hoperation hd

/-- A compiled text is what its statement opens with, its conditions, and what it
closes with; its parameters are the values it writes and those of its filters. -/
theorem compile_eq_ok
    {quoting : Bool} {s : Statement} {c : Compiled} (hc : s.compile quoting = .ok c) :
    c.sql = (s.opening quoting).sql 1 ++ s.conditions quoting ++ s.closing quoting ∧
      c.parameters = s.writtenValues ++ s.filterValues := by
  unfold compile at hc
  obtain ⟨d, hd, hc⟩ := Outcome.bind_eq_ok.mp hc
  obtain rfl := Outcome.pure_eq_ok.mp hc
  obtain ⟨conditions, rfl, hinserting, hfiltering⟩ := isComposed_draft hd
  -- an insertion has no conditions, and every other statement has those of its filters
  have hconditions : conditions.sql (1 + s.writtenValues.length) = s.conditions quoting ∧
      conditions.bound = s.filterValues := by
    unfold Statement.conditions filterValues
    cases hoperation : s.operation with
    | insert =>
        rw [hinserting hoperation]
        exact ⟨rfl, rfl⟩
    | select | update | delete =>
        obtain ⟨htext, hbound⟩ := Filters.whereClause_eq_ok (hfiltering (by simp [hoperation]))
        exact ⟨htext _, hbound⟩
  constructor
  · simp [Draft.sql_append, bound_opening, hconditions.1, String.append_assoc]
  · simp [bound_opening, hconditions.2]

/-- A compiled selection has no parts but its own. -/
theorem compile_select
    {quoting : Bool} {s : Statement} {c : Compiled} (hc : s.compile quoting = .ok c)
    (hselect : s.operation = .select) :
    c.sql = "SELECT " ++ s.projected quoting ++ " FROM " ++ Identifier.written quoting s.table
      ++ joinClause quoting s.joins ++ Filters.whereText quoting 1 s.filters
      ++ countClause "LIMIT" s.limit ++ countClause "OFFSET" s.offset := by
  have hwritten : s.writtenValues = [] := by simp [writtenValues, hselect]
  rw [(compile_eq_ok hc).1, conditions_of_ne_insert quoting (by simp [hselect]), hwritten]
  simp [opening, closing, hselect, String.append_assoc]

end Statement

end SqlBuilder
