import Mathlib.Data.List.Permutation
import SqlBuilder.Proofs.Builder.Reachable
import SqlBuilder.Proofs.Statement.Refusals

/-!
# Writes that are refused

A write that is refused has become the operation of its builder all the same,
and this is all it has done.  So a builder is spared only if it has that
operation already.  Else the record it holds is compiled as a write of the other
kind: an insertion becomes an update under all conditions there are, and an
update an insertion under none.
-/

namespace SqlBuilder

/-- The operation of a change that writes a record. -/
def Change.written? : Change → Option Operation
  | insert _ => some .insert
  | update _ => some .update
  | select _ | delete | join .. | filter .. | limit _ | offset _ => none

theorem Operation.eq_of_head?_word
    {o o' : Operation} (h : o.word.toList.head? = o'.word.toList.head?) : o = o' := by
  revert h
  cases o <;> cases o' <;> decide

theorem Filter.IsBuilt.not_lacksList {f : Filter} (hf : f.IsBuilt) : ¬ f.LacksList := by
  rintro ⟨hoperator, hvalue⟩
  obtain ⟨items, hitems⟩ := hf.member hoperator
  exact (hvalue items).2 hitems

/-! ## A record under either operation -/

namespace Statement

/-- A compiled text starts as the word of its operation does. -/
theorem head?_sql
    {quoting : Bool} {s : Statement} {c : Compiled} (hc : s.compile quoting = .ok c) :
    c.sql.toList.head? = s.operation.word.toList.head? := by
  have hopening : ((s.opening quoting).sql 1).toList.head? = s.operation.word.toList.head? := by
    unfold opening
    cases s.operation with
    | select | insert | update | delete =>
        simp only [Draft.sql_text, String.toList_append, List.append_assoc]
        rfl
  have hletter : ∃ letter, s.operation.word.toList.head? = some letter := by
    cases s.operation <;> exact ⟨_, rfl⟩
  obtain ⟨letter, hletter⟩ := hletter
  rw [(compile_eq_ok hc).1, String.toList_append, String.toList_append, List.head?_append,
    List.head?_append, hopening, hletter]
  rfl

def updateStart (quoting : Bool) (s : Statement) (fields : Record) : String :=
  "UPDATE " ++ Identifier.written quoting s.table ++ " SET "
    ++ (Draft.commaSeparated (fields.map (assignment quoting))).sql 1

/-- The statement that updates with a record, under all filters. -/
def updated (quoting : Bool) (s : Statement) (fields : Record) : Compiled where
  sql := s.updateStart quoting fields
    ++ Filters.whereText quoting (1 + fields.length) s.filters ++ s.returningClause quoting
  parameters := fields.map (·.2) ++ s.filters.flatMap Filter.bound

theorem compile_update
    {s : Statement} (hs : ∀ f ∈ s.filters, f.IsBuilt) (hupdate : s.operation = .update)
    (hjoins : s.joins = []) {fields : Record} (hpayload : s.payload = .record fields)
    (hfields : fields ≠ []) (quoting : Bool) :
    s.compile quoting = .ok (s.updated quoting fields) := by
  have hlists : ∀ f ∈ s.filters, ¬ f.LacksList := fun f hf => (hs f hf).not_lacksList
  obtain ⟨conditions, hwhere⟩ := Filters.exists_whereClause hlists quoting
  have hdraft : s.draft quoting = s.updateDraft quoting := by simp [draft, hupdate, hjoins]
  obtain ⟨c, hc⟩ : ∃ c, s.compile quoting = .ok c := by
    unfold compile
    rw [hdraft, updateDraft_of_record quoting s hpayload hfields, hwhere]
    exact ⟨_, rfl⟩
  obtain ⟨hsql, hparameters⟩ := compile_eq_ok hc
  have hvalues : s.writtenValues = fields.map (·.2) := by
    simp [writtenValues, hupdate, hpayload, Payload.fields]
  have hopening : (s.opening quoting).sql 1 = s.updateStart quoting fields := by
    simp [opening, updateStart, hupdate, hpayload, Payload.fields]
  have hconditions : s.conditions quoting =
      Filters.whereText quoting (1 + fields.length) s.filters := by
    rw [conditions_of_ne_insert quoting (by simp [hupdate]), hvalues, List.length_map]
  have hclosing : s.closing quoting = s.returningClause quoting := by simp [closing, hupdate]
  have hbound : s.filterValues = s.filters.flatMap Filter.bound := by
    simp [filterValues, hupdate]
  rw [hc]
  obtain ⟨sql, parameters⟩ := c
  rw [hopening, hconditions, hclosing] at hsql
  rw [hvalues, hbound] at hparameters
  cases hsql
  cases hparameters
  rfl

end Statement

/-! ## What is left of a refused write -/

namespace Builder

theorem builder_of_refused
    {b : Builder} {c : Change} {operation : Operation} (hc : c.written? = some operation)
    (hrefused : (b.change c).refusal ≠ none) :
    (b.change c).builder = { b with operation } := by
  have hwrite : ∀ payload, (b.write operation payload).refusal ≠ none →
      (b.write operation payload).builder = { b with operation } := by
    intro payload hpayload
    cases payload with
    | ok payload => exact absurd rfl hpayload
    | error failure => rfl
  cases c with
  | insert data =>
      obtain rfl := Option.some.inj hc
      exact hwrite (insertedPayload b.table data) hrefused
  | update data =>
      obtain rfl := Option.some.inj hc
      exact hwrite (updatedPayload b.table data) hrefused
  | select | delete | join | filter | limit | offset => simp [Change.written?] at hc

theorem eq_with_operation_iff
    {b : Builder} {operation : Operation} :
    { b with operation } = b ↔ b.operation = operation := by
  constructor
  · intro h
    exact (congrArg Builder.operation h).symm
  · rintro rfl
    rfl

theorem snapshot_with_operation
    (b : Builder) (operation : Operation) :
    ({ b with operation } : Builder).snapshot =
      b.snapshot.map fun s => { s with operation } := by
  unfold snapshot
  simp only
  cases (Validation.text b.table).within (.named "table") <;>
    cases (Checked.each Validation.text 0 b.projection).within (.named "projection") <;>
      cases (Validation.payload b.payload).within (.named "payload") <;> rfl

theorem compile_with_operation
    {b : Builder} {s : Statement} (hs : b.snapshot = .ok s) (operation : Operation)
    (quoting : Bool) :
    ({ b with operation } : Builder).compile quoting =
      ({ s with operation } : Statement).compile quoting := by
  unfold compile
  rw [snapshot_with_operation, hs]
  rfl

/-- A refused write leaves everything but the operation as it was.  So the builder is the same,
and is compiled to the same, if and only if it had the operation of the write before.  Else a
record to be inserted has become an update under all filters of the builder, and a record to update
with an insertion. -/
theorem compile_of_refused
    {b : Builder} (hb : b.Reachable) {c : Change} {operation : Operation}
    (hc : c.written? = some operation) (hrefused : (b.change c).refusal ≠ none) :
    (b.change c).builder = { b with operation } ∧
    ((b.change c).builder = b ↔ b.operation = operation) ∧
    (∀ quoting compiled, b.compile quoting = .ok compiled →
      ((b.change c).builder.compile quoting = .ok compiled ↔ b.operation = operation)) ∧
    ∀ s fields, b.snapshot = .ok s → s.payload = .record fields → fields ≠ [] → s.joins = [] →
      ∀ quoting,
        (b.operation = .insert → operation = .update →
          b.compile quoting = .ok (s.inserted quoting (fields.map (·.1)) [fields]) ∧
          (b.change c).builder.compile quoting = .ok (s.updated quoting fields)) ∧
        (b.operation = .update → operation = .insert →
          b.compile quoting = .ok (s.updated quoting fields) ∧
          (b.change c).builder.compile quoting =
            .ok (s.inserted quoting (fields.map (·.1)) [fields])) := by
  have hleft := builder_of_refused hc hrefused
  rw [hleft]
  refine ⟨rfl, eq_with_operation_iff, ?_, ?_⟩
  · intro quoting compiled hcompiled
    constructor
    · intro hlater
      unfold compile at hcompiled
      obtain ⟨s, hs, hcompiled⟩ := Outcome.bind_eq_ok.mp hcompiled
      rw [compile_with_operation hs] at hlater
      have hsame : s.operation = b.operation := by
        obtain ⟨_, _, _, _, rfl⟩ := snapshot_eq_ok hs
        rfl
      -- one text cannot start with the words of two operations
      apply Operation.eq_of_head?_word
      rw [← hsame, ← Statement.head?_sql hcompiled, Statement.head?_sql hlater]
    · intro hsame
      rwa [eq_with_operation_iff.mpr hsame]
  · intro s fields hs hpayload hfields hjoins quoting
    have hinsert : ({ b with operation := .insert } : Builder).compile quoting =
        .ok (s.inserted quoting (fields.map (·.1)) [fields]) := by
      rw [compile_with_operation hs]
      apply Statement.compile_insert (s := { s with operation := .insert }) rfl hjoins _ hfields
      · intro record hrecord column hcolumn
        rwa [List.mem_singleton.mp hrecord]
      · simp [hpayload, Payload.toRecords]
    have hupdate : ({ b with operation := .update } : Builder).compile quoting =
        .ok (s.updated quoting fields) := by
      rw [compile_with_operation hs]
      exact Statement.compile_update (s := { s with operation := .update })
        (hb.snapshot hs).filters rfl hjoins hpayload hfields quoting
    constructor
    · rintro hbefore rfl
      rw [← eq_with_operation_iff.mpr hbefore]
      exact ⟨hinsert, hupdate⟩
    · rintro hbefore rfl
      rw [← eq_with_operation_iff.mpr hbefore]
      exact ⟨hupdate, hinsert⟩

/-- The record of an insertion overwrites all rows of the table. -/
theorem compile_of_refused_update :
    let b := (({ table := .text "t" } : Builder).change
      (.insert (.dict [(.text "a", .int 1)]))).builder
    let c : Change := .update (.list [.text "x"])
    b.Reachable ∧ c.written? = some .update ∧ (b.change c).refusal ≠ none ∧
      b.compile true = .ok
        { sql := "INSERT INTO \"t\" (\"a\") VALUES ($1) RETURNING *", parameters := [.int 1] } ∧
      (b.change c).builder.compile true = .ok
        { sql := "UPDATE \"t\" SET \"a\" = $1 RETURNING *", parameters := [.int 1] } := by
  intro b c
  have hb : b.Reachable := (Reachable.fresh _).changed _
  have hrefused : (b.change c).refusal ≠ none := by
    have hreason : (b.change c).refusal =
        some (.rejected (.unfitUpdate (.text "t") (Value.list [.text "x"]).kindName)) := rfl
    rw [hreason]
    exact Option.some_ne_none _
  let s : Statement :=
    { table := "t", operation := .insert, projection := [], filters := [], joins := []
      payload := .record [("a", .int 1)], limit := none, offset := none, returning := true }
  have hs : b.snapshot = .ok s := by cbv
  have hinserted : s.inserted true ["a"] [[("a", .int 1)]] =
      { sql := "INSERT INTO \"t\" (\"a\") VALUES ($1) RETURNING *", parameters := [.int 1] } := by
    unfold Statement.inserted Statement.insertionStart
    cbv
  have hupdated : s.updated true [("a", .int 1)] =
      { sql := "UPDATE \"t\" SET \"a\" = $1 RETURNING *", parameters := [.int 1] } := by
    cbv
  obtain ⟨hinsert, hupdate⟩ := ((compile_of_refused hb rfl hrefused).2.2.2 s _ hs rfl
    (List.cons_ne_nil _ _) rfl true).1 rfl rfl
  exact ⟨hb, rfl, hrefused, hinsert.trans (congrArg Except.ok hinserted),
    hupdate.trans (congrArg Except.ok hupdated)⟩

end Builder

end SqlBuilder
