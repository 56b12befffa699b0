import SqlBuilder.Proofs.Builder.Filtering
import SqlBuilder.Proofs.Statement.ReadBack

/-!
# What is returned

A builder starts as a selection, which returns nothing beside its rows.  Once a
write has become its operation it stays one, and whatever a write has to write,
it returns.  Refused calls leave builders half changed; this much holds of them
all the same.
-/

namespace SqlBuilder

namespace Builder

theorem Step.operation_ne_select
    {b b' : Builder} {c : Change} (hstep : b.Step c b') (hb : b.operation ≠ .select) :
    b'.operation ≠ .select := by
  cases hstep with
  | inserted | insertRefused | updated | updateRefused | deleted => simp
  | refused | selected | joined | filtered | limited | skipped => exact hb

theorem operation_ne_select_after
    {b : Builder} (hb : b.operation ≠ .select) (c : Call) : (b.after c).operation ≠ .select := by
  unfold after
  split
  next change _ => exact (step_change b change).operation_ne_select hb
  next => exact hb

theorem operation_ne_select_met
    {b : Builder} (hb : b.operation ≠ .select) (calls : List Call) :
    ∀ b' ∈ b.met calls, b'.operation ≠ .select :=
  forall_met (fun _ hb c _ => operation_ne_select_after hb c) hb

/-- A selection does not return what it writes, since it writes nothing. -/
theorem Reachable.operation_ne_select
    {b : Builder} (hb : b.Reachable) (hreturning : b.returning = true) :
    b.operation ≠ .select := by
  induction hb with
  | fresh table => simp at hreturning
  | @changed b hb c ih =>
      have hstep := step_change b c
      generalize (b.change c).builder = b' at hstep hreturning
      cases hstep with
      | inserted | insertRefused | updated | updateRefused | deleted => simp
      | refused | selected | joined | filtered | limited | skipped => exact ih hreturning

end Builder

namespace Statement

/-- A write that a reachable builder stands for returns what it writes. -/
theorem IsBuilt.returning
    {quoting : Bool} {s : Statement} {c : Compiled} (hs : s.IsBuilt)
    (hc : s.compile quoting = .ok c) (hoperation : s.operation ≠ .select) :
    s.returning = true := by
  cases hwrite : s.operation with
  | select => exact absurd hwrite hoperation
  | insert => exact hs.written (payload_of_compile hc (Or.inl hwrite))
  | update => exact hs.written (payload_of_compile hc (Or.inr hwrite))
  | delete => exact hs.deleted hwrite

theorem closing_of_returning
    (quoting : Bool) {s : Statement} (hoperation : s.operation ≠ .select)
    (hreturning : s.returning = true) :
    s.closing quoting = " RETURNING " ++ s.projected quoting := by
  unfold closing returningClause
  rw [hreturning]
  split
  next hselect => exact absurd hselect hoperation
  next => rfl
  next => rfl
  next => rfl

end Statement

namespace Builder

/-- Whatever calls are made on a fresh builder, carried out or refused, each
builder on the way returns what it has to write, is no selection if it returns
anything, and never becomes a selection again.  So the text of a selection ends
with its paging, and that of any other statement with the projection of the
builder after `RETURNING`. -/
theorem compile_returning
    {table : Value} {calls : List Call} {b : Builder}
    (hb : b ∈ ({ table } : Builder).met calls) :
    (b.payload ≠ .null ∨ b.operation = .delete → b.returning = true) ∧
    (b.returning = true → b.operation ≠ .select) ∧
    (b.operation ≠ .select → ∀ later, ∀ b' ∈ b.met later, b'.operation ≠ .select) ∧
    ∀ quoting c, b.compile quoting = .ok c → ∃ s, b.snapshot = .ok s ∧
      List.Forall₂ (fun v name => Validation.text v = .valid name) b.projection s.projection ∧
      (b.operation = .select → c.sql =
        "SELECT " ++ s.projected quoting ++ " FROM " ++ Identifier.written quoting s.table
          ++ joinClause quoting s.joins ++ Filters.whereText quoting 1 s.filters
          ++ Statement.countClause "LIMIT" s.limit ++ Statement.countClause "OFFSET" s.offset) ∧
      (b.operation ≠ .select → c.sql =
        (s.opening quoting).sql 1 ++ s.conditions quoting ++ " RETURNING "
          ++ (if b.projection.isEmpty then "*"
            else Statement.columnList quoting s.projection)) := by
  have hreachable : b.Reachable := (Reachable.fresh table).met calls b hb
  obtain ⟨_, _, hwritten, hdeleted⟩ := hreachable.isBuilt
  refine ⟨fun h => h.elim hwritten hdeleted, hreachable.operation_ne_select,
    fun hoperation later => operation_ne_select_met hoperation later, ?_⟩
  intro quoting c hc
  unfold compile at hc
  obtain ⟨s, hs, hc⟩ := Outcome.bind_eq_ok.mp hc
  have hprojection := snapshot_projection hs
  have hempty : b.projection.isEmpty = s.projection.isEmpty := by
    rw [Bool.eq_iff_iff, List.isEmpty_iff_length_eq_zero, List.isEmpty_iff_length_eq_zero,
      hprojection.length_eq]
  have hsame : s.operation = b.operation := by
    obtain ⟨_, _, _, _, rfl⟩ := snapshot_eq_ok hs
    rfl
  refine ⟨s, hs, hprojection, ?_, ?_⟩
  · intro hselect
    exact Statement.compile_select hc (hsame.trans hselect)
  · intro hoperation
    rw [← hsame] at hoperation
    have hreturning := (hreachable.snapshot hs).returning hc hoperation
    have hclosing := Statement.closing_of_returning quoting hoperation hreturning
    rw [(Statement.compile_eq_ok hc).1, hclosing, hempty, ← String.append_assoc]
    rfl

/-- The second update is refused, and the first one is returned all the same. -/
theorem compile_returning_refused :
    let record : Value := .dict [(.text "a", .int 1)]
    let calls : List Call := [⟨"update", [record], []⟩, ⟨"update", [.list []], []⟩,
      ⟨"select", [.text "id"], []⟩]
    let b := ((({ table := .text "t" } : Builder).after ⟨"update", [record], []⟩).after
      ⟨"update", [.list []], []⟩).after ⟨"select", [.text "id"], []⟩
    b ∈ ({ table := .text "t" } : Builder).met calls ∧ b.payload = record ∧ b.returning = true ∧
      b.compile true = .ok
        { sql := "UPDATE \"t\" SET \"a\" = $1 RETURNING \"id\"", parameters := [.int 1] } := by
  intro record calls b
  have hmem : b ∈ ({ table := .text "t" } : Builder).met calls := by simp [b, calls, met]
  have hpayload : b.payload = record := by cbv
  have hreturning := (compile_returning hmem).1 (Or.inl (by simp [hpayload, record]))
  exact ⟨hmem, hpayload, hreturning, by cbv⟩

end Builder

end SqlBuilder
