import SqlBuilder.Proofs.Builder.Steps
import SqlBuilder.Proofs.Statement.Regular
import SqlBuilder.Session.Conversation

/-!
# Builders that calls lead to

A builder is reachable when changes lead to it from a fresh one, whether they
were carried out or refused.  Calls only lead to reachable builders, and what
holds of every reachable builder is what one change keeps: filters that ask
for membership hold a tuple, filters that test with `IS` hold null, joins
compare with known operators, and whatever is there to be written is returned.
-/

namespace SqlBuilder

namespace Builder

inductive Reachable : Builder → Prop
  | fresh (table : Value) : Reachable { table }
  | changed {b : Builder} (hb : Reachable b) (c : Change) : Reachable (b.change c).builder

/-- The builder after a call, however the call is answered. -/
def after (b : Builder) (c : Call) : Builder :=
  match Request.ofWord c.word c.args c.named with
  | .ok (.change change) => (b.change change).builder
  | _ => b

/-- The builders that calls meet, from the one they start with to the one they
leave behind. -/
def met (b : Builder) : List Call → List Builder
  | [] => [b]
  | c :: calls => b :: met (b.after c) calls

/-- What every call keeps holds of all builders that calls meet. -/
theorem forall_met
    {P : Builder → Prop} {calls : List Call}
    (hkept : ∀ b, P b → ∀ c ∈ calls, P (b.after c)) {b : Builder} (hb : P b) :
    ∀ b' ∈ b.met calls, P b' := by
  induction calls generalizing b with
  | nil =>
      intro b' hb'
      rwa [List.mem_singleton.mp hb']
  | cons c calls ih =>
      have hlater : ∀ b, P b → ∀ c' ∈ calls, P (b.after c') :=
        fun b hb c' hc' => hkept b hb c' (List.mem_cons_of_mem c hc')
      exact List.forall_mem_cons.mpr ⟨hb, ih hlater (hkept b hb c List.mem_cons_self)⟩

theorem Reachable.after
    {b : Builder} (hb : b.Reachable) (c : Call) : (b.after c).Reachable := by
  unfold Builder.after
  split
  next change _ => exact hb.changed change
  next => exact hb

theorem Reachable.met
    {b : Builder} (hb : b.Reachable) (calls : List Call) : ∀ b' ∈ b.met calls, b'.Reachable :=
  forall_met (fun _ hb c _ => hb.after c) hb

section

variable {World Handle : Type} (A : Adapter World Handle) (quoting : Bool) (h : Handle)

theorem call_builder
    (b : Builder) (w : World) (c : Call) :
    (b.call A quoting h w c).1.2 = b.after c := by
  unfold Builder.call Builder.after
  cases Request.ofWord c.word c.args c.named with
  | error failure => rfl
  | ok r =>
      cases r with
      | change change =>
          simp only [Builder.request]
          cases (b.change change).refusal <;> rfl
      | compiled | snapshot | tableName | execute | first | rows => rfl

theorem Reachable.call
    {b : Builder} (hb : b.Reachable) (w : World) (c : Call) :
    (b.call A quoting h w c).1.2.Reachable := by
  rw [call_builder]
  exact hb.after c

end

end Builder

/-! ## What one change keeps -/

/-- A filter as conditions make it. -/
structure Filter.IsBuilt (f : Filter) : Prop where
  tested : f.operator = .is ∨ f.operator = .isNot → f.value = .null
  member : f.operator = .isIn ∨ f.operator = .notIn → ∃ vs, f.value = .tuple vs

theorem Filter.isBuilt_on
    {connective : Connective} {column v : Value} {operator : FilterOperator} {f : Filter}
    (htested : operator = .is ∨ operator = .isNot → v = .null)
    (hmember : operator = .isIn ∨ operator = .notIn → ∃ vs, v = .tuple vs)
    (hf : Filter.on connective column operator v = .ok f) :
    f.IsBuilt := by
  unfold Filter.on at hf
  obtain ⟨_, _, rfl⟩ := Checked.map_eq_valid.mp (Checked.orInvalid_eq_ok.mp hf)
  exact ⟨htested, hmember⟩

namespace Conditions

/-- What a key asks of a column is fit for a filter, whatever its value. -/
theorem comparison_eq_ok
    {column v w : Value} {key : String} {asked operator : FilterOperator}
    (hasked : asked ≠ .is ∧ asked ≠ .isNot)
    (hcomparison : comparison column key asked v = .ok (operator, w)) :
    (operator = .is ∨ operator = .isNot → w = .null) ∧
      (operator = .isIn ∨ operator = .notIn → ∃ vs, w = .tuple vs) := by
  unfold comparison at hcomparison
  cases asked with
  | isIn | notIn =>
      simp only at hcomparison
      split at hcomparison
      next vs hvs =>
        obtain ⟨rfl, rfl⟩ := Prod.mk.inj (Except.ok.inj hcomparison)
        simp
      next => exact absurd hcomparison (Outcome.reject_ne_ok _ _)
  | ne =>
      simp only at hcomparison
      split at hcomparison
      next =>
        obtain ⟨rfl, rfl⟩ := Prod.mk.inj (Except.ok.inj hcomparison)
        simp
      next =>
        obtain ⟨rfl, rfl⟩ := Prod.mk.inj (Except.ok.inj hcomparison)
        simp
  | is | isNot => simp at hasked
  | eq | gt | lt | gte | lte | like | ilike =>
      obtain ⟨rfl, rfl⟩ := Prod.mk.inj (Except.ok.inj hcomparison)
      simp

theorem isBuilt_known
    {connective : Connective} {column : Value} {given : List (Value × Value)}
    {keys : List (String × FilterOperator)} {fs : List Filter}
    (hkeys : ∀ key ∈ keys, key.2 ≠ .is ∧ key.2 ≠ .isNot)
    (hfs : known connective column given keys = .ok fs) :
    ∀ f ∈ fs, f.IsBuilt := by
  induction keys generalizing fs with
  | nil =>
      obtain rfl := Except.ok.inj hfs
      simp
  | cons key keys ih =>
      have hrest : ∀ other ∈ keys, other.2 ≠ .is ∧ other.2 ≠ .isNot :=
        fun other hother => hkeys other (List.mem_cons_of_mem key hother)
      unfold known at hfs
      split at hfs
      next => exact ih hrest hfs
      next v hv =>
        obtain ⟨⟨operator, w⟩, hcomparison, hfs⟩ := Outcome.bind_eq_ok.mp hfs
        obtain ⟨filter, hfilter, hfs⟩ := Outcome.bind_eq_ok.mp hfs
        obtain ⟨others, hothers, hfs⟩ := Outcome.bind_eq_ok.mp hfs
        obtain rfl := Outcome.pure_eq_ok.mp hfs
        have hfit := comparison_eq_ok (hkeys _ (by simp)) hcomparison
        have hbuilt := Filter.isBuilt_on hfit.1 hfit.2 hfilter
        intro f hf
        rcases List.mem_cons.mp hf with rfl | hf
        · exact hbuilt
        · exact ih hrest hothers f hf

theorem isBuilt_ofEntry
    {connective : Connective} {column v : Value} {fs : List Filter}
    (hfs : ofEntry connective column v = .ok fs) :
    ∀ f ∈ fs, f.IsBuilt := by
  have hsingle : ∀ {operator : FilterOperator} {w : Value},
      (operator = .is ∨ operator = .isNot → w = .null) →
      (operator = .isIn ∨ operator = .notIn → ∃ vs, w = .tuple vs) →
      (Filter.on connective column operator w).map ([·]) = .ok fs →
      ∀ f ∈ fs, f.IsBuilt := by
    intro operator w htested hmember hmap
    obtain ⟨g, hg, rfl⟩ := Outcome.map_eq_ok.mp hmap
    intro f hf
    obtain rfl := List.mem_singleton.mp hf
    exact Filter.isBuilt_on htested hmember hg
  unfold ofEntry at hfs
  split at hfs
  next => exact hsingle (by simp) (by simp) hfs
  next entries =>
    unfold ofOperators at hfs
    split at hfs
    next => simp at hfs
    next =>
      apply isBuilt_known _ hfs
      decide
  next => exact hsingle (by simp) (by simp) hfs

end Conditions

/-- A join that is made compares with a known operator. -/
theorem Join.operator_on
    {kind : JoinKind} {table left operator right : Value} {j : Join}
    (hj : Join.on kind table left operator right = .ok j) :
    j.operator ∈ joinOperators := by
  unfold Join.on at hj
  obtain ⟨word, hword, hj⟩ := Outcome.bind_eq_ok.mp hj
  have hmem : word ∈ joinOperators := by
    unfold joinOperator? at hword
    split at hword
    case h_1 | h_2 =>
      split at hword
      next hs =>
        obtain rfl := Except.ok.inj hword
        exact hs
      next => exact absurd hword (Outcome.reject_ne_ok _ _)
    next => exact absurd hword (Outcome.reject_ne_ok _ _)
    next =>
      split at hword
      next => exact absurd hword (Outcome.reject_ne_ok _ _)
      next => simp at hword
  have hvalid := Checked.orInvalid_eq_ok.mp hj
  obtain ⟨_, _, hleft, _, rfl⟩ := Checked.seq_eq_valid.mp hvalid
  obtain ⟨_, _, htable, _, rfl⟩ := Checked.seq_eq_valid.mp hleft
  obtain ⟨_, _, rfl⟩ := Checked.map_eq_valid.mp htable
  exact hmem

/-- What holds of every builder that changes lead to. -/
structure Builder.IsBuilt (b : Builder) : Prop where
  filters : ∀ f ∈ b.filters, f.IsBuilt
  joins : ∀ j ∈ b.joins, j.operator ∈ joinOperators
  written : b.payload ≠ .null → b.returning = true
  deleted : b.operation = .delete → b.returning = true

namespace Builder

theorem Step.isBuilt
    {b b' : Builder} {c : Change} (hstep : b.Step c b') (hb : b.IsBuilt) : b'.IsBuilt := by
  cases hstep with
  | refused => exact hb
  | selected | limited | skipped => exact ⟨hb.filters, hb.joins, hb.written, hb.deleted⟩
  | inserted | updated | deleted => exact ⟨hb.filters, hb.joins, fun _ => rfl, fun _ => rfl⟩
  | insertRefused | updateRefused => exact ⟨hb.filters, hb.joins, hb.written, by simp⟩
  | joined hj =>
      refine ⟨hb.filters, ?_, hb.written, hb.deleted⟩
      intro k hk
      rcases List.mem_append.mp hk with hk | hk
      · exact hb.joins k hk
      · rw [List.mem_singleton.mp hk]
        exact Join.operator_on hj
  | filtered hmade =>
      refine ⟨?_, hb.joins, hb.written, hb.deleted⟩
      intro f hf
      rcases List.mem_append.mp hf with hf | hf
      · exact hb.filters f hf
      · obtain ⟨column, v, fs, hfs, hf⟩ := hmade f hf
        exact Conditions.isBuilt_ofEntry hfs f hf

theorem Reachable.isBuilt {b : Builder} (hb : b.Reachable) : b.IsBuilt := by
  induction hb with
  | fresh table => exact ⟨by simp, by simp, by simp, by simp⟩
  | changed _ c ih => exact (step_change _ c).isBuilt ih

/-- The statement a builder stands for has its own parts as they are, and
names and records that were checked. -/
theorem snapshot_eq_ok {b : Builder} {s : Statement} (hs : b.snapshot = .ok s) :
    ∃ table projection payload, Validation.payload b.payload = .valid payload ∧
      s = { b with table, projection, payload } := by
  unfold snapshot at hs
  have hvalid := Checked.orInvalid_eq_ok.mp hs
  obtain ⟨_, payload, hprojection, hpayload, rfl⟩ := Checked.seq_eq_valid.mp hvalid
  obtain ⟨_, projection, htable, _, rfl⟩ := Checked.seq_eq_valid.mp hprojection
  obtain ⟨table, _, rfl⟩ := Checked.map_eq_valid.mp htable
  exact ⟨table, projection, payload, Checked.within_eq_valid.mp hpayload, rfl⟩

/-- The projection of a snapshot holds the names that were given, read as texts. -/
theorem snapshot_projection {b : Builder} {s : Statement} (hs : b.snapshot = .ok s) :
    List.Forall₂ (fun v name => Validation.text v = .valid name) b.projection s.projection := by
  unfold snapshot at hs
  have hvalid := Checked.orInvalid_eq_ok.mp hs
  obtain ⟨_, payload, hprojection, _, rfl⟩ := Checked.seq_eq_valid.mp hvalid
  obtain ⟨_, projection, htable, hnames, rfl⟩ := Checked.seq_eq_valid.mp hprojection
  obtain ⟨table, _, rfl⟩ := Checked.map_eq_valid.mp htable
  exact Checked.each_eq_valid (Checked.within_eq_valid.mp hnames)

end Builder

/-! ## Statements of reachable builders -/

/-- What holds of every statement that a reachable builder stands for. -/
structure Statement.IsBuilt (s : Statement) : Prop where
  filters : ∀ f ∈ s.filters, f.IsBuilt
  joins : ∀ j ∈ s.joins, j.operator ∈ joinOperators
  written : s.payload ≠ .nothing → s.returning = true
  deleted : s.operation = .delete → s.returning = true

theorem Statement.IsBuilt.isWritable {s : Statement} (hs : s.IsBuilt) : s.IsWritable := by
  constructor
  · exact hs.joins
  · intro f hf hoperator
    exact Or.inl ((hs.filters f hf).tested hoperator)

theorem Builder.Reachable.snapshot
    {b : Builder} (hb : b.Reachable) {s : Statement} (hs : b.snapshot = .ok s) : s.IsBuilt := by
  obtain ⟨hfilters, hjoins, hwritten, hdeleted⟩ := hb.isBuilt
  obtain ⟨table, projection, payload, hpayload, rfl⟩ := snapshot_eq_ok hs
  refine ⟨hfilters, hjoins, ?_, hdeleted⟩
  intro hsomething
  apply hwritten
  intro hnull
  rw [hnull] at hpayload
  exact hsomething (Checked.valid.inj hpayload).symm

theorem Builder.compile_snapshot
    {b : Builder} {s : Statement} (hs : b.snapshot = .ok s) {c : Compiled}
    (hc : b.compile true = .ok c) : s.compile true = .ok c := by
  unfold compile at hc
  rwa [hs] at hc

end SqlBuilder
