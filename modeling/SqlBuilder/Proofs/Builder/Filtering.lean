import Mathlib.Data.List.Permutation
import SqlBuilder.Proofs.Builder.DataValues
import SqlBuilder.Proofs.Builder.Words
import SqlBuilder.Proofs.Statement.Composition
import SqlBuilder.Session.Recorder

/-!
# Conditions stay

A call that adds conditions adds one filter at least for every column that it
was given, or it is refused.  No call removes filters or changes their order,
so they are all there when the statement is compiled, each as one condition.
-/

namespace SqlBuilder

namespace Conditions

/-- The columns that conditions are given for, by a mapping and by name. -/
def columns (conditions : Value) (named : Fields) : List Value :=
  (match conditions with
    | .dict entries => entries.map (·.1)
    | _ => []) ++ named.map fun e => .text e.1

theorem mem_keys_putEntry
    {key v column : Value} {entries : List (Value × Value)}
    (hcolumn : column ∈ entries.map (·.1)) : column ∈ (putEntry key v entries).map (·.1) := by
  induction entries with
  | nil => simp at hcolumn
  | cons entry entries ih =>
      rw [putEntry]
      split
      next => exact hcolumn
      next =>
        rcases List.mem_cons.mp hcolumn with rfl | hcolumn
        · exact List.mem_cons_self
        · exact List.mem_cons_of_mem _ (ih hcolumn)

/-- A key that stands for a column: the column itself, or what equals it as a text. -/
def Covers (column key : Value) : Prop :=
  key = column ∨ ∃ name, column = .text name ∧ key.equalText? = some name

/-- The key that is found need not be the text that is put, but it equals the text. -/
theorem exists_key_putEntry
    (name : String) (v : Value) (entries : List (Value × Value)) :
    ∃ key ∈ (putEntry (.text name) v entries).map (·.1), key.equalText? = some name := by
  induction entries with
  | nil => exact ⟨.text name, List.mem_cons_self, rfl⟩
  | cons entry entries ih =>
      rw [putEntry]
      split
      next hkey => exact ⟨entry.1, List.mem_cons_self, Value.equalText?_of_equals hkey⟩
      next =>
        obtain ⟨key, hkey, hname⟩ := ih
        exact ⟨key, List.mem_cons_of_mem _ hkey, hname⟩

theorem exists_key_foldl
    {named : Fields} {done : List (Value × Value)} {column : Value}
    (hcolumn : (∃ key ∈ done.map (·.1), Covers column key) ∨
      column ∈ named.map fun e => Value.text e.1) :
    ∃ key ∈ (named.foldl (fun done e => putEntry (.text e.1) e.2 done) done).map (·.1),
      Covers column key := by
  induction named generalizing done with
  | nil => simpa using hcolumn
  | cons e named ih =>
      apply ih
      rcases hcolumn with ⟨key, hkey, hcovers⟩ | hnamed
      · exact Or.inl ⟨key, mem_keys_putEntry hkey, hcovers⟩
      · rcases List.mem_cons.mp hnamed with rfl | hnamed
        · obtain ⟨key, hkey, hname⟩ := exists_key_putEntry e.1 e.2 done
          exact Or.inl ⟨key, hkey, Or.inr ⟨e.1, rfl, hname⟩⟩
        · exact Or.inr hnamed

/-- Every column that conditions are given for has an entry. -/
theorem exists_key_entries
    {conditions : Value} {named : Fields} {es : List (Value × Value)}
    (hes : entries conditions named = .ok es) :
    ∀ column ∈ columns conditions named, ∃ key ∈ es.map (·.1), Covers column key := by
  unfold entries at hes
  unfold columns
  intro column hcolumn
  split at hes
  next entries =>
    obtain rfl := Except.ok.inj hes
    apply exists_key_foldl
    rcases List.mem_append.mp hcolumn with hgiven | hnamed
    · exact Or.inl ⟨column, hgiven, Or.inl rfl⟩
    · exact Or.inr hnamed
  next hdict =>
    split at hes
    next => simp at hes
    next =>
      obtain rfl := Except.ok.inj hes
      apply exists_key_foldl
      right
      simpa [hdict] using hcolumn

/-! ## The filters of an entry -/

/-- A filter on a column that was given as a value. -/
structure IsOn (connective : Connective) (column : Value) (f : Filter) : Prop where
  column : Validation.text column = .valid f.column
  connective : f.connective = connective

theorem name_of_equalText?
    {v : Value} {s name : String} (hs : Validation.text v = .valid s)
    (hname : v.equalText? = some name) : s = name := by
  cases v with
  | text t | ownText t => exact (Checked.valid.inj hs).symm.trans (Option.some.inj hname)
  | handle => cases hs
  | _ => cases hname

theorem IsOn.of_covers
    {connective : Connective} {column key : Value} {f : Filter}
    (hf : IsOn connective key f) (hkey : Covers column key) : IsOn connective column f := by
  rcases hkey with rfl | ⟨name, rfl, hname⟩
  · exact hf
  · rw [← name_of_equalText? hf.column hname]
    exact ⟨rfl, hf.connective⟩

theorem isOn_on
    {connective : Connective} {column v : Value} {operator : FilterOperator} {f : Filter}
    (hf : Filter.on connective column operator v = .ok f) : IsOn connective column f := by
  unfold Filter.on at hf
  obtain ⟨name, hname, rfl⟩ := Checked.map_eq_valid.mp (Checked.orInvalid_eq_ok.mp hf)
  exact ⟨Checked.within_eq_valid.mp hname, rfl⟩

theorem isOn_known
    {connective : Connective} {column : Value} {given : List (Value × Value)}
    {keys : List (String × FilterOperator)} {fs : List Filter}
    (hfs : known connective column given keys = .ok fs) :
    ∀ f ∈ fs, IsOn connective column f := by
  induction keys generalizing fs with
  | nil =>
      obtain rfl := Except.ok.inj hfs
      simp
  | cons key keys ih =>
      unfold known at hfs
      split at hfs
      next => exact ih hfs
      next =>
        obtain ⟨_, _, hfs⟩ := Outcome.bind_eq_ok.mp hfs
        obtain ⟨filter, hfilter, hfs⟩ := Outcome.bind_eq_ok.mp hfs
        obtain ⟨others, hothers, hfs⟩ := Outcome.bind_eq_ok.mp hfs
        obtain rfl := Outcome.pure_eq_ok.mp hfs
        exact List.forall_mem_cons.mpr ⟨isOn_on hfilter, ih hothers⟩

/-- An entry that is accepted makes filters on its column, and at least one. -/
theorem isOn_ofEntry
    {connective : Connective} {column v : Value} {fs : List Filter}
    (hfs : ofEntry connective column v = .ok fs) :
    fs ≠ [] ∧ ∀ f ∈ fs, IsOn connective column f := by
  have hsingle : ∀ {operator : FilterOperator} {w : Value},
      (Filter.on connective column operator w).map ([·]) = .ok fs →
      fs ≠ [] ∧ ∀ f ∈ fs, IsOn connective column f := by
    intro operator w hmap
    obtain ⟨f, hf, rfl⟩ := Outcome.map_eq_ok.mp hmap
    simpa using isOn_on hf
  unfold ofEntry at hfs
  split at hfs
  next => exact hsingle hfs
  next entries =>
    unfold ofOperators at hfs
    split at hfs
    next => simp at hfs
    next hnonempty =>
      refine ⟨?_, isOn_known hfs⟩
      rintro rfl
      exact hnonempty hfs
  next => exact hsingle hfs

end Conditions

namespace Builder

open Conditions

/-! ## The filters of a builder -/

/-- Entries that are all accepted leave a filter for each of their columns. -/
theorem exists_isOn_addEntries
    {connective : Connective} {entries : List (Value × Value)} {b : Builder}
    (haccepted : (addEntries connective entries b).refusal = none) :
    ∀ column ∈ entries.map (·.1),
      ∃ f ∈ (addEntries connective entries b).builder.filters, IsOn connective column f := by
  induction entries generalizing b with
  | nil => simp
  | cons entry entries ih =>
      obtain ⟨column, v⟩ := entry
      unfold addEntries at haccepted ⊢
      split
      next fs hfs =>
        rw [hfs] at haccepted
        obtain ⟨hnonempty, hon⟩ := isOn_ofEntry hfs
        rw [List.map_cons, List.forall_mem_cons]
        refine ⟨?_, ih haccepted⟩
        -- the filters of this entry are still there when the others have been added
        obtain ⟨f, hf⟩ := List.exists_mem_of_ne_nil fs hnonempty
        obtain ⟨added, hadded, _⟩ := exists_addEntries connective entries
          { b with filters := b.filters ++ fs }
        rw [hadded]
        exact ⟨f, List.mem_append_left _ (List.mem_append_right _ hf), hon f hf⟩
      next failure hfailure =>
        rw [hfailure] at haccepted
        simp [unchanged] at haccepted

/-- No change removes filters or puts others before them. -/
theorem Step.filters_kept
    {b b' : Builder} {c : Change} (hstep : b.Step c b') : b.filters <+: b'.filters := by
  cases hstep with
  | filtered => exact List.prefix_append _ _
  | refused | selected | inserted | insertRefused | updated | updateRefused | deleted | joined
  | limited | skipped => exact List.prefix_refl _

/-- Changes that do not add conditions leave the filters as they are. -/
theorem Step.filters_of_word
    {b b' : Builder} {c : Change} (hstep : b.Step c b') (hc : c.word ∉ ["where", "or_where"]) :
    b'.filters = b.filters := by
  cases hstep with
  | @filtered connective => cases connective <;> simp [Change.word] at hc
  | refused | selected | inserted | insertRefused | updated | updateRefused | deleted | joined
  | limited | skipped => rfl

theorem filters_after_of_word
    (b : Builder) {c : Call} (hc : c.word ∉ ["where", "or_where"]) :
    (b.after c).filters = b.filters := by
  unfold after
  split
  next change hchange =>
    have hword : change.word = c.word := Request.word_of_ofWord hchange
    exact (step_change b change).filters_of_word (hword ▸ hc)
  next => rfl

theorem filters_after
    (b : Builder) (c : Call) : b.filters <+: (b.after c).filters := by
  unfold after
  split
  next change _ => exact (step_change b change).filters_kept
  next => exact List.prefix_refl _

theorem filters_met
    {b b' : Builder} {calls : List Call} (hb' : b' ∈ b.met calls) : b.filters <+: b'.filters :=
  forall_met (P := (b.filters <+: ·.filters))
    (fun b hb c _ => hb.trans (filters_after b c)) (List.prefix_refl _) b' hb'

/-- A call with conditions that is answered leaves a filter for each of its columns. -/
theorem exists_isOn_after
    {World Handle : Type} {A : Adapter World Handle} {quoting : Bool} {h : Handle} {w : World}
    {b : Builder} {c : Call} {connective : Connective} {conditions : Value} {named : Fields}
    (hc : Request.ofWord c.word c.args c.named =
      .ok (.change (.filter connective conditions named)))
    (hanswer : (b.call A quoting h w c).1.1 = .ok .changed) :
    ∀ column ∈ columns conditions named, ∃ f ∈ (b.after c).filters, IsOn connective column f := by
  have hafter : b.after c = (b.change (.filter connective conditions named)).builder := by
    unfold after
    rw [hc]
  have hrefusal : (b.change (.filter connective conditions named)).refusal = none := by
    unfold call at hanswer
    rw [hc] at hanswer
    simp only [request] at hanswer
    split at hanswer
    next hnone => exact hnone
    next => simp at hanswer
  rw [hafter]
  unfold change at hrefusal ⊢
  cases hes : entries conditions named with
  | error failure =>
      simp only [hes] at hrefusal
      simp [unchanged] at hrefusal
  | ok es =>
      simp only [hes] at hrefusal ⊢
      intro column hcolumn
      obtain ⟨key, hkey, hcovers⟩ := exists_key_entries hes column hcolumn
      obtain ⟨f, hf, hon⟩ := exists_isOn_addEntries hrefusal key hkey
      exact ⟨f, hf, hon.of_covers hcovers⟩

/-! ## Compiled conditions -/

/-- Conditions that a call was given stay, whatever calls come before and after
it.  Each of its columns keeps a filter with the connective of the call, and no
other call takes filters away or changes their order.  A statement that is
compiled later, unless it is an insertion, has all filters as its conditions: one
text for each of them, in order, after the word that starts them. -/
theorem compile_filtered
    {World Handle : Type} {A : Adapter World Handle} {quoting : Bool} {h : Handle} {w : World}
    {b : Builder} {c : Call} {connective : Connective} {conditions : Value} {named : Fields}
    (hc : Request.ofWord c.word c.args c.named =
      .ok (.change (.filter connective conditions named)))
    (hanswer : (b.call A quoting h w c).1.1 = .ok .changed)
    {later : List Call} {b' : Builder} (hb' : b' ∈ (b.after c).met later) :
    (∀ column ∈ columns conditions named, ∃ f ∈ b'.filters,
      Validation.text column = .valid f.column ∧ f.connective = connective) ∧
    (∀ c' : Call, b'.filters <+: (b'.after c').filters ∧
      (c'.word ∉ ["where", "or_where"] → (b'.after c').filters = b'.filters)) ∧
    (columns conditions named ≠ [] → b'.operation ≠ .insert →
      ∀ quoted compiled, b'.compile quoted = .ok compiled →
        ∃ s f fs, b'.snapshot = .ok s ∧ b'.filters = f :: fs ∧
          compiled.sql = (s.opening quoted).sql 1
            ++ (" WHERE " ++ f.text quoted (1 + s.writtenValues.length)
              ++ Filters.restText quoted (1 + s.writtenValues.length + f.bound.length) fs)
            ++ s.closing quoted) := by
  have hcovered : ∀ column ∈ columns conditions named, ∃ f ∈ b'.filters,
      Validation.text column = .valid f.column ∧ f.connective = connective := by
    intro column hcolumn
    obtain ⟨f, hf, hon⟩ := exists_isOn_after hc hanswer column hcolumn
    exact ⟨f, (filters_met hb').subset hf, hon.column, hon.connective⟩
  refine ⟨hcovered, fun c' => ⟨filters_after b' c', filters_after_of_word b'⟩, ?_⟩
  intro hcolumns hoperation quoted compiled hcompiled
  obtain ⟨column, hcolumn⟩ := List.exists_mem_of_ne_nil _ hcolumns
  obtain ⟨g, hg, _⟩ := hcovered column hcolumn
  obtain ⟨f, fs, hfilters⟩ := List.exists_cons_of_ne_nil (List.ne_nil_of_mem hg)
  unfold compile at hcompiled
  obtain ⟨s, hs, hcompiled⟩ := Outcome.bind_eq_ok.mp hcompiled
  refine ⟨s, f, fs, hs, hfilters, ?_⟩
  have htext := (Statement.compile_eq_ok hcompiled).1
  obtain ⟨_, _, _, _, rfl⟩ := snapshot_eq_ok hs
  rw [htext, Statement.conditions_of_ne_insert quoted hoperation, hfilters]
  rfl

theorem compile_filtered_delete :
    let conditions : Value := .dict [(.text "a", .dict [(.text "in", .list [])]),
      (.text "b", .null)]
    let c : Call := ⟨"or_where", [conditions], [("a.d", .int 1)]⟩
    let later : List Call := [⟨"delete", [], []⟩, ⟨"where", [.int 5], []⟩]
    let b : Builder := { table := .text "t", operation := .update, payload := .dict [] }
    ∃ b' ∈ (b.after c).met later, b'.operation = .delete ∧
      (∃ f ∈ b'.filters, Validation.text (.text "b") = .valid f.column ∧ f.connective = .or) ∧
      b'.compile true = .ok
        { sql := "DELETE FROM \"t\" WHERE 1=0 OR \"b\" IS NULL OR \"a\".\"d\" = $1 RETURNING *"
          parameters := [.int 1] } := by
  intro conditions c later b
  have hc : Request.ofWord c.word c.args c.named =
      .ok (.change (.filter .or conditions c.named)) := by cbv
  have hanswer : (b.call recorder true false [] c).1.1 = .ok .changed := by cbv
  have hmem : ((b.after c).after ⟨"delete", [], []⟩).after ⟨"where", [.int 5], []⟩ ∈
      (b.after c).met later := by simp [later, met]
  have hcovered := (compile_filtered hc hanswer hmem).1 (.text "b")
    (by simp [conditions, c, columns])
  exact ⟨_, hmem, by cbv, hcovered, by cbv⟩

end Builder

end SqlBuilder
