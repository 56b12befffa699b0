import Mathlib.Data.List.Nodup
import Mathlib.Data.List.Perm.Lattice
import SqlBuilder.Validation.Fields

/-!
# Fields that override others

Fields are looked up by name, and of fields with one name the last one put is
found.  A list of fields falls apart into those that stand and those that later
fields override; putting all of them leaves those that stand.  A mapping from
texts is such a list, under another type of keys.
-/

namespace SqlBuilder

variable {α β γ : Type}

/-! ## Fields that are found -/

theorem field?_of_mem {fields : List (String × α)}
    (hnames : (fields.map (·.1)).Nodup) {name : String} {a : α} (ha : (name, a) ∈ fields) :
    field? fields name = some a := by
  induction fields with
  | nil => cases ha
  | cons field fields ih =>
      rw [List.map_cons] at hnames
      obtain ⟨hnew, hrest⟩ := List.nodup_cons.mp hnames
      rcases List.mem_cons.mp ha with rfl | ha
      · simp [field?]
      · have hname : name ∈ fields.map (·.1) := List.mem_map_of_mem ha
        have hne : field.1 ≠ name := by
          intro hsame
          exact hnew (hsame ▸ hname)
        have htail := ih hrest ha
        unfold field? at htail ⊢
        rwa [List.find?_cons_of_neg (by simpa using hne)]

theorem field?_cons (field : String × α) (fields : List (String × α)) (name : String) :
    field? (field :: fields) name =
      if field.1 = name then some field.2 else field? fields name := by
  unfold field?
  by_cases hname : field.1 = name
  · simp [hname]
  · simp [hname, beq_false_of_ne hname]

theorem isSome_field?_iff {fields : List (String × α)} {name : String} :
    (field? fields name).isSome ↔ name ∈ fields.map (·.1) := by
  induction fields with
  | nil => simp
  | cons field fields ih =>
      rw [field?_cons, List.map_cons, List.mem_cons, ← ih]
      by_cases hname : field.1 = name
      · simp [hname]
      · simp [hname, Ne.symm hname]

theorem field?_eq_none_iff {fields : List (String × α)} {name : String} :
    field? fields name = none ↔ name ∉ fields.map (·.1) := by
  rw [← isSome_field?_iff, Option.not_isSome_iff_eq_none]

theorem mem_of_field?_eq_some {fields : List (String × α)} {name : String} {a : α}
    (ha : field? fields name = some a) : (name, a) ∈ fields := by
  induction fields with
  | nil => simp at ha
  | cons field fields ih =>
      rw [field?_cons] at ha
      split at ha
      next hname =>
        rw [← hname, ← Option.some.inj ha]
        exact List.mem_cons_self
      next => exact List.mem_cons_of_mem field (ih ha)

/-- Where each name is there once, the order of fields does not show. -/
theorem field?_of_perm {fields others : List (String × α)} (hnames : (fields.map (·.1)).Nodup)
    (hperm : fields.Perm others) (name : String) : field? fields name = field? others name := by
  cases hfound : field? others name with
  | none =>
      have habsent := field?_eq_none_iff.mp hfound
      exact field?_eq_none_iff.mpr fun h => habsent ((hperm.map (·.1)).subset h)
  | some a => exact field?_of_mem hnames (hperm.symm.subset (mem_of_field?_eq_some hfound))

/-- Two lists that are looked up in each other give the same pairs. -/
theorem filterMap_field?_perm {xs : List (String × α)} {ys : List (String × β)}
    (hxs : (xs.map (·.1)).Nodup) (hys : (ys.map (·.1)).Nodup) (g : α → β → γ) :
    (xs.filterMap fun x => (field? ys x.1).map (g x.2)).Perm
      (ys.filterMap fun y => (field? xs y.1).map (g · y.2)) := by
  induction xs with
  | nil => simp
  | cons x xs ih =>
      obtain ⟨hnew, hrest⟩ := List.nodup_cons.mp hxs
      have hothers := ih hrest
      -- the new field is only found by its own name
      have hlookup : ∀ y : String × β, y.1 ≠ x.1 →
          (field? (x :: xs) y.1).map (g · y.2) = (field? xs y.1).map (g · y.2) := by
        intro y hy
        rw [field?_cons, if_neg (Ne.symm hy)]
      rw [List.filterMap_cons]
      cases hfound : field? ys x.1 with
      | none =>
          have habsent := field?_eq_none_iff.mp hfound
          have hsame : (ys.filterMap fun y => (field? (x :: xs) y.1).map (g · y.2)) =
              ys.filterMap fun y => (field? xs y.1).map (g · y.2) := by
            apply List.filterMap_congr
            intro y hy
            exact hlookup y fun h => habsent (h ▸ List.mem_map_of_mem hy)
          rw [hsame]
          exact hothers
      | some b =>
          obtain ⟨before, after, rfl⟩ := List.append_of_mem (mem_of_field?_eq_some hfound)
          have hapart : ∀ y ∈ before ++ after, y.1 ≠ x.1 := by
            rw [List.map_append, List.map_cons] at hys
            have habsent := (List.nodup_cons.mp (List.perm_middle.nodup_iff.mp hys)).1
            rw [← List.map_append] at habsent
            intro y hy h
            apply habsent
            rw [← h]
            exact List.mem_map_of_mem hy
          have hbefore : (before.filterMap fun y => (field? (x :: xs) y.1).map (g · y.2)) =
              before.filterMap fun y => (field? xs y.1).map (g · y.2) :=
            List.filterMap_congr fun y hy => hlookup y (hapart y (List.mem_append_left _ hy))
          have hafter : (after.filterMap fun y => (field? (x :: xs) y.1).map (g · y.2)) =
              after.filterMap fun y => (field? xs y.1).map (g · y.2) :=
            List.filterMap_congr fun y hy => hlookup y (hapart y (List.mem_append_right _ hy))
          have hself : field? xs x.1 = none := field?_eq_none_iff.mpr hnew
          simp only [List.filterMap_append, List.filterMap_cons, hself, Option.map_none,
            Option.map_some] at hothers ⊢
          rw [hbefore, hafter, field?_cons, if_pos rfl, Option.map_some]
          exact (hothers.cons _).trans List.perm_middle.symm

/-! ## Fields that stand -/

/-- The fields that no later field of the same name overrides. -/
def standing : List (String × α) → List (String × α)
  | [] => []
  | field :: fields =>
    if field.1 ∈ fields.map (·.1) then standing fields else field :: standing fields

/-- The fields that a later field of the same name overrides. -/
def overridden : List (String × α) → List (String × α)
  | [] => []
  | field :: fields =>
    if field.1 ∈ fields.map (·.1) then field :: overridden fields else overridden fields

theorem standing_append_overridden_perm (fields : List (String × α)) :
    (standing fields ++ overridden fields).Perm fields := by
  induction fields with
  | nil => exact .nil
  | cons field fields ih =>
      unfold standing overridden
      split
      next => exact List.perm_middle.trans (ih.cons field)
      next => exact ih.cons field

theorem names_standing {fields : List (String × α)} {name : String} :
    name ∈ (standing fields).map (·.1) ↔ name ∈ fields.map (·.1) := by
  induction fields with
  | nil => exact Iff.rfl
  | cons field fields ih =>
      unfold standing
      split
      next hlater =>
        rw [ih, List.map_cons, List.mem_cons]
        constructor
        · exact Or.inr
        · rintro (rfl | hname)
          · exact hlater
          · exact hname
      next => rw [List.map_cons, List.map_cons, List.mem_cons, List.mem_cons, ih]

theorem nodup_standing (fields : List (String × α)) : ((standing fields).map (·.1)).Nodup := by
  induction fields with
  | nil => exact List.nodup_nil
  | cons field fields ih =>
      unfold standing
      split
      next => exact ih
      next hlast =>
        rw [List.map_cons]
        exact List.nodup_cons.mpr ⟨fun h => hlast (names_standing.mp h), ih⟩

theorem mem_names_overridden
    {fields : List (String × α)} {name : String}
    (htwice : 2 ≤ (fields.map (·.1)).count name) : name ∈ (overridden fields).map (·.1) := by
  have hcount := ((standing_append_overridden_perm fields).map (·.1)).count_eq name
  rw [List.map_append, List.count_append] at hcount
  have honce := List.nodup_iff_count_le_one.mp (nodup_standing fields) name
  apply List.count_pos_iff.mp
  omega

theorem overridden_eq_nil_iff {fields : List (String × α)} :
    overridden fields = [] ↔ (fields.map (·.1)).Nodup := by
  induction fields with
  | nil => simp [overridden]
  | cons field fields ih =>
      unfold overridden
      rw [List.map_cons, List.nodup_cons]
      split
      next hlater => simp [hlater]
      next hlast => rw [ih]; exact (and_iff_right hlast).symm

/-- Of fields without a name in common, those before others stand if the others have not their
name. -/
theorem standing_append {fields : List (String × α)} (hnames : (fields.map (·.1)).Nodup)
    (others : List (String × α)) :
    standing (fields ++ others) =
      fields.filter (·.1 ∉ others.map (·.1)) ++ standing others := by
  induction fields with
  | nil => rfl
  | cons field fields ih =>
      rw [List.map_cons] at hnames
      obtain ⟨hnew, hrest⟩ := List.nodup_cons.mp hnames
      rw [List.cons_append, standing, ih hrest, List.filter_cons]
      by_cases hother : field.1 ∈ others.map (·.1)
      · have hlater : field.1 ∈ (fields ++ others).map (·.1) := by
          rw [List.map_append]
          exact List.mem_append_right _ hother
        rw [if_pos hlater, if_neg (by simpa using hother)]
      · have hlast : field.1 ∉ (fields ++ others).map (·.1) := by
          rw [List.map_append]
          exact List.not_mem_append hnew hother
        rw [if_neg hlast, if_pos (by simpa using hother)]
        rfl

/-! ## Putting fields -/

theorem putField_perm {fields : List (String × α)} (hnames : (fields.map (·.1)).Nodup)
    (name : String) (a : α) :
    (putField name a fields).Perm (fields.filter (·.1 ≠ name) ++ [(name, a)]) := by
  induction fields with
  | nil => exact .refl _
  | cons field fields ih =>
      rw [List.map_cons] at hnames
      obtain ⟨hnew, hrest⟩ := List.nodup_cons.mp hnames
      rw [putField, List.filter_cons]
      by_cases hname : field.1 = name
      · have hkept : fields.filter (·.1 ≠ name) = fields := by
          apply List.filter_eq_self.mpr
          intro other hother
          have hmem : other.1 ∈ fields.map (·.1) := List.mem_map_of_mem hother
          have hne : other.1 ≠ name := by
            intro h
            have hsame : other.1 = field.1 := h.trans hname.symm
            exact hnew (hsame ▸ hmem)
          simpa using hne
        rw [if_pos hname, if_neg (by simpa using hname), hkept]
        exact (List.perm_append_singleton _ _).symm
      · rw [if_neg hname, if_pos (by simpa using hname)]
        exact (ih hrest).cons field

theorem nodup_putField {fields : List (String × α)} (hnames : (fields.map (·.1)).Nodup)
    (name : String) (a : α) : ((putField name a fields).map (·.1)).Nodup := by
  apply ((putField_perm hnames name a).map (·.1)).nodup_iff.mpr
  rw [List.map_append, List.map_cons, List.map_nil, List.nodup_append_comm,
    List.singleton_append, List.nodup_cons]
  constructor
  · intro h
    obtain ⟨field, hfield, hname⟩ := List.mem_map.mp h
    simpa [hname] using (List.mem_filter.mp hfield).2
  · exact hnames.sublist (List.filter_sublist.map _)

/-- Putting fields one after the other leaves those that stand. -/
theorem foldl_putField_perm {fields : List (String × α)} (hnames : (fields.map (·.1)).Nodup)
    (others : List (String × α)) :
    (others.foldl (fun done field => putField field.1 field.2 done) fields).Perm
      (standing (fields ++ others)) := by
  induction others generalizing fields with
  | nil =>
      rw [standing_append hnames]
      simp [standing]
  | cons other others ih =>
      have hput := putField_perm hnames other.1 other.2
      have hnodup := nodup_putField hnames other.1 other.2
      refine (ih hnodup).trans ?_
      rw [standing_append hnodup, standing_append hnames, standing]
      -- what was put stands unless it is put again
      refine ((hput.filter _).append_right _).trans ?_
      rw [List.filter_append, List.filter_filter]
      have hkept : (fields.filter fun field =>
          decide (field.1 ∉ others.map (·.1)) && decide (field.1 ≠ other.1)) =
            fields.filter (·.1 ∉ (other :: others).map (·.1)) := by
        apply List.filter_congr
        intro field _
        by_cases hname : field.1 = other.1 <;> simp [hname]
      rw [hkept]
      by_cases hagain : other.1 ∈ others.map (·.1)
      · simp [hagain]
      · simp [hagain]

/-! ## Mappings from texts -/

/-- Whether a value is a text. -/
def Value.IsText (v : Value) : Prop := ∃ name, v = .text name

namespace Fields

/-- Fields as the entries of a mapping. -/
def toEntries (fields : Fields) : List (Value × Value) :=
  fields.map fun field => (.text field.1, field.2)

@[simp] theorem toEntries_nil : toEntries [] = [] := rfl

@[simp] theorem toEntries_cons (field : String × Value) (fields : Fields) :
    toEntries (field :: fields) = (.text field.1, field.2) :: toEntries fields := rfl

theorem toEntries_ofEntries
    {es : List (Value × Value)} (hes : ∀ entry ∈ es, entry.1.IsText) :
    (ofEntries es).toEntries = es := by
  induction es with
  | nil => rfl
  | cons entry es ih =>
      obtain ⟨⟨name, hname⟩, hothers⟩ := List.forall_mem_cons.mp hes
      obtain ⟨key, v⟩ := entry
      obtain rfl := hname
      exact congrArg ((Value.text name, v) :: ·) (ih hothers)

theorem ofEntries_toEntries (fields : Fields) : ofEntries fields.toEntries = fields := by
  induction fields with
  | nil => rfl
  | cons field fields ih => exact congrArg (field :: ·) ih

theorem isText_of_mem_toEntries
    {fields : Fields} {entry : Value × Value} (hentry : entry ∈ fields.toEntries) :
    entry.1.IsText := by
  obtain ⟨field, _, rfl⟩ := List.mem_map.mp hentry
  exact ⟨field.1, rfl⟩

theorem putEntry_toEntries (name : String) (v : Value) (fields : Fields) :
    putEntry (.text name) v fields.toEntries = toEntries (putField name v fields) := by
  induction fields with
  | nil => rfl
  | cons field fields ih =>
      have hequals : (Value.text field.1).equals (.text name) = (field.1 == name) := by
        simp [Value.equals]
      rw [toEntries_cons, putEntry, putField, hequals, ih]
      by_cases hname : field.1 = name
      · simp [hname]
      · simp [hname]

theorem foldl_putEntry_toEntries (others fields : Fields) :
    others.foldl (fun done field => putEntry (.text field.1) field.2 done) fields.toEntries =
      toEntries (others.foldl (fun done field => putField field.1 field.2 done) fields) := by
  induction others generalizing fields with
  | nil => rfl
  | cons other others ih => rw [List.foldl_cons, List.foldl_cons, putEntry_toEntries, ih]

theorem lookup?_toEntries (fields : Fields) (name : String) :
    lookup? fields.toEntries (.text name) = field? fields name := by
  unfold lookup? field? toEntries
  rw [List.find?_map, Option.map_map]
  have hequals : (fun entry : Value × Value => entry.1.equals (.text name)) ∘
      (fun field : String × Value => (Value.text field.1, field.2)) = (·.1 == name) := by
    funext field
    simp [Value.equals]
  rw [hequals]
  rfl

end Fields

end SqlBuilder
