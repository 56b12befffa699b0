import Mathlib.Data.List.Permutation
import SqlBuilder.Proofs.Builder.Reachable
import SqlBuilder.Proofs.Value.Fields

/-!
# Conditions that others override

A call that adds conditions adds one clause for each value and one for each known
key of an operator mapping, with two exceptions.  Conditions given by name
override those that a mapping has for the same column, and of the two spellings
of one key the later counts.  What is overridden is dropped without a word.
-/

namespace SqlBuilder

/-- Every key of a mapping is a text, and is there once. -/
structure Fields.AreTextual (entries : List (Value × Value)) : Prop where
  texts : ∀ entry ∈ entries, entry.1.IsText
  once : ((ofEntries entries).map (·.1)).Nodup

namespace Conditions

open Fields

/-- The conditions of a call under the names of their columns: those of a mapping, then those that
are given by name. -/
def byColumn (conditions : Value) (named : Fields) : Fields :=
  (match conditions with
    | .dict entries => ofEntries entries
    | _ => []) ++ named

/-! ## The clauses of a condition -/

def usualName (key : String) : String := if key = "notIn" then "not_in" else key

/-- What an operator mapping asks for, each key in its usual spelling. -/
def asked (entries : List (Value × Value)) : Fields :=
  (ofEntries entries).map fun field => (usualName field.1, field.2)

/-- What an operator compares with: membership with a tuple, and `!=` with nothing is `IS NOT`. -/
def compared : FilterOperator → Value → FilterOperator × Value
  | .isIn, v => (.isIn, .tuple (v.listed?.getD []))
  | .notIn, v => (.notIn, .tuple (v.listed?.getD []))
  | .ne, .null => (.isNot, .null)
  | operator, v => (operator, v)

def clause (connective : Connective) (column : String) (operator : FilterOperator) (v : Value) :
    Filter :=
  { connective, column, operator := (compared operator v).1, value := (compared operator v).2 }

def keyClauses (connective : Connective) (column : String) (asked : Fields) : List Filter :=
  asked.filterMap fun field =>
    (field? FilterOperator.keys field.1).map (clause connective column · field.2)

/-- The clauses that a column with a value asks for: one for each known key of an operator mapping,
or a single one. -/
def clauses (connective : Connective) (field : String × Value) : List Filter :=
  match field.2 with
  | .dict entries => keyClauses connective field.1 (asked entries)
  | .null => [clause connective field.1 .is .null]
  | v => [clause connective field.1 .eq v]

/-- The clauses that are left where a later spelling of a key overrides an earlier one. -/
def keptClauses (connective : Connective) (field : String × Value) : List Filter :=
  match field.2 with
  | .dict entries => keyClauses connective field.1 (standing (asked entries))
  | _ => clauses connective field

/-- The clauses of keys that a later spelling overrides. -/
def lostClauses (connective : Connective) (field : String × Value) : List Filter :=
  match field.2 with
  | .dict entries => keyClauses connective field.1 (overridden (asked entries))
  | _ => []

/-- The clauses that conditions ask for in vain: those of columns that are given again, and those
of keys that are. -/
def droppedClauses (connective : Connective) (fields : Fields) : List Filter :=
  (overridden fields).flatMap (clauses connective)
    ++ (standing fields).flatMap (lostClauses connective)

theorem kept_append_lost_perm (connective : Connective) (field : String × Value) :
    (keptClauses connective field ++ lostClauses connective field).Perm
      (clauses connective field) := by
  obtain ⟨column, v⟩ := field
  cases v with
  | dict entries =>
      simp only [keptClauses, lostClauses, clauses, keyClauses]
      rw [← List.filterMap_append]
      exact (standing_append_overridden_perm _).filterMap _
  | _ => exact .of_eq (List.append_nil _)

theorem kept_append_dropped_perm (connective : Connective) (fields : Fields) :
    ((standing fields).flatMap (keptClauses connective) ++ droppedClauses connective fields).Perm
      (fields.flatMap (clauses connective)) := by
  have hstanding : ((standing fields).flatMap (keptClauses connective)
      ++ (standing fields).flatMap (lostClauses connective)).Perm
        ((standing fields).flatMap (clauses connective)) :=
    (List.flatMap_append_perm _ _ _).trans
      (List.Perm.flatMap_left _ fun field _ => kept_append_lost_perm connective field)
  have hall := (standing_append_overridden_perm fields).flatMap_right (clauses connective)
  rw [List.flatMap_append] at hall
  refine .trans ?_ hall
  -- what is lost of a column that stands belongs to the kept clauses of that column
  unfold droppedClauses
  refine (List.perm_append_comm.append_left _).trans ?_
  rw [← List.append_assoc]
  exact hstanding.append_right _

/-! ## The filters that conditions make -/

theorem usualKey_text (key : String) : usualKey (.text key) = .text (usualName key) := by
  unfold usualName
  split
  next hkey => rw [hkey]; rfl
  next hkey => simp [usualKey, Value.text?, hkey]

theorem exists_given
    {entries : List (Value × Value)} (hentries : ∀ entry ∈ entries, entry.1.IsText) :
    ∃ fields, given entries = toEntries fields ∧
      fields.Perm (standing (asked entries)) := by
  have hnone : (([] : Fields).map (·.1)).Nodup := List.nodup_nil
  refine ⟨(asked entries).foldl (fun done field => putField field.1 field.2 done) [], ?_,
    foldl_putField_perm hnone (asked entries)⟩
  -- both folds go over the same keys, respelled on the way or before
  rw [← foldl_putEntry_toEntries]
  unfold given asked
  conv_lhs => rw [← toEntries_ofEntries hentries]
  unfold toEntries
  rw [List.foldl_map, List.foldl_map]
  simp only [usualKey_text]
  rfl

theorem comparison_eq_compared
    {column v : Value} {key : String} {operator : FilterOperator} {r : FilterOperator × Value}
    (hr : comparison column key operator v = .ok r) : r = compared operator v := by
  unfold comparison at hr
  cases operator with
  | isIn | notIn =>
      simp only at hr
      split at hr
      next vs hvs =>
        cases hr
        simp [compared, hvs]
      next => exact absurd hr (Outcome.reject_ne_ok _ _)
  | ne =>
      cases v with
      | null | _ => exact (Except.ok.inj hr).symm
  | eq | gt | lt | gte | lte | like | ilike | is | isNot => exact (Except.ok.inj hr).symm

theorem known_eq_filterMap
    {connective : Connective} {column : String} {fields : Fields}
    {keys : List (String × FilterOperator)} {fs : List Filter}
    (hfs : known connective (.text column) fields.toEntries keys = .ok fs) :
    fs = keys.filterMap fun key =>
      (field? fields key.1).map (clause connective column key.2) := by
  induction keys generalizing fs with
  | nil => exact (Except.ok.inj hfs).symm
  | cons key keys ih =>
      unfold known at hfs
      rw [lookup?_toEntries] at hfs
      rw [List.filterMap_cons]
      cases hfound : field? fields key.1 with
      | none =>
          rw [hfound] at hfs
          exact ih hfs
      | some v =>
          rw [hfound] at hfs
          obtain ⟨r, hr, hfs⟩ := Outcome.bind_eq_ok.mp hfs
          obtain ⟨f, hf, hfs⟩ := Outcome.bind_eq_ok.mp hfs
          obtain ⟨others, hothers, hfs⟩ := Outcome.bind_eq_ok.mp hfs
          obtain rfl := Outcome.pure_eq_ok.mp hfs
          obtain rfl := comparison_eq_compared hr
          obtain rfl := Except.ok.inj hf
          exact congrArg (_ :: ·) (ih hothers)

theorem perm_of_ofEntry
    {connective : Connective} {column : String} {v : Value} {fs : List Filter}
    (hv : ∀ entries, v = .dict entries → AreTextual entries)
    (hfs : ofEntry connective (.text column) v = .ok fs) :
    fs.Perm (keptClauses connective (column, v)) := by
  cases v with
  | dict entries =>
      have hknown : known connective (.text column) (given entries) FilterOperator.keys =
          .ok fs := by
        unfold ofEntry ofOperators at hfs
        simp only at hfs
        split at hfs
        next => simp at hfs
        next => exact hfs
      obtain ⟨fields, hgiven, hfields⟩ := exists_given (hv entries rfl).texts
      have hnames : (fields.map (·.1)).Nodup :=
        (hfields.map (·.1)).nodup_iff.mpr (nodup_standing _)
      rw [hgiven] at hknown
      rw [known_eq_filterMap hknown]
      -- walking the table of keys finds what walking the mapping finds
      exact (filterMap_field?_perm (by decide) hnames (clause connective column)).trans
        (hfields.filterMap _)
  | _ =>
      obtain rfl := Except.ok.inj hfs
      exact .refl _

/-! ## Keys in both spellings -/

/-- A mapping that holds the one key with two spellings in both. -/
def SpellsTwice (entries : List (Value × Value)) : Prop :=
  "not_in" ∈ (ofEntries entries).map (·.1) ∧ "notIn" ∈ (ofEntries entries).map (·.1)

theorem names_asked (entries : List (Value × Value)) :
    (asked entries).map (·.1) = ((ofEntries entries).map (·.1)).map usualName := by
  unfold asked
  rw [List.map_map, List.map_map]
  rfl

theorem nodup_asked
    {entries : List (Value × Value)} (hentries : AreTextual entries)
    (htwice : ¬ SpellsTwice entries) : ((asked entries).map (·.1)).Nodup := by
  rw [names_asked]
  apply hentries.once.map_on
  intro key hkey other hother hsame
  unfold usualName at hsame
  split at hsame <;> split at hsame
  next hfirst hlast => rw [hfirst, hlast]
  next hfirst _ => exact absurd ⟨hsame ▸ hother, hfirst ▸ hkey⟩ htwice
  next _ hlast => exact absurd ⟨hsame ▸ hkey, hlast ▸ hother⟩ htwice
  next => exact hsame

theorem mem_overridden_of_spellsTwice
    {entries : List (Value × Value)} (htwice : SpellsTwice entries) :
    "not_in" ∈ (overridden (asked entries)).map (·.1) := by
  apply mem_names_overridden
  have hboth : ["not_in", "notIn"] ⊆ (ofEntries entries).map (·.1) := by
    simpa [SpellsTwice] using htwice
  obtain ⟨spellings, hspellings, hsub⟩ := List.subperm_of_subset (by decide) hboth
  have hcount := (hsub.map usualName).count_le "not_in"
  rw [(hspellings.map usualName).count_eq] at hcount
  rw [names_asked]
  exact hcount

/-- Clauses of a column are lost only where its operator mapping holds both spellings. -/
theorem lostClauses_eq_nil_iff
    {connective : Connective} {field : String × Value}
    (hfield : ∀ entries, field.2 = .dict entries → AreTextual entries) :
    lostClauses connective field = [] ↔
      ∀ entries, field.2 = .dict entries → ¬ SpellsTwice entries := by
  obtain ⟨column, v⟩ := field
  cases v with
  | dict entries =>
      have hentries := hfield entries rfl
      constructor
      · intro hnone _ hsame htwice
        cases hsame
        obtain ⟨key, hkey, hname⟩ := List.mem_map.mp (mem_overridden_of_spellsTwice htwice)
        have hlost := List.filterMap_eq_nil_iff.mp hnone key hkey
        have hknown : field? FilterOperator.keys "not_in" = some .notIn := by decide
        rw [hname, hknown] at hlost
        cases hlost
      · intro htwice
        simp only [lostClauses]
        rw [overridden_eq_nil_iff.mpr (nodup_asked hentries (htwice entries rfl))]
        rfl
  | _ => simp [lostClauses]

/-! ## The conditions of a call -/

theorem exists_entries
    {conditions : Value} {named : Fields} {es : List (Value × Value)}
    (hconditions : ∀ entries, conditions = .dict entries → AreTextual entries)
    (hes : entries conditions named = .ok es) :
    ∃ fields, es = toEntries fields ∧
      fields.Perm (standing (byColumn conditions named)) := by
  have hmerged : ∀ given : Fields, (given.map (·.1)).Nodup →
      ∃ fields, named.foldl (fun done field => putEntry (.text field.1) field.2 done)
        (toEntries given) = toEntries fields ∧
          fields.Perm (standing (given ++ named)) :=
    fun given hgiven => ⟨_, foldl_putEntry_toEntries named given, foldl_putField_perm hgiven named⟩
  unfold entries at hes
  unfold byColumn
  split at hes
  next entries =>
    obtain ⟨htexts, honce⟩ := hconditions entries rfl
    obtain rfl := Except.ok.inj hes
    have hfields := hmerged (ofEntries entries) honce
    rwa [toEntries_ofEntries htexts] at hfields
  next hdict =>
    split at hes
    next => simp at hes
    next =>
      obtain rfl := Except.ok.inj hes
      simpa [hdict] using hmerged [] List.nodup_nil

end Conditions

namespace Builder

open Conditions Fields

theorem exists_added
    {connective : Connective} {fields : Fields}
    (hfields : ∀ field ∈ fields, ∀ entries, field.2 = .dict entries → AreTextual entries)
    {b : Builder}
    (haccepted : (addEntries connective (toEntries fields) b).refusal = none) :
    ∃ added, (addEntries connective (toEntries fields) b).builder =
        { b with filters := b.filters ++ added } ∧
      added.Perm (fields.flatMap (keptClauses connective)) := by
  induction fields generalizing b with
  | nil => exact ⟨[], by simp [addEntries], .refl _⟩
  | cons field fields ih =>
      obtain ⟨hfield, hothers⟩ := List.forall_mem_cons.mp hfields
      rw [toEntries_cons] at haccepted ⊢
      unfold addEntries at haccepted ⊢
      cases hfs : ofEntry connective (.text field.1) field.2 with
      | error failure =>
          rw [hfs] at haccepted
          simp [unchanged] at haccepted
      | ok fs =>
          simp only [hfs] at haccepted ⊢
          obtain ⟨added, hadded, hperm⟩ := ih hothers haccepted
          refine ⟨fs ++ added, ?_, ?_⟩
          · rw [hadded, ← List.append_assoc]
          · exact (perm_of_ofEntry hfield hfs).append hperm

/-- A call with conditions that is accepted adds the clauses of those that nothing overrides.  With
the dropped ones they are all that the conditions ask for.  So every condition has its clause if
and only if no column with clauses is given again by name, and no operator mapping that counts holds
both spellings of one key. -/
theorem filters_of_accepted
    {b : Builder} {connective : Connective} {conditions : Value} {named : Fields}
    (hconditions : ∀ entries, conditions = .dict entries → AreTextual entries)
    (hoperators : ∀ field ∈ byColumn conditions named, ∀ entries,
      field.2 = .dict entries → AreTextual entries)
    (haccepted : (b.change (.filter connective conditions named)).refusal = none) :
    ∃ added,
      (b.change (.filter connective conditions named)).builder =
        { b with filters := b.filters ++ added } ∧
      added.Perm ((standing (byColumn conditions named)).flatMap (keptClauses connective)) ∧
      (added ++ droppedClauses connective (byColumn conditions named)).Perm
        ((byColumn conditions named).flatMap (clauses connective)) ∧
      (added.length = ((byColumn conditions named).flatMap (clauses connective)).length ↔
        (∀ field ∈ overridden (byColumn conditions named), clauses connective field = []) ∧
        ∀ field ∈ standing (byColumn conditions named), ∀ entries,
          field.2 = .dict entries → ¬ SpellsTwice entries) := by
  have hgiven : ∀ field ∈ standing (byColumn conditions named),
      field ∈ byColumn conditions named := fun field hfield =>
    (standing_append_overridden_perm _).subset (List.mem_append_left _ hfield)
  unfold change at haccepted ⊢
  cases hes : entries conditions named with
  | error failure =>
      simp only [hes] at haccepted
      simp [unchanged] at haccepted
  | ok es =>
      simp only [hes] at haccepted ⊢
      obtain ⟨fields, rfl, hfields⟩ := exists_entries hconditions hes
      have hmappings : ∀ field ∈ fields, ∀ entries, field.2 = .dict entries →
          AreTextual entries :=
        fun field hfield => hoperators field (hgiven field (hfields.subset hfield))
      obtain ⟨added, hadded, hperm⟩ := exists_added hmappings haccepted
      have hkept := hperm.trans (hfields.flatMap_right (keptClauses connective))
      have hall := (hkept.append_right _).trans
        (kept_append_dropped_perm connective (byColumn conditions named))
      refine ⟨added, hadded, hkept, hall, ?_⟩
      have hdropped : droppedClauses connective (byColumn conditions named) = [] ↔
          (∀ field ∈ overridden (byColumn conditions named), clauses connective field = []) ∧
          ∀ field ∈ standing (byColumn conditions named), ∀ entries,
            field.2 = .dict entries → ¬ SpellsTwice entries := by
        unfold droppedClauses
        rw [List.append_eq_nil_iff, List.flatMap_eq_nil_iff, List.flatMap_eq_nil_iff]
        refine and_congr_right fun _ => forall₂_congr fun field hfield => ?_
        exact lostClauses_eq_nil_iff (hoperators field (hgiven field hfield))
      rw [← hdropped, ← List.length_eq_zero_iff, ← hall.length_eq, List.length_append]
      omega

/-- Of four conditions two are dropped: one is given again by name, and one under another
spelling. -/
theorem filters_of_accepted_overridden :
    let members : List (Value × Value) :=
      [(.text "not_in", .list [.int 1]), (.text "notIn", .list [.int 2])]
    let conditions : Value := .dict [(.text "a", .dict members), (.text "b", .int 3)]
    let named : Fields := [("b", .int 4)]
    let b : Builder := { table := .text "t" }
    (b.change (.filter .and conditions named)).refusal = none ∧
      ∃ added,
        (b.change (.filter .and conditions named)).builder = { b with filters := added } ∧
        added.Perm [⟨.and, "a", .notIn, .tuple [.int 2]⟩, ⟨.and, "b", .eq, .int 4⟩] ∧
        ((byColumn conditions named).flatMap (clauses .and)).length = 4 ∧ added.length ≠ 4 := by
  intro members conditions named b
  have hmembers : AreTextual members :=
    ⟨by simp [members, Value.IsText], by decide⟩
  have hconditions : ∀ entries, conditions = .dict entries → AreTextual entries := by
    intro entries hentries
    obtain rfl := Value.dict.inj hentries
    exact ⟨by simp [Value.IsText], by decide⟩
  have hoperators : ∀ field ∈ byColumn conditions named, ∀ entries,
      field.2 = .dict entries → AreTextual entries := by
    intro field hfield entries hentries
    have hgiven : byColumn conditions named =
        [("a", .dict members), ("b", .int 3), ("b", .int 4)] := rfl
    rw [hgiven] at hfield
    simp only [List.mem_cons, List.not_mem_nil, or_false] at hfield
    rcases hfield with rfl | rfl | rfl <;> cases hentries
    exact hmembers
  have haccepted : (b.change (.filter .and conditions named)).refusal = none := by cbv
  obtain ⟨added, hadded, hkept, _⟩ := filters_of_accepted hconditions hoperators haccepted
  have hkept : added.Perm [⟨.and, "a", .notIn, .tuple [.int 2]⟩, ⟨.and, "b", .eq, .int 4⟩] :=
    hkept.trans (.of_eq (by cbv))
  refine ⟨haccepted, added, hadded, hkept, by cbv, ?_⟩
  rw [hkept.length_eq]
  decide

end Builder

end SqlBuilder
