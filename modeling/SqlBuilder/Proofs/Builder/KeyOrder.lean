import SqlBuilder.Proofs.Builder.Overriding
import SqlBuilder.Proofs.Value.Sorting

/-!
# Operator mappings in any order

What an operator mapping asks of a column depends on the values of its known keys
alone, and on its names where none of them is known.  So calls that differ in the
order of such keys, in the spelling of the one key that has two, or in keys that
are ignored do the same to a builder, or are refused with the same words.
-/

namespace SqlBuilder

open Conditions Fields

/-- An operator mapping has each key once, and the key with two spellings in one of them. -/
structure OperatorMapping where
  fields : Fields
  once : (fields.map (·.1)).Nodup
  spelledOnce : ¬ ("not_in" ∈ fields.map (·.1) ∧ "notIn" ∈ fields.map (·.1))

namespace OperatorMapping

def names (m : OperatorMapping) : List String := m.fields.map (·.1)

def entries (m : OperatorMapping) : List (Value × Value) := m.fields.toEntries

/-- The value under a key, in either spelling. -/
def value? (m : OperatorMapping) (key : String) : Option Value := field? (asked m.entries) key

def knownNames : List String := FilterOperator.keys.map (·.1)

/-- Whether a key is an operator, in either spelling. -/
def IsKnown (key : String) : Prop := usualName key ∈ knownNames

/-- Operator mappings that differ in the order of their keys, in the spelling of a key, or in keys
that are ignored. -/
inductive Alike : OperatorMapping → OperatorMapping → Prop
  | permuted {m n : OperatorMapping} (hfields : m.fields.Perm n.fields) : Alike m n
  | respelled {m n : OperatorMapping} {before after : Fields} {v : Value}
      (hm : m.fields = before ++ ("notIn", v) :: after)
      (hn : n.fields = before ++ ("not_in", v) :: after) : Alike m n
  | extended {m n : OperatorMapping} {key : String} {v : Value}
      (hknown : ∃ name ∈ m.names, IsKnown name) (hkey : ¬ IsKnown key)
      (hn : n.fields = m.fields ++ [(key, v)]) : Alike m n
  | symm {m n : OperatorMapping} (hswapped : Alike n m) : Alike m n
  | trans {m n k : OperatorMapping} (hfirst : Alike m n) (hsecond : Alike n k) : Alike m k

/-! ## What counts of a mapping -/

theorem areTextual (m : OperatorMapping) : AreTextual m.entries where
  texts := fun _ => isText_of_mem_toEntries
  once := by
    unfold entries
    rw [ofEntries_toEntries]
    exact m.once

theorem not_spellsTwice (m : OperatorMapping) : ¬ SpellsTwice m.entries := by
  unfold SpellsTwice entries
  rw [ofEntries_toEntries]
  exact m.spelledOnce

theorem asked_entries (m : OperatorMapping) :
    asked m.entries = m.fields.map fun field => (usualName field.1, field.2) := by
  unfold asked entries
  rw [ofEntries_toEntries]

theorem nodup_asked_entries (m : OperatorMapping) : ((asked m.entries).map (·.1)).Nodup :=
  nodup_asked m.areTextual m.not_spellsTwice

theorem value?_eq_none_iff {m : OperatorMapping} {key : String} :
    m.value? key = none ↔ ∀ name ∈ m.names, usualName name ≠ key := by
  unfold value?
  rw [field?_eq_none_iff, names_asked]
  unfold entries
  rw [ofEntries_toEntries]
  simp [names]

theorem no_value?_iff {m : OperatorMapping} :
    (∀ key ∈ knownNames, m.value? key = none) ↔ ∀ name ∈ m.names, ¬ IsKnown name := by
  constructor
  · intro hnone name hname hknown
    exact value?_eq_none_iff.mp (hnone _ hknown) name hname rfl
  · rintro hunknown key hkey
    refine value?_eq_none_iff.mpr fun name hname hsame => hunknown name hname ?_
    unfold IsKnown
    rwa [hsame]

/-- The known keys have the same values, and where there are none the names are the same. -/
structure Agrees (m n : OperatorMapping) : Prop where
  values : ∀ key ∈ knownNames, m.value? key = n.value? key
  names : (∀ name ∈ m.names, ¬ IsKnown name) → m.names.Perm n.names

theorem Agrees.isUnknown_iff {m n : OperatorMapping} (h : m.Agrees n) :
    (∀ name ∈ m.names, ¬ IsKnown name) ↔ ∀ name ∈ n.names, ¬ IsKnown name := by
  rw [← no_value?_iff, ← no_value?_iff]
  exact forall₂_congr fun key hkey => by rw [h.values key hkey]

theorem agrees_of_permuted {m n : OperatorMapping} (hfields : m.fields.Perm n.fields) :
    m.Agrees n where
  values := fun key _ => by
    have hasked : (asked m.entries).Perm (asked n.entries) := by
      rw [asked_entries, asked_entries]
      exact hfields.map _
    exact field?_of_perm m.nodup_asked_entries hasked key
  names := fun _ => hfields.map _

theorem agrees_of_respelled
    {m n : OperatorMapping} {before after : Fields} {v : Value}
    (hm : m.fields = before ++ ("notIn", v) :: after)
    (hn : n.fields = before ++ ("not_in", v) :: after) : m.Agrees n where
  values := fun key _ => by
    have hasked : asked m.entries = asked n.entries := by
      rw [asked_entries, asked_entries, hm, hn, List.map_append, List.map_append]
      rfl
    unfold value?
    rw [hasked]
  names := fun hunknown => by
    have hname : "notIn" ∈ m.names := by simp [names, hm]
    have hknown : IsKnown "notIn" := by unfold IsKnown; decide
    exact absurd hknown (hunknown _ hname)

theorem agrees_of_extended
    {m n : OperatorMapping} {key : String} {v : Value}
    (hknown : ∃ name ∈ m.names, IsKnown name) (hkey : ¬ IsKnown key)
    (hn : n.fields = m.fields ++ [(key, v)]) : m.Agrees n where
  values := fun name hname => by
    have hother : usualName key ≠ name := by
      rintro rfl
      exact hkey hname
    have hasked : asked n.entries = asked m.entries ++ [(usualName key, v)] := by
      rw [asked_entries, asked_entries, hn, List.map_append]
      rfl
    have hnew : field? [(usualName key, v)] name = none := by
      rw [field?_cons, if_neg hother, field?_nil]
    unfold value?
    rw [hasked]
    unfold field? at hnew ⊢
    rw [List.find?_append, Option.map_or, hnew, Option.or_none]
  names := fun hunknown => by
    obtain ⟨name, hname, hone⟩ := hknown
    exact absurd hone (hunknown name hname)

theorem agrees_of_alike {m n : OperatorMapping} (h : m.Alike n) : m.Agrees n := by
  induction h with
  | permuted hfields => exact agrees_of_permuted hfields
  | respelled hm hn => exact agrees_of_respelled hm hn
  | extended hknown hkey hn => exact agrees_of_extended hknown hkey hn
  | symm _ ih =>
      exact ⟨fun key hkey => (ih.values key hkey).symm,
        fun hunknown => (ih.names (ih.isUnknown_iff.mpr hunknown)).symm⟩
  | trans _ _ ihfirst ihsecond =>
      exact ⟨fun key hkey => (ihfirst.values key hkey).trans (ihsecond.values key hkey),
        fun hunknown => (ihfirst.names hunknown).trans
          (ihsecond.names (ihfirst.isUnknown_iff.mp hunknown))⟩

/-! ## The filters of a mapping -/

theorem lookup?_given (m : OperatorMapping) (key : String) :
    lookup? (given m.entries) (.text key) = m.value? key := by
  obtain ⟨fields, hgiven, hperm⟩ := exists_given m.areTextual.texts
  have hnames : (fields.map (·.1)).Nodup :=
    (hperm.map (·.1)).nodup_iff.mpr (nodup_standing _)
  have hall : fields.Perm (asked m.entries) := by
    have hnone := overridden_eq_nil_iff.mpr m.nodup_asked_entries
    have hsplit := standing_append_overridden_perm (asked m.entries)
    rw [hnone, List.append_nil] at hsplit
    exact hperm.trans hsplit
  rw [hgiven, lookup?_toEntries]
  exact field?_of_perm hnames hall key

theorem known_congr
    (connective : Connective) (column : Value) {given others : List (Value × Value)}
    {keys : List (String × FilterOperator)}
    (hsame : ∀ key ∈ keys.map (·.1), lookup? given (.text key) = lookup? others (.text key)) :
    known connective column given keys = known connective column others keys := by
  induction keys with
  | nil => rfl
  | cons key keys ih =>
      obtain ⟨hkey, hkeys⟩ := List.forall_mem_cons.mp hsame
      unfold known
      rw [hkey, ih hkeys]

theorem lookup?_of_known_eq_nil
    {connective : Connective} {column : Value} {given : List (Value × Value)}
    {keys : List (String × FilterOperator)}
    (hnone : known connective column given keys = .ok []) :
    ∀ key ∈ keys.map (·.1), lookup? given (.text key) = none := by
  induction keys with
  | nil => simp
  | cons key keys ih =>
      unfold known at hnone
      cases hfound : lookup? given (.text key.1) with
      | none =>
          rw [hfound] at hnone
          exact List.forall_mem_cons.mpr ⟨hfound, ih hnone⟩
      | some v =>
          rw [hfound] at hnone
          obtain ⟨_, _, hnone⟩ := Outcome.bind_eq_ok.mp hnone
          obtain ⟨_, _, hnone⟩ := Outcome.bind_eq_ok.mp hnone
          obtain ⟨_, _, hnone⟩ := Outcome.bind_eq_ok.mp hnone
          exact absurd (Outcome.pure_eq_ok.mp hnone) (List.cons_ne_nil _ _)

theorem keys_entries (m : OperatorMapping) : m.entries.map (·.1) = m.names.map .text := by
  unfold entries names toEntries
  rw [List.map_map, List.map_map]
  rfl

theorem unknownKeys_of_perm
    (column : Value) {m n : OperatorMapping} (hnames : m.names.Perm n.names) :
    unknownKeys column m.entries = unknownKeys column n.entries := by
  unfold unknownKeys
  rw [keys_entries, keys_entries, Value.sorted_texts_of_perm hnames]

theorem ofOperators_of_agrees
    (connective : Connective) (column : Value) {m n : OperatorMapping} (h : m.Agrees n) :
    ofOperators connective column m.entries = ofOperators connective column n.entries := by
  have hknown : known connective column (given m.entries) FilterOperator.keys =
      known connective column (given n.entries) FilterOperator.keys := by
    refine known_congr connective column fun key hkey => ?_
    rw [lookup?_given, lookup?_given]
    exact h.values key hkey
  unfold ofOperators
  rw [← hknown]
  cases houtcome : known connective column (given m.entries) FilterOperator.keys with
  | error failure => rfl
  | ok fs =>
      cases fs with
      | cons f fs => rfl
      | nil =>
          have hunknown : ∀ name ∈ m.names, ¬ IsKnown name := by
            refine no_value?_iff.mp fun key hkey => ?_
            rw [← lookup?_given]
            exact lookup?_of_known_eq_nil houtcome key hkey
          exact congrArg Except.error (unknownKeys_of_perm column (h.names hunknown))

/-! ## What a mapping adds or why it is refused -/

/-- The clauses of a mapping, in the order of this list. -/
def clauses (connective : Connective) (column : String) (m : OperatorMapping) : List Filter :=
  [("in", .isIn), ("not_in", .notIn), ("like", .like), ("ilike", .ilike), ("gt", .gt), ("lt", .lt),
    ("gte", .gte), ("lte", .lte), ("not", .ne)].filterMap fun key : String × FilterOperator =>
      (m.value? key.1).map (clause connective column key.2)

/-- The value under a key is a list or a tuple if it is there. -/
def HasListUnder (m : OperatorMapping) (key : String) : Prop :=
  ∀ v, m.value? key = some v → ∃ vs, v.listed? = some vs

/-- What becomes of a builder to which the conditions of a mapping are added: all of its clauses are
added, or none and one of two reasons is given. -/
inductive Course (m : OperatorMapping) (connective : Connective) (column : String) (b : Builder) :
    Changed → Prop
  | added (hknown : m.clauses connective column ≠ []) (hin : m.HasListUnder "in")
      (hnotIn : m.HasListUnder "not_in") :
      Course m connective column b
        ⟨{ b with filters := b.filters ++ m.clauses connective column }, none⟩
  | listless {key : String} {v : Value}
      (hkey : key = "in" ∨ key = "not_in" ∧ m.HasListUnder "in") (hv : m.value? key = some v)
      (hlist : v.listed? = none) :
      Course m connective column b ⟨b, some (.rejected (.invalidFilter (.text column)
        (.text ("'" ++ key ++ "' needs a list or tuple of values, got " ++ v.shown))))⟩
  | unknown {sorted : List String} (hunknown : ∀ name ∈ m.names, ¬ IsKnown name)
      (hnames : sorted.Perm m.names) (hsorted : sorted.Pairwise (· ≤ ·)) :
      Course m connective column b ⟨b, some (.rejected (.invalidFilter (.text column)
        (.text ("no recognized operator in " ++ (Value.list (sorted.map .text)).shown))))⟩

section Known

variable {m : OperatorMapping} {connective : Connective} {column : String}
  {key : String × FilterOperator} {keys : List (String × FilterOperator)} {v : Value}

theorem known_of_absent (hnone : m.value? key.1 = none) :
    known connective (.text column) (given m.entries) (key :: keys) =
      known connective (.text column) (given m.entries) keys := by
  rw [known, lookup?_given, hnone]

theorem known_of_listless
    (hkey : key.2 = .isIn ∨ key.2 = .notIn) (hv : m.value? key.1 = some v)
    (hlist : v.listed? = none) :
    known connective (.text column) (given m.entries) (key :: keys) =
      Outcome.reject (.invalidFilter (.text column)
        (.text ("'" ++ key.1 ++ "' needs a list or tuple of values, got " ++ v.shown))) := by
  rw [known, lookup?_given, hv]
  rcases hkey with hkey | hkey <;> (rw [hkey]; simp only [comparison, hlist]; rfl)

theorem known_of_list
    (hkey : key.2 = .isIn ∨ key.2 = .notIn → ∃ vs, v.listed? = some vs)
    (hv : m.value? key.1 = some v) :
    known connective (.text column) (given m.entries) (key :: keys) =
      (known connective (.text column) (given m.entries) keys).map
        (Conditions.clause connective column key.2 v :: ·) := by
  have hcompared : comparison (.text column) key.1 key.2 v = .ok (compared key.2 v) := by
    obtain ⟨name, operator⟩ := key
    cases operator with
    | isIn | notIn =>
        obtain ⟨vs, hvs⟩ := hkey (by simp)
        simp [comparison, compared, hvs]
    | ne => cases v <;> rfl
    | eq | gt | lt | gte | lte | like | ilike | is | isNot => rfl
  rw [known, lookup?_given, hv]
  simp only [hcompared]
  cases known connective (.text column) (given m.entries) keys <;> rfl

/-- Where membership is asked with lists, all clauses are there. -/
theorem known_of_lists
    (hkeys : ∀ key ∈ keys, key.2 = .isIn ∨ key.2 = .notIn → m.HasListUnder key.1) :
    known connective (.text column) (given m.entries) keys = .ok (keys.filterMap fun key =>
      (m.value? key.1).map (Conditions.clause connective column key.2)) := by
  induction keys with
  | nil => rfl
  | cons key keys ih =>
      obtain ⟨hkey, hothers⟩ := List.forall_mem_cons.mp hkeys
      rw [List.filterMap_cons]
      cases hv : m.value? key.1 with
      | none =>
          rw [known_of_absent hv]
          exact ih hothers
      | some v =>
          rw [known_of_list (fun hmember => hkey hmember v hv) hv, ih hothers]
          rfl

end Known

theorem exists_keys_after_members : ∃ others : List (String × FilterOperator),
    FilterOperator.keys = ("in", .isIn) :: ("not_in", .notIn) :: others ∧
      ∀ key ∈ others, ¬ (key.2 = .isIn ∨ key.2 = .notIn) := ⟨_, rfl, by decide⟩

theorem known_keys_of_lists
    {m : OperatorMapping} (connective : Connective) (column : String)
    (hin : m.HasListUnder "in") (hnotIn : m.HasListUnder "not_in") :
    known connective (.text column) (given m.entries) FilterOperator.keys =
      .ok (m.clauses connective column) := by
  obtain ⟨others, hkeys, hothers⟩ := exists_keys_after_members
  refine known_of_lists ?_
  rw [hkeys]
  refine List.forall_mem_cons.mpr ⟨fun _ => hin, List.forall_mem_cons.mpr ⟨fun _ => hnotIn, ?_⟩⟩
  exact fun key hkey hmember => absurd hmember (hothers key hkey)

/-- Of the two keys that ask for membership the first one without a list is reported. -/
theorem known_keys_of_listless
    {m : OperatorMapping} (connective : Connective) (column : String) {key : String} {v : Value}
    (hkey : key = "in" ∨ key = "not_in" ∧ m.HasListUnder "in") (hv : m.value? key = some v)
    (hlist : v.listed? = none) :
    known connective (.text column) (given m.entries) FilterOperator.keys =
      Outcome.reject (.invalidFilter (.text column)
        (.text ("'" ++ key ++ "' needs a list or tuple of values, got " ++ v.shown))) := by
  obtain ⟨others, hkeys, _⟩ := exists_keys_after_members
  rw [hkeys]
  rcases hkey with rfl | ⟨rfl, hin⟩
  · exact known_of_listless (.inl rfl) hv hlist
  · have hsecond : known connective (.text column) (given m.entries)
        (("not_in", .notIn) :: others) = _ := known_of_listless (.inr rfl) hv hlist
    cases hfirst : m.value? "in" with
    | none => exact (known_of_absent hfirst).trans hsecond
    | some w =>
        have hrest : known connective (.text column) (given m.entries)
            (("in", .isIn) :: ("not_in", .notIn) :: others) = _ :=
          known_of_list (fun _ => hin w hfirst) hfirst
        rw [hrest, hsecond]
        rfl

theorem exists_unknownKeys (column : Value) (m : OperatorMapping) :
    ∃ sorted : List String, sorted.Perm m.names ∧ sorted.Pairwise (· ≤ ·) ∧
      unknownKeys column m.entries = .rejected (.invalidFilter column
        (.text ("no recognized operator in " ++ (Value.list (sorted.map .text)).shown))) := by
  obtain ⟨sorted, hkeys, hperm, hsorted⟩ := Value.sorted_texts m.names
  refine ⟨sorted, hperm, hsorted, ?_⟩
  unfold unknownKeys
  rw [keys_entries, hkeys]

theorem change_operators
    (m : OperatorMapping) (connective : Connective) (column : Value) (b : Builder) :
    b.change (.filter connective (.dict [(column, .dict m.entries)]) []) =
      match ofOperators connective column m.entries with
      | .ok fs => ⟨{ b with filters := b.filters ++ fs }, none⟩
      | .error failure => ⟨b, some failure⟩ := by
  simp only [Builder.change, Conditions.entries, List.foldl_nil, Builder.addEntries, ofEntry]
  rfl

theorem course_change
    (m : OperatorMapping) (connective : Connective) (column : String) (b : Builder) :
    Course m connective column b
      (b.change (.filter connective (.dict [(.text column, .dict m.entries)]) [])) := by
  have hlistless : ∀ key, key = "in" ∨ key = "not_in" ∧ m.HasListUnder "in" →
      ¬ m.HasListUnder key → Course m connective column b
        (b.change (.filter connective (.dict [(.text column, .dict m.entries)]) [])) := by
    intro key hkey hwithout
    unfold HasListUnder at hwithout
    push Not at hwithout
    obtain ⟨v, hv, hnone⟩ := hwithout
    have hlist : v.listed? = none := Option.eq_none_iff_forall_ne_some.mpr hnone
    have hknown := known_keys_of_listless connective column hkey hv hlist
    rw [change_operators, ofOperators, hknown]
    exact .listless hkey hv hlist
  by_cases hin : m.HasListUnder "in"
  · by_cases hnotIn : m.HasListUnder "not_in"
    · have hknown := known_keys_of_lists connective column hin hnotIn
      by_cases hnone : m.clauses connective column = []
      · obtain ⟨sorted, hnames, hsorted, hkeys⟩ := exists_unknownKeys (.text column) m
        rw [change_operators, ofOperators, hknown, hnone, hkeys]
        refine .unknown (no_value?_iff.mp fun key hkey => ?_) hnames hsorted
        rw [← lookup?_given]
        exact lookup?_of_known_eq_nil (hnone ▸ hknown) key hkey
      · have houtcome : ofOperators connective (.text column) m.entries =
            .ok (m.clauses connective column) := by
          unfold ofOperators
          rw [hknown]
          split
          next hempty => exact absurd (Except.ok.inj hempty) hnone
          next => rfl
        rw [change_operators, houtcome]
        exact .added hnone hin hnotIn
    · exact hlistless "not_in" (.inr ⟨rfl, hin⟩) hnotIn
  · exact hlistless "in" (.inl rfl) hin

end OperatorMapping

/-! ## Calls with such mappings -/

namespace Conditions

/-- Values of a column that are the same, or operator mappings that are alike. -/
inductive AlikeValues : Value → Value → Prop
  | same (v : Value) : AlikeValues v v
  | operators {m n : OperatorMapping} (hoperators : m.Alike n) :
      AlikeValues (.dict m.entries) (.dict n.entries)

/-- The same columns in the same order with values that are alike. -/
def AlikeEntries {κ : Type} : List (κ × Value) → List (κ × Value) → Prop :=
  List.Forall₂ fun entry other => entry.1 = other.1 ∧ AlikeValues entry.2 other.2

/-- Conditions of a call that are the same, or mappings that are alike column by column. -/
inductive AlikeConditions : Value → Value → Prop
  | same (v : Value) : AlikeConditions v v
  | mapping {es others : List (Value × Value)} (hentries : AlikeEntries es others) :
      AlikeConditions (.dict es) (.dict others)

theorem ofEntry_of_alike (connective : Connective) (column : Value) {v w : Value}
    (h : AlikeValues v w) : ofEntry connective column v = ofEntry connective column w := by
  cases h with
  | same => rfl
  | operators hoperators =>
      exact OperatorMapping.ofOperators_of_agrees connective column
        (OperatorMapping.agrees_of_alike hoperators)

theorem AlikeEntries.refl {κ : Type} (es : List (κ × Value)) : AlikeEntries es es :=
  List.forall₂_same.mpr fun entry _ => ⟨rfl, .same entry.2⟩

theorem AlikeEntries.putEntry (column : Value) {v w : Value} (hvalue : AlikeValues v w)
    {es others : List (Value × Value)} (h : AlikeEntries es others) :
    AlikeEntries (putEntry column v es) (putEntry column w others) := by
  induction h with
  | nil => exact .cons ⟨rfl, hvalue⟩ .nil
  | @cons entry other es others hentry hrest ih =>
      unfold SqlBuilder.putEntry
      rw [hentry.1]
      split
      next => exact .cons ⟨rfl, hvalue⟩ hrest
      next => exact .cons hentry ih

theorem AlikeEntries.foldl_putEntry {named others : Fields} (hnamed : AlikeEntries named others)
    {done done' : List (Value × Value)} (hdone : AlikeEntries done done') :
    AlikeEntries (named.foldl (fun done (name, v) => SqlBuilder.putEntry (.text name) v done) done)
      (others.foldl (fun done (name, v) => SqlBuilder.putEntry (.text name) v done) done') := by
  induction hnamed generalizing done done' with
  | nil => exact hdone
  | @cons field other named others hfield _ ih =>
      obtain ⟨name, v⟩ := field
      obtain ⟨hname, hvalue⟩ := hfield
      obtain rfl : name = other.1 := hname
      exact ih (hdone.putEntry _ hvalue)

/-- Conditions that are alike can be read as columns that are, or not at all. -/
theorem entries_of_alike
    {conditions others : Value} (hconditions : AlikeConditions conditions others)
    {named namedOthers : Fields} (hnamed : AlikeEntries named namedOthers) :
    (∃ failure, entries conditions named = .error failure ∧
      entries others namedOthers = .error failure) ∨
    ∃ es es', entries conditions named = .ok es ∧ entries others namedOthers = .ok es' ∧
      AlikeEntries es es' := by
  cases hconditions with
  | mapping hentries => exact .inr ⟨_, _, rfl, rfl, hnamed.foldl_putEntry hentries⟩
  | same =>
      cases conditions with
      | dict es => exact .inr ⟨_, _, rfl, rfl, hnamed.foldl_putEntry (.refl es)⟩
      | _ =>
        unfold entries
        simp only
        split
        next => exact .inl ⟨_, rfl, rfl⟩
        next => exact .inr ⟨_, _, rfl, rfl, hnamed.foldl_putEntry (.refl [])⟩

end Conditions

namespace Builder

theorem addEntries_of_alike
    (connective : Connective) {es others : List (Value × Value)} (h : AlikeEntries es others)
    (b : Builder) : addEntries connective es b = addEntries connective others b := by
  induction h generalizing b with
  | nil => rfl
  | @cons entry other es others hentry _ ih =>
      obtain ⟨hcolumn, hvalue⟩ := hentry
      unfold addEntries
      rw [hcolumn, ofEntry_of_alike connective other.1 hvalue]
      split
      next fs _ => exact ih _
      next => rfl

/-- Calls whose operator mappings differ in the order of keys, in the spelling of a key or in ignored
keys make the same of a builder, its clauses and a refusal with all its words.  A mapping adds its
clauses in the order of the operators, or it is refused with a reason that its keys decide without
their order. -/
theorem change_of_alike
    {conditions others : Value} (hconditions : AlikeConditions conditions others)
    {named namedOthers : Fields} (hnamed : AlikeEntries named namedOthers)
    (b : Builder) (connective : Connective) :
    b.change (.filter connective conditions named) =
        b.change (.filter connective others namedOthers) ∧
      ∀ (m : OperatorMapping) (column : String), m.Course connective column b
        (b.change (.filter connective (.dict [(.text column, .dict m.entries)]) [])) := by
  refine ⟨?_, fun m column => m.course_change connective column b⟩
  unfold change
  rcases entries_of_alike hconditions hnamed with
    ⟨failure, hfailure, hfailure'⟩ | ⟨es, es', hes, hes', halike⟩
  · simp only [hfailure, hfailure']
  · simp only [hes, hes']
    exact addEntries_of_alike connective halike b

/-- Three keys in two orders, one of them in both spellings and with a fourth that is ignored. -/
theorem change_of_alike_reordered :
    let operators : Value := .dict
      [(.text "gt", .int 1), (.text "notIn", .list [.int 2]), (.text "in", .list [.int 3])]
    let reordered : Value := .dict [(.text "in", .list [.int 3]), (.text "near", .null),
      (.text "not_in", .list [.int 2]), (.text "gt", .int 1)]
    let b : Builder := { table := .text "t" }
    (b.change (.filter .or (.dict [(.text "a", operators)]) [("c", .int 4)])) =
        b.change (.filter .or (.dict [(.text "a", reordered)]) [("c", .int 4)]) ∧
      (b.change (.filter .or (.dict [(.text "a", operators)]) [("c", .int 4)])).builder.filters =
        [⟨.or, "a", .isIn, .tuple [.int 3]⟩, ⟨.or, "a", .notIn, .tuple [.int 2]⟩,
          ⟨.or, "a", .gt, .int 1⟩, ⟨.or, "c", .eq, .int 4⟩] := by
  intro operators reordered b
  let first : OperatorMapping :=
    ⟨[("gt", .int 1), ("notIn", .list [.int 2]), ("in", .list [.int 3])], by decide, by decide⟩
  let respelled : OperatorMapping :=
    ⟨[("gt", .int 1), ("not_in", .list [.int 2]), ("in", .list [.int 3])], by decide, by decide⟩
  let longer : OperatorMapping :=
    ⟨[("gt", .int 1), ("not_in", .list [.int 2]), ("in", .list [.int 3]), ("near", .null)],
      by decide, by decide⟩
  let last : OperatorMapping :=
    ⟨[("in", .list [.int 3]), ("near", .null), ("not_in", .list [.int 2]), ("gt", .int 1)],
      by decide, by decide⟩
  have hsplit : first.fields = [("gt", .int 1)] ++ ("notIn", .list [.int 2]) ::
      [("in", .list [.int 3])] := rfl
  have hrespelled : first.Alike respelled := .respelled hsplit rfl
  have hlonger : respelled.Alike longer := by
    refine .extended ⟨"gt", List.mem_cons_self, ?_⟩ ?_ rfl
    · unfold OperatorMapping.IsKnown
      decide
    · unfold OperatorMapping.IsKnown
      decide
  have hlast : longer.Alike last :=
    .permuted ((List.reverse_perm _).symm.trans (List.Perm.swap _ _ _))
  have halike : AlikeValues operators reordered :=
    .operators (hrespelled.trans (hlonger.trans hlast))
  have hconditions : AlikeConditions (.dict [(.text "a", operators)])
      (.dict [(.text "a", reordered)]) := .mapping (.cons ⟨rfl, halike⟩ .nil)
  exact ⟨(change_of_alike hconditions (.refl [("c", .int 4)]) b .or).1, by cbv⟩

end Builder

end SqlBuilder
