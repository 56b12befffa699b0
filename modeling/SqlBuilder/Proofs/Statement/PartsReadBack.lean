import SqlBuilder.Proofs.Statement.Reading

/-!
# Reading the parts of a statement back

Commas and parentheses do not change what words say, so the parts of a clause
are read from its terms.  Conditions are set off by their connectives, and
rows by the parenthesis before their first word.
-/

namespace SqlBuilder

open Text Word

/-! ## Terms of words -/

namespace Word

@[simp] theorem terms_nil : terms [] = [] := rfl

@[simp] theorem terms_cons (w : Word) (ws : List Word) :
    terms (w :: ws) = w.term :: terms ws := rfl

@[simp] theorem terms_append (ws vs : List Word) : terms (ws ++ vs) = terms ws ++ terms vs := by
  simp [terms]

@[simp] theorem term_literal (s : String) : (literal s).term = .literal s := rfl

@[simp] theorem term_naming (s : String) : (naming s).term = .name s := rfl

@[simp] theorem term_holding (v : Value) : (holding v).term = .value v := rfl

@[simp] theorem terms_followedBy (c : Char) (ws : List Word) :
    terms (followedBy c ws) = terms ws := by
  induction ws with
  | nil => rfl
  | cons w ws ih =>
      cases ws with
      | nil => rfl
      | cons v ws =>
          rw [followedBy, terms_cons, ih]
          · rfl
          · simp

@[simp] theorem terms_precededBy (c : Char) (ws : List Word) :
    terms (precededBy c ws) = terms ws := by
  cases ws <;> rfl

@[simp] theorem terms_enclosed (ws : List Word) : terms (enclosed ws) = terms ws := by
  simp [enclosed]

theorem terms_listed (groups : List (List Word)) :
    terms (listed groups) = groups.flatMap terms := by
  induction groups with
  | nil => rfl
  | cons group groups ih =>
      cases groups with
      | nil => simp
      | cons next groups =>
          rw [listed_cons_cons, terms_append, ih, terms_followedBy]
          rfl

/-- A property of words that only depends on their terms. -/
theorem plain_of_terms
    {κ : Type} {key : Term → Option κ} {ws : List Word}
    (hws : ∀ t ∈ terms ws, key t = none) : Plain (fun w => key w.term) ws := by
  intro w hw
  exact hws w.term (List.mem_map_of_mem hw)

end Word

theorem terms_nameWords (names : List String) : terms (nameWords names) = names.map .name := by
  unfold nameWords
  rw [terms_listed, List.flatMap_map, List.map_eq_flatMap]
  rfl

theorem terms_rowWords (vs : List Value) : terms (rowWords vs) = vs.map .value := by
  unfold rowWords
  rw [terms_enclosed, terms_listed, List.flatMap_map, List.map_eq_flatMap]
  rfl

theorem terms_assignmentWords (fields : List (String × Value)) :
    terms (listed (fields.map Statement.assignmentWords)) =
      fields.flatMap fun field => [.name field.1, .literal "=", .value field.2] := by
  rw [terms_listed, List.flatMap_map]
  rfl

namespace Reading

theorem names?_nameWords (names : List String) :
    names? (terms (nameWords names)) = some names := by
  have hnames : (names.map Term.name).mapM Term.named? = some (names.map id) :=
    mapM_map (fun _ _ => rfl)
  rw [List.map_id] at hnames
  rw [terms_nameWords]
  exact hnames

theorem mapM_held? (vs : List Value) : (vs.map Term.value).mapM Term.held? = some vs := by
  have hvalues : (vs.map Term.value).mapM Term.held? = some (vs.map id) :=
    mapM_map (fun _ _ => rfl)
  rw [List.map_id] at hvalues
  exact hvalues

/-! ## Conditions -/

theorem ofWord?_connective (c : Connective) : Vocabulary.ofWord? c.word = some c := by
  cases c <;> decide

theorem ofWord?_joinKind (k : JoinKind) : Vocabulary.ofWord? k.word = some k := by
  cases k <;> decide

theorem terms_membership (column : String) (operator : FilterOperator) (vs : List Value) :
    terms (naming column :: (operator.words ++ rowWords vs)) =
      .name column :: (terms operator.words ++ vs.map .value) := by
  rw [terms_cons, terms_append, terms_rowWords]
  rfl

/-- A condition is read back from the words of its filter. -/
theorem condition?_words {f : Filter} (hf : f.IsBuilt) :
    condition? (terms f.words) = some f.reading := by
  obtain ⟨connective, column, operator, v⟩ := f
  cases operator with
  | isIn =>
      obtain ⟨vs, rfl⟩ : ∃ vs, v = .tuple vs := hf.member (by simp)
      cases vs with
      | nil => rfl
      | cons v vs =>
          have hread : condition? (.name column :: .literal "IN" :: (v :: vs).map .value) =
              some (.comparison column .isIn (.tuple (v :: vs))) := by
            rw [condition?, mapM_held?]
            rfl
          have hterms := terms_membership column .isIn (v :: vs)
          exact (congrArg condition? hterms).trans hread
  | notIn =>
      obtain ⟨vs, rfl⟩ : ∃ vs, v = .tuple vs := hf.member (by simp)
      cases vs with
      | nil => rfl
      | cons v vs =>
          have hread : condition? (.name column :: .literal "NOT" :: .literal "IN" ::
              (v :: vs).map .value) =
              some (.comparison column .notIn (.tuple (v :: vs))) := by
            rw [condition?, mapM_held?]
            rfl
          have hterms := terms_membership column .notIn (v :: vs)
          exact (congrArg condition? hterms).trans hread
  | is | isNot =>
      obtain rfl : v = .null := hf.tested (by simp)
      rfl
  | eq | ne | gt | lt | gte | lte | like | ilike => rfl

/-- The literals of conditions, which start no clause and are no connectives. -/
def innerWords : List String :=
  ["1=0", "1=1", "=", "!=", ">", "<", ">=", "<=", "LIKE", "ILIKE", "IN", "NOT", "IS", "NULL"]

/-- Whether a term may stand in a condition. -/
def isInner : Term → Bool
  | .literal s => s ∈ innerWords
  | .name _ | .value _ => true

theorem isInner_comparison
    {column : String} {operator : FilterOperator} {ws : List Word}
    (hws : ∀ t ∈ terms ws, isInner t = true) :
    ∀ t ∈ terms (naming column :: (operator.words ++ ws)), isInner t = true := by
  have hoperator : ∀ t ∈ terms operator.words, isInner t = true := by
    cases operator <;> decide
  intro t ht
  rw [terms_cons, terms_append] at ht
  rcases List.mem_cons.mp ht with rfl | ht
  · rfl
  · rcases List.mem_append.mp ht with ht | ht
    · exact hoperator t ht
    · exact hws t ht

theorem isInner_words {f : Filter} (hf : f.IsBuilt) : ∀ t ∈ terms f.words, isInner t = true := by
  have hsingle : ∀ {w : Word}, isInner w.term = true → ∀ t ∈ terms [w], isInner t = true := by
    intro w hw t ht
    rw [List.mem_singleton.mp ht]
    exact hw
  have hrow : ∀ vs : List Value, ∀ t ∈ terms (rowWords vs), isInner t = true := by
    intro vs t ht
    rw [terms_rowWords] at ht
    obtain ⟨v, _, rfl⟩ := List.mem_map.mp ht
    rfl
  obtain ⟨connective, column, operator, v⟩ := f
  cases operator with
  | isIn | notIn =>
      obtain ⟨vs, rfl⟩ : ∃ vs, v = .tuple vs := hf.member (by simp)
      cases vs with
      | nil => exact hsingle rfl
      | cons v vs => exact isInner_comparison (hrow (v :: vs))
  | is | isNot =>
      obtain rfl : v = .null := hf.tested (by simp)
      exact isInner_comparison (hsingle rfl)
  | eq | ne | gt | lt | gte | lte | like | ilike =>
      exact isInner_comparison (hsingle rfl)

theorem clause?_of_isInner {t : Term} (ht : isInner t = true) : t.clause? = none := by
  have hinner : ∀ s ∈ innerWords, (Term.literal s).clause? = none := by decide
  cases t with
  | literal s => exact hinner s (of_decide_eq_true ht)
  | name s => rfl
  | value v => rfl

theorem connective?_of_isInner {t : Term} (ht : isInner t = true) : t.connective? = none := by
  have hinner : ∀ s ∈ innerWords, (Term.literal s).connective? = none := by decide
  cases t with
  | literal s => exact hinner s (of_decide_eq_true ht)
  | name s => rfl
  | value v => rfl

/-- The words of filters after `WHERE`. -/
def whereBody : List Filter → List Word
  | [] => []
  | f :: fs => f.words ++ Filters.restWords fs

theorem conditions?_whereBody {fs : List Filter} (hfs : ∀ f ∈ fs, f.IsBuilt) :
    conditions? (whereBody fs) = some (Filters.reading fs) := by
  cases fs with
  | nil => rfl
  | cons f fs =>
      have hf : f.IsBuilt := hfs f (by simp)
      have hrest : ∀ g ∈ fs, g.IsBuilt := fun g hg => hfs g (List.mem_cons_of_mem f hg)
      have hplain : ∀ {g : Filter}, g.IsBuilt → Plain connective? g.words := by
        intro g hg
        exact plain_of_terms fun t ht => connective?_of_isInner (isInner_words hg t ht)
      have hkey : ∀ c : Connective, connective? (literal c.word) = some c :=
        ofWord?_connective
      have hparts : Filters.restWords fs =
          (fs.map fun g => (g.connective, g.words)).flatMap
            fun part => literal part.1.word :: part.2 := by
        rw [List.flatMap_map]
        rfl
      have hhead : ∀ w ∈ (Filters.restWords fs).head?, connective? w ≠ none := by
        cases fs with
        | nil => simp [Filters.restWords]
        | cons g fs =>
            intro w hw
            obtain rfl : literal g.connective.word = w := Option.some.inj hw
            simp [hkey]
      have hleading := leading_append (hplain hf) hhead
      have hsections : sections connective? (f.words ++ Filters.restWords fs) =
          fs.map fun g => (g.connective, g.words) := by
        rw [sections_append (hplain hf), hparts]
        apply sections_flatMap (fun c : Connective => literal c.word)
        · intro part _
          exact hkey part.1
        · intro part hpart
          obtain ⟨g, hg, rfl⟩ := List.mem_map.mp hpart
          exact hplain (hrest g hg)
      have hothers : (fs.map fun g => (g.connective, g.words)).mapM (fun part =>
          (condition? (terms part.2)).map fun condition => (some part.1, condition)) =
            some (fs.map fun g => (some g.connective, g.reading)) := by
        apply mapM_map
        intro g hg
        rw [condition?_words (hrest g hg)]
        rfl
      have hnonempty : (f.words ++ Filters.restWords fs).isEmpty = false := by
        have hwords : f.words ≠ [] := by
          intro hnil
          have hread := condition?_words hf
          rw [hnil] at hread
          exact absurd hread (by simp [condition?])
        cases hcs : f.words with
        | nil => exact absurd hcs hwords
        | cons w ws => rfl
      unfold whereBody conditions?
      rw [hnonempty, hleading, hsections, condition?_words hf]
      simp only [Bool.false_eq_true, if_false]
      rw [hothers]
      rfl

/-! ## Joins, items, rows and counts -/

theorem joins?_words (joins : List Join) :
    joins? (terms (joins.flatMap Join.words)) = some joins := by
  induction joins with
  | nil => rfl
  | cons j joins ih =>
      have hterms : terms ((j :: joins).flatMap Join.words) =
          .literal j.kind.word :: .literal "JOIN" :: .name j.table :: .literal "ON" ::
            .name j.leftColumn :: .literal j.operator :: .name j.rightColumn ::
              terms (joins.flatMap Join.words) := rfl
      rw [hterms, joins?, ofWord?_joinKind, ih]
      rfl

theorem items?_words (fields : List (String × Value)) :
    items? (terms (listed (fields.map Statement.assignmentWords))) = some fields := by
  rw [terms_assignmentWords]
  induction fields with
  | nil => rfl
  | cons field fields ih =>
      rw [List.flatMap_cons]
      simp only [List.cons_append, List.nil_append]
      rw [items?, ih]
      rfl

theorem count?_words (word : String) (n : Option Nat) :
    count? (terms (countWords word n).tail) = some n := by
  cases n with
  | none => rfl
  | some n =>
      have hvalue : Nat.ofDigitChars 10 (toString n).toList 0 = n := by
        simp
      change some (some (Nat.ofDigitChars 10 (toString n).toList 0)) = _
      rw [hvalue]

/-- Only the first word of a row opens a parenthesis. -/
structure IsRow (vs : List Value) (ws : List Word) : Prop where
  terms : terms ws = vs.map .value
  opening : ∃ n, ws.map (·.before) = ['('] :: List.replicate n []

theorem before_followedBy (c : Char) (ws : List Word) :
    (followedBy c ws).map (·.before) = ws.map (·.before) := by
  induction ws with
  | nil => rfl
  | cons w ws ih =>
      cases ws with
      | nil => rfl
      | cons v ws =>
          rw [followedBy, List.map_cons, ih]
          · rfl
          · simp

theorem before_listed (vs : List Value) :
    (listed (vs.map fun v => [holding v])).map (·.before) = List.replicate vs.length [] := by
  induction vs with
  | nil => rfl
  | cons v vs ih =>
      cases vs with
      | nil => rfl
      | cons u vs =>
          simp only [List.map_cons] at ih ⊢
          rw [listed_cons_cons, List.map_append, ih, before_followedBy]
          rfl

theorem isRow_followedBy {vs : List Value} {ws : List Word} (hws : IsRow vs ws) (c : Char) :
    IsRow vs (followedBy c ws) := by
  obtain ⟨hterms, hopening⟩ := hws
  constructor
  · rw [terms_followedBy, hterms]
  · rw [before_followedBy]
    exact hopening

theorem isRow_rowWords {vs : List Value} (hvs : vs ≠ []) : IsRow vs (rowWords vs) := by
  refine ⟨terms_rowWords vs, ?_⟩
  obtain ⟨v, us, rfl⟩ := List.exists_cons_of_ne_nil hvs
  have hbefore : (followedBy ')' (listed ((v :: us).map fun v => [holding v]))).map
      (·.before) = [] :: List.replicate us.length [] := by
    rw [before_followedBy, before_listed]
    rfl
  refine ⟨us.length, ?_⟩
  unfold rowWords enclosed
  cases hws : followedBy ')' (listed ((v :: us).map fun v => [holding v])) with
  | nil =>
      rw [hws] at hbefore
      simp at hbefore
  | cons w ws =>
      rw [hws, List.map_cons] at hbefore
      obtain ⟨hfirst, hrest⟩ := List.cons.inj hbefore
      rw [precededBy, List.map_cons, hrest, hfirst]

/-- A row is a section of its own. -/
theorem exists_part {vs : List Value} {ws : List Word} (hws : IsRow vs ws) :
    ∃ part : Word × List Word, ws = part.1 :: part.2 ∧ opening? part.1 = some part.1 ∧
      Plain opening? part.2 ∧ (Word.terms (part.1 :: part.2)).mapM Term.held? = some vs := by
  obtain ⟨hterms, n, hopening⟩ := hws
  cases ws with
  | nil => simp at hopening
  | cons w us =>
      rw [List.map_cons] at hopening
      obtain ⟨hfirst, hrest⟩ := List.cons.inj hopening
      refine ⟨(w, us), rfl, ?_, ?_, ?_⟩
      · simp [opening?, hfirst]
      · intro u hu
        have hmem : u.before ∈ us.map (·.before) := List.mem_map_of_mem hu
        rw [hrest] at hmem
        have hnone : u.before = [] := (List.mem_replicate.mp hmem).2
        simp [opening?, hnone]
      · rw [hterms, mapM_held?]

theorem rows?_words {rows : List (List Value)} (hrows : ∀ vs ∈ rows, vs ≠ []) :
    rows? (listed (rows.map rowWords)) = some rows := by
  have hparts : ∃ parts : List (Word × List Word),
      listed (rows.map rowWords) = parts.flatMap (fun part => part.1 :: part.2) ∧
      (∀ part ∈ parts, opening? part.1 = some part.1 ∧ Plain opening? part.2) ∧
      parts.mapM (fun part => (Word.terms (part.1 :: part.2)).mapM Term.held?) = some rows := by
    induction rows with
    | nil => exact ⟨[], rfl, by simp, rfl⟩
    | cons vs rows ih =>
        have hrow := isRow_rowWords (hrows vs (by simp))
        obtain ⟨parts, hlisted, hsections, hread⟩ :=
          ih (fun us hus => hrows us (List.mem_cons_of_mem vs hus))
        -- a comma after the last word of a row leaves it a row
        have hfirst : ∃ ws, listed ((vs :: rows).map rowWords) =
            ws ++ listed (rows.map rowWords) ∧ IsRow vs ws := by
          cases rows with
          | nil => exact ⟨rowWords vs, by simp, hrow⟩
          | cons us rows => exact ⟨_, rfl, isRow_followedBy hrow ','⟩
        obtain ⟨ws, hws, hisRow⟩ := hfirst
        obtain ⟨part, rfl, hopening, hplain, hvalues⟩ := exists_part hisRow
        refine ⟨part :: parts, ?_, ?_, ?_⟩
        · rw [hws, hlisted, List.flatMap_cons]
        · intro p hp
          rcases List.mem_cons.mp hp with rfl | hp
          · exact ⟨hopening, hplain⟩
          · exact hsections p hp
        · rw [List.mapM_cons, hvalues, hread]
          rfl
  obtain ⟨parts, hlisted, hsections, hread⟩ := hparts
  unfold rows?
  rw [hlisted, sections_flatMap (fun w : Word => w) (fun part hpart => (hsections part hpart).1)
    (fun part hpart => (hsections part hpart).2)]
  exact hread

end Reading

end SqlBuilder
