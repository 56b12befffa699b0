import SqlBuilder.Proofs.Statement.PartsReadBack

/-!
# Reading compiled statements back

The words of a statement are its clauses, and no word inside a clause starts
another one: names are never taken for keywords, and the keywords of
conditions and joins start no clause.  So the reader finds the clauses, and in
them the conditions, joins, rows and items that were written.
-/

namespace SqlBuilder

open Text Word

namespace Statement

open Reading

def whereClauses : List Filter → List (String × List Word)
  | [] => []
  | f :: fs => [("WHERE", whereBody (f :: fs))]

def countClauses (word : String) : Option Nat → List (String × List Word)
  | none => []
  | some n => [(word, [literal (toString n)])]

def returningClauses (s : Statement) : List (String × List Word) :=
  if s.returning then [("RETURNING", nameWords s.columns)] else []

/-- The clauses of a statement, each with the words after its first one. -/
def clauses (s : Statement) : List (String × List Word) :=
  match s.operation with
  | .select =>
    ("SELECT", nameWords s.columns)
      :: ("FROM", naming s.table :: s.joins.flatMap Join.words)
      :: (whereClauses s.filters ++ countClauses "LIMIT" s.limit
        ++ countClauses "OFFSET" s.offset)
  | .insert =>
    ("INSERT", []) :: ("INTO", naming s.table :: enclosed (nameWords s.insertedColumns))
      :: ("VALUES", listed (((s.payload.toRecords.getD []).map
        (Record.row s.insertedColumns)).map rowWords))
      :: s.returningClauses
  | .update =>
    ("UPDATE", [naming s.table]) :: ("SET", listed (s.payload.fields.map assignmentWords))
      :: (whereClauses s.filters ++ s.returningClauses)
  | .delete =>
    ("DELETE", []) :: ("FROM", [naming s.table])
      :: (whereClauses s.filters ++ s.returningClauses)

/-- The words of clauses. -/
def joined (clauses : List (String × List Word)) : List Word :=
  clauses.flatMap fun part => literal part.1 :: part.2

theorem joined_whereClauses (fs : List Filter) : joined (whereClauses fs) = Filters.words fs := by
  cases fs with
  | nil => rfl
  | cons f fs => simp [joined, whereClauses, whereBody, Filters.words]

theorem joined_countClauses (word : String) (n : Option Nat) :
    joined (countClauses word n) = countWords word n := by
  cases n <;> rfl

theorem joined_returningClauses (s : Statement) :
    joined s.returningClauses = s.returningWords := by
  unfold returningClauses returningWords
  split <;> simp [joined]

/-- A statement compiles only if the draft of its operation can be made. -/
theorem draft_of_compile
    {quoting : Bool} {s : Statement} {c : Compiled} (hc : s.compile quoting = .ok c) :
    (s.operation = .insert → ∃ d, s.insertDraft quoting = .ok d) ∧
      (s.operation = .update → ∃ d, s.updateDraft quoting = .ok d) := by
  unfold compile at hc
  obtain ⟨d, hd, _⟩ := Outcome.bind_eq_ok.mp hc
  unfold draft at hd
  split at hd
  next => exact absurd hd (Outcome.reject_ne_ok _ _)
  next =>
    constructor
    · intro hoperation
      rw [hoperation] at hd
      exact ⟨d, hd⟩
    · intro hoperation
      rw [hoperation] at hd
      exact ⟨d, hd⟩

/-- An insertion that compiles has records, and a value of each for the
columns of the first. -/
theorem records_of_compile
    {quoting : Bool} {s : Statement} {c : Compiled} (hc : s.compile quoting = .ok c)
    (hinsert : s.operation = .insert) :
    ∃ first others, s.payload.toRecords = some (first :: others) ∧
      ∀ r ∈ first :: others, Record.row (first.map (·.1)) r ≠ [] := by
  obtain ⟨d, hd⟩ := (draft_of_compile hc).1 hinsert
  unfold insertDraft at hd
  split at hd
  next => exact absurd hd (Outcome.reject_ne_ok _ _)
  next => exact absurd hd (Outcome.reject_ne_ok _ _)
  next => exact absurd hd (Outcome.reject_ne_ok _ _)
  next first others hfirst hrecords =>
    obtain ⟨rows, hrows, _⟩ := Outcome.bind_eq_ok.mp hd
    obtain ⟨_, hlacking⟩ := Record.rows_eq_ok hrows
    have hcolumns : first.map (·.1) ≠ [] := by
      intro hnil
      exact hfirst (List.map_eq_nil_iff.mp hnil)
    exact ⟨first, others, hrecords,
      fun r hr => Record.row_ne_nil hcolumns (hlacking r hr)⟩

/-- A write of records that compiles has something to write. -/
theorem payload_of_compile
    {quoting : Bool} {s : Statement} {c : Compiled} (hc : s.compile quoting = .ok c)
    (hwrite : s.operation = .insert ∨ s.operation = .update) : s.payload ≠ .nothing := by
  intro hnothing
  rcases hwrite with hinsert | hupdate
  · obtain ⟨_, _, hrecords, _⟩ := records_of_compile hc hinsert
    rw [hnothing] at hrecords
    simp [Payload.toRecords] at hrecords
  · obtain ⟨d, hd⟩ := (draft_of_compile hc).2 hupdate
    unfold updateDraft at hd
    rw [hnothing] at hd
    exact absurd hd (Outcome.reject_ne_ok _ _)

theorem words_eq_joined
    {s : Statement} {c : Compiled} (hc : s.compile true = .ok c) : s.words = joined s.clauses := by
  unfold words clauses
  cases hoperation : s.operation with
  | select =>
      have hwhere := joined_whereClauses s.filters
      have hlimit := joined_countClauses "LIMIT" s.limit
      have hoffset := joined_countClauses "OFFSET" s.offset
      unfold joined at hwhere hlimit hoffset ⊢
      simp [selectWords, List.flatMap_append, hwhere, hlimit, hoffset]
  | insert =>
      have hreturning := s.joined_returningClauses
      obtain ⟨first, others, hrecords, _⟩ := records_of_compile hc hoperation
      unfold joined at hreturning ⊢
      simp [insertWords, rowsWords, insertedColumns, hrecords, hreturning]
  | update =>
      have hwhere := joined_whereClauses s.filters
      have hreturning := s.joined_returningClauses
      unfold joined at hwhere hreturning ⊢
      simp [updateWords, hwhere, hreturning]
  | delete =>
      have hwhere := joined_whereClauses s.filters
      have hreturning := s.joined_returningClauses
      unfold joined at hwhere hreturning ⊢
      simp [deleteWords, hwhere, hreturning]

/-! ## Words that start no clause -/

theorem plain_nameWords (names : List String) : Plain Word.clause? (nameWords names) := by
  apply plain_of_terms
  intro t ht
  rw [terms_nameWords] at ht
  obtain ⟨name, _, rfl⟩ := List.mem_map.mp ht
  rfl

theorem plain_joins {joins : List Join} (hjoins : ∀ j ∈ joins, j.operator ∈ joinOperators) :
    Plain Word.clause? (joins.flatMap Join.words) := by
  have hoperators : ∀ s ∈ joinOperators, (Term.literal s).clause? = none := by decide
  have hkinds : ∀ k : JoinKind, (Term.literal k.word).clause? = none := by
    intro k
    cases k <;> decide
  intro w hw
  obtain ⟨j, hj, hw⟩ := List.mem_flatMap.mp hw
  simp only [Join.words, List.mem_cons, List.not_mem_nil, or_false] at hw
  rcases hw with rfl | rfl | rfl | rfl | rfl | rfl | rfl
  · exact hkinds j.kind
  · rfl
  · rfl
  · rfl
  · rfl
  · exact hoperators j.operator (hjoins j hj)
  · rfl

theorem plain_whereBody {fs : List Filter} (hfs : ∀ f ∈ fs, f.IsBuilt) :
    Plain Word.clause? (whereBody fs) := by
  have hfilter : ∀ f ∈ fs, Plain Word.clause? f.words := by
    intro f hf
    exact plain_of_terms fun t ht => clause?_of_isInner (isInner_words (hfs f hf) t ht)
  have hconnectives : ∀ c : Connective, (Term.literal c.word).clause? = none := by
    intro c
    cases c <;> decide
  cases fs with
  | nil => simp [whereBody, Plain]
  | cons f fs =>
      apply plain_append (hfilter f (by simp))
      intro w hw
      obtain ⟨g, hg, hw⟩ := List.mem_flatMap.mp hw
      rcases List.mem_cons.mp hw with rfl | hw
      · exact hconnectives g.connective
      · exact hfilter g (List.mem_cons_of_mem f hg) w hw

theorem plain_count (n : Nat) : Plain Word.clause? [literal (toString n)] := by
  have hclauses : ∀ s ∈ Term.clauseWords, s.toList.all Char.isDigit = false := by decide
  have hdigits : (toString n).toList.all Char.isDigit = true := by
    rw [List.all_eq_true]
    intro c hc
    have hmem : c ∈ Nat.toDigits 10 n := by simpa using hc
    exact areDigits_toDigits n c hmem
  intro w hw
  obtain rfl := List.mem_singleton.mp hw
  have hnotMem : toString n ∉ Term.clauseWords := by
    intro hmem
    have hclause := hclauses _ hmem
    rw [hdigits] at hclause
    simp at hclause
  exact if_neg hnotMem

theorem plain_rows (rows : List (List Value)) :
    Plain Word.clause? (listed (rows.map rowWords)) := by
  apply plain_of_terms
  intro t ht
  rw [terms_listed, List.flatMap_map] at ht
  obtain ⟨vs, _, ht⟩ := List.mem_flatMap.mp ht
  rw [terms_rowWords] at ht
  obtain ⟨v, _, rfl⟩ := List.mem_map.mp ht
  rfl

theorem plain_items (fields : List (String × Value)) :
    Plain Word.clause? (listed (fields.map assignmentWords)) := by
  apply plain_of_terms
  intro t ht
  rw [terms_assignmentWords] at ht
  obtain ⟨field, _, ht⟩ := List.mem_flatMap.mp ht
  simp only [List.mem_cons, List.not_mem_nil, or_false] at ht
  rcases ht with rfl | rfl | rfl <;> rfl

/-- A clause that is found by its first word and ends where the next starts. -/
structure IsClause (part : String × List Word) : Prop where
  word : part.1 ∈ Term.clauseWords
  plain : Plain Word.clause? part.2

theorem isClause_mk
    {word : String} {body : List Word} (hword : word ∈ Term.clauseWords)
    (hplain : Plain Word.clause? body) : IsClause (word, body) :=
  ⟨hword, hplain⟩

theorem isClause_clauses {s : Statement} (hs : s.IsBuilt) : ∀ part ∈ s.clauses, IsClause part := by
  have hname : ∀ {name : String} {ws : List Word}, Plain Word.clause? ws →
      Plain Word.clause? (naming name :: ws) := by
    intro name ws hws w hw
    rcases List.mem_cons.mp hw with rfl | hw
    · rfl
    · exact hws w hw
  have hnil : Plain Word.clause? [] := by simp [Plain]
  have hcolumns : Plain Word.clause? (enclosed (nameWords s.insertedColumns)) := by
    apply plain_of_terms
    intro t ht
    rw [terms_enclosed, terms_nameWords] at ht
    obtain ⟨name, _, rfl⟩ := List.mem_map.mp ht
    rfl
  have hwhere : ∀ part ∈ whereClauses s.filters, IsClause part := by
    have hbody := plain_whereBody hs.filters
    cases hfilters : s.filters with
    | nil => simp [whereClauses]
    | cons f fs =>
        rw [hfilters] at hbody
        intro part hpart
        obtain rfl := List.mem_singleton.mp hpart
        exact isClause_mk (by decide) hbody
  have hcount : ∀ {word : String} (n : Option Nat), word ∈ Term.clauseWords →
      ∀ part ∈ countClauses word n, IsClause part := by
    intro word n hword part hpart
    cases n with
    | none => simp [countClauses] at hpart
    | some n =>
        obtain rfl := List.mem_singleton.mp hpart
        exact isClause_mk hword (plain_count n)
  have hreturning : ∀ part ∈ s.returningClauses, IsClause part := by
    intro part hpart
    unfold returningClauses at hpart
    split at hpart
    next =>
      obtain rfl := List.mem_singleton.mp hpart
      exact isClause_mk (by decide) (plain_nameWords s.columns)
    next => simp at hpart
  intro part hpart
  unfold clauses at hpart
  cases hoperation : s.operation with
  | select =>
      simp only [hoperation, List.mem_cons, List.mem_append] at hpart
      rcases hpart with rfl | rfl | (hpart | hpart) | hpart
      · exact isClause_mk (by decide) (plain_nameWords s.columns)
      · exact isClause_mk (by decide) (hname (plain_joins hs.joins))
      · exact hwhere part hpart
      · exact hcount s.limit (by decide) part hpart
      · exact hcount s.offset (by decide) part hpart
  | insert =>
      simp only [hoperation, List.mem_cons] at hpart
      rcases hpart with rfl | rfl | rfl | hpart
      · exact isClause_mk (by decide) hnil
      · exact isClause_mk (by decide) (hname hcolumns)
      · exact isClause_mk (by decide) (plain_rows _)
      · exact hreturning part hpart
  | update =>
      simp only [hoperation, List.mem_cons, List.mem_append] at hpart
      rcases hpart with rfl | rfl | hpart | hpart
      · exact isClause_mk (by decide) (hname hnil)
      · exact isClause_mk (by decide) (plain_items s.payload.fields)
      · exact hwhere part hpart
      · exact hreturning part hpart
  | delete =>
      simp only [hoperation, List.mem_cons, List.mem_append] at hpart
      rcases hpart with rfl | rfl | hpart | hpart
      · exact isClause_mk (by decide) hnil
      · exact isClause_mk (by decide) (hname hnil)
      · exact hwhere part hpart
      · exact hreturning part hpart

/-- The clauses of a statement are found among its words. -/
theorem sections_words
    {s : Statement} (hs : s.IsBuilt) {c : Compiled} (hc : s.compile true = .ok c) :
    sections Word.clause? s.words = s.clauses := by
  have hclauses := isClause_clauses hs
  rw [words_eq_joined hc]
  apply sections_flatMap
  · intro part hpart
    have hword := (hclauses part hpart).word
    simp [Word.clause?, Term.clause?, hword]
  · intro part hpart
    exact (hclauses part hpart).plain

theorem body_select (fs : List Filter) (limit offset : Option Nat) :
    let more := whereClauses fs ++ countClauses "LIMIT" limit ++ countClauses "OFFSET" offset
    body "WHERE" more = whereBody fs ∧ body "LIMIT" more = (countWords "LIMIT" limit).tail ∧
      body "OFFSET" more = (countWords "OFFSET" offset).tail := by
  cases fs <;> cases limit <;> cases offset <;> exact ⟨rfl, rfl, rfl⟩

theorem body_write (fs : List Filter) (returned : List Word) :
    let more := whereClauses fs ++ [("RETURNING", returned)]
    body "WHERE" more = whereBody fs ∧ body "RETURNING" more = returned := by
  cases fs <;> exact ⟨rfl, rfl⟩

/-- The clauses of a statement tell its parts. -/
theorem ofClauses_clauses
    {s : Statement} (hs : s.IsBuilt) {c : Compiled} (hc : s.compile true = .ok c) :
    Reading.ofClauses s.clauses = some s.reading := by
  have hconditions := conditions?_whereBody hs.filters
  have hcolumns := names?_nameWords s.columns
  have hreturning : s.returning = true →
      s.returningClauses = [("RETURNING", nameWords s.columns)] := by
    intro h
    unfold returningClauses
    rw [if_pos h]
  unfold clauses reading
  cases hoperation : s.operation with
  | select =>
      obtain ⟨hwhere, hlimit, hoffset⟩ := body_select s.filters s.limit s.offset
      have hjoins := joins?_words s.joins
      simp only [Reading.ofClauses, hwhere, hlimit, hoffset, hconditions, hcolumns, hjoins,
        count?_words]
      rfl
  | insert =>
      obtain ⟨first, others, hrecords, hrows⟩ := records_of_compile hc hoperation
      have hreturned := hreturning (hs.written (payload_of_compile hc (Or.inl hoperation)))
      have hinserted : s.insertedColumns = first.map (·.1) := by
        unfold insertedColumns
        rw [hrecords]
        rfl
      have hread : rows? (listed (((s.payload.toRecords.getD []).map
          (Record.row s.insertedColumns)).map rowWords)) =
            some ((s.payload.toRecords.getD []).map (Record.row s.insertedColumns)) := by
        apply rows?_words
        intro vs hvs
        obtain ⟨r, hr, rfl⟩ := List.mem_map.mp hvs
        rw [hinserted]
        rw [hrecords] at hr
        exact hrows r hr
      have hnames := names?_nameWords s.insertedColumns
      have hbody : body "RETURNING" [("RETURNING", nameWords s.columns)] =
          nameWords s.columns := rfl
      simp only [Reading.ofClauses, hreturned, hread, terms_enclosed, hnames, hbody, hcolumns]
      rfl
  | update =>
      have hreturned := hreturning (hs.written (payload_of_compile hc (Or.inr hoperation)))
      obtain ⟨hwhere, hbody⟩ := body_write s.filters (nameWords s.columns)
      have hitems := items?_words s.payload.fields
      simp only [Reading.ofClauses, hreturned, hwhere, hbody, hconditions, hcolumns, hitems]
      rfl
  | delete =>
      have hreturned := hreturning (hs.deleted hoperation)
      obtain ⟨hwhere, hbody⟩ := body_write s.filters (nameWords s.columns)
      simp only [Reading.ofClauses, hreturned, hwhere, hbody, hconditions, hcolumns]
      rfl

theorem read_of_compile
    {s : Statement} (hs : s.IsBuilt) (hnames : s.HasRegularNames) {c : Compiled}
    (hc : s.compile true = .ok c) : c.read = some s.reading := by
  have hwords := words_of_compile hnames hs.isWritable hc
  unfold Compiled.read
  rw [hwords]
  change Reading.ofClauses (sections Word.clause? s.words) = some s.reading
  rw [sections_words hs hc, ofClauses_clauses hs hc]

end Statement

/-- The parts of a statement are read back from its text and parameters alone,
so builders whose statements are compiled to the same agree on them. -/
theorem Builder.read_compile
    {b : Builder} (hb : b.Reachable) {s : Statement} (hs : b.snapshot = .ok s)
    (hnames : s.HasRegularNames) {c : Compiled} (hc : b.compile true = .ok c) :
    c.read = some s.reading ∧
      ∀ {b' : Builder} {s' : Statement}, b'.Reachable → b'.snapshot = .ok s' →
        s'.HasRegularNames → b'.compile true = .ok c → s'.reading = s.reading := by
  have hread := Statement.read_of_compile (hb.snapshot hs) hnames (compile_snapshot hs hc)
  refine ⟨hread, ?_⟩
  intro b' s' hb' hs' hnames' hc'
  have hread' := Statement.read_of_compile (hb'.snapshot hs') hnames' (compile_snapshot hs' hc')
  rw [hread] at hread'
  exact (Option.some.inj hread').symm

theorem Builder.read_compile_keywords :
    let b := ((({ table := .text "t" } : Builder).change
      (.filter .or (.dict [(.text "a,$1", .int 5), (.text "WHERE", .null)]) [])).builder.change
      (.limit (.int 7))).builder
    ∃ c, b.compile true = .ok c ∧ c.read = some (.select "t" ["*"] []
      [(none, .comparison "a,$1" .eq (.int 5)), (some .or, .comparison "WHERE" .is .null)]
      (some 7) none) := by
  intro b
  have hb : b.Reachable := ((Reachable.fresh _).changed _).changed _
  obtain ⟨s, hs, hnames, hreading⟩ : ∃ s, b.snapshot = .ok s ∧ s.HasRegularNames ∧
      s.reading = .select "t" ["*"] [] [(none, .comparison "a,$1" .eq (.int 5)),
        (some .or, .comparison "WHERE" .is .null)] (some 7) none :=
    ⟨_, rfl, by decide, rfl⟩
  obtain ⟨c, hc⟩ : ∃ c, b.compile true = .ok c := ⟨_, rfl⟩
  have hread := (read_compile hb hs hnames hc).1
  rw [hreading] at hread
  exact ⟨c, hc, hread⟩

end SqlBuilder
