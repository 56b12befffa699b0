import SqlBuilder.Builder.Change
import SqlBuilder.Proofs.Statement.Name
import SqlBuilder.Proofs.Statement.Spelling

/-!
# Regular statements

The words of a statement are regular when its names are, when its joins
compare by known operators and when nothing but null and truth values is
written out.  Regular words are lexical tokens: names are the only words that
can hold unusual characters, and those stand between quotes.
-/

namespace SqlBuilder

open Text

/-- Whether a character occurs in words that say themselves. -/
def isLiteralChar (c : Char) : Bool :=
  c.isAlphanum || c == '=' || c == '!' || c == '<' || c == '>'

theorem isNeutral_of_isLiteralChar {c : Char} (hc : isLiteralChar c = true) :
    Token.isNeutral c = true := by
  have hne : ∀ d, isLiteralChar d = false → c ≠ d := by
    rintro d hd rfl
    simp [hd] at hc
  have hquote := hne '"' (by decide)
  have hsingle := hne '\'' (by decide)
  have hdollar := hne '$' (by decide)
  have hcolon := hne ':' (by decide)
  have hslash := hne '\\' (by decide)
  simp [Token.isNeutral, hquote, hsingle, hdollar, hcolon, hslash]

namespace Term

/-- A term whose text keeps to itself. -/
def IsRegular : Term → Prop
  | literal s => s ≠ "" ∧ ∀ c ∈ s.toList, isLiteralChar c = true
  | name s => Identifier.IsRegular s.toList
  | value _ => True

def tokens (n : Nat) : Term → List Token
  | literal s => s.toList.map .plain
  | name s => Identifier.nameTokens s.toList
  | value _ => [.mark n]

theorem flatMap_chars_tokens {t : Term} (ht : t.IsRegular) (n : Nat) :
    (t.tokens n).flatMap Token.chars = t.chars n := by
  cases t with
  | literal s => exact Token.flatMap_chars_plain s.toList
  | name s => exact Identifier.flatMap_chars_nameTokens ht
  | value v => simp [tokens, chars, Draft.mark]

theorem marks_tokens (n : Nat) (t : Term) :
    Token.marks (t.tokens n) = List.range' n t.bound.length := by
  cases t with
  | literal s => simpa [tokens, bound] using Token.marks_plain_append s.toList []
  | name s => exact Identifier.marks_nameTokens s.toList
  | value v => rfl

end Term

namespace Word

/-- A regular term between opening parentheses and commas or closing ones. -/
structure IsRegular (w : Word) : Prop where
  before : ∀ c ∈ w.before, c = '('
  term : w.term.IsRegular
  after : ∀ c ∈ w.after, c = ',' ∨ c = ')'

/-- The tokens of words, the first mark with the number `n`. -/
def tokens : (n : Nat) → List Word → List Token
  | _, [] => []
  | n, w :: ws =>
    (' ' :: w.before).map .plain ++ (w.term.tokens n ++
      (w.after.map .plain ++ tokens (n + w.term.bound.length) ws))

theorem flatMap_chars_tokens {ws : List Word} (hws : ∀ w ∈ ws, w.IsRegular) (n : Nat) :
    (tokens n ws).flatMap Token.chars = spelled n ws := by
  induction ws generalizing n with
  | nil => rfl
  | cons w ws ih =>
      have hterm := (hws w (by simp)).term
      have hrest := ih (fun v hv => hws v (List.mem_cons_of_mem w hv))
      rw [tokens, spelled_cons, List.flatMap_append, List.flatMap_append,
        List.flatMap_append, Token.flatMap_chars_plain, Token.flatMap_chars_plain,
        Term.flatMap_chars_tokens hterm, hrest]
      simp [chars]

theorem marks_tokens (n : Nat) (ws : List Word) :
    Token.marks (tokens n ws) = List.range' n (bound ws).length := by
  induction ws generalizing n with
  | nil => rfl
  | cons w ws ih =>
      rw [tokens, Token.marks_plain_append, Token.marks_append, Term.marks_tokens,
        Token.marks_plain_append, ih, bound_cons, List.length_append]
      exact List.range'_append_1

theorem tokens_head (n : Nat) (ws : List Word) :
    ∀ t ∈ (tokens n ws).head?, t = .plain ' ' := by
  cases ws with
  | nil => simp [tokens]
  | cons w ws => simp [tokens]

theorem lexical_tokens {ws : List Word} (hws : ∀ w ∈ ws, w.IsRegular) (n : Nat) :
    Token.Lexical (tokens n ws) := by
  induction ws generalizing n with
  | nil => exact Token.lexical_nil
  | cons w ws ih =>
      obtain ⟨hbefore, hterm, hafter⟩ := hws w (by simp)
      have hrest := ih (fun v hv => hws v (List.mem_cons_of_mem w hv))
        (n + w.term.bound.length)
      have hhead := tokens_head (n + w.term.bound.length) ws
      -- what stands after the term starts with a character that closes a mark
      have hclosing : ∀ t ∈ (w.after.map Token.plain ++
          tokens (n + w.term.bound.length) ws).head?,
          ∃ c, t = .plain c ∧ Token.closesMark c = true := by
        intro t ht
        cases hcs : w.after with
        | nil =>
            rw [hcs] at ht
            exact ⟨' ', hhead t ht, by decide⟩
        | cons c cs =>
            rw [hcs] at ht
            obtain rfl : Token.plain c = t := Option.some.inj ht
            rcases hafter c (by simp [hcs]) with rfl | rfl
            · exact ⟨',', rfl, by decide⟩
            · exact ⟨')', rfl, by decide⟩
      have htail : Token.Lexical (w.after.map Token.plain ++
          tokens (n + w.term.bound.length) ws) := by
        apply hrest.plain_append
        · intro c hc
          rcases hafter c hc with rfl | rfl <;> decide
        · intro k hk
          have hplain := hhead _ hk
          simp at hplain
      have hopening : ∀ c ∈ (' ' :: w.before), Token.opensMark c = true := by
        intro c hc
        rcases List.mem_cons.mp hc with rfl | hc
        · decide
        · rw [hbefore c hc]
          decide
      rw [tokens]
      apply Token.Lexical.plain_append
      · cases ht : w.term with
        | literal s =>
            rw [ht] at hterm htail hclosing
            apply htail.plain_append
            · intro c hc
              exact isNeutral_of_isLiteralChar (hterm.2 c hc)
            · intro k hk
              obtain ⟨c, hc, _⟩ := hclosing _ hk
              simp at hc
        | name s =>
            rw [ht] at htail hclosing
            apply Identifier.lexical_nameTokens _ htail
            intro t ht
            obtain ⟨c, hc, _⟩ := hclosing t ht
            exact ⟨c, hc⟩
        | value v =>
            rw [ht] at htail hclosing
            refine ⟨by simp, ?_, htail⟩
            intro t ht
            obtain ⟨c, rfl, hc⟩ := hclosing t ht
            exact hc
      · intro c hc
        rcases List.mem_cons.mp hc with rfl | hc
        · decide
        · rw [hbefore c hc]
          decide
      · intro k _ c hc
        exact hopening c (List.mem_of_getLast? hc)

/-! ## Regular words -/

theorem isRegular_literal {s : String} (hs : s ≠ "")
    (hchars : ∀ c ∈ s.toList, isLiteralChar c = true) : (literal s).IsRegular :=
  ⟨by simp [literal], ⟨hs, hchars⟩, by simp [literal]⟩

theorem isRegular_naming {s : String} (hs : Identifier.IsRegular s.toList) :
    (naming s).IsRegular :=
  ⟨by simp [naming], hs, by simp [naming]⟩

theorem isRegular_holding (v : Value) : (holding v).IsRegular :=
  ⟨by simp [holding], trivial, by simp [holding]⟩

theorem isRegular_followedBy {c : Char} (hc : c = ',' ∨ c = ')') {ws : List Word}
    (hws : ∀ w ∈ ws, w.IsRegular) : ∀ w ∈ followedBy c ws, w.IsRegular := by
  induction ws with
  | nil => simp [followedBy]
  | cons v ws ih =>
      have hv := hws v (by simp)
      cases ws with
      | nil =>
          intro w hw
          obtain rfl := List.mem_singleton.mp hw
          refine ⟨hv.before, hv.term, ?_⟩
          intro d hd
          rcases List.mem_append.mp hd with hd | hd
          · exact hv.after d hd
          · rw [List.mem_singleton.mp hd]
            exact hc
      | cons u ws =>
          intro w hw
          rcases List.mem_cons.mp hw with rfl | hw
          · exact hv
          · exact ih (fun x hx => hws x (List.mem_cons_of_mem v hx)) w hw

theorem isRegular_listed {groups : List (List Word)}
    (hgroups : ∀ group ∈ groups, ∀ w ∈ group, w.IsRegular) :
    ∀ w ∈ listed groups, w.IsRegular := by
  induction groups with
  | nil => simp
  | cons group groups ih =>
      have hgroup := hgroups group (by simp)
      cases groups with
      | nil => simpa using hgroup
      | cons next groups =>
          intro w hw
          rw [listed_cons_cons] at hw
          rcases List.mem_append.mp hw with hw | hw
          · exact isRegular_followedBy (Or.inl rfl) hgroup w hw
          · exact ih (fun g hg => hgroups g (List.mem_cons_of_mem group hg)) w hw

theorem isRegular_enclosed {ws : List Word} (hws : ∀ w ∈ ws, w.IsRegular) :
    ∀ w ∈ enclosed ws, w.IsRegular := by
  have hclosed := isRegular_followedBy (Or.inr rfl) hws
  unfold enclosed
  cases hvs : followedBy ')' ws with
  | nil => simp [precededBy]
  | cons v vs =>
      rw [hvs] at hclosed
      intro w hw
      rcases List.mem_cons.mp hw with rfl | hw
      · have hv := hclosed v (by simp)
        refine ⟨?_, hv.term, hv.after⟩
        intro c hc
        rcases List.mem_cons.mp hc with rfl | hc
        · rfl
        · exact hv.before c hc
      · exact hclosed w (List.mem_cons_of_mem v hw)

end Word

/-! ## The names of a statement -/

/-- The columns that records name. -/
def Payload.names (p : Payload) : List String :=
  (p.toRecords.getD []).flatMap fun record => record.map (·.1)

def Join.names (j : Join) : List String := [j.table, j.leftColumn, j.rightColumn]

namespace Statement

/-- Every name that a statement holds. -/
def names (s : Statement) : List String :=
  s.table :: (s.projection ++ s.filters.map (·.column) ++ s.joins.flatMap Join.names
    ++ s.payload.names)

def HasRegularNames (s : Statement) : Prop :=
  ∀ name ∈ s.names, Identifier.IsRegular name.toList

instance (s : Statement) : Decidable s.HasRegularNames :=
  inferInstanceAs (Decidable (∀ name ∈ s.names, Identifier.IsRegular name.toList))

/-- Joins compare by known operators, and only null and truth values are
written out. -/
structure IsWritable (s : Statement) : Prop where
  joins : ∀ j ∈ s.joins, j.operator ∈ joinOperators
  filters : ∀ f ∈ s.filters, f.operator = .is ∨ f.operator = .isNot →
    f.value = .null ∨ ∃ b, f.value = .bool b

end Statement

section

open Word

theorem isRegular_word {s : String} (hs : s.toList ≠ [] ∧ s.toList.all isLiteralChar = true) :
    (literal s).IsRegular := by
  apply isRegular_literal
  · rintro rfl
    exact hs.1 rfl
  · exact List.all_eq_true.mp hs.2

theorem isRegular_operator (operator : FilterOperator) :
    ∀ w ∈ operator.words, w.IsRegular := by
  have hword : ∀ s ∈ ["=", "!=", ">", "<", ">=", "<=", "LIKE", "ILIKE", "IN", "IS", "NOT"],
      (literal s).IsRegular := by
    intro s hs
    apply isRegular_word
    revert s
    decide
  intro w hw
  cases operator with
  | notIn | isNot =>
      simp only [FilterOperator.words, List.mem_cons, List.not_mem_nil, or_false] at hw
      rcases hw with rfl | rfl <;> exact hword _ (by simp)
  | eq | ne | gt | lt | gte | lte | like | ilike | isIn | is =>
      obtain rfl := List.mem_singleton.mp hw
      apply hword
      decide

theorem isRegular_writtenOut {v : Value} (hv : v = .null ∨ ∃ b, v = .bool b) :
    (literal (writtenOut v)).IsRegular := by
  apply isRegular_word
  rcases hv with rfl | ⟨b, rfl⟩
  · decide
  · cases b <;> decide

theorem isRegular_rowWords (vs : List Value) : ∀ w ∈ rowWords vs, w.IsRegular := by
  apply isRegular_enclosed
  apply isRegular_listed
  intro group hgroup w hw
  obtain ⟨v, _, rfl⟩ := List.mem_map.mp hgroup
  rw [List.mem_singleton.mp hw]
  exact isRegular_holding v

theorem isRegular_nameWords {names : List String}
    (hnames : ∀ s ∈ names, Identifier.IsRegular s.toList) :
    ∀ w ∈ nameWords names, w.IsRegular := by
  apply isRegular_listed
  intro group hgroup w hw
  obtain ⟨s, hs, rfl⟩ := List.mem_map.mp hgroup
  rw [List.mem_singleton.mp hw]
  exact isRegular_naming (hnames s hs)

theorem Filter.isRegular_words {f : Filter} (hcolumn : Identifier.IsRegular f.column.toList)
    (hvalue : f.operator = .is ∨ f.operator = .isNot →
      f.value = .null ∨ ∃ b, f.value = .bool b) :
    ∀ w ∈ f.words, w.IsRegular := by
  have hcomparison : ∀ {ws : List Word}, (∀ w ∈ ws, w.IsRegular) →
      ∀ w ∈ naming f.column :: (f.operator.words ++ ws), w.IsRegular := by
    intro ws hws w hw
    rcases List.mem_cons.mp hw with rfl | hw
    · exact isRegular_naming hcolumn
    · rcases List.mem_append.mp hw with hw | hw
      · exact isRegular_operator f.operator w hw
      · exact hws w hw
  have hsingle : ∀ {v : Word}, v.IsRegular → ∀ w ∈ [v], w.IsRegular := by
    intro v hv w hw
    rw [List.mem_singleton.mp hw]
    exact hv
  have hconstant : ∀ (p : Prop) [Decidable p],
      (literal (if p then "1=0" else "1=1")).IsRegular := by
    intro p _
    apply isRegular_word
    split <;> decide
  obtain ⟨connective, column, operator, v⟩ := f
  unfold words
  cases operator with
  | isIn | notIn =>
      simp only
      split
      next => exact hsingle (hconstant _)
      next => exact hsingle (hconstant _)
      next vs _ _ => exact hcomparison (isRegular_rowWords vs)
  | is => exact hcomparison (hsingle (isRegular_writtenOut (hvalue (Or.inl rfl))))
  | isNot => exact hcomparison (hsingle (isRegular_writtenOut (hvalue (Or.inr rfl))))
  | eq | ne | gt | lt | gte | lte | like | ilike =>
      exact hcomparison (hsingle (isRegular_holding v))

theorem Filters.isRegular_words {fs : List Filter}
    (hcolumns : ∀ f ∈ fs, Identifier.IsRegular f.column.toList)
    (hvalues : ∀ f ∈ fs, f.operator = .is ∨ f.operator = .isNot →
      f.value = .null ∨ ∃ b, f.value = .bool b) :
    ∀ w ∈ Filters.words fs, w.IsRegular := by
  have hfilter : ∀ f ∈ fs, ∀ w ∈ f.words, w.IsRegular := by
    intro f hf
    exact Filter.isRegular_words (hcolumns f hf) (hvalues f hf)
  have hconnective : ∀ c : Connective, (literal c.word).IsRegular := by
    intro c
    apply isRegular_word
    cases c <;> decide
  cases fs with
  | nil => simp [words]
  | cons f fs =>
      intro w hw
      unfold words restWords at hw
      rcases List.mem_cons.mp hw with rfl | hw
      · exact isRegular_word (by decide)
      · rcases List.mem_append.mp hw with hw | hw
        · exact hfilter f (by simp) w hw
        · obtain ⟨g, hg, hw⟩ := List.mem_flatMap.mp hw
          rcases List.mem_cons.mp hw with rfl | hw
          · exact hconnective g.connective
          · exact hfilter g (List.mem_cons_of_mem f hg) w hw

theorem Join.isRegular_words {j : Join}
    (hnames : ∀ s ∈ j.names, Identifier.IsRegular s.toList)
    (hoperator : j.operator ∈ joinOperators) : ∀ w ∈ j.words, w.IsRegular := by
  have hkind : (literal j.kind.word).IsRegular := by
    apply isRegular_word
    cases j.kind <;> decide
  have hoperators : ∀ s ∈ joinOperators,
      s.toList ≠ [] ∧ s.toList.all isLiteralChar = true := by
    decide
  simp only [names, List.mem_cons, List.not_mem_nil, or_false, forall_eq_or_imp,
    forall_eq] at hnames
  unfold words
  simp only [List.mem_cons, List.not_mem_nil, or_false, forall_eq_or_imp, forall_eq]
  exact ⟨hkind, isRegular_word (by decide), isRegular_naming hnames.1,
    isRegular_word (by decide), isRegular_naming hnames.2.1,
    isRegular_word (hoperators _ hoperator), isRegular_naming hnames.2.2⟩

theorem isRegular_countWords {word : String}
    (hword : word.toList ≠ [] ∧ word.toList.all isLiteralChar = true) (n : Option Nat) :
    ∀ w ∈ countWords word n, w.IsRegular := by
  cases n with
  | none => simp [countWords]
  | some n =>
      intro w hw
      simp only [countWords, List.mem_cons, List.not_mem_nil, or_false] at hw
      rcases hw with rfl | rfl
      · exact isRegular_word hword
      · apply isRegular_word
        constructor
        · simp
        · rw [List.all_eq_true]
          intro c hc
          have hmem : c ∈ Nat.toDigits 10 n := by simpa using hc
          have hdigit : c.isDigit = true :=
            Nat.isDigit_of_mem_toDigits (by decide) (by decide) hmem
          simp [isLiteralChar, Char.isAlphanum, hdigit]

namespace Statement

variable {s : Statement}

theorem HasRegularNames.table (hnames : s.HasRegularNames) :
    Identifier.IsRegular s.table.toList :=
  hnames s.table (by simp [names])

theorem HasRegularNames.columns (hnames : s.HasRegularNames) :
    ∀ name ∈ s.columns, Identifier.IsRegular name.toList := by
  unfold Statement.columns
  intro name hname
  split at hname
  next =>
    rw [List.mem_singleton.mp hname]
    exact ⟨by decide, by decide, by decide, by decide⟩
  next => exact hnames name (by simp [names, hname])

theorem HasRegularNames.filters (hnames : s.HasRegularNames) :
    ∀ f ∈ s.filters, Identifier.IsRegular f.column.toList := by
  intro f hf
  have hmem : f.column ∈ s.filters.map (·.column) := List.mem_map_of_mem hf
  exact hnames f.column (by simp only [names, List.mem_cons, List.mem_append, hmem, or_true,
    true_or])

theorem HasRegularNames.joins (hnames : s.HasRegularNames) :
    ∀ j ∈ s.joins, ∀ name ∈ j.names, Identifier.IsRegular name.toList := by
  intro j hj name hname
  have hmem : name ∈ s.joins.flatMap Join.names := List.mem_flatMap.mpr ⟨j, hj, hname⟩
  exact hnames name (by simp only [names, List.mem_cons, List.mem_append, hmem, or_true,
    true_or])

theorem HasRegularNames.records (hnames : s.HasRegularNames) {records : List Record}
    (hrecords : s.payload.toRecords = some records) :
    ∀ record ∈ records, ∀ name ∈ record.map (·.1), Identifier.IsRegular name.toList := by
  intro record hrecord name hname
  have hmem : name ∈ s.payload.names := by
    unfold Payload.names
    rw [hrecords]
    exact List.mem_flatMap.mpr ⟨record, hrecord, hname⟩
  exact hnames name (by simp only [names, List.mem_cons, List.mem_append, hmem, or_true])

theorem isRegular_returningWords (hnames : s.HasRegularNames) :
    ∀ w ∈ s.returningWords, w.IsRegular := by
  unfold returningWords
  split
  next =>
    intro w hw
    rcases List.mem_cons.mp hw with rfl | hw
    · exact isRegular_word (by decide)
    · exact isRegular_nameWords hnames.columns w hw
  next => simp

theorem isRegular_filterWords (hnames : s.HasRegularNames) (hwritable : s.IsWritable) :
    ∀ w ∈ Filters.words s.filters, w.IsRegular :=
  Filters.isRegular_words hnames.filters hwritable.filters

theorem isRegular_selectWords (hnames : s.HasRegularNames) (hwritable : s.IsWritable) :
    ∀ w ∈ s.selectWords, w.IsRegular := by
  intro w hw
  simp only [selectWords, List.mem_cons, List.mem_append, List.not_mem_nil, or_false] at hw
  rcases hw with rfl | (((((hw | rfl | rfl) | hw) | hw) | hw) | hw)
  · exact isRegular_word (by decide)
  · exact isRegular_nameWords hnames.columns w hw
  · exact isRegular_word (by decide)
  · exact isRegular_naming hnames.table
  · obtain ⟨j, hj, hw⟩ := List.mem_flatMap.mp hw
    exact Join.isRegular_words (hnames.joins j hj) (hwritable.joins j hj) w hw
  · exact isRegular_filterWords hnames hwritable w hw
  · exact isRegular_countWords (by decide) s.limit w hw
  · exact isRegular_countWords (by decide) s.offset w hw

theorem isRegular_insertWords (hnames : s.HasRegularNames) :
    ∀ w ∈ s.insertWords, w.IsRegular := by
  unfold insertWords
  split
  next => simp
  next => simp
  next first others hrecords =>
    intro w hw
    simp only [rowsWords, List.mem_cons, List.mem_append, List.not_mem_nil, or_false] at hw
    rcases hw with (((rfl | rfl | rfl) | hw) | rfl | hw) | hw
    · exact isRegular_word (by decide)
    · exact isRegular_word (by decide)
    · exact isRegular_naming hnames.table
    · exact isRegular_enclosed
        (isRegular_nameWords (hnames.records hrecords first (by simp))) w hw
    · exact isRegular_word (by decide)
    · refine isRegular_listed ?_ w hw
      intro group hgroup
      obtain ⟨row, _, rfl⟩ := List.mem_map.mp hgroup
      exact isRegular_rowWords row
    · exact isRegular_returningWords hnames w hw

theorem HasRegularNames.fields (hnames : s.HasRegularNames) :
    ∀ field ∈ s.payload.fields, Identifier.IsRegular field.1.toList := by
  intro field hfield
  cases hpayload : s.payload with
  | nothing => simp [hpayload, Payload.fields] at hfield
  | records rows => simp [hpayload, Payload.fields] at hfield
  | record fields =>
      rw [hpayload] at hfield
      have hrecords : s.payload.toRecords = some [fields] := by
        rw [hpayload]
        rfl
      exact hnames.records hrecords fields (by simp) field.1 (List.mem_map_of_mem hfield)

theorem isRegular_updateWords (hnames : s.HasRegularNames) (hwritable : s.IsWritable) :
    ∀ w ∈ s.updateWords, w.IsRegular := by
  intro w hw
  simp only [updateWords, List.mem_cons, List.mem_append, List.not_mem_nil, or_false] at hw
  rcases hw with (((rfl | rfl | rfl) | hw) | hw) | hw
  · exact isRegular_word (by decide)
  · exact isRegular_naming hnames.table
  · exact isRegular_word (by decide)
  · refine isRegular_listed ?_ w hw
    intro group hgroup v hv
    obtain ⟨field, hfield, rfl⟩ := List.mem_map.mp hgroup
    simp only [assignmentWords, List.mem_cons, List.not_mem_nil, or_false] at hv
    rcases hv with rfl | rfl | rfl
    · exact isRegular_naming (hnames.fields field hfield)
    · exact isRegular_word (by decide)
    · exact isRegular_holding field.2
  · exact isRegular_filterWords hnames hwritable w hw
  · exact isRegular_returningWords hnames w hw

theorem isRegular_deleteWords (hnames : s.HasRegularNames) (hwritable : s.IsWritable) :
    ∀ w ∈ s.deleteWords, w.IsRegular := by
  intro w hw
  simp only [deleteWords, List.mem_cons, List.mem_append, List.not_mem_nil, or_false] at hw
  rcases hw with ((rfl | rfl | rfl) | hw) | hw
  · exact isRegular_word (by decide)
  · exact isRegular_word (by decide)
  · exact isRegular_naming hnames.table
  · exact isRegular_filterWords hnames hwritable w hw
  · exact isRegular_returningWords hnames w hw

theorem isRegular_words (hnames : s.HasRegularNames) (hwritable : s.IsWritable) :
    ∀ w ∈ s.words, w.IsRegular := by
  unfold words
  cases s.operation with
  | select => exact isRegular_selectWords hnames hwritable
  | insert => exact isRegular_insertWords hnames
  | update => exact isRegular_updateWords hnames hwritable
  | delete => exact isRegular_deleteWords hnames hwritable

end Statement

end

end SqlBuilder
