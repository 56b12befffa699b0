import SqlBuilder.Binding.Named

/-!
# Reading text character by character

A plain reader of statement text only knows inside which quotes it stands.  A quote
opens a stretch if it comes again, and the next one of its kind closes it, so a
doubled quote takes the reader out and in again.  The lexer finds the same marks as
this reader, and escaping colons changes neither.
-/

namespace SqlBuilder.Binding

open Text

/-- The quotes of names and of literals. -/
inductive Quote
  | double
  | single
  deriving DecidableEq

namespace Quote

def char : Quote → Char
  | double => '"'
  | single => '\''

def ofChar? (c : Char) : Option Quote :=
  if c = '"' then some double else if c = '\'' then some single else none

theorem ofChar?_char (q : Quote) : ofChar? q.char = some q := by
  cases q <;> decide

theorem char_of_ofChar? {c : Char} {q : Quote} (h : ofChar? c = some q) : q.char = c := by
  unfold ofChar? at h
  split at h
  next hc =>
    obtain rfl := Option.some.inj h
    exact hc.symm
  next =>
    split at h
    next hc =>
      obtain rfl := Option.some.inj h
      exact hc.symm
    next => simp at h

theorem ofChar?_eq_none_iff {c : Char} : ofChar? c = none ↔ ¬ (c = '"' ∨ c = '\'') := by
  unfold ofChar?
  split
  next hc => simp [hc]
  next hc => simp [hc]

theorem char_ne (q : Quote) : q.char ≠ '$' ∧ q.char ≠ ':' ∧ q.char ≠ '\\' := by
  cases q <;> decide

end Quote

/-- The quotes in which what follows `c` stands. -/
def quoteAfter (inside : Option Quote) (c : Char) (cs : List Char) : Option Quote :=
  match inside with
  | some q => if c = q.char then none else some q
  | none => (Quote.ofChar? c).filter (·.char ∈ cs)

/-- Whether `c` is the dollar of a mark. -/
def StartsMark (inside : Option Quote) (c : Char) (cs : List Char) : Prop :=
  inside = none ∧ c = '$' ∧ cs.takeWhile isDigit ≠ []

instance (inside : Option Quote) (c : Char) (cs : List Char) : Decidable (StartsMark inside c cs) :=
  inferInstanceAs (Decidable (_ ∧ _ ∧ _))

/-- A text with `:p` for the dollar of every mark whose digits are renamed. -/
def renamed (renames : List Char → Bool) (inside : Option Quote) : List Char → List Char
  | [] => []
  | c :: cs =>
    (if StartsMark inside c cs ∧ renames (cs.takeWhile isDigit) then [':', 'p'] else [c])
      ++ renamed renames (quoteAfter inside c cs) cs

/-- A text with a backslash before every colon, and with `:p` for the dollar of every mark. -/
def handedOn (inside : Option Quote) : List Char → List Char
  | [] => []
  | c :: cs =>
    (if StartsMark inside c cs then [':', 'p'] else if c = ':' then ['\\', ':'] else [c])
      ++ handedOn (quoteAfter inside c cs) cs

/-! ## What the lexer finds -/

theorem isSome_closing_iff {q : Char} {cs : List Char} : (closing q cs).isSome ↔ q ∈ cs := by
  fun_induction closing q cs with
  | case1 => simp
  | case2 => simp
  | case3 c hc => simp [Ne.symm hc]
  | case4 cs run rest hclosing ih => simp
  | case5 cs hclosing ih => simp
  | case6 d cs hd => simp
  | case7 c d cs hc ih => simp [ih, Ne.symm hc]

theorem renamed_of_not_startsMark
    (renames : List Char → Bool) {inside : Option Quote} {c : Char} {cs : List Char}
    (hc : ¬ StartsMark inside c cs) :
    renamed renames inside (c :: cs) = c :: renamed renames (quoteAfter inside c cs) cs := by
  rw [renamed, if_neg (fun h => hc h.1)]
  rfl

theorem renamed_inside
    (renames : List Char → Bool) (q : Quote) (c : Char) (cs : List Char) :
    renamed renames (some q) (c :: cs) =
      c :: renamed renames (if c = q.char then none else some q) cs :=
  renamed_of_not_startsMark renames (fun h => Option.some_ne_none q h.1)

theorem not_startsMark_of_ne {inside : Option Quote} {c : Char} {cs : List Char}
    (hc : c ≠ '$') : ¬ StartsMark inside c cs := fun h => hc h.2.1

theorem renamed_opening
    (renames : List Char → Bool) {q : Quote} {cs : List Char} (hcs : q.char ∈ cs) :
    renamed renames none (q.char :: cs) = q.char :: renamed renames (some q) cs := by
  rw [renamed_of_not_startsMark renames (not_startsMark_of_ne q.char_ne.1)]
  simp [quoteAfter, q.ofChar?_char, Option.filter, hcs]

theorem renamed_quoted
    (renames : List Char → Bool) {q : Quote} {cs run rest : List Char}
    (hclosing : closing q.char cs = some (run, rest)) :
    renamed renames (some q) cs = run ++ renamed renames none rest := by
  fun_induction closing q.char cs generalizing run rest with
  | case1 => simp at hclosing
  | case2 =>
      obtain ⟨rfl, rfl⟩ := Prod.mk.inj (Option.some.inj hclosing)
      rw [renamed_inside, if_pos rfl]
      rfl
  | case3 => simp at hclosing
  | case4 cs run' rest' hagain ih =>
      obtain ⟨rfl, rfl⟩ := Prod.mk.inj (Option.some.inj hclosing)
      have hmem : q.char ∈ cs := isSome_closing_iff.mp (by rw [hagain]; rfl)
      rw [renamed_inside, if_pos rfl, renamed_opening renames hmem, ih hagain]
      rfl
  | case5 =>
      obtain ⟨rfl, rfl⟩ := Prod.mk.inj (Option.some.inj hclosing)
      rw [renamed_inside, if_pos rfl]
      rfl
  | case6 =>
      obtain ⟨rfl, rfl⟩ := Prod.mk.inj (Option.some.inj hclosing)
      rw [renamed_inside, if_pos rfl]
      rfl
  | case7 c d cs hc ih =>
      obtain ⟨⟨run', rest'⟩, hlater, hsame⟩ := Option.map_eq_some_iff.mp hclosing
      obtain ⟨rfl, rfl⟩ := Prod.mk.inj hsame
      rw [renamed_inside, if_neg hc, ih hlater]
      rfl

theorem quoteAfter_of_isDigit {c : Char} (hc : isDigit c = true) (cs : List Char) :
    quoteAfter none c cs = none := by
  have hnone : Quote.ofChar? c = none := by
    refine Quote.ofChar?_eq_none_iff.mpr ?_
    rintro (rfl | rfl) <;> exact absurd hc (by decide)
  simp [quoteAfter, hnone]

theorem renamed_digits
    (renames : List Char → Bool) {ds : List Char} (hds : ∀ c ∈ ds, isDigit c = true)
    (rest : List Char) : renamed renames none (ds ++ rest) = ds ++ renamed renames none rest := by
  induction ds with
  | nil => rfl
  | cons d ds ih =>
      obtain ⟨hd, hothers⟩ := List.forall_mem_cons.mp hds
      have hdollar : d ≠ '$' := by
        rintro rfl
        exact absurd hd (by decide)
      rw [List.cons_append, renamed_of_not_startsMark renames (not_startsMark_of_ne hdollar),
        quoteAfter_of_isDigit hd, ih hothers]
      rfl

/-- The lexer finds the marks that the reader finds. -/
theorem lexemes_flatMap_named (cs : List Char) :
    (lexemes cs).flatMap Lexeme.named = renamed (fun _ => true) none cs := by
  fun_induction lexemes cs with
  | case1 => rfl
  | case2 c cs hc run rest hclosing ih =>
      obtain ⟨q, rfl⟩ : ∃ q : Quote, q.char = c := by
        rcases hc with rfl | rfl
        · exact ⟨.double, rfl⟩
        · exact ⟨.single, rfl⟩
      have hmem : q.char ∈ cs := isSome_closing_iff.mp (by rw [hclosing]; rfl)
      rw [List.flatMap_cons, ih, renamed_opening _ hmem, renamed_quoted _ hclosing]
      rfl
  | case3 c cs hc hclosing ih =>
      have habsent : c ∉ cs := by
        intro hmem
        rw [← isSome_closing_iff, hclosing] at hmem
        simp at hmem
      have hdollar : c ≠ '$' := by
        rintro rfl
        simp at hc
      have hafter : quoteAfter none c cs = none := by
        unfold quoteAfter
        refine Option.filter_eq_none_iff.mpr ?_
        intro q hq
        rw [Quote.char_of_ofChar? hq]
        simpa using habsent
      rw [List.flatMap_cons, ih, renamed_of_not_startsMark _ (not_startsMark_of_ne hdollar), hafter]
      rfl
  | case4 c cs hc hmark ih =>
      obtain ⟨rfl, hdigits⟩ := hmark
      have hafter : quoteAfter none '$' cs = none := rfl
      have hrest : renamed (fun _ => true) none cs =
          cs.takeWhile isDigit ++ renamed (fun _ => true) none (cs.dropWhile isDigit) := by
        rw [← renamed_digits _ (fun c hc => List.all_eq_true.mp List.all_takeWhile c hc),
          List.takeWhile_append_dropWhile]
      rw [List.flatMap_cons, ih, renamed, if_pos ⟨⟨rfl, rfl, hdigits⟩, rfl⟩, hafter, hrest]
      rfl
  | case5 c cs hc hmark ih =>
      have hafter : quoteAfter none c cs = none := by
        simp [quoteAfter, Quote.ofChar?_eq_none_iff.mpr hc]
      rw [List.flatMap_cons, ih, renamed_of_not_startsMark _ (fun h => hmark h.2), hafter]
      rfl

/-! ## Escaped text -/

theorem takeWhile_isDigit_escaped (cs : List Char) :
    (escaped cs).takeWhile isDigit = cs.takeWhile isDigit := by
  induction cs with
  | nil => rfl
  | cons c cs ih =>
      by_cases hc : c = ':'
      · have hcolon : isDigit ':' = false := by decide
        have hslash : isDigit '\\' = false := by decide
        simp [escaped, hc, hcolon, hslash]
      · simp [escaped, hc, List.takeWhile_cons, ih]

theorem mem_escaped_iff {c : Char} (hc : c ≠ '\\') {cs : List Char} : c ∈ escaped cs ↔ c ∈ cs := by
  induction cs with
  | nil => rfl
  | cons d cs ih =>
      by_cases hd : d = ':'
      · simp [escaped, hd, ih, hc]
      · simp [escaped, hd, ih]

theorem quoteAfter_escaped (inside : Option Quote) (c : Char) (cs : List Char) :
    quoteAfter inside c (escaped cs) = quoteAfter inside c cs := by
  unfold quoteAfter
  cases inside with
  | some q => rfl
  | none => simp only [mem_escaped_iff (Quote.char_ne _).2.2]

theorem startsMark_escaped_iff {inside : Option Quote} {c : Char} {cs : List Char} :
    StartsMark inside c (escaped cs) ↔ StartsMark inside c cs := by
  unfold StartsMark
  rw [takeWhile_isDigit_escaped]

/-- Neither of the two characters that a colon becomes leads out of quotes or into them. -/
theorem quoteAfter_neutral (inside : Option Quote) {c : Char} (hc : c = ':' ∨ c = '\\')
    (cs : List Char) : quoteAfter inside c cs = inside := by
  cases inside with
  | some q =>
      have hne : c ≠ q.char := by
        rintro rfl
        exact hc.elim q.char_ne.2.1 q.char_ne.2.2
      simp [quoteAfter, hne]
  | none =>
      have hnone : Quote.ofChar? c = none := by rcases hc with rfl | rfl <;> rfl
      simp [quoteAfter, hnone]

theorem renamed_escaped (inside : Option Quote) (cs : List Char) :
    renamed (fun _ => true) inside (escaped cs) = handedOn inside cs := by
  induction cs generalizing inside with
  | nil => rfl
  | cons c cs ih =>
      by_cases hc : c = ':'
      · subst hc
        have hescaped : escaped (':' :: cs) = '\\' :: ':' :: escaped cs := rfl
        rw [hescaped, renamed_of_not_startsMark _ (not_startsMark_of_ne (by decide)),
          quoteAfter_neutral inside (.inr rfl),
          renamed_of_not_startsMark _ (not_startsMark_of_ne (by decide)),
          quoteAfter_neutral inside (.inl rfl), ih, handedOn,
          if_neg (not_startsMark_of_ne (by decide)), if_pos rfl, quoteAfter_neutral inside (.inl rfl)]
        rfl
      · have hescaped : escaped (c :: cs) = c :: escaped cs := by simp [escaped, hc]
        rw [hescaped, renamed, handedOn, quoteAfter_escaped, ih]
        simp only [startsMark_escaped_iff, and_true, if_neg hc]

/-- The text that is handed on, read by characters. -/
theorem namedText_eq_handedOn (sql : List Char) : namedText sql = handedOn none sql := by
  unfold namedText
  rw [lexemes_flatMap_named, renamed_escaped]

end SqlBuilder.Binding
