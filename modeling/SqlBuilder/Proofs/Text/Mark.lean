import SqlBuilder.Proofs.Text.Numeral
import SqlBuilder.Proofs.Text.Token

/-!
# Marks outside quotes

A plain reader of marks: it only knows whether it stands inside double quotes,
and a doubled quote takes it out and in again.  On lexical tokens it finds the
marks that were put there and no others.
-/

namespace SqlBuilder.Text

/-- The digits of the marks outside double quotes; `inside` tells whether the
text starts inside them. -/
def markDigits : (inside : Bool) → List Char → List (List Char)
  | _, [] => []
  | inside, c :: cs =>
    if c = '"' then markDigits (!inside) cs
    else if c = '$' ∧ inside = false ∧ cs.takeWhile Char.isDigit ≠ [] then
      cs.takeWhile Char.isDigit :: markDigits inside cs
    else markDigits inside cs

/-- The marks of a text, in order. -/
def marks (sql : String) : List String :=
  (markDigits false sql.toList).map fun digits => String.ofList ('$' :: digits)

/-- A text with `:p` for the dollar of every mark outside double quotes. -/
def renamedMarks : (inside : Bool) → List Char → List Char
  | _, [] => []
  | inside, c :: cs =>
    if c = '"' then '"' :: renamedMarks (!inside) cs
    else if c = '$' ∧ inside = false ∧ cs.takeWhile Char.isDigit ≠ [] then
      ':' :: 'p' :: renamedMarks inside cs
    else c :: renamedMarks inside cs

theorem markDigits_neutral {cs : List Char} (hcs : ∀ c ∈ cs, c ≠ '"' ∧ c ≠ '$')
    (inside : Bool) (rest : List Char) :
    markDigits inside (cs ++ rest) = markDigits inside rest := by
  induction cs with
  | nil => rfl
  | cons c cs ih =>
      obtain ⟨hquote, hdollar⟩ := hcs c (by simp)
      have htail := ih (fun d hd => hcs d (List.mem_cons_of_mem c hd))
      simp [markDigits, hquote, hdollar, htail]

/-- Nothing inside quotes is a mark. -/
theorem markDigits_doubled (s rest : List Char) :
    markDigits true (doubled '"' s ++ '"' :: rest) = markDigits false rest := by
  induction s with
  | nil => simp [markDigits]
  | cons c s ih =>
      by_cases hc : c = '"'
      · subst hc
        simpa [doubled, markDigits] using ih
      · simpa [doubled, markDigits, hc] using ih

theorem digits_ne (n : Nat) : ∀ c ∈ Nat.toDigits 10 n, c ≠ '"' ∧ c ≠ '$' :=
  fun _ hc => ⟨ne_of_mem_toDigits hc (by decide), ne_of_mem_toDigits hc (by decide)⟩

theorem markDigits_mark (n : Nat) {rest : List Char}
    (hrest : ∀ c ∈ rest.head?, c.isDigit = false) :
    markDigits false ('$' :: (Nat.toDigits 10 n ++ rest)) =
      Nat.toDigits 10 n :: markDigits false rest := by
  have hdigits := (takeWhile_dropWhile (areDigits_toDigits n) hrest).1
  rw [markDigits, hdigits, markDigits_neutral (digits_ne n) false]
  simp

/-- What comes after a mark does not go on with its digits. -/
theorem Token.Lexical.head_after_mark {n : Nat} {ts : List Token}
    (hts : Lexical (mark n :: ts)) :
    ∀ c ∈ (ts.flatMap chars).head?, closesMark c = true := by
  rcases hts.after_mark with rfl | ⟨d, us, rfl, hd⟩
  · simp
  · intro c hc
    obtain rfl : d = c := Option.some.inj hc
    exact hd

theorem Token.Lexical.isDigit_after_mark {n : Nat} {ts : List Token}
    (hts : Lexical (mark n :: ts)) : ∀ c ∈ (ts.flatMap chars).head?, c.isDigit = false := by
  intro c hc
  have hcloses := hts.head_after_mark c hc
  simp only [closesMark, Bool.or_eq_true, beq_iff_eq] at hcloses
  rcases hcloses with (rfl | rfl) | rfl <;> decide

theorem Token.Lexical.plain_ne {c : Char} {ts : List Token} (hts : Lexical (plain c :: ts)) :
    ∀ d ∈ [c], d ≠ '"' ∧ d ≠ '$' := by
  intro d hd
  rw [List.mem_singleton.mp hd]
  obtain ⟨hquote, _, hdollar, _⟩ := ne_of_isNeutral hts.neutral
  exact ⟨hquote, hdollar⟩

theorem markDigits_chars {ts : List Token} (hts : Token.Lexical ts) :
    markDigits false (ts.flatMap Token.chars) = (Token.marks ts).map (Nat.toDigits 10) := by
  induction ts with
  | nil => rfl
  | cons t ts ih =>
      have htail := ih hts.tail
      cases t with
      | plain c =>
          rw [List.flatMap_cons, Token.chars_plain, markDigits_neutral hts.plain_ne]
          exact htail
      | quoted s =>
          rw [List.flatMap_cons, Token.chars_quoted]
          simp only [List.cons_append, List.append_assoc, List.nil_append]
          rw [markDigits]
          simp only [if_true, Bool.not_false]
          rw [markDigits_doubled]
          exact htail
      | mark n =>
          rw [List.flatMap_cons, Token.chars_mark, List.cons_append,
            markDigits_mark n hts.isDigit_after_mark, htail]
          rfl

theorem renamedMarks_neutral {cs : List Char} (hcs : ∀ c ∈ cs, c ≠ '"' ∧ c ≠ '$')
    (inside : Bool) (rest : List Char) :
    renamedMarks inside (cs ++ rest) = cs ++ renamedMarks inside rest := by
  induction cs with
  | nil => rfl
  | cons c cs ih =>
      obtain ⟨hquote, hdollar⟩ := hcs c (by simp)
      have htail := ih (fun d hd => hcs d (List.mem_cons_of_mem c hd))
      simp [renamedMarks, hquote, hdollar, htail]

theorem renamedMarks_doubled (s rest : List Char) :
    renamedMarks true (doubled '"' s ++ '"' :: rest) =
      doubled '"' s ++ '"' :: renamedMarks false rest := by
  induction s with
  | nil => simp [renamedMarks]
  | cons c s ih =>
      by_cases hc : c = '"'
      · subst hc
        simpa [doubled, renamedMarks] using ih
      · simpa [doubled, renamedMarks, hc] using ih

/-- The text of a token with a bind in place of a mark. -/
def Token.named : Token → List Char
  | plain c => [c]
  | quoted s => '"' :: (doubled '"' s ++ ['"'])
  | mark n => ':' :: 'p' :: Nat.toDigits 10 n

theorem renamedMarks_chars {ts : List Token} (hts : Token.Lexical ts) :
    renamedMarks false (ts.flatMap Token.chars) = ts.flatMap Token.named := by
  induction ts with
  | nil => rfl
  | cons t ts ih =>
      have htail := ih hts.tail
      rw [List.flatMap_cons, List.flatMap_cons, ← htail]
      cases t with
      | plain c => exact renamedMarks_neutral hts.plain_ne false _
      | quoted s =>
          rw [Token.chars_quoted]
          simp only [List.cons_append, List.append_assoc, List.nil_append]
          rw [renamedMarks]
          simp only [if_true, Bool.not_false]
          rw [renamedMarks_doubled]
          simp [Token.named]
      | mark n =>
          have hdigits := (takeWhile_dropWhile (areDigits_toDigits n) hts.isDigit_after_mark).1
          rw [Token.chars_mark, List.cons_append, renamedMarks, hdigits,
            renamedMarks_neutral (digits_ne n) false]
          simp [Token.named, Nat.toDigits_ne_nil]

end SqlBuilder.Text
