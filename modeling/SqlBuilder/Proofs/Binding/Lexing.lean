import SqlBuilder.Binding.Named
import SqlBuilder.Proofs.Text.Mark

/-!
# Lexing escaped text

Colons only stand inside quotes, so escaping changes the contents of quoted
stretches and leaves everything around them.  The lexer then sees every quoted
stretch as one lexeme, every mark as a mark, and the rest one by one.
-/

namespace SqlBuilder.Binding

open Text

/-! ## Escaping -/

theorem escaped_append (cs ds : List Char) :
    escaped (cs ++ ds) = escaped cs ++ escaped ds := by
  induction cs with
  | nil => rfl
  | cons c cs ih => by_cases hc : c = ':' <;> simp [escaped, hc, ih]

theorem escaped_of_notMem {cs : List Char} (hcs : ':' ∉ cs) : escaped cs = cs := by
  induction cs with
  | nil => rfl
  | cons c cs ih =>
      simp only [List.mem_cons, not_or] at hcs
      simp [escaped, Ne.symm hcs.1, ih hcs.2]

/-- Escaping and doubling quotes do not meet. -/
theorem escaped_doubled {q : Char} (hcolon : q ≠ ':') (hslash : q ≠ '\\') (s : List Char) :
    escaped (doubled q s) = doubled q (escaped s) := by
  induction s with
  | nil => rfl
  | cons c s ih =>
      by_cases hquote : c = q
      · subst hquote
        simp [doubled, escaped, hcolon, ih]
      · by_cases hc : c = ':'
        · subst hc
          simp [doubled, escaped, hcolon.symm, hslash.symm, ih]
        · simp [doubled, escaped, hquote, hc, ih]

end SqlBuilder.Binding

namespace SqlBuilder.Text.Token

open Binding

/-- A token of the escaped text. -/
def escaped : Token → Token
  | quoted s => quoted (Binding.escaped s)
  | plain c => plain c
  | mark n => mark n

theorem escaped_chars {ts : List Token} (hts : Lexical ts) :
    Binding.escaped (ts.flatMap chars) = (ts.map escaped).flatMap chars := by
  induction ts with
  | nil => rfl
  | cons t ts ih =>
      rw [List.flatMap_cons, escaped_append, ih hts.tail, List.map_cons, List.flatMap_cons]
      congr 1
      cases t with
      | plain c => simp [escaped, Binding.escaped, (ne_of_isNeutral hts.neutral).2.2.2.1]
      | quoted s =>
          simp [escaped, Binding.escaped, escaped_append, escaped_doubled]
      | mark n =>
          apply escaped_of_notMem
          intro hcolon
          rcases List.mem_cons.mp hcolon with hcolon | hcolon
          · simp at hcolon
          · exact ne_of_mem_toDigits hcolon (by decide) rfl

theorem lexical_escaped {ts : List Token} (hts : Lexical ts) : Lexical (ts.map escaped) := by
  induction ts with
  | nil => exact lexical_nil
  | cons t ts ih =>
      refine ⟨?_, ?_, ih hts.tail⟩
      · intro c hc
        cases t with
        | plain d =>
            obtain rfl := plain.inj hc
            exact hts.neutral
        | quoted s => simp [escaped] at hc
        | mark n => simp [escaped] at hc
      · intro u hu
        cases ts with
        | nil => simp at hu
        | cons v ts =>
            obtain rfl : escaped v = u := Option.some.inj hu
            have hnext := hts.2.1 v (by simp)
            cases t <;> cases v <;> exact hnext

/-! ## Lexemes -/

/-- The lexeme that a token is read as. -/
def lexeme : Token → Lexeme
  | plain c => .plain c
  | quoted s => .quoted ('"' :: (doubled '"' s ++ ['"']))
  | mark n => .mark (Nat.toDigits 10 n)

/-- Doubled quotes are read on to where the text after them is closed. -/
theorem closing_doubled_append {q : Char} (s : List Char) {cs run rest : List Char}
    (hclosing : closing q cs = some (run, rest)) :
    closing q (doubled q s ++ cs) = some (doubled q s ++ run, rest) := by
  induction s with
  | nil => exact hclosing
  | cons c s ih =>
      by_cases hc : c = q
      · subst hc
        simp [doubled, closing, ih]
      · have hcs : cs ≠ [] := by
          rintro rfl
          simp [closing] at hclosing
        obtain ⟨d, ds, hds⟩ : ∃ d ds, doubled q s ++ cs = d :: ds :=
          List.exists_cons_of_ne_nil (by simp [hcs])
        rw [doubled_cons_of_ne hc, List.cons_append, hds, closing, ← hds, ih]
        simp [hc]

/-- A stretch is closed by the first quote that is not doubled. -/
theorem closing_doubled {q : Char} (s : List Char) {rest : List Char}
    (hrest : rest.head? ≠ some q) :
    closing q (doubled q s ++ q :: rest) = some (doubled q s ++ [q], rest) := by
  apply closing_doubled_append
  cases rest with
  | nil => simp [closing]
  | cons c cs =>
      have hc : c ≠ q := by simpa using hrest
      simp [closing, hc]

theorem isDigit_toDigits {n : Nat} {c : Char} (hc : c ∈ Nat.toDigits 10 n) :
    Text.isDigit c = true := by
  have hdigit := areDigits_toDigits n c hc
  rw [isDigit_of_ascii (toNat_lt_of_isDigit hdigit)]
  exact hdigit

/-- The lexer sees the tokens of lexical text. -/
theorem lexemes_chars {ts : List Token} (hts : Lexical ts) :
    lexemes (ts.flatMap chars) = ts.map lexeme := by
  induction ts with
  | nil => simp [lexemes]
  | cons t ts ih =>
      have htail := ih hts.tail
      rw [List.flatMap_cons, List.map_cons, ← htail]
      cases t with
      | plain c =>
          obtain ⟨hquote, hsingle, hdollar, _⟩ := ne_of_isNeutral hts.neutral
          rw [chars_plain, List.singleton_append, lexemes]
          simp [hquote, hsingle, hdollar, lexeme]
      | quoted s =>
          have hrest : (ts.flatMap chars).head? ≠ some '"' := by
            rcases hts.after_quoted with rfl | ⟨c, us, rfl, hc⟩
            · simp
            · simpa using (ne_of_isNeutral hc).1
          rw [chars_quoted, List.cons_append, List.append_assoc, List.singleton_append, lexemes]
          simp only [true_or, if_true]
          split
          next run rest hclosing =>
            rw [closing_doubled s hrest] at hclosing
            obtain ⟨rfl, rfl⟩ := Prod.mk.inj (Option.some.inj hclosing)
            rfl
          next hclosing =>
            rw [closing_doubled s hrest] at hclosing
            simp at hclosing
      | mark n =>
          have hrest : ∀ c ∈ (ts.flatMap chars).head?, Text.isDigit c = false := by
            intro c hc
            have hcloses := hts.head_after_mark c hc
            simp only [closesMark, Bool.or_eq_true, beq_iff_eq] at hcloses
            rcases hcloses with (rfl | rfl) | rfl <;> decide
          obtain ⟨htake, hdrop⟩ :=
            takeWhile_dropWhile (fun c hc => isDigit_toDigits hc) hrest
          rw [chars_mark, List.cons_append, lexemes, htake, hdrop]
          simp [lexeme, Nat.toDigits_ne_nil]

theorem named_lexeme (t : Token) : t.lexeme.named = t.named := by
  cases t <;> rfl

/-- The text that is handed on has its colons escaped and binds for marks. -/
theorem namedText_chars {ts : List Token} (hts : Lexical ts) :
    namedText (ts.flatMap chars) = (ts.map escaped).flatMap named := by
  unfold namedText
  rw [escaped_chars hts, lexemes_chars (lexical_escaped hts), List.flatMap_map]
  simp only [named_lexeme]

end SqlBuilder.Text.Token
