import SqlBuilder.Proofs.Statement.NameReading
import SqlBuilder.Proofs.Statement.Regular
import SqlBuilder.Proofs.Text.Numeral
import SqlBuilder.Proofs.Text.Sections

/-!
# Reading words back

Text is cut at its blanks, and every piece is read as a word: parentheses
first, then what the first character announces, then what is left.  A mark
stands for the parameter with its number.  Regular words keep their blanks out
and announce themselves, so the text of regular words is read as those words.
-/

namespace SqlBuilder

open Text

def blank? (c : Char) : Option Unit := if c = ' ' then some () else none

namespace Term

/-- The term at the start of a text, and what follows it. -/
def read (parameters : List Value) : List Char → Option (Term × List Char)
  | [] => none
  | c :: cs =>
    if c = '$' then
      (parameters[Nat.ofDigitChars 10 (cs.takeWhile Char.isDigit) 0 - 1]?).map fun v =>
        (value v, cs.dropWhile Char.isDigit)
    else if c = '"' ∨ c = '*' then
      some (name (String.ofList (Identifier.unquoted false (c :: cs)).1),
        (Identifier.unquoted false (c :: cs)).2)
    else
      some (literal (String.ofList ((c :: cs).takeWhile isLiteralChar)),
        (c :: cs).dropWhile isLiteralChar)

/-- What may follow a term in a word. -/
def Closes (after : List Char) : Prop := ∀ c ∈ after, c = ',' ∨ c = ')'

theorem Closes.head
    {after : List Char} (hafter : Closes after) {p : Char → Bool}
    (hcomma : p ',' = false) (hclosing : p ')' = false) :
    ∀ c ∈ after.head?, p c = false := by
  intro c hc
  rcases hafter c (List.mem_of_mem_head? hc) with rfl | rfl
  · exact hcomma
  · exact hclosing

theorem read_literal
    {s : String} (hs : (literal s).IsRegular) (parameters : List Value) {after : List Char}
    (hafter : Closes after) :
    read parameters (s.toList ++ after) = some (literal s, after) := by
  obtain ⟨hne, hchars⟩ := hs
  have hsplit := takeWhile_dropWhile hchars (hafter.head (by decide) (by decide))
  have hcons : s.toList ≠ [] := by
    intro hnil
    exact hne (String.toList_inj.mp hnil)
  obtain ⟨c, cs, hcs⟩ := List.exists_cons_of_ne_nil hcons
  have hc : isLiteralChar c = true := hchars c (by simp [hcs])
  have hne : ∀ d, isLiteralChar d = false → c ≠ d := by
    rintro d hd rfl
    simp [hd] at hc
  have hdollar := hne '$' (by decide)
  have hquote := hne '"' (by decide)
  have hstar := hne '*' (by decide)
  rw [hcs, List.cons_append] at hsplit ⊢
  rw [read, if_neg hdollar, if_neg (by simp [hquote, hstar]), hsplit.1, hsplit.2, ← hcs,
    String.ofList_toList]

theorem read_name
    {s : String} (hs : (name s).IsRegular) (parameters : List Value) {after : List Char}
    (hafter : Closes after) :
    read parameters (Identifier.quotedChars s.toList ++ after) = some (name s, after) := by
  have hends : ∀ c ∈ after.head?, Identifier.endsName c = true := by
    intro c hc
    rcases hafter c (List.mem_of_mem_head? hc) with rfl | rfl <;> decide
  have hread := Identifier.unquoted_quotedChars hs hends
  obtain ⟨c, cs, hcs, hc⟩ := Identifier.exists_cons_quotedChars hs
  rw [hcs, List.cons_append] at hread ⊢
  have hdollar : c ≠ '$' := by
    rintro rfl
    simp at hc
  rw [read, if_neg hdollar, if_pos hc, hread, String.ofList_toList]

theorem read_value
    {n : Nat} {parameters : List Value} {v : Value} (hv : parameters[n - 1]? = some v)
    {after : List Char} (hafter : Closes after) :
    read parameters ((Draft.mark n).toList ++ after) = some (value v, after) := by
  have hmark : (Draft.mark n).toList ++ after = '$' :: (Nat.toDigits 10 n ++ after) := by
    simp [Draft.mark]
  have hsplit := takeWhile_dropWhile (areDigits_toDigits n)
    (hafter.head (by decide) (by decide))
  rw [hmark, read, if_pos rfl, hsplit.1, hsplit.2, Nat.ofDigitChars_ten_toDigits, hv]
  rfl

/-- A regular term is read back, its value being the parameter with its
number. -/
theorem read_chars
    {t : Term} (ht : t.IsRegular) {n : Nat} {parameters : List Value}
    (hbound : ∀ v ∈ t.bound, parameters[n - 1]? = some v) {after : List Char}
    (hafter : Closes after) :
    read parameters (t.chars n ++ after) = some (t, after) := by
  cases t with
  | literal s => exact read_literal ht parameters hafter
  | name s => exact read_name ht parameters hafter
  | value v => exact read_value (hbound v (by simp [bound])) hafter

theorem exists_cons_chars
    {t : Term} (ht : t.IsRegular) (n : Nat) : ∃ c cs, t.chars n = c :: cs ∧ c ≠ '(' := by
  cases t with
  | literal s =>
      have hcons : s.toList ≠ [] := by
        intro hnil
        exact ht.1 (String.toList_inj.mp hnil)
      obtain ⟨c, cs, hcs⟩ := List.exists_cons_of_ne_nil hcons
      refine ⟨c, cs, hcs, ?_⟩
      rintro rfl
      have hopening := ht.2 '(' (by simp [hcs])
      exact absurd hopening (by decide)
  | name s =>
      obtain ⟨c, cs, hcs, hc⟩ := Identifier.exists_cons_quotedChars ht
      refine ⟨c, cs, hcs, ?_⟩
      rintro rfl
      simp at hc
  | value v => exact ⟨'$', Nat.toDigits 10 n, by simp [chars, Draft.mark], by decide⟩

theorem plain_chars
    {t : Term} (ht : t.IsRegular) (n : Nat) : Plain blank? (t.chars n) := by
  intro c hc
  have hblank : c ≠ ' ' := by
    rintro rfl
    cases t with
    | literal s => exact absurd (ht.2 ' ' hc) (by decide)
    | name s => exact Identifier.blank_notMem_quotedChars ht hc
    | value v =>
        have hmark : ' ' ∈ '$' :: Nat.toDigits 10 n := by
          simpa [chars, Draft.mark] using hc
        rcases List.mem_cons.mp hmark with hmark | hmark
        · simp at hmark
        · exact ne_of_mem_toDigits hmark (by decide) rfl
  simp [blank?, hblank]

end Term

namespace Word

def read (parameters : List Value) (cs : List Char) : Option Word := do
  let (term, after) ← Term.read parameters (cs.dropWhile (· == '('))
  return { before := cs.takeWhile (· == '('), term, after }

theorem read_chars
    {w : Word} (hw : w.IsRegular) {n : Nat} {parameters : List Value}
    (hbound : ∀ v ∈ w.term.bound, parameters[n - 1]? = some v) :
    read parameters (w.chars n) = some w := by
  obtain ⟨before, term, after⟩ := w
  obtain ⟨hbefore, hterm, hafter⟩ := hw
  obtain ⟨c, cs, hcs, hc⟩ := Term.exists_cons_chars hterm n
  have hhead : ∀ d ∈ (term.chars n ++ after).head?, (d == '(') = false := by
    intro d hd
    obtain rfl : c = d := by simpa [hcs] using hd
    simpa using hc
  have hsplit := takeWhile_dropWhile
    (fun d hd => by simpa using hbefore d hd) hhead
  unfold read chars
  rw [hsplit.1, hsplit.2, Term.read_chars hterm hbound hafter]
  rfl

theorem plain_chars {w : Word} (hw : w.IsRegular) (n : Nat) : Plain blank? (w.chars n) := by
  have hparentheses : ∀ cs : List Char, (∀ c ∈ cs, c ≠ ' ') → Plain blank? cs := by
    intro cs hcs c hc
    simp [blank?, hcs c hc]
  apply plain_append
  · apply hparentheses
    intro c hc
    rw [hw.before c hc]
    decide
  · apply plain_append (Term.plain_chars hw.term n)
    apply hparentheses
    intro c hc
    rcases hw.after c hc with rfl | rfl <;> decide

/-- The texts of words, each by itself. -/
def texts : (n : Nat) → List Word → List (Unit × List Char)
  | _, [] => []
  | n, w :: ws => ((), w.chars n) :: texts (n + w.term.bound.length) ws

theorem flatMap_texts (n : Nat) (ws : List Word) :
    (texts n ws).flatMap (fun part => ' ' :: part.2) = spelled n ws := by
  induction ws generalizing n with
  | nil => rfl
  | cons w ws ih =>
      rw [texts, List.flatMap_cons, ih, spelled_cons, List.cons_append]

theorem plain_texts
    {ws : List Word} (hws : ∀ w ∈ ws, w.IsRegular) (n : Nat) :
    ∀ part ∈ texts n ws, Plain blank? part.2 := by
  induction ws generalizing n with
  | nil => simp [texts]
  | cons w ws ih =>
      intro part hpart
      rcases List.mem_cons.mp hpart with rfl | hpart
      · exact plain_chars (hws w (by simp)) n
      · exact ih (fun v hv => hws v (List.mem_cons_of_mem w hv)) _ part hpart

theorem sections_spelled
    {ws : List Word} (hws : ∀ w ∈ ws, w.IsRegular) (n : Nat) :
    sections blank? (spelled n ws) = texts n ws := by
  rw [← flatMap_texts]
  apply sections_flatMap (fun _ => ' ')
  · intro part _
    rfl
  · exact plain_texts hws n

/-- The number of a mark is one more than the number of values before it. -/
theorem read_texts
    {ws : List Word} (hws : ∀ w ∈ ws, w.IsRegular) (before : List Value) :
    (texts (before.length + 1) ws).mapM (fun part => read (before ++ bound ws) part.2) =
      some ws := by
  induction ws generalizing before with
  | nil => rfl
  | cons w ws ih =>
      have hhead : read (before ++ bound (w :: ws)) (w.chars (before.length + 1)) = some w := by
        apply read_chars (hws w (by simp))
        intro v hv
        rw [bound_cons]
        cases hterm : w.term with
        | literal s => simp [hterm, Term.bound] at hv
        | name s => simp [hterm, Term.bound] at hv
        | value u =>
            obtain rfl : v = u := by simpa [hterm, Term.bound] using hv
            simp [Term.bound]
      have htail := ih (fun v hv => hws v (List.mem_cons_of_mem w hv)) (before ++ w.term.bound)
      have hparameters : before ++ w.term.bound ++ bound ws = before ++ bound (w :: ws) := by
        rw [bound_cons, List.append_assoc]
      have hnumber : (before ++ w.term.bound).length + 1 =
          before.length + 1 + w.term.bound.length := by
        rw [List.length_append]
        omega
      rw [hparameters, hnumber] at htail
      rw [texts, List.mapM_cons, hhead, htail]
      rfl

end Word

/-- The words of a compiled statement. -/
def Compiled.words? (c : Compiled) : Option (List Word) :=
  (sections blank? (' ' :: c.sql.toList)).mapM fun part => Word.read c.parameters part.2

/-- The words of a statement are read back from its text and parameters. -/
theorem Statement.words_of_compile
    {s : Statement} (hnames : s.HasRegularNames) (hwritable : s.IsWritable) {c : Compiled}
    (hc : s.compile true = .ok c) :
    c.words? = some s.words := by
  obtain ⟨htext, hparameters⟩ := spelled_words hc
  have hregular := isRegular_words hnames hwritable
  have hread := Word.read_texts hregular []
  unfold Compiled.words?
  rw [htext, Word.sections_spelled hregular, hparameters]
  exact hread

end SqlBuilder
