import SqlBuilder.Text.Quoted

/-!
# Text by tokens

Statement text is plain characters, quoted stretches and numbered marks.  What
a reader of the text sees depends on where these meet: a quoted stretch must
not touch another one, a mark is set off by a blank, a parenthesis or a comma,
and the characters that could start something else do not occur outside
quotes.  `Lexical` says so of a sequence of tokens, and the readers of text
are each proved to see exactly the tokens of a lexical sequence.
-/

namespace SqlBuilder.Text

/-- A character, a stretch between double quotes, or a mark. -/
inductive Token
  | plain (c : Char)
  | quoted (s : List Char)
  | mark (n : Nat)

namespace Token

def chars : Token → List Char
  | plain c => [c]
  | quoted s => '"' :: (doubled '"' s ++ ['"'])
  | mark n => '$' :: Nat.toDigits 10 n

@[simp] theorem chars_plain (c : Char) : (plain c).chars = [c] := rfl

@[simp] theorem chars_quoted (s : List Char) :
    (quoted s).chars = '"' :: (doubled '"' s ++ ['"']) := rfl

@[simp] theorem chars_mark (n : Nat) : (mark n).chars = '$' :: Nat.toDigits 10 n := rfl

/-- Whether a character starts nothing but itself. -/
def isNeutral (c : Char) : Bool :=
  !(c == '"' || c == '\'' || c == '$' || c == ':' || c == '\\')

theorem ne_of_isNeutral {c : Char} (hc : isNeutral c = true) :
    c ≠ '"' ∧ c ≠ '\'' ∧ c ≠ '$' ∧ c ≠ ':' ∧ c ≠ '\\' := by
  simpa [isNeutral, and_assoc] using hc

/-- Whether a plain character may come right before a mark. -/
def opensMark (c : Char) : Bool := c == ' ' || c == '('

/-- Whether a plain character may come right after a mark. -/
def closesMark (c : Char) : Bool := c == ' ' || c == ',' || c == ')'

/-- What a token asks of the one after it. -/
def Precedes : Token → Token → Prop
  | plain c, mark _ => opensMark c = true
  | mark _, plain c => closesMark c = true
  | plain _, _ => True
  | quoted _, plain _ => True
  | _, _ => False

/-- Tokens that are set off from each other. -/
def Lexical : List Token → Prop
  | [] => True
  | t :: ts =>
    (∀ c, t = plain c → isNeutral c = true) ∧ (∀ u ∈ ts.head?, t.Precedes u) ∧ Lexical ts

/-- The numbers of the marks, in order. -/
def marks : List Token → List Nat
  | [] => []
  | mark n :: ts => n :: marks ts
  | plain _ :: ts | quoted _ :: ts => marks ts

@[simp] theorem lexical_nil : Lexical [] := trivial

theorem Lexical.tail {t : Token} {ts : List Token} (hts : Lexical (t :: ts)) : Lexical ts :=
  hts.2.2

theorem Lexical.neutral {c : Char} {ts : List Token} (hts : Lexical (plain c :: ts)) :
    isNeutral c = true :=
  hts.1 c rfl

/-- After a quoted stretch comes a plain character or nothing. -/
theorem Lexical.after_quoted {s : List Char} {ts : List Token}
    (hts : Lexical (quoted s :: ts)) :
    ts = [] ∨ ∃ c us, ts = plain c :: us ∧ isNeutral c = true := by
  cases ts with
  | nil => exact Or.inl rfl
  | cons u us =>
      have hnext := hts.2.1 u (by simp)
      cases u with
      | plain c => exact Or.inr ⟨c, us, rfl, hts.tail.neutral⟩
      | quoted s => exact hnext.elim
      | mark n => exact hnext.elim

/-- After a mark comes a character that closes it, or nothing. -/
theorem Lexical.after_mark {n : Nat} {ts : List Token} (hts : Lexical (mark n :: ts)) :
    ts = [] ∨ ∃ c us, ts = plain c :: us ∧ closesMark c = true := by
  cases ts with
  | nil => exact Or.inl rfl
  | cons u us =>
      have hnext := hts.2.1 u (by simp)
      cases u with
      | plain c => exact Or.inr ⟨c, us, rfl, hnext⟩
      | quoted s => exact hnext.elim
      | mark n => exact hnext.elim

/-- Neutral characters may come before anything but a mark. -/
theorem Lexical.plain_append {cs : List Char} {ts : List Token} (hts : Lexical ts)
    (hcs : ∀ c ∈ cs, isNeutral c = true)
    (hmark : ∀ n, ts.head? = some (mark n) → ∀ c ∈ cs.getLast?, opensMark c = true) :
    Lexical (cs.map plain ++ ts) := by
  induction cs with
  | nil => exact hts
  | cons c cs ih =>
      have htail : Lexical (cs.map plain ++ ts) := by
        apply ih
        · intro d hd
          exact hcs d (List.mem_cons_of_mem c hd)
        · intro n hn d hd
          apply hmark n hn
          rw [List.getLast?_cons]
          simp [Option.mem_def.mp hd]
      refine ⟨?_, ?_, htail⟩
      · intro d hd
        obtain rfl := plain.inj hd
        exact hcs c (by simp)
      · intro u hu
        cases cs with
        | nil =>
            cases u with
            | plain d => trivial
            | quoted s => trivial
            | mark n => exact hmark n (by simpa using hu) c (by simp)
        | cons d cs =>
            obtain rfl : plain d = u := Option.some.inj hu
            trivial

@[simp] theorem marks_nil : marks [] = [] := rfl

@[simp] theorem marks_cons_plain (c : Char) (ts : List Token) :
    marks (plain c :: ts) = marks ts := rfl

@[simp] theorem marks_cons_quoted (s : List Char) (ts : List Token) :
    marks (quoted s :: ts) = marks ts := rfl

@[simp] theorem marks_cons_mark (n : Nat) (ts : List Token) :
    marks (mark n :: ts) = n :: marks ts := rfl

@[simp] theorem marks_plain_append (cs : List Char) (ts : List Token) :
    marks (cs.map plain ++ ts) = marks ts := by
  induction cs with
  | nil => rfl
  | cons c cs ih => exact ih

theorem marks_append (ts us : List Token) : marks (ts ++ us) = marks ts ++ marks us := by
  induction ts with
  | nil => rfl
  | cons t ts ih => cases t <;> simp [marks, ih]

theorem flatMap_chars_plain (cs : List Char) : (cs.map plain).flatMap chars = cs := by
  induction cs with
  | nil => rfl
  | cons c cs ih => simp [ih]

end Token

end SqlBuilder.Text
