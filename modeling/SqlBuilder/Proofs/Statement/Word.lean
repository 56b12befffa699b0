import SqlBuilder.Statement.Draft
import SqlBuilder.Statement.Identifier

/-!
# The words of statement text

The text of a statement is a sequence of words with one blank before each of
them.  A word says one thing: itself, a name, or a value that is bound in its
place.  The parentheses and commas around it are part of the word, so text is
cut into words at its blanks alone.

Values are counted from left to right.  `spelled n` writes words whose first
value has the number `n`, and it turns appended words into appended text.
-/

namespace SqlBuilder

/-- What a word says. -/
inductive Term
  | literal (s : String)
  | name (s : String)
  | value (v : Value)

/-- A word with what is written to it before and after. -/
structure Word where
  before : List Char := []
  term : Term
  after : List Char := []

namespace Term

/-- The values that are bound in the place of a term. -/
def bound : Term → List Value
  | value v => [v]
  | literal _ | name _ => []

/-- The text of a term whose value has the number `n`. -/
def chars (n : Nat) : Term → List Char
  | literal s => s.toList
  | name s => Identifier.quotedChars s.toList
  | value _ => (Draft.mark n).toList

end Term

namespace Word

/-- A word that says itself. -/
def literal (s : String) : Word := { term := .literal s }

def naming (s : String) : Word := { term := .name s }

def holding (v : Value) : Word := { term := .value v }

def chars (n : Nat) (w : Word) : List Char :=
  w.before ++ (w.term.chars n ++ w.after)

/-- The values bound in words, in order. -/
def bound (ws : List Word) : List Value := ws.flatMap fun w => w.term.bound

/-- Words one after the other, each after a blank; the first value has the
number `n`. -/
def spelled : (n : Nat) → List Word → List Char
  | _, [] => []
  | n, w :: ws => ' ' :: (w.chars n ++ spelled (n + w.term.bound.length) ws)

/-! ## Commas and parentheses -/

/-- The last word with `c` written to it. -/
def followedBy (c : Char) : List Word → List Word
  | [] => []
  | [w] => [{ w with after := w.after ++ [c] }]
  | w :: ws => w :: followedBy c ws

/-- The first word with `c` written before it. -/
def precededBy (c : Char) : List Word → List Word
  | [] => []
  | w :: ws => { w with before := c :: w.before } :: ws

/-- Groups of words with a comma after each but the last. -/
def listed : List (List Word) → List Word
  | [] => []
  | [group] => group
  | group :: groups => followedBy ',' group ++ listed groups

/-- Words between parentheses. -/
def enclosed (ws : List Word) : List Word := precededBy '(' (followedBy ')' ws)

@[simp] theorem bound_nil : bound [] = [] := rfl

@[simp] theorem bound_cons (w : Word) (ws : List Word) :
    bound (w :: ws) = w.term.bound ++ bound ws := rfl

@[simp] theorem bound_append (ws vs : List Word) :
    bound (ws ++ vs) = bound ws ++ bound vs := by
  simp [bound]

@[simp] theorem spelled_nil (n : Nat) : spelled n [] = [] := rfl

theorem spelled_cons (n : Nat) (w : Word) (ws : List Word) :
    spelled n (w :: ws) =
      ' ' :: (w.chars n ++ spelled (n + w.term.bound.length) ws) := rfl

theorem spelled_append (n : Nat) (ws vs : List Word) :
    spelled n (ws ++ vs) = spelled n ws ++ spelled (n + (bound ws).length) vs := by
  induction ws generalizing n with
  | nil => simp
  | cons w ws ih =>
      rw [List.cons_append, spelled_cons, spelled_cons, ih]
      simp [Nat.add_assoc]

@[simp] theorem bound_followedBy (c : Char) (ws : List Word) :
    bound (followedBy c ws) = bound ws := by
  induction ws with
  | nil => rfl
  | cons w ws ih =>
      cases ws with
      | nil => rfl
      | cons v ws => simpa [followedBy] using ih

@[simp] theorem bound_precededBy (c : Char) (ws : List Word) :
    bound (precededBy c ws) = bound ws := by
  cases ws <;> rfl

theorem followedBy_ne_nil {c : Char} {ws : List Word} (hws : ws ≠ []) :
    followedBy c ws ≠ [] := by
  cases ws with
  | nil => exact absurd rfl hws
  | cons w ws => cases ws <;> simp [followedBy]

theorem spelled_followedBy (n : Nat) (c : Char) {ws : List Word} (hws : ws ≠ []) :
    spelled n (followedBy c ws) = spelled n ws ++ [c] := by
  induction ws generalizing n with
  | nil => exact absurd rfl hws
  | cons w ws ih =>
      cases ws with
      | nil => simp [followedBy, spelled_cons, chars]
      | cons v ws =>
          rw [followedBy, spelled_cons, spelled_cons, ih _ (by simp)]
          · simp
          · simp

theorem spelled_precededBy (n : Nat) (c : Char) {ws : List Word} (hws : ws ≠ []) :
    spelled n (precededBy c ws) = ' ' :: c :: (spelled n ws).tail := by
  cases ws with
  | nil => exact absurd rfl hws
  | cons w ws => simp [precededBy, spelled_cons, chars]

@[simp] theorem bound_enclosed (ws : List Word) : bound (enclosed ws) = bound ws := by
  simp [enclosed]

theorem spelled_enclosed (n : Nat) {ws : List Word} (hws : ws ≠ []) :
    spelled n (enclosed ws) = ' ' :: '(' :: ((spelled n ws).tail ++ [')']) := by
  unfold enclosed
  rw [spelled_precededBy n '(' (followedBy_ne_nil hws), spelled_followedBy n ')' hws]
  cases ws with
  | nil => exact absurd rfl hws
  | cons w ws => simp [spelled_cons]

@[simp] theorem listed_nil : listed [] = [] := rfl

@[simp] theorem listed_singleton (group : List Word) : listed [group] = group := rfl

theorem listed_cons_cons (group next : List Word) (groups : List (List Word)) :
    listed (group :: next :: groups) =
      followedBy ',' group ++ listed (next :: groups) := rfl

theorem bound_listed (groups : List (List Word)) :
    bound (listed groups) = groups.flatMap bound := by
  induction groups with
  | nil => rfl
  | cons group groups ih =>
      cases groups with
      | nil => simp
      | cons next groups =>
          rw [listed_cons_cons, bound_append, ih]
          simp

end Word

end SqlBuilder
