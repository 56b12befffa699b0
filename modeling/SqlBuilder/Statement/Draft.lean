import SqlBuilder.Value.Basic

/-!
# Drafts of statements

A draft is SQL text with values bound in some places. What is bound never becomes part of the text:
each place is written as a numbered mark, and the values are handed on beside the text in the order
of their marks.
-/

namespace SqlBuilder

/-- A stretch of SQL text, or a value bound in its place. -/
inductive Piece
  | text (s : String)
  | bound (v : Value)

abbrev Draft := List Piece

namespace Draft

/-- The bound values, in order. -/
def bound : Draft → List Value
  | [] => []
  | .text _ :: d => bound d
  | .bound v :: d => v :: bound d

/-- The mark of the bound value with the number `n`. -/
def mark (n : Nat) : String := "$" ++ toString n

/-- The text of a draft, the marks numbered from `n` on. -/
def sql (n : Nat) : Draft → String
  | [] => ""
  | .text s :: d => s ++ sql n d
  | .bound _ :: d => mark n ++ sql (n + 1) d

/-- Drafts one after the other with a comma between them. -/
def commaSeparated : List Draft → Draft := [Piece.text ", "].intercalate

/-- Places for values with a comma between them. -/
def places (vs : List Value) : Draft := commaSeparated (vs.map fun v => [.bound v])

/-- Places for values between parentheses. -/
def enclosed (vs : List Value) : Draft := .text "(" :: (places vs ++ [.text ")"])

@[simp] theorem bound_nil : bound [] = [] := rfl

@[simp] theorem bound_text (s : String) (d : Draft) : bound (.text s :: d) = bound d := rfl

@[simp] theorem bound_bound (v : Value) (d : Draft) : bound (.bound v :: d) = v :: bound d := rfl

@[simp] theorem bound_append (c d : Draft) : bound (c ++ d) = bound c ++ bound d := by
  induction c with
  | nil => rfl
  | cons piece c ih => cases piece <;> simp [ih]

@[simp] theorem sql_nil (n : Nat) : sql n [] = "" := rfl

@[simp] theorem sql_text (n : Nat) (s : String) (d : Draft) :
    sql n (.text s :: d) = s ++ sql n d := rfl

@[simp] theorem sql_bound (n : Nat) (v : Value) (d : Draft) :
    sql n (.bound v :: d) = mark n ++ sql (n + 1) d := rfl

theorem sql_append (n : Nat) (c d : Draft) :
    sql n (c ++ d) = sql n c ++ sql (n + (bound c).length) d := by
  induction c generalizing n with
  | nil => simp
  | cons piece c ih =>
    cases piece with
    | text s => simp [ih, String.append_assoc]
    | bound v => simp [ih, String.append_assoc, Nat.add_assoc, Nat.add_comm 1]

end Draft

end SqlBuilder
