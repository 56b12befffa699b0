import SqlBuilder.Text.Characters

/-!
# Marks in SQL text

A mark `$n` counts outside quoted stretches only. A quoted stretch goes on to the first quote that
is not doubled; if there is none, it ends inside the last doubled quote, and a quote that no other
one follows starts no stretch.
-/

namespace SqlBuilder.Binding

open Text

/-- What follows an opening quote `q` up to its closing quote, and the rest. -/
def closing (q : Char) : List Char → Option (List Char × List Char)
  | [] => none
  | [c] => if c = q then some ([q], []) else none
  | c :: d :: cs =>
    if c = q then
      if d = q then match closing q cs with
        | some (run, rest) => some (q :: q :: run, rest)
        | none => some ([q], q :: cs)
      else some ([q], d :: cs)
    else (closing q (d :: cs)).map fun (run, rest) => (c :: run, rest)

/-- Nothing is lost when a stretch is closed. -/
theorem closing_append {q : Char} {cs run rest : List Char} (h : closing q cs = some (run, rest)) :
    run ++ rest = cs := by
  fun_induction closing q cs generalizing run rest with
  | case1 => simp at h
  | case2 => simp at h; simp [← h.1, ← h.2]
  | case3 => simp at h
  | case4 cs run' rest' hc ih =>
    simp at h
    simp [← h.1, ← h.2, ih hc]
  | case5 => simp at h; simp [← h.1, ← h.2]
  | case6 => simp at h; simp [← h.1, ← h.2]
  | case7 c d cs hc ih =>
    simp only [Option.map_eq_some_iff, Prod.mk.injEq] at h
    obtain ⟨⟨run', rest'⟩, hr, rfl, rfl⟩ := h
    simp [ih hr]

theorem length_of_closing {q : Char} {cs run rest : List Char}
    (h : closing q cs = some (run, rest)) : rest.length ≤ cs.length := by
  have hlength := congrArg List.length (closing_append h)
  simp at hlength
  omega

/-- A stretch of SQL text. -/
inductive Lexeme
  | plain (c : Char)
  | quoted (cs : List Char)
  | mark (digits : List Char)
  deriving DecidableEq, Repr

def lexemes : List Char → List Lexeme
  | [] => []
  | c :: cs =>
    if c = '"' ∨ c = '\'' then match _h : closing c cs with
      | some (run, rest) => .quoted (c :: run) :: lexemes rest
      | none => .plain c :: lexemes cs
    else if c = '$' ∧ cs.takeWhile isDigit ≠ [] then
      .mark (cs.takeWhile isDigit) :: lexemes (cs.dropWhile isDigit)
    else .plain c :: lexemes cs
termination_by cs => cs.length
decreasing_by
  · have := length_of_closing _h
    simp
    omega
  · simp
  · have := (List.dropWhile_suffix (l := cs) isDigit).length_le
    simp
    omega
  · simp

namespace Lexeme

/-- The text of a lexeme with a named bind in place of a mark. -/
def named : Lexeme → List Char
  | plain c => [c]
  | quoted cs => cs
  | mark digits => ':' :: 'p' :: digits

end Lexeme

end SqlBuilder.Binding
