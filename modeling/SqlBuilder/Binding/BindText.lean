import SqlBuilder.Text.Characters

/-!
# Binds in statement text

A bind is a colon with a word after it; no colon, word or backslash comes before it and no colon
after it. A backslash before a colon takes a meaning from it and is not printed, but it is kept
where the word after the colon, which may be empty, is followed by another colon.
-/

namespace SqlBuilder.Binding

open Text

/-- Whether a colon after `c` cannot start a bind. -/
def hindersBind (c : Char) : Bool := c = ':' || c = '\\' || isWord c

/-- The word at the start of a text, unless a colon follows it. -/
def word? (cs : List Char) : Option (List Char) :=
  if (cs.dropWhile isWord).head? = some ':' then none else some (cs.takeWhile isWord)

/-- The names of the binds in a text, of which `hindered` tells whether it can start with one. -/
def bindNames : (hindered : Bool) → List Char → List (List Char)
  | _, [] => []
  | hindered, c :: cs =>
    let rest := bindNames (hindersBind c) cs
    if c = ':' ∧ !hindered then match word? cs with
      | none | some [] => rest
      | some name => name :: rest
    else rest

/-- A text without the backslashes that are not printed. -/
def unescaped : List Char → List Char
  | [] => []
  | c :: cs =>
    if c = '\\' ∧ cs.head? = some ':' ∧ (word? cs.tail).isSome then unescaped cs
    else c :: unescaped cs

/-- A text with a backslash before every colon. -/
def escaped : List Char → List Char
  | [] => []
  | c :: cs => if c = ':' then '\\' :: ':' :: escaped cs else c :: escaped cs

end SqlBuilder.Binding
