import SqlBuilder.Number.FloatText
import SqlBuilder.Value.Basic

/-!
# JSON text of values

Nothing, truth values, numbers, texts, lists, tuples and mappings have a JSON text; keys are
texts, and numbers, truth values and nothing become texts. Anything else inside a value leaves it
without one. Of the characters of a text only printable ASCII is written as it is, and every other
one by its UTF-16 units, so one above the basic plane becomes a pair of surrogates.

Whole numbers are written at any size, and lists and mappings at any depth: the limits that an
interpreter sets to digits and to nesting are left out.
-/

namespace SqlBuilder

namespace Text

/-- The UTF-16 units of a character. -/
def units16 (c : Char) : List Nat :=
  let n := c.toNat
  if n < 0x10000 then [n] else [0xD800 + (n - 0x10000) / 0x400, 0xDC00 + (n - 0x10000) % 0x400]

def jsonUnit (n : Nat) : List Char := '\\' :: 'u' :: Number.paddedDigits 16 4 n

def jsonChar (c : Char) : List Char :=
  if c = '"' ∨ c = '\\' then ['\\', c]
  else if c = '\n' then ['\\', 'n']
  else if c = '\r' then ['\\', 'r']
  else if c = '\t' then ['\\', 't']
  else if c = '\x08' then ['\\', 'b']
  else if c = '\x0c' then ['\\', 'f']
  else if 32 ≤ c.toNat ∧ c.toNat < 127 then [c]
  else (units16 c).flatMap jsonUnit

def jsonString (s : String) : String :=
  String.ofList ('"' :: (s.toList.flatMap jsonChar ++ ['"']))

end Text

/-- The JSON text of a floating-point number, with words for what is not finite. -/
def Binary64.jsonText : Binary64 → String := Binary64.textWith "Infinity" "NaN"

namespace Value

/-- The text of a key. -/
def jsonKey? : Value → Option String
  | text s => some s
  | ownText t => some t.text
  | null => some "null"
  | bool b => some (if b then "true" else "false")
  | int n => some (toString n)
  | float x => some x.jsonText
  | _ => none

mutual

def jsonText? : Value → Option String
  | null => some "null"
  | bool b => some (if b then "true" else "false")
  | int n => some (toString n)
  | float x => some x.jsonText
  | text s => some (Text.jsonString s)
  | ownText t => some (Text.jsonString t.text)
  | list items | tuple items => do
    return "[" ++ ", ".intercalate (← jsonItems? items) ++ "]"
  | dict entries => do
    return "\x7b" ++ ", ".intercalate (← jsonEntries? entries) ++ "\x7d"
  | _ => none

def jsonItems? : List Value → Option (List String)
  | [] => some []
  | v :: vs => do return (← v.jsonText?) :: (← jsonItems? vs)

def jsonEntries? : List (Value × Value) → Option (List String)
  | [] => some []
  | (k, v) :: entries => do
    let written := Text.jsonString (← k.jsonKey?) ++ ": " ++ (← v.jsonText?)
    return written :: (← jsonEntries? entries)

end

end Value

end SqlBuilder
