import SqlBuilder.Failure
import SqlBuilder.Text.Quoted

/-!
# Quoted identifiers

A name is quoted segment by segment, the segments being separated by dots. A lone star, a name that
is quoted already and an expression, recognised by a blank or a parenthesis, are left as they are.
-/

namespace SqlBuilder.Identifier

/-- The parts of a name between its dots. -/
def segments : List Char → List (List Char)
  | [] => [[]]
  | c :: cs =>
    if c = '.' then [] :: segments cs
    else match segments cs with
      | [] => [[c]]
      | s :: rest => (c :: s) :: rest

/-- A segment between double quotes; a star stands for all columns and is not quoted. -/
def quotedSegment (s : List Char) : List Char :=
  if s = ['*'] then s else '"' :: (Text.doubled '"' s ++ ['"'])

/-- Whether a name is left as it is. -/
def isPlain (name : List Char) : Bool :=
  name == ['*'] || name.head? == some '"' || name.any fun c => c == ' ' || c == '(' || c == ')'

def quotedChars (name : List Char) : List Char :=
  if isPlain name then name
  else ['.'].intercalate ((segments name).map quotedSegment)

/-- The name as it is written in a statement. -/
def quoted (name : String) : String := String.ofList (quotedChars name.toList)

/-- The name as it is written in a statement, if names are quoted at all. -/
def written (quoting : Bool) (name : String) : String := if quoting then quoted name else name

/-- A name of any type: texts are quoted, octets and the types of texts and octets are unfit for
it, and nothing else can be. What equals a star is left as it is. -/
def written? (quoting : Bool) (name : Value) : Outcome Value :=
  if !quoting then .ok name
  else match name with
    | .text s => .ok (.text (quoted s))
    | .ownText t => .ok (if isPlain t.text.toList then name else .text (quoted t.text))
    | .handle _ equalTo => if equalTo = some "*" then .ok name else .error .lacking
    | .bytes _ | .typeName .text | .typeName .bytes => .error .unfit
    | _ => .error .lacking

theorem segments_ne_nil (cs : List Char) : segments cs ≠ [] := by
  cases cs with
  | nil => simp [segments]
  | cons c cs =>
    unfold segments
    split
    · simp
    · split <;> simp

end SqlBuilder.Identifier
