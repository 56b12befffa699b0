import SqlBuilder.Validation.Checked
import SqlBuilder.Value.Fields

/-!
# Reading texts, truth values, integers and words

The checks are lenient: octets are read as UTF-8 text, texts and whole numbers as integers, zero
and one and a few words as truth values.
-/

namespace SqlBuilder.Validation

/-- The text that octets are the UTF-8 encoding of. -/
def decoded? (octets : List UInt8) : Option String := String.fromUTF8? ⟨octets.toArray⟩

/-! ## Text -/

def text : Value → Checked String
  | .text s => .valid s
  | .ownText t => .valid t.text
  | .bytes octets => match decoded? octets with
    | some s => .valid s
    | none => .fail .undecodable
  | _ => .fail .notText

def optional {α : Type} (check : Value → Checked α) : Value → Checked (Option α)
  | .null => .valid none
  | v => (check v).map some

/-! ## Truth values -/

def falseWords : List String := ["0", "off", "f", "false", "n", "no"]

def trueWords : List String := ["1", "on", "t", "true", "y", "yes"]

/-- The truth value of a word, in any case. -/
def booleanWord (s : String) : Checked Bool :=
  let word := s.map Char.toLower
  if word ∈ falseWords then .valid false
  else if word ∈ trueWords then .valid true
  else .fail .unreadableBoolean

/-- The least integer above those of 64 bits. -/
def wideBound : Int := Int.pow 2 63

/-- Whether an integer has 64 bits. -/
def isWide (n : Int) : Bool := -wideBound ≤ n && n < wideBound

/-- The truth value of a whole number. -/
def booleanInteger (n : Int) : Checked Bool :=
  if n = 0 then .valid false else if n = 1 then .valid true else .fail .unreadableBoolean

/-- Whole numbers strictly between the bounds of 64 bits. -/
def wideWhole? (x : Binary64) : Option Int :=
  x.toInt?.filter fun n => -wideBound < n && n < wideBound

def booleanFloat (x : Binary64) : Checked Bool :=
  match wideWhole? x with
  | some n => booleanInteger n
  | none => .fail .notBoolean

def boolean : Value → Checked Bool
  | .bool b => .valid b
  | .text s => booleanWord s
  | .ownText t => booleanWord t.text
  | .bytes octets => match decoded? octets with
    | some s => booleanWord s
    | none => .fail .unreadableBoolean
  | .int n => if isWide n then booleanInteger n else .fail .notBoolean
  | .float x => booleanFloat x
  | .decimal d => match d.toBinary64? with
    | some x => booleanFloat x
    | none => .fail .notBoolean
  | _ => .fail .notBoolean

/-! ## Integers -/

/-- White space around a number. -/
def isBlank (c : Char) : Bool :=
  let n := c.toNat
  (9 ≤ n && n ≤ 13) || n == 0x20 || n == 0x85 || n == 0xA0 || n == 0x1680
    || (0x2000 ≤ n && n ≤ 0x200A) || n == 0x2028 || n == 0x2029 || n == 0x202F || n == 0x205F
    || n == 0x3000

def trimmed (cs : List Char) : List Char :=
  ((cs.dropWhile isBlank).reverse.dropWhile isBlank).reverse

/-- The text of an integer after its sign without the zeros and low lines at its front. The last
zero stays before a point and at the end, and the text of a negative integer may follow zeros. -/
def withoutLeadingZeros (cs : List Char) : Option (List Char) :=
  match cs with
  | '0' :: _ =>
    let zeros := cs.takeWhile fun c => c == '0' || c == '_'
    let last := zeros.drop (zeros.length - 1)
    match cs.drop zeros.length with
    | [] => some last
    | '.' :: rest => some (last ++ '.' :: rest)
    | c :: rest => if c.isDigit || c == '-' then some (c :: rest) else none
  | c :: rest => if c.isDigit then some (c :: rest) else none
  | [] => none

/-- A point and the zeros after it, of which there has to be one, are dropped. -/
def withoutZeroFraction (cs : List Char) : List Char :=
  match cs.dropWhile (· != '.') with
  | '.' :: '0' :: zeros => if zeros.all (· == '0') then cs.takeWhile (· != '.') else cs
  | _ => cs

/-- Single low lines between digits are dropped. -/
def withoutLowLines : List Char → Option (List Char)
  | [] => some []
  | ['_'] => none
  | '_' :: '_' :: _ => none
  | c :: cs => (withoutLowLines cs).map fun rest => if c = '_' then rest else c :: rest

/-- Whether a minus comes first, and the rest. -/
def splitMinus : List Char → Bool × List Char
  | '-' :: cs => (true, cs)
  | cs => (false, cs)

/-- The text of an integer without what is allowed around and between its digits: blanks, a plus,
leading zeros, low lines and a fraction of zeros. -/
def tidied? (cs : List Char) : Option (List Char) := do
  let cs ← match trimmed cs with
    | '+' :: '-' :: _ => none
    | '+' :: rest => some rest
    | rest => some rest
  let (negative, unsigned) := splitMinus cs
  let digits ← withoutLowLines (withoutZeroFraction (← withoutLeadingZeros unsigned))
  return if negative then '-' :: digits else digits

/-- The most characters an integer may be written with. -/
def mostIntegerCharacters : Nat := 4300

/-- The integer written as a minus or nothing and digits that do not start with a needless zero. A
text that starts with more digits than an integer may have is not read on. -/
def plainInteger? (cs : List Char) : Option (Checked Int) :=
  let (negative, unsigned) := splitMinus cs
  let digits := unsigned.takeWhile Char.isDigit
  let rest := unsigned.dropWhile Char.isDigit
  if digits.isEmpty || (digits.length > 1 && digits.head? == some '0') then none
  else if mostIntegerCharacters < cs.length - rest.length then some (.fail .oversized)
  else if !rest.isEmpty then none
  else
    let n := Number.digitsValue digits
    some (.valid (if negative then -(n : Int) else n))

/-- The integer a text is, as it stands or tidied. -/
def integerText (s : String) : Checked Int :=
  (plainInteger? s.toList <|> (tidied? s.toList).bind plainInteger?).getD
    (.fail .unreadableInteger)

def integerFloat (x : Binary64) : Checked Int :=
  if !x.isFinite then .fail .notFinite
  else match x.toInt? with
    | none => .fail .fractional
    | some n => if -wideBound < n && n < wideBound then .valid n else .fail .oversized

def integer : Value → Checked Int
  | .int n => .valid n
  | .bool b => .valid (if b then 1 else 0)
  | .text s => integerText s
  | .ownText t => integerText t.text
  | .bytes octets => match decoded? octets with
    | some s => integerText s
    | none => .fail .unreadableInteger
  | .float x => integerFloat x
  | .decimal d => if !d.isFinite then .fail .notFinite
    else match d.toInt? with
      | some n => .valid n
      | none => .fail .fractional
  | _ => .fail .notInteger

/-- An integer that is not negative. -/
def count (v : Value) : Checked Nat :=
  (integer v).andThen fun n => if n < 0 then .fail .negative else .valid n.toNat

/-! ## Words and brands -/

/-- A word of a vocabulary. -/
def member (α : Type) [Vocabulary α] (v : Value) : Checked α :=
  match text v with
  | .valid s => match Vocabulary.ofWord? s with
    | some m => .valid m
    | none => .fail (.notMember (Vocabulary.words α))
  | .faulty _ => .fail (.notMember (Vocabulary.words α))

/-- The one text a brand may be. -/
def brand (expected : String) (v : Value) : Checked Unit :=
  if v.text? = some expected then .valid () else .fail (.notBrand expected)

/-! ## Collections -/

/-- The items of a value that can be read one by one; texts, octets and mappings are no
collections. -/
def items? : Value → Option (List Value)
  | .text _ | .ownText _ | .bytes _ | .dict _ => none
  | v => v.elements?

/-- The items checked one by one, for a field that is a tuple. -/
def tupleOf {α : Type} (check : Value → Checked α) (v : Value) : Checked (List α) :=
  match items? v with
  | some items => Checked.each check 0 items
  | none => .fail .notTuple

/-- The items checked one by one, for a field that is a list. -/
def listOf {α : Type} (check : Value → Checked α) (v : Value) : Checked (List α) :=
  match items? v with
  | some items => Checked.each check 0 items
  | none => .fail .notList

end SqlBuilder.Validation
