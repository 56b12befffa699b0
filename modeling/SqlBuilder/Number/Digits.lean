/-!
# Numbers in digits

Numbers are written with a fixed number of digits, and decimal numbers are read: a sign, digits with
at most one point among or around them, and an exponent after `e`. What is read is an integer scaled
by a power of ten.
-/

namespace SqlBuilder.Number

/-- The digits of `n` in `base`, with leading zeros up to `width` places. -/
def paddedDigits (base width n : Nat) : List Char :=
  let digits := Nat.toDigits base n
  List.replicate (width - digits.length) '0' ++ digits

/-- `n` in decimal with leading zeros up to `width` places. -/
def padded (width n : Nat) : String := String.ofList (paddedDigits 10 width n)

/-- `n` in hexadecimal with leading zeros up to `width` places. -/
def paddedHex (width n : Nat) : String := String.ofList (paddedDigits 16 width n)

/-- `± coefficient · 10 ^ exponent`. -/
structure Scaled where
  negative : Bool
  coefficient : Nat
  exponent : Int
  deriving DecidableEq, Repr

/-- The value of ASCII digits. -/
def digitsValue (cs : List Char) : Nat :=
  cs.foldl (fun n c => 10 * n + (c.toNat - '0'.toNat)) 0

/-- Whether a minus or a plus came first, and the rest. -/
def splitSign : List Char → Bool × List Char
  | '-' :: cs => (true, cs)
  | '+' :: cs => (false, cs)
  | cs => (false, cs)

/-- The exponent written in `cs`, which is empty or `e` and an integer. -/
def exponent? : List Char → Option Int
  | [] => some 0
  | c :: cs =>
    let (negative, digits) := splitSign cs
    if (c == 'e' || c == 'E') && !digits.isEmpty && digits.all Char.isDigit then
      some (if negative then -(digitsValue digits : Int) else digitsValue digits)
    else none

/-- The number written in the whole of `cs`. -/
def scaled? (cs : List Char) : Option Scaled :=
  let (negative, cs) := splitSign cs
  let whole := cs.takeWhile Char.isDigit
  let rest := cs.dropWhile Char.isDigit
  let (fraction, rest) := match rest with
    | '.' :: rest => (rest.takeWhile Char.isDigit, rest.dropWhile Char.isDigit)
    | rest => ([], rest)
  if whole.isEmpty && fraction.isEmpty then none
  else (exponent? rest).map fun exponent =>
    { negative, coefficient := digitsValue (whole ++ fraction)
      exponent := exponent - fraction.length }

end SqlBuilder.Number
