import SqlBuilder.Number.Binary64
import SqlBuilder.Number.Digits

/-!
# Decimal numbers

A decimal keeps the digits it was written with: `1.50` and `1.5` are equal in value and differ in
text.
-/

namespace SqlBuilder

/-- `finite negative c e` is `± c · 10 ^ e`. A signalling NaN refuses to be compared. -/
inductive Decimal
  | finite (negative : Bool) (coefficient : Nat) (exponent : Int)
  | infinite (negative : Bool)
  | nan (negative signalling : Bool) (payload : Nat)
  deriving DecidableEq, Repr

namespace Decimal

/-- The diagnostic digits after the word for NaN. -/
def payload? (cs : List Char) : Option Nat :=
  if cs.all Char.isDigit then some (Number.digitsValue cs) else none

def ofText? (s : String) : Option Decimal :=
  let cs := s.toList
  let (negative, word) := Number.splitSign cs
  match word.map Char.toLower with
  | ['i', 'n', 'f'] | ['i', 'n', 'f', 'i', 'n', 'i', 't', 'y'] => some (infinite negative)
  | 'n' :: 'a' :: 'n' :: rest => (payload? rest).map (nan negative false)
  | 's' :: 'n' :: 'a' :: 'n' :: rest => (payload? rest).map (nan negative true)
  | _ => (Number.scaled? cs).map fun n => finite n.negative n.coefficient n.exponent

/-- The digits are written with a point while at most five zeros stand between point and digits,
and with an exponent otherwise. -/
def finiteText (coefficient : Nat) (exponent : Int) : String :=
  let digits := Nat.toDigits 10 coefficient
  let places : Int := exponent + digits.length
  let point : Int := if exponent ≤ 0 ∧ -6 < places then places else 1
  let body :=
    if point ≤ 0 then
      String.ofList ('0' :: '.' :: (List.replicate (-point).toNat '0' ++ digits))
    else if digits.length ≤ point.toNat then
      String.ofList (digits ++ List.replicate (point.toNat - digits.length) '0')
    else String.ofList (digits.take point.toNat ++ '.' :: digits.drop point.toNat)
  if places = point then body
  else body ++ (if places < point then "E-" else "E+") ++ toString (places - point).natAbs

def text : Decimal → String
  | finite negative c e => (if negative then "-" else "") ++ finiteText c e
  | infinite negative => (if negative then "-" else "") ++ "Infinity"
  | nan negative signalling payload =>
    (if negative then "-" else "") ++ (if signalling then "sNaN" else "NaN")
      ++ (if payload = 0 then "" else toString payload)

/-- The numerator and denominator of a magnitude `c · 10 ^ e`. -/
def quotient (coefficient : Nat) (exponent : Int) : Nat × Nat :=
  (coefficient * Nat.pow 10 exponent.toNat, Nat.pow 10 (-exponent).toNat)

/-- The integer a decimal is equal to, if there is one. -/
def toInt? : Decimal → Option Int
  | finite negative c e =>
    let (num, den) := quotient c e
    if num % den = 0 then
      some (if negative then -((num / den : Nat) : Int) else ((num / den : Nat) : Int))
    else none
  | infinite _ | nan .. => none

def isFinite : Decimal → Bool
  | finite .. => true
  | infinite _ | nan .. => false

def isZero : Decimal → Bool
  | finite _ c _ => c == 0
  | infinite _ | nan .. => false

/-- The nearest floating-point number; a signalling NaN has none. -/
def toBinary64? : Decimal → Option Binary64
  | finite negative c e => some (Binary64.ofDecimal negative c e)
  | infinite negative => some (.infinite negative)
  | nan _ signalling _ => if signalling then none else some .nan

end Decimal

namespace Binary64

/-- The number nearest to a written decimal; words for what is not finite in any case. -/
def ofText? (s : String) : Option Binary64 :=
  let cs := s.toList
  let (negative, word) := Number.splitSign cs
  match word.map Char.toLower with
  | ['i', 'n', 'f'] | ['i', 'n', 'f', 'i', 'n', 'i', 't', 'y'] => some (infinite negative)
  | ['n', 'a', 'n'] => some nan
  | _ => (Number.scaled? cs).map fun n => ofDecimal n.negative n.coefficient n.exponent

end Binary64

end SqlBuilder
