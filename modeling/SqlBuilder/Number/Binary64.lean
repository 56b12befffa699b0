/-!
# Binary floating-point numbers of 64 bits

A finite number is kept as its sign, its significand and the power of two it is scaled by. Numbers
read from text are rounded exactly, ties to the even significand.
-/

namespace SqlBuilder

/-- The integer nearest to `num / den`; a tie goes to the even neighbour. -/
def Number.roundQuotient (num den : Nat) : Nat :=
  let quotient := num / den
  let rest := num % den
  if 2 * rest < den then quotient
  else if den < 2 * rest then quotient + 1
  else if quotient % 2 = 0 then quotient else quotient + 1

/-- `finite negative m e` is `± m · 2 ^ e`; both zeros have `m = 0`. -/
inductive Binary64
  | finite (negative : Bool) (significand : Nat) (exponent : Int)
  | infinite (negative : Bool)
  | nan
  deriving DecidableEq, Repr, Inhabited

namespace Binary64

/-- The least power of two a significand is scaled by. -/
def leastExponent : Int := -1074

/-- The greatest power of two a significand is scaled by. -/
def greatestExponent : Int := 971

/-- The least significand of full width. -/
def leastNormal : Nat := Nat.pow 2 52

/-- `num / den / 2 ^ exponent`, rounded to an integer. -/
def scaledQuotient (num den : Nat) (exponent : Int) : Nat :=
  Number.roundQuotient (num * Nat.pow 2 (-exponent).toNat) (den * Nat.pow 2 exponent.toNat)

/-- The power of two at which the significand of `num / den` has 53 bits, or the least one. -/
def scaleOf (num den : Nat) : Int :=
  let guess : Int := (num.log2 : Int) - den.log2 - 52
  let scale := if num * Nat.pow 2 (-guess).toNat / (den * Nat.pow 2 guess.toNat) < leastNormal then
    guess - 1 else guess
  max scale leastExponent

/-- The number nearest to `± num / den`. -/
def ofQuotient (negative : Bool) (num den : Nat) : Binary64 :=
  if num = 0 then finite negative 0 leastExponent
  else
    let scale := scaleOf num den
    let significand := scaledQuotient num den scale
    let (significand, scale) :=
      if significand = 2 * leastNormal then (leastNormal, scale + 1) else (significand, scale)
    if greatestExponent < scale then infinite negative else finite negative significand scale

/-- Numbers with a decimal exponent past these bounds are infinite or zero. -/
def decimalReach : Int := 400

/-- The number nearest to `± digits · 10 ^ exponent`. -/
def ofDecimal (negative : Bool) (digits : Nat) (exponent : Int) : Binary64 :=
  let places : Int := (Nat.toDigits 10 digits).length
  if digits = 0 then finite negative 0 leastExponent
  else if decimalReach < places + exponent then infinite negative
  else if places + exponent < -decimalReach then finite negative 0 leastExponent
  else ofQuotient negative (digits * Nat.pow 10 exponent.toNat) (Nat.pow 10 (-exponent).toNat)

/-- The numerator and denominator of a magnitude `m · 2 ^ e`. -/
def quotient (significand : Nat) (exponent : Int) : Nat × Nat :=
  (significand * Nat.pow 2 exponent.toNat, Nat.pow 2 (-exponent).toNat)

/-- The integer a number is equal to, if there is one. -/
def toInt? : Binary64 → Option Int
  | finite negative m e =>
    let (num, den) := quotient m e
    if num % den = 0 then
      some (if negative then -((num / den : Nat) : Int) else ((num / den : Nat) : Int))
    else none
  | infinite _ | nan => none

def isFinite : Binary64 → Bool
  | finite .. => true
  | infinite _ | nan => false

def isZero : Binary64 → Bool
  | finite _ m _ => m == 0
  | infinite _ | nan => false

end Binary64

end SqlBuilder
