import SqlBuilder.Number.Shortest

/-!
# The text of a floating-point number

The shortest digits that read back, written with a point between `10 ^ -4` and `10 ^ 16` and with
an exponent of at least two digits elsewhere.
-/

namespace SqlBuilder.Number

/-- Where a text changes from a written point to an exponent, and how the exponent is padded. -/
structure FloatFormat where
  leastPoint : Int
  greatestPoint : Int
  exponentWidth : Nat

/-- The point is written for `-4 < point ≤ 16`; exponents have two digits. -/
def FloatFormat.standard : FloatFormat := ⟨-3, 16, 2⟩

def digitText (digits : List Nat) : String :=
  String.ofList (digits.map fun d => Char.ofNat ('0'.toNat + d))

def zeros (count : Nat) : String := String.ofList (List.replicate count '0')

/-- `digits · 10 ^ (point - places)` with its point, at least one digit on either side. -/
def positional (written : Digits) : String :=
  let count := written.digits.length
  if written.point ≤ 0 then "0." ++ zeros (-written.point).toNat ++ digitText written.digits
  else
    let whole := written.point.toNat
    if count ≤ whole then digitText written.digits ++ zeros (whole - count) ++ ".0"
    else digitText (written.digits.take whole) ++ "." ++ digitText (written.digits.drop whole)

/-- One digit before the point, the rest after it, and the exponent with its sign. -/
def scientific (exponentWidth : Nat) (written : Digits) : String :=
  let exponent := written.point - 1
  let size := toString exponent.natAbs
  let fraction := if written.digits.length ≤ 1 then ""
    else "." ++ digitText (written.digits.drop 1)
  digitText (written.digits.take 1) ++ fraction ++ "e" ++ (if exponent < 0 then "-" else "+")
    ++ zeros (exponentWidth - size.length) ++ size

def FloatFormat.write (format : FloatFormat) (written : Digits) : String :=
  if format.leastPoint ≤ written.point ∧ written.point ≤ format.greatestPoint then
    positional written
  else scientific format.exponentWidth written

end SqlBuilder.Number

namespace SqlBuilder.Binary64

/-- The text of a magnitude `m · 2 ^ e`. -/
def magnitudeText (m : Nat) (e : Int) : String :=
  if m = 0 then "0.0" else Number.FloatFormat.standard.write (Number.shortest m e)

/-- The text of a number, with the given words for what is not finite. -/
def textWith (infinity nan : String) : Binary64 → String
  | .finite negative m e => (if negative then "-" else "") ++ magnitudeText m e
  | .infinite negative => (if negative then "-" else "") ++ infinity
  | .nan => nan

/-- The text of a number in statements and messages. -/
def text : Binary64 → String := textWith "inf" "nan"

end SqlBuilder.Binary64
