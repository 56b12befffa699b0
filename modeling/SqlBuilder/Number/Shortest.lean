import SqlBuilder.Number.Binary64

/-!
# The shortest decimal that reads back

The decimals that read back as a number `m · 2 ^ e` fill an interval around it, ends included when
`m` is even. On the grid of decimals with one digit, then two, and so on, the two neighbours of the
number are tested; the first grid with a hit gives the digits, and of two hits the nearer one.
-/

namespace SqlBuilder.Number

/-- Digits `d₁ d₂ …` of a decimal `0.d₁d₂… · 10 ^ point`. -/
structure Digits where
  digits : List Nat
  point : Int
  deriving DecidableEq, Repr

/-- An interval of positive fractions with one denominator, and the number inside it. -/
structure Neighbourhood where
  low : Nat
  value : Nat
  high : Nat
  den : Nat
  closed : Bool

/-- The decimals that read back as `m · 2 ^ e`: half a step to either side, a quarter below when
`m` is the least significand of its width. -/
def neighbourhood (m : Nat) (e : Int) : Neighbourhood :=
  let scaled (n : Nat) : Nat := n * Nat.pow 2 e.toNat
  let narrow := m = Binary64.leastNormal ∧ Binary64.leastExponent < e
  { low := scaled (if narrow then 4 * m - 1 else 4 * m - 2)
    value := scaled (4 * m)
    high := scaled (4 * m + 2)
    den := 4 * Nat.pow 2 (-e).toNat
    closed := m % 2 = 0 }

/-- The power `k` with `10 ^ (k - 1) ≤ num / den < 10 ^ k`, for a positive fraction. -/
def decimalPoint (num den : Nat) : Int :=
  let guess : Int := ((Nat.toDigits 10 num).length : Int) - (Nat.toDigits 10 den).length
  if num * Nat.pow 10 (-guess).toNat < den * Nat.pow 10 guess.toNat then guess else guess + 1

/-- Whether `n · 10 ^ grid` reads back. -/
def Neighbourhood.holds (around : Neighbourhood) (n : Nat) (grid : Int) : Bool :=
  let up := n * Nat.pow 10 grid.toNat * around.den
  let scale := Nat.pow 10 (-grid).toNat
  if around.closed then around.low * scale ≤ up && up ≤ around.high * scale
  else around.low * scale < up && up < around.high * scale

/-- The number as a fraction, in steps of `10 ^ grid`. -/
def Neighbourhood.steps (around : Neighbourhood) (grid : Int) : Nat × Nat :=
  (around.value * Nat.pow 10 (-grid).toNat, around.den * Nat.pow 10 grid.toNat)

/-- The neighbour of the number on the grid of multiples of `10 ^ grid` that is nearer to it. -/
def Neighbourhood.nearest (around : Neighbourhood) (grid : Int) : Nat :=
  let (num, den) := around.steps grid
  roundQuotient num den

/-- The neighbour of the number on the grid of multiples of `10 ^ grid` that reads back, if any. -/
def Neighbourhood.onGrid (around : Neighbourhood) (grid : Int) : Option Nat :=
  let (num, den) := around.steps grid
  let below := num / den
  match around.holds below grid, around.holds (below + 1) grid with
  | true, true => some (around.nearest grid)
  | true, false => some below
  | false, true => some (below + 1)
  | false, false => none

/-- The first of the grids with `places, places + 1, …` digits that has a hit. -/
def Neighbourhood.shortest (around : Neighbourhood) (point : Int) :
    (grids : Nat) → (places : Nat) → Nat × Int
  | 0, places => (around.nearest (point - places), point - places)
  | grids + 1, places =>
    match around.onGrid (point - places) with
    | some n => (n, point - places)
    | none => around.shortest point grids (places + 1)

/-- No number needs more digits. -/
def mostDigits : Nat := 17

/-- The shortest digits that read back as `m · 2 ^ e`, for positive `m`. -/
def shortest (m : Nat) (e : Int) : Digits :=
  let around := neighbourhood m e
  let (n, grid) := around.shortest (decimalPoint around.value around.den) mostDigits 1
  let written := (Nat.toDigits 10 n).map fun c => c.toNat - '0'.toNat
  { digits := (written.reverse.dropWhile (· == 0)).reverse
    point := (written.length : Int) + grid }

end SqlBuilder.Number
