import Mathlib.Algebra.Group.Nat.Defs
import Mathlib.Data.List.TakeWhile
import SqlBuilder.Number.Shortest

/-!
# The digits of positive numbers

Every grid that is searched for the shortest decimal has steps no wider than the
number itself.  So the number is one step at least, its neighbours on the grid
are not zero, and what is written of them has a digit.
-/

namespace SqlBuilder.Number

/-- The fraction is `10 ^ k` at least. -/
def Reaches (num den : Nat) (k : Int) : Prop :=
  den * Nat.pow 10 k.toNat ≤ num * Nat.pow 10 (-k).toNat

theorem Reaches.mono
    {num den : Nat} {j k : Int} (hk : Reaches num den k) (hjk : j ≤ k) : Reaches num den j := by
  have hup : Nat.pow 10 j.toNat ≤ Nat.pow 10 k.toNat :=
    Nat.pow_le_pow_right (by decide) (by omega)
  have hdown : Nat.pow 10 (-k).toNat ≤ Nat.pow 10 (-j).toNat :=
    Nat.pow_le_pow_right (by decide) (by omega)
  calc den * Nat.pow 10 j.toNat ≤ den * Nat.pow 10 k.toNat := Nat.mul_le_mul_left den hup
    _ ≤ num * Nat.pow 10 (-k).toNat := hk
    _ ≤ num * Nat.pow 10 (-j).toNat := Nat.mul_le_mul_left num hdown

theorem lt_pow_length
    (n : Nat) : n < 10 ^ (Nat.toDigits 10 n).length :=
  (Nat.length_toDigits_le_iff (by decide) Nat.length_toDigits_pos).mp (Nat.le_refl _)

theorem pow_length_le
    {n : Nat} (hn : 0 < n) : 10 ^ ((Nat.toDigits 10 n).length - 1) ≤ n := by
  by_contra hless
  have hlength : 0 < (Nat.toDigits 10 n).length := Nat.length_toDigits_pos
  have hlong : (Nat.toDigits 10 n).length - 1 ≠ 0 := by
    intro hshort
    rw [hshort] at hless
    omega
  have hshorter := (Nat.length_toDigits_le_iff (b := 10) (by decide)
    (Nat.pos_of_ne_zero hlong)).mpr (Nat.lt_of_not_le hless)
  omega

theorem reaches_decimalPoint
    {num den : Nat} (hnum : 0 < num) : Reaches num den (decimalPoint num den - 1) := by
  unfold decimalPoint
  simp only
  split
  next =>
    have hden := Nat.le_of_lt (lt_pow_length den)
    have hleast := pow_length_le hnum
    have hlength : 0 < (Nat.toDigits 10 num).length := Nat.length_toDigits_pos
    generalize (Nat.toDigits 10 num).length = places at *
    generalize (Nat.toDigits 10 den).length = places' at *
    let up := ((places : Int) - places' - 1).toNat
    let down := (-((places : Int) - places' - 1)).toNat
    calc den * 10 ^ up ≤ 10 ^ places' * 10 ^ up := Nat.mul_le_mul_right _ hden
      _ = 10 ^ (places - 1) * 10 ^ down := by
          rw [← Nat.pow_add, ← Nat.pow_add]
          congr 1
          omega
      _ ≤ num * 10 ^ down := Nat.mul_le_mul_right _ hleast
  next hguess =>
    rw [Int.add_sub_cancel]
    exact Nat.le_of_not_lt hguess

theorem quotient_le_roundQuotient
    (num den : Nat) : num / den ≤ roundQuotient num den := by
  unfold roundQuotient
  grind

namespace Neighbourhood

variable {around : Neighbourhood} {grid point : Int}

theorem below_pos
    (hden : 0 < around.den) (hreach : Reaches around.value around.den grid) :
    0 < (around.steps grid).1 / (around.steps grid).2 :=
  Nat.div_pos hreach (Nat.mul_pos hden (Nat.pow_pos (by decide)))

theorem nearest_pos
    (hden : 0 < around.den) (hreach : Reaches around.value around.den grid) :
    0 < around.nearest grid :=
  Nat.lt_of_lt_of_le (below_pos hden hreach) (quotient_le_roundQuotient _ _)

theorem onGrid_pos
    (hden : 0 < around.den) (hreach : Reaches around.value around.den grid) {n : Nat}
    (hn : around.onGrid grid = some n) : 0 < n := by
  have hbelow := below_pos hden hreach
  unfold onGrid at hn
  simp only at hn
  split at hn
  next => exact Option.some.inj hn ▸ nearest_pos hden hreach
  next => exact Option.some.inj hn ▸ hbelow
  next => exact Option.some.inj hn ▸ Nat.succ_pos _
  next => simp at hn

theorem shortest_pos
    (hden : 0 < around.den) (hreach : Reaches around.value around.den (point - 1))
    (grids places : Nat) (hplaces : 0 < places) :
    0 < (around.shortest point grids places).1 := by
  induction grids generalizing places with
  | zero => exact nearest_pos hden (hreach.mono (by omega))
  | succ grids ih =>
      unfold shortest
      split
      next n hn => exact onGrid_pos hden (hreach.mono (by omega)) hn
      next => exact ih (places + 1) (Nat.succ_pos places)

end Neighbourhood

/-! ## The digits that are written -/

theorem exists_digit_ne_zero
    {n : Nat} (hn : 0 < n) : ∃ c ∈ Nat.toDigits 10 n, c.toNat - '0'.toNat ≠ 0 := by
  by_contra hnone
  have hzeros : ∀ cs : List Char, (∀ c ∈ cs, c.toNat - '0'.toNat = 0) →
      Nat.ofDigitChars 10 cs 0 = 0 := by
    intro cs hcs
    induction cs with
    | nil => rfl
    | cons c cs ih =>
        obtain ⟨hc, hcs⟩ := List.forall_mem_cons.mp hcs
        rw [Nat.ofDigitChars_cons, hc]
        exact ih hcs
  have hzero := hzeros (Nat.toDigits 10 n) (by simpa using hnone)
  rw [Nat.ofDigitChars_ten_toDigits] at hzero
  omega

theorem neighbourhood_pos
    {m : Nat} (hm : m ≠ 0) (e : Int) :
    0 < (neighbourhood m e).value ∧ 0 < (neighbourhood m e).den := by
  have hpow : ∀ k, 0 < Nat.pow 2 k := fun k => Nat.pow_pos (by decide)
  constructor
  · exact Nat.mul_pos (by omega) (hpow _)
  · exact Nat.mul_pos (by decide) (hpow _)

theorem digits_shortest_ne_nil
    {m : Nat} (hm : m ≠ 0) (e : Int) : (shortest m e).digits ≠ [] := by
  obtain ⟨hvalue, hden⟩ := neighbourhood_pos hm e
  have hpos := Neighbourhood.shortest_pos hden (reaches_decimalPoint hvalue) mostDigits 1
    Nat.one_pos
  obtain ⟨c, hc, hdigit⟩ := exists_digit_ne_zero hpos
  intro hnil
  have hdropped := List.dropWhile_eq_nil_iff.mp (List.reverse_eq_nil_iff.mp hnil)
  have hzero := hdropped (c.toNat - '0'.toNat)
    (List.mem_reverse.mpr (List.mem_map_of_mem hc))
  exact hdigit (by simpa using hzero)

end SqlBuilder.Number
