import Mathlib.Algebra.Group.Nat.Defs

/-!
# Numerals

The digits of a number in the decimal system.  Numerals are compared by length
first and then character by character, which is the order of the numbers.
-/

namespace SqlBuilder.Text

def AreDigits (cs : List Char) : Prop := ∀ c ∈ cs, c.isDigit = true

theorem areDigits_toDigits (n : Nat) : AreDigits (Nat.toDigits 10 n) :=
  fun _ hc => Nat.isDigit_of_mem_toDigits (by decide) (by decide) hc

theorem ne_of_mem_toDigits {n : Nat} {c d : Char} (hc : c ∈ Nat.toDigits 10 n)
    (hd : d.isDigit = false) : c ≠ d := by
  rintro rfl
  have hdigit := areDigits_toDigits n c hc
  simp [hd] at hdigit

theorem digit_lt_ten {c : Char} (hc : c.isDigit = true) : c.toNat - '0'.toNat < 10 := by
  simp only [Char.isDigit, Bool.and_eq_true, decide_eq_true_eq] at hc
  have hupper : c.toNat ≤ '9'.toNat := hc.2
  have hvalues : '0'.toNat = 48 ∧ '9'.toNat = 57 := by decide
  omega

theorem toNat_lt_of_isDigit {c : Char} (hc : c.isDigit = true) : c.toNat < 128 := by
  simp only [Char.isDigit, Bool.and_eq_true, decide_eq_true_eq] at hc
  have hupper : c.toNat ≤ '9'.toNat := hc.2
  have hvalue : '9'.toNat = 57 := by decide
  omega

theorem ofDigitChars_lt_pow {cs : List Char} (hcs : AreDigits cs) :
    Nat.ofDigitChars 10 cs 0 < 10 ^ cs.length := by
  induction cs with
  | nil => simp
  | cons c cs ih =>
      have htail := ih (fun d hd => hcs d (List.mem_cons_of_mem c hd))
      have hhead := digit_lt_ten (hcs c (by simp))
      rw [Nat.ofDigitChars_cons, Nat.ofDigitChars_eq_ofDigitChars_zero, List.length_cons,
        Nat.pow_succ]
      have hbound : 10 ^ cs.length * (c.toNat - '0'.toNat) ≤ 10 ^ cs.length * 9 :=
        Nat.mul_le_mul_left _ (by omega)
      simp only [Nat.mul_zero, Nat.zero_add]
      omega

/-- Of two digit sequences of one length, the one that comes first in the
order of characters stands for the smaller number. -/
theorem ofDigitChars_lt_of_lt {cs ds : List Char} (hcs : AreDigits cs) (hds : AreDigits ds)
    (hlength : cs.length = ds.length) (hlt : cs < ds) :
    Nat.ofDigitChars 10 cs 0 < Nat.ofDigitChars 10 ds 0 := by
  induction cs generalizing ds with
  | nil =>
      cases ds with
      | nil => exact absurd hlt (by simp)
      | cons d ds => simp at hlength
  | cons c cs ih =>
      cases ds with
      | nil => simp at hlength
      | cons d ds =>
          have hcs' : AreDigits cs := fun x hx => hcs x (List.mem_cons_of_mem c hx)
          have hds' : AreDigits ds := fun x hx => hds x (List.mem_cons_of_mem d hx)
          have hlength' : cs.length = ds.length := by simpa using hlength
          rw [Nat.ofDigitChars_cons, Nat.ofDigitChars_cons,
            Nat.ofDigitChars_eq_ofDigitChars_zero (l := cs),
            Nat.ofDigitChars_eq_ofDigitChars_zero (l := ds), hlength']
          rcases List.cons_lt_cons_iff.mp hlt with hhead | ⟨rfl, htail⟩
          · have hbound := ofDigitChars_lt_pow hcs'
            rw [hlength'] at hbound
            have hdigit : c.toNat - '0'.toNat + 1 ≤ d.toNat - '0'.toNat := by
              have hless : c.toNat < d.toNat := hhead
              have hlower : '0'.toNat ≤ c.toNat := by
                have hc := hcs c (by simp)
                simp only [Char.isDigit, Bool.and_eq_true, decide_eq_true_eq] at hc
                exact hc.1
              omega
            have hstep := Nat.mul_le_mul_left (10 ^ ds.length) hdigit
            rw [Nat.mul_add] at hstep
            simp only [Nat.mul_zero, Nat.zero_add, Nat.mul_one] at hstep ⊢
            omega
          · have hrest := ih hcs' hds' hlength' htail
            omega

theorem length_toDigits_mono {m n : Nat} (h : m ≤ n) :
    (Nat.toDigits 10 m).length ≤ (Nat.toDigits 10 n).length := by
  rw [Nat.length_toDigits_le_iff (by decide) Nat.length_toDigits_pos]
  have hn := (Nat.length_toDigits_le_iff (n := n) (b := 10) (by decide)
    Nat.length_toDigits_pos).mp (Nat.le_refl _)
  omega

theorem not_toDigits_lt {m n : Nat} (h : m ≤ n)
    (hlength : (Nat.toDigits 10 m).length = (Nat.toDigits 10 n).length) :
    ¬ Nat.toDigits 10 n < Nat.toDigits 10 m := by
  intro hlt
  have hvalue := ofDigitChars_lt_of_lt (areDigits_toDigits n) (areDigits_toDigits m)
    hlength.symm hlt
  rw [Nat.ofDigitChars_ten_toDigits, Nat.ofDigitChars_ten_toDigits] at hvalue
  omega

/-- What has a property is taken up to the first character that has not. -/
theorem takeWhile_dropWhile
    {p : Char → Bool} {cs after : List Char} (hcs : ∀ c ∈ cs, p c = true)
    (hafter : ∀ c ∈ after.head?, p c = false) :
    (cs ++ after).takeWhile p = cs ∧ (cs ++ after).dropWhile p = after := by
  rw [List.takeWhile_append_of_pos hcs, List.dropWhile_append_of_pos hcs]
  cases after with
  | nil => simp
  | cons c after => simp [hafter c (by simp)]

end SqlBuilder.Text
