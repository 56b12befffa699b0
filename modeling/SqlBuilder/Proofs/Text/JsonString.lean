import Mathlib.Data.List.Basic
import SqlBuilder.Value.Json

/-!
# Reading JSON strings

What stands between the quotes of a JSON string is read character by character
into UTF-16 units, and a pair of surrogates among them becomes one character.
What is written for a text is read back as that text, whatever is escaped in it.
-/

namespace SqlBuilder.Text

/-! ## Units -/

/-- Whether a unit is the first of a pair of surrogates. -/
def isLeading (n : Nat) : Bool := 0xD800 ≤ n && n < 0xDC00

/-- Whether a unit is the second of a pair of surrogates. -/
def isTrailing (n : Nat) : Bool := 0xDC00 ≤ n && n < 0xE000

/-- The characters of a list of units, where no surrogate may stand without the other. -/
def ofUnits? : List Nat → Option (List Char)
  | [] => some []
  | [n] => if isLeading n || isTrailing n then none else some [Char.ofNat n]
  | n :: m :: ns =>
    if isTrailing n then none
    else if isLeading n then
      if isTrailing m then
        (ofUnits? ns).map (Char.ofNat (0x10000 + 0x400 * (n - 0xD800) + (m - 0xDC00)) :: ·)
      else none
    else (ofUnits? (m :: ns)).map (Char.ofNat n :: ·)

theorem units16_lt
    (c : Char) : ∀ n ∈ units16 c, n < 0x10000 := by
  have hvalid : c.toNat < 0xD800 ∨ 0xDFFF < c.toNat ∧ c.toNat < 0x110000 := c.valid
  intro n hn
  unfold units16 at hn
  simp only at hn
  split at hn
  next hbasic => simpa [List.mem_singleton.mp hn] using hbasic
  next =>
    simp only [List.mem_cons, List.not_mem_nil, or_false] at hn
    omega

theorem ofUnits?_append
    (c : Char) (ns : List Nat) : ofUnits? (units16 c ++ ns) = (ofUnits? ns).map (c :: ·) := by
  have hvalid : c.toNat < 0xD800 ∨ 0xDFFF < c.toNat ∧ c.toNat < 0x110000 := c.valid
  unfold units16
  simp only
  split
  next hbasic =>
    have hleading : isLeading c.toNat = false := by
      simp only [isLeading, Bool.and_eq_false_iff, decide_eq_false_iff_not]
      omega
    have htrailing : isTrailing c.toNat = false := by
      simp only [isTrailing, Bool.and_eq_false_iff, decide_eq_false_iff_not]
      omega
    cases ns <;> simp [ofUnits?, hleading, htrailing, Char.ofNat_toNat]
  next hastral =>
    let high := 0xD800 + (c.toNat - 0x10000) / 0x400
    let low := 0xDC00 + (c.toNat - 0x10000) % 0x400
    have hhigh : isLeading high = true ∧ isTrailing high = false := by
      simp only [isLeading, isTrailing, Bool.and_eq_true, Bool.and_eq_false_iff,
        decide_eq_true_eq, decide_eq_false_iff_not, high]
      omega
    have hlow : isTrailing low = true := by
      simp only [isTrailing, Bool.and_eq_true, decide_eq_true_eq, low]
      omega
    have hsum : 0x10000 + 0x400 * (high - 0xD800) + (low - 0xDC00) = c.toNat := by
      simp only [high, low]
      omega
    change ofUnits? (high :: low :: ns) = _
    rw [ofUnits?]
    simp [hhigh, hlow, hsum, Char.ofNat_toNat]

theorem ofUnits?_flatMap
    (cs : List Char) : ofUnits? (cs.flatMap units16) = some cs := by
  induction cs with
  | nil => rfl
  | cons c cs ih => rw [List.flatMap_cons, ofUnits?_append, ih, Option.map_some]

/-! ## Hexadecimal digits -/

def hexDigit? (c : Char) : Option Nat :=
  if c.isDigit then some (c.toNat - '0'.toNat)
  else if 'a' ≤ c ∧ c ≤ 'f' then some (c.toNat - 'a'.toNat + 10)
  else if 'A' ≤ c ∧ c ≤ 'F' then some (c.toNat - 'A'.toNat + 10)
  else none

theorem hexDigit?_digitChar
    {d : Nat} (hd : d < 16) : hexDigit? (Nat.digitChar d) = some d := by
  have hall : ∀ d < 16, hexDigit? (Nat.digitChar d) = some d := by decide
  exact hall d hd

/-- The last digit of a number stands after those of the rest. -/
theorem paddedDigits_succ
    {base width : Nat} (hbase : 1 < base) (hwidth : 0 < width) (n : Nat) :
    Number.paddedDigits base (width + 1) n =
      Number.paddedDigits base width (n / base) ++ [Nat.digitChar (n % base)] := by
  rcases Nat.lt_or_ge n base with hless | hleast
  · obtain ⟨places, rfl⟩ := Nat.exists_eq_succ_of_ne_zero (Nat.ne_of_gt hwidth)
    have hzero := Nat.toDigits_of_lt_base (Nat.lt_trans Nat.zero_lt_one hbase)
    rw [Nat.div_eq_of_lt hless, Nat.mod_eq_of_lt hless]
    simp [Number.paddedDigits, Nat.toDigits_of_lt_base hless, hzero, List.replicate_succ']
  · simp [Number.paddedDigits, Nat.toDigits_of_base_le hbase hleast]

theorem paddedDigits_hex
    {n : Nat} (hn : n < 0x10000) :
    Number.paddedDigits 16 4 n =
      [n / 16 / 16 / 16, n / 16 / 16 % 16, n / 16 % 16, n % 16].map Nat.digitChar := by
  have hlast : Number.paddedDigits 16 1 (n / 16 / 16 / 16) =
      [Nat.digitChar (n / 16 / 16 / 16)] := by
    rw [Number.paddedDigits, Nat.toDigits_of_lt_base (by omega)]
    rfl
  rw [paddedDigits_succ (by decide) (by decide), paddedDigits_succ (by decide) (by decide),
    paddedDigits_succ (by decide) (by decide), hlast]
  rfl

/-! ## The reader -/

/-- The unit that is escaped by a single character. -/
def escaped? : Char → Option Nat
  | '"' => some 0x22
  | '\\' => some 0x5C
  | '/' => some 0x2F
  | 'b' => some 0x08
  | 'f' => some 0x0C
  | 'n' => some 0x0A
  | 'r' => some 0x0D
  | 't' => some 0x09
  | _ => none

/-- What is left of an escape: nothing, the character after the backslash, or the digits of a unit
after the next one, with the value of those before. -/
inductive Pending
  | nothing
  | escape
  | code (left value : Nat)
  deriving DecidableEq

/-- The units between two quotes, as far as they were read. -/
structure UnitReader where
  units : List Nat
  pending : Pending

namespace UnitReader

def step (r : UnitReader) (c : Char) : Option UnitReader :=
  match r.pending with
  | .nothing =>
    if c = '\\' then some { r with pending := .escape }
    else if c = '"' ∨ c.toNat < 32 then none
    else some { r with units := r.units ++ units16 c }
  | .escape =>
    if c = 'u' then some { r with pending := .code 3 0 }
    else (escaped? c).map fun n => ⟨r.units ++ [n], .nothing⟩
  | .code left value => (hexDigit? c).map fun digit =>
    match left with
    | 0 => ⟨r.units ++ [16 * value + digit], .nothing⟩
    | left + 1 => { r with pending := .code left (16 * value + digit) }

theorem run_jsonUnit
    (us : List Nat) {n : Nat} (hn : n < 0x10000) :
    (jsonUnit n).foldlM step ⟨us, .nothing⟩ = some ⟨us ++ [n], .nothing⟩ := by
  have hvalue : 16 * (16 * (16 * (n / 16 / 16 / 16) + n / 16 / 16 % 16) + n / 16 % 16) + n % 16 =
      n := by omega
  have hfirst : hexDigit? (n / 16 / 16 / 16).digitChar = _ := hexDigit?_digitChar (by omega)
  have hdigit : ∀ m, hexDigit? (m % 16).digitChar = some (m % 16) :=
    fun m => hexDigit?_digitChar (Nat.mod_lt m (by decide))
  rw [jsonUnit, paddedDigits_hex hn]
  simp [step, hfirst, hdigit, hvalue]

theorem run_jsonUnits
    (us : List Nat) {ns : List Nat} (hns : ∀ n ∈ ns, n < 0x10000) :
    (ns.flatMap jsonUnit).foldlM step ⟨us, .nothing⟩ = some ⟨us ++ ns, .nothing⟩ := by
  induction ns generalizing us with
  | nil => simp
  | cons n ns ih =>
      obtain ⟨hn, hns⟩ := List.forall_mem_cons.mp hns
      rw [List.flatMap_cons, List.foldlM_append, run_jsonUnit us hn]
      simpa using ih (us ++ [n]) hns

theorem run_jsonChar
    (us : List Nat) (c : Char) :
    (jsonChar c).foldlM step ⟨us, .nothing⟩ = some ⟨us ++ units16 c, .nothing⟩ := by
  unfold jsonChar
  split
  next hc => rcases hc with rfl | rfl <;> rfl
  next hquote =>
    obtain ⟨hquote, hbackslash⟩ := not_or.mp hquote
    split
    next hc => subst hc; rfl
    split
    next hc => subst hc; rfl
    split
    next hc => subst hc; rfl
    split
    next hc => subst hc; rfl
    split
    next hc => subst hc; rfl
    split
    next hplain => simp [step, hquote, hbackslash, Nat.not_lt.mpr hplain.1]
    next => exact run_jsonUnits us (units16_lt c)

theorem run_jsonChars
    (us : List Nat) (cs : List Char) :
    (cs.flatMap jsonChar).foldlM step ⟨us, .nothing⟩ =
      some ⟨us ++ cs.flatMap units16, .nothing⟩ := by
  induction cs generalizing us with
  | nil => simp
  | cons c cs ih =>
      rw [List.flatMap_cons, List.foldlM_append, run_jsonChar]
      simpa using ih (us ++ units16 c)

end UnitReader

end SqlBuilder.Text
