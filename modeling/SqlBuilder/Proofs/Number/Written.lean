import SqlBuilder.Number.FloatText
import SqlBuilder.Proofs.Number.Digits
import SqlBuilder.Proofs.Text.Numeral

/-!
# Written numbers

A number is written with a sign or without, with digits, and perhaps with a
fraction and an exponent after them.  Every integer is written so, and so is
every floating-point number that is finite.
-/

namespace SqlBuilder

namespace Number

open Text

/-! ## The grammar -/

/-- Digits, and one at least. -/
structure IsDigits (cs : List Char) : Prop where
  digits : AreDigits cs
  nonempty : cs ≠ []

inductive IsSign : List Char → Prop
  | none : IsSign []
  | minus : IsSign ['-']
  | plus : IsSign ['+']

inductive IsFraction : List Char → Prop
  | none : IsFraction []
  | digits {cs : List Char} (hcs : IsDigits cs) : IsFraction ('.' :: cs)

inductive IsExponent : List Char → Prop
  | none : IsExponent []
  | digits {c : Char} {sign cs : List Char} (hc : c = 'e' ∨ c = 'E') (hsign : IsSign sign)
      (hcs : IsDigits cs) : IsExponent (c :: (sign ++ cs))

/-- A number without a sign. -/
inductive IsMagnitude : List Char → Prop
  | parts {whole fraction exponent : List Char} (hwhole : IsDigits whole)
      (hfraction : IsFraction fraction) (hexponent : IsExponent exponent) :
      IsMagnitude (whole ++ fraction ++ exponent)

inductive IsNumber : List Char → Prop
  | signed {sign cs : List Char} (hsign : IsSign sign) (hcs : IsMagnitude cs) :
      IsNumber (sign ++ cs)

/-! ## Digits -/

section

variable {cs ds : List Char}

theorem areDigits_append
    (hcs : AreDigits cs) (hds : AreDigits ds) : AreDigits (cs ++ ds) := by
  intro c hc
  rcases List.mem_append.mp hc with hc | hc
  · exact hcs c hc
  · exact hds c hc

theorem IsDigits.append
    (hcs : IsDigits cs) (hds : AreDigits ds) : IsDigits (cs ++ ds) :=
  ⟨areDigits_append hcs.digits hds, by simp [hcs.nonempty]⟩

theorem IsDigits.after
    (hcs : IsDigits cs) (hds : AreDigits ds) : IsDigits (ds ++ cs) :=
  ⟨areDigits_append hds hcs.digits, by simp [hcs.nonempty]⟩

end

theorem areDigits_zeros
    (count : Nat) : AreDigits (zeros count).toList := by
  intro c hc
  rw [zeros, String.toList_ofList] at hc
  rw [List.eq_of_mem_replicate hc]
  rfl

theorem areDigits_digitText
    {digits : List Nat} (hdigits : ∀ d ∈ digits, d < 10) : AreDigits (digitText digits).toList := by
  intro c hc
  rw [digitText, String.toList_ofList] at hc
  obtain ⟨d, hd, rfl⟩ := List.mem_map.mp hc
  have hten : ∀ d < 10, (Char.ofNat ('0'.toNat + d)).isDigit = true := by decide
  exact hten d (hdigits d hd)

theorem isDigits_digitText
    {digits : List Nat} (hdigits : ∀ d ∈ digits, d < 10) (hne : digits ≠ []) :
    IsDigits (digitText digits).toList :=
  ⟨areDigits_digitText hdigits, by simp [digitText, hne]⟩

theorem isDigits_zero : IsDigits ['0'] := by
  refine ⟨?_, by simp⟩
  intro c hc
  rw [List.mem_singleton.mp hc]
  rfl

theorem toList_toString
    (n : Nat) : (toString n).toList = Nat.toDigits 10 n := by
  simp [toString]

theorem isDigits_toString
    (n : Nat) : IsDigits (toString n).toList := by
  rw [toList_toString]
  exact ⟨areDigits_toDigits n, Nat.toDigits_ne_nil⟩

theorem digit_lt_of_mem_shortest
    (m : Nat) (e : Int) : ∀ d ∈ (shortest m e).digits, d < 10 := by
  intro d hd
  unfold shortest at hd
  have hwritten := (List.dropWhile_suffix _).subset (List.mem_reverse.mp hd)
  obtain ⟨c, hc, rfl⟩ := List.mem_map.mp (List.mem_reverse.mp hwritten)
  exact digit_lt_ten (areDigits_toDigits _ c hc)

/-! ## Numbers -/

theorem IsDigits.isMagnitude
    {cs : List Char} (hcs : IsDigits cs) : IsMagnitude cs := by
  simpa using IsMagnitude.parts hcs .none .none

theorem IsMagnitude.isNumber
    {cs : List Char} (hcs : IsMagnitude cs) (negative : Bool) :
    IsNumber ((if negative then "-" else "").toList ++ cs) := by
  cases negative
  · exact .signed .none hcs
  · exact .signed .minus hcs

theorem isNumber_toString
    (n : Int) : IsNumber (toString n).toList := by
  cases n with
  | ofNat n => exact (isDigits_toString n).isMagnitude.isNumber false
  | negSucc n =>
      have hnumber := (isDigits_toString (n + 1)).isMagnitude.isNumber true
      rw [← String.toList_append] at hnumber
      exact hnumber

section

variable {written : Digits}

theorem isMagnitude_positional
    (hdigits : ∀ d ∈ written.digits, d < 10) (hne : written.digits ≠ []) :
    IsMagnitude (positional written).toList := by
  have hall := isDigits_digitText hdigits hne
  unfold positional
  split
  next =>
    have hfraction := hall.after (areDigits_zeros (-written.point).toNat)
    simpa using IsMagnitude.parts isDigits_zero (.digits hfraction) .none
  next hpoint =>
    simp only
    split
    next =>
      have hwhole := hall.append
        (areDigits_zeros (written.point.toNat - written.digits.length))
      simpa using IsMagnitude.parts hwhole (.digits isDigits_zero) .none
    next hlong =>
      have hbefore := isDigits_digitText
        (fun d hd => hdigits d (List.mem_of_mem_take (i := written.point.toNat) hd))
        (by simp [hne]; omega)
      have hafter := isDigits_digitText
        (fun d hd => hdigits d (List.mem_of_mem_drop (i := written.point.toNat) hd))
        (by simp; omega)
      simpa using IsMagnitude.parts hbefore (.digits hafter) .none

theorem isMagnitude_scientific
    (hdigits : ∀ d ∈ written.digits, d < 10) (hne : written.digits ≠ []) (width : Nat) :
    IsMagnitude (scientific width written).toList := by
  have hfirst := isDigits_digitText
    (fun d hd => hdigits d (List.mem_of_mem_take (i := 1) hd)) (by simp [hne])
  have hfraction : IsFraction (if written.digits.length ≤ 1 then ""
      else "." ++ digitText (written.digits.drop 1)).toList := by
    split
    next => exact .none
    next hlong =>
      have hothers := isDigits_digitText
        (fun d hd => hdigits d (List.mem_of_mem_drop (i := 1) hd))
        (List.ne_nil_of_length_pos (by simp; omega))
      simpa using IsFraction.digits hothers
  have hsign : IsSign (if written.point - 1 < 0 then "-" else "+").toList := by
    split
    next => exact .minus
    next => exact .plus
  have hsize := (isDigits_toString (written.point - 1).natAbs).after
    (areDigits_zeros (width - (toString (written.point - 1).natAbs).length))
  have hmagnitude := IsMagnitude.parts hfirst hfraction (.digits (.inl rfl) hsign hsize)
  simpa [scientific] using hmagnitude

end

theorem isMagnitude_magnitudeText
    (m : Nat) (e : Int) : IsMagnitude (Binary64.magnitudeText m e).toList := by
  unfold Binary64.magnitudeText
  split
  next => exact IsMagnitude.parts isDigits_zero (.digits isDigits_zero) .none
  next hm =>
    have hdigits := digit_lt_of_mem_shortest m e
    have hne := digits_shortest_ne_nil hm e
    unfold FloatFormat.write
    split
    next => exact isMagnitude_positional hdigits hne
    next => exact isMagnitude_scientific hdigits hne _

end Number

namespace Binary64

theorem isNumber_textWith
    {x : Binary64} (hfinite : x.isFinite = true) (infinity nan : String) :
    Number.IsNumber (x.textWith infinity nan).toList := by
  cases x with
  | finite negative m e =>
      rw [textWith, String.toList_append]
      exact (Number.isMagnitude_magnitudeText m e).isNumber negative
  | infinite negative => simp [isFinite] at hfinite
  | nan => simp [isFinite] at hfinite

end Binary64

end SqlBuilder
