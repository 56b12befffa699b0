import SqlBuilder.Proofs.Binding.Lexing

/-!
# Scanning text for binds

In escaped text every colon follows a backslash, so none starts a bind and
each loses its backslash when the text is printed.  What is left are the binds
that stand in place of marks: nothing that comes right before them hinders
them, and nothing that comes right after goes on with their names.
-/

namespace SqlBuilder.Binding

open Text

theorem bindNames_of_notMem {cs : List Char} (hcs : ':' ∉ cs) (rest : List Char)
    (hindered : Bool) :
    ∃ after, bindNames hindered (cs ++ rest) = bindNames after rest := by
  induction cs generalizing hindered with
  | nil => exact ⟨hindered, rfl⟩
  | cons c cs ih =>
      simp only [List.mem_cons, not_or] at hcs
      obtain ⟨after, hafter⟩ := ih hcs.2 (hindersBind c)
      refine ⟨after, ?_⟩
      rw [List.cons_append, bindNames]
      simpa [Ne.symm hcs.1] using hafter

/-- No bind starts in escaped text; a quote that follows hinders none. -/
theorem bindNames_escaped (hindered : Bool) (cs rest : List Char) :
    bindNames hindered (escaped cs ++ '"' :: rest) = bindNames false rest := by
  induction cs generalizing hindered with
  | nil =>
      have hquote : hindersBind '"' = false := by decide
      simp [escaped, bindNames, hquote]
  | cons c cs ih =>
      by_cases hc : c = ':'
      · subst hc
        have hslash : hindersBind '\\' = true := by decide
        simp [escaped, bindNames, hslash, ih]
      · simp [escaped, bindNames, hc, ih]

/-- Escaped text does not go on to a colon from a word. -/
theorem head_dropWhile_escaped (cs rest : List Char) :
    ((escaped cs ++ '"' :: rest).dropWhile isWord).head? ≠ some ':' := by
  induction cs with
  | nil =>
      have hquote : isWord '"' = false := by decide
      simp [escaped, hquote]
  | cons c cs ih =>
      by_cases hc : c = ':'
      · subst hc
        have hslash : isWord '\\' = false := by decide
        simp [escaped, hslash]
      · by_cases hword : isWord c = true
        · simpa [escaped, hc, hword] using ih
        · simp [escaped, hc, hword]

/-- Every backslash that was put before a colon is taken away again, and no
other. -/
theorem unescaped_escaped (cs rest : List Char) :
    unescaped (escaped cs ++ '"' :: rest) = cs ++ unescaped ('"' :: rest) := by
  induction cs with
  | nil => rfl
  | cons c cs ih =>
      by_cases hc : c = ':'
      · subst hc
        have hword : (word? (escaped cs ++ '"' :: rest)).isSome = true := by
          simp [word?, head_dropWhile_escaped]
        simp [escaped, unescaped, hword, ih]
      · have hhead : (escaped cs ++ '"' :: rest).head? ≠ some ':' := by
          cases cs with
          | nil => simp [escaped]
          | cons d cs =>
              by_cases hd : d = ':' <;> simp [escaped, hd]
        have hkept : escaped (c :: cs) = c :: escaped cs := by
          simp [escaped, hc]
        rw [hkept, List.cons_append, unescaped, if_neg (fun h => hhead h.2.1), ih,
          List.cons_append]

theorem unescaped_of_notMem {cs : List Char} (hcs : '\\' ∉ cs) (rest : List Char) :
    unescaped (cs ++ rest) = cs ++ unescaped rest := by
  induction cs with
  | nil => rfl
  | cons c cs ih =>
      simp only [List.mem_cons, not_or] at hcs
      simp [unescaped, Ne.symm hcs.1, ih hcs.2]

/-- Names of values are in the order of their numbers. -/
theorem nameLe_bindName {m n : Nat} (h : m ≤ n) :
    nameLe (bindName m) (bindName n) = true := by
  have hname : ∀ k, (bindName k).toList = 'p' :: Nat.toDigits 10 k := by
    intro k
    simp [bindName]
  have hlengths : ∀ k, (bindName k).length = (Nat.toDigits 10 k).length + 1 := by
    intro k
    rw [← String.length_toList, hname]
    rfl
  have hmono := length_toDigits_mono h
  unfold nameLe
  rw [hlengths, hlengths]
  by_cases hlength : (Nat.toDigits 10 m).length = (Nat.toDigits 10 n).length
  · have hle : bindName m ≤ bindName n := by
      rw [← String.not_lt]
      intro hlt
      have hlist : (bindName n).toList < (bindName m).toList := hlt
      rw [hname, hname, List.cons_lt_cons_iff] at hlist
      rcases hlist with hhead | ⟨_, htail⟩
      · exact absurd hhead (by decide)
      · exact not_toDigits_lt h hlength htail
    simp [hlength, hle]
  · have hlt : (Nat.toDigits 10 m).length < (Nat.toDigits 10 n).length := by omega
    simp [hlt]


end SqlBuilder.Binding

namespace SqlBuilder.Text.Token

open Binding

theorem isWord_of_mem_toDigits {n : Nat} {c : Char} (hc : c ∈ Nat.toDigits 10 n) :
    isWord c = true := by
  have hdigit := areDigits_toDigits n c hc
  rw [isWord_of_ascii (toNat_lt_of_isDigit hdigit)]
  simp [Char.isAlphanum, hdigit]

/-- The binds of the text are those that stand for its marks. -/
theorem bindNames_named {ts : List Token} (hts : Lexical ts) (hindered : Bool)
    (hmark : ∀ n, ts.head? = some (mark n) → hindered = false) :
    bindNames hindered ((ts.map escaped).flatMap named) =
      (marks ts).map fun n => 'p' :: Nat.toDigits 10 n := by
  induction ts generalizing hindered with
  | nil => rfl
  | cons t ts ih =>
      rw [List.map_cons, List.flatMap_cons]
      cases t with
      | plain c =>
          have hcolon := (ne_of_isNeutral hts.neutral).2.2.2.1
          have hopens : ∀ n, ts.head? = some (mark n) → hindersBind c = false := by
            intro n hn
            have hopen : opensMark c = true := hts.2.1 (mark n) hn
            simp only [opensMark, Bool.or_eq_true, beq_iff_eq] at hopen
            rcases hopen with rfl | rfl <;> decide
          simp only [escaped, named, List.singleton_append]
          rw [bindNames]
          simpa [hcolon] using ih hts.tail (hindersBind c) hopens
      | quoted s =>
          have hfree := ih hts.tail false (fun _ _ => rfl)
          simp only [escaped, named, List.cons_append, List.append_assoc, List.nil_append]
          rw [← escaped_doubled (by decide) (by decide), bindNames]
          simpa [bindNames_escaped] using hfree
      | mark n =>
          obtain rfl := hmark n rfl
          have hrest : ∀ c ∈ ((ts.map escaped).flatMap named).head?,
              isWord c = false ∧ c ≠ ':' := by
            rcases hts.after_mark with rfl | ⟨d, us, rfl, hd⟩
            · simp
            · intro c hc
              obtain rfl : d = c := Option.some.inj hc
              simp only [closesMark, Bool.or_eq_true, beq_iff_eq] at hd
              rcases hd with (rfl | rfl) | rfl <;> decide
          have hword : word? (('p' :: Nat.toDigits 10 n) ++ (ts.map escaped).flatMap named) =
              some ('p' :: Nat.toDigits 10 n) := by
            have hall : ∀ c ∈ 'p' :: Nat.toDigits 10 n, isWord c = true := by
              intro c hc
              rcases List.mem_cons.mp hc with rfl | hc
              · decide
              · exact isWord_of_mem_toDigits hc
            unfold word?
            rw [List.takeWhile_append_of_pos hall, List.dropWhile_append_of_pos hall]
            cases hcs : (ts.map escaped).flatMap named with
            | nil => simp
            | cons c cs =>
                obtain ⟨hnotWord, hcolon⟩ := hrest c (by simp [hcs])
                simp [hnotWord, hcolon]
          have hcolon : ':' ∉ 'p' :: Nat.toDigits 10 n := by
            intro hmem
            rcases List.mem_cons.mp hmem with hmem | hmem
            · simp at hmem
            · exact ne_of_mem_toDigits hmem (by decide) rfl
          obtain ⟨after, hafter⟩ := bindNames_of_notMem hcolon
            ((ts.map escaped).flatMap named) (hindersBind ':')
          have hnext : ∀ k, ts.head? = some (mark k) → after = false := by
            intro k hk
            rcases hts.after_mark with rfl | ⟨d, us, rfl, _⟩ <;> simp at hk
          simp only [escaped, named, List.cons_append] at hword hafter ⊢
          rw [bindNames, hword, hafter, ih hts.tail after hnext]
          rfl

/-- The text is printed with binds for its marks and otherwise as it was. -/
theorem unescaped_named {ts : List Token} (hts : Lexical ts) :
    unescaped ((ts.map escaped).flatMap named) = ts.flatMap named := by
  induction ts with
  | nil => rfl
  | cons t ts ih =>
      have htail := ih hts.tail
      rw [List.map_cons, List.flatMap_cons, List.flatMap_cons, ← htail]
      cases t with
      | plain c =>
          have hslash := (ne_of_isNeutral hts.neutral).2.2.2.2
          apply unescaped_of_notMem
          simpa [escaped, named] using hslash.symm
      | quoted s =>
          have hquote : ∀ cs, unescaped ('"' :: cs) = '"' :: unescaped cs := by
            intro cs
            have hnotMem : '\\' ∉ ['"'] := by decide
            exact unescaped_of_notMem hnotMem cs
          simp only [escaped, named, List.cons_append, List.append_assoc, List.nil_append]
          rw [hquote, ← escaped_doubled (by decide) (by decide), unescaped_escaped, hquote]
      | mark n =>
          apply unescaped_of_notMem
          intro hmem
          simp only [escaped, named, List.mem_cons] at hmem
          rcases hmem with hmem | hmem | hmem
          · simp at hmem
          · simp at hmem
          · exact ne_of_mem_toDigits hmem (by decide) rfl

end SqlBuilder.Text.Token
