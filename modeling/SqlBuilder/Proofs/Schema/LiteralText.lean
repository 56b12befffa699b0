import SqlBuilder.Proofs.Number.Written
import SqlBuilder.Proofs.Outcome
import SqlBuilder.Proofs.Text.Nesting
import SqlBuilder.Schema.Column

/-!
# The text of literals

A literal keeps to itself: numbers and words are made of a few characters, texts
stand between quotes and arrays between brackets.  So no blank and no comma in
it is at its own level, whatever value it stands for.
-/

namespace SqlBuilder

open Text

/-- Characters that words and numbers are made of. -/
def isBareChar (c : Char) : Bool := c.isAlphanum || c == '-' || c == '+' || c == '.'

/-- A text made of such characters. -/
def IsBare (s : String) : Prop := ∀ c ∈ s.toList, isBareChar c = true

/-- A text that no blank and no comma divides. -/
def IsWhole (s : String) : Prop := Level [' ', ','] s.toList

namespace IsBare

variable {s : String}

instance (s : String) : Decidable (IsBare s) :=
  decidable_of_iff (s.toList.all isBareChar = true) List.all_eq_true

theorem isWhole
    (hs : IsBare s) : IsWhole s := by
  apply Level.of_plain
  intro c hc
  have hbare := hs c hc
  have hne : ∀ d, isBareChar d = false → c ≠ d := by
    rintro d hd rfl
    simp [hd] at hbare
  have hquote := hne '"' (by decide)
  have hsingle := hne '\'' (by decide)
  have hround := hne '(' (by decide)
  have hsquare := hne '[' (by decide)
  have hround' := hne ')' (by decide)
  have hsquare' := hne ']' (by decide)
  have hblank := hne ' ' (by decide)
  have hcomma := hne ',' (by decide)
  simp [isPlain, isQuote, isOpening, isClosing, hquote, hsingle, hround, hsquare, hround',
    hsquare', hblank, hcomma]

end IsBare

/-! ## Lists of texts -/

theorem items_commaSeparated
    {texts : List String} (htexts : ∀ s ∈ texts, Level [','] s.toList)
    (hhead : ∀ s ∈ texts, ∃ c cs, s.toList = c :: cs ∧ c ≠ ' ') :
    items (commaSeparated texts).toList = texts.map String.toList := by
  rw [commaSeparated, String.toList_intercalate]
  apply items_intercalate
  · intro cs hcs
    obtain ⟨s, hs, rfl⟩ := List.mem_map.mp hcs
    exact htexts s hs
  · intro cs hcs
    obtain ⟨s, hs, rfl⟩ := List.mem_map.mp hcs
    exact hhead s hs

theorem level_commaSeparated
    {texts : List String} (htexts : ∀ s ∈ texts, Level [] s.toList) :
    Level [] (commaSeparated texts).toList := by
  rw [commaSeparated, String.toList_intercalate]
  apply Level.intercalate
  · intro p hp
    obtain ⟨s, hs, rfl⟩ := List.mem_map.mp hp
    exact htexts s hs
  · exact .plain rfl (by decide) (.plain rfl (by decide) .nil)

/-! ## Numbers -/

theorem Number.IsNumber.isBare
    {s : String} (hs : IsNumber s.toList) : IsBare s := by
  have hdigits : ∀ cs : List Char, AreDigits cs → ∀ c ∈ cs, isBareChar c = true := by
    intro cs hcs c hc
    simp [isBareChar, Char.isAlphanum, hcs c hc]
  have hsign : ∀ cs : List Char, IsSign cs → ∀ c ∈ cs, isBareChar c = true := by
    rintro cs (_ | _ | _) <;> simp [isBareChar]
  have hfraction : ∀ cs : List Char, IsFraction cs → ∀ c ∈ cs, isBareChar c = true := by
    rintro cs (_ | hcs)
    · simp
    · exact List.forall_mem_cons.mpr ⟨by decide, hdigits _ hcs.digits⟩
  have hexponent : ∀ cs : List Char, IsExponent cs → ∀ c ∈ cs, isBareChar c = true := by
    rintro cs (_ | ⟨hc, hcs, hdigits'⟩)
    · simp
    · refine List.forall_mem_cons.mpr ⟨?_, ?_⟩
      · rcases hc with rfl | rfl <;> decide
      · exact List.forall_mem_append.mpr ⟨hsign _ hcs, hdigits _ hdigits'.digits⟩
  unfold IsBare
  generalize s.toList = cs at hs
  obtain ⟨hsigned, hwhole, hrest, hlast⟩ := hs
  simp only [List.forall_mem_append]
  exact ⟨hsign _ hsigned, ⟨hdigits _ hwhole.digits, hfraction _ hrest⟩, hexponent _ hlast⟩

/-! ## Literals -/

namespace Literal

theorem isWhole_quoted
    (s : String) : IsWhole (quoted s) := by
  have hempty : Level [' ', ','] [] := .nil
  have hdoubled := Level.doubled (q := '\'') rfl hempty s.toList
  simpa [IsWhole, quoted, Text.quoted] using hdoubled

theorem isWhole_bracketed
    {texts : List String} (htexts : ∀ s ∈ texts, IsWhole s) :
    IsWhole ("ARRAY[" ++ commaSeparated texts ++ "]") := by
  have hlevel := level_commaSeparated fun s hs => (htexts s hs).mono (List.nil_subset _)
  have hword : IsWhole "ARRAY" := (by decide : IsBare "ARRAY").isWhole
  have harray := hword.append (hlevel.enclosed (o := '[') (c := ']') rfl rfl)
  simpa [IsWhole, String.toList_append] using harray

end Literal

end SqlBuilder
