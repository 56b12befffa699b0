import SqlBuilder.Proofs.Statement.NameReading
import SqlBuilder.Proofs.Text.Nesting
import SqlBuilder.Proofs.Text.Sections

/-!
# Names by their segments

A regular name is written with one piece of text for each of its segments and
dots between them: a star for a star, and a stretch between quotes for anything
else.  So the segments can be read back from the pieces.  A written name is
written as it is once more, unless it starts with a star and has a quoted segment
after it: only its first character tells that a name is quoted already.
-/

namespace SqlBuilder.Identifier

open Text

variable {name : List Char}

/-! ## Segments -/

theorem segments_eq_splitOn (cs : List Char) : segments cs = cs.splitOn '.' := by
  induction cs with
  | nil => rfl
  | cons c cs ih =>
      rw [List.splitOn_cons_eq_if_modifyHead, ← ih]
      by_cases hc : c = '.'
      · subst hc
        simp [segments_dot]
      · obtain ⟨s, rest, hcs⟩ := List.exists_cons_of_ne_nil (segments_ne_nil cs)
        simp [segments_cons hc hcs, hcs, hc]

theorem dot_notMem_of_mem_segments
    {cs s : List Char} (hs : s ∈ segments cs) : '.' ∉ s := by
  induction cs generalizing s with
  | nil => simp_all [segments]
  | cons c cs ih =>
      by_cases hc : c = '.'
      · subst hc
        rw [segments_dot] at hs
        rcases List.mem_cons.mp hs with rfl | hs
        · exact List.not_mem_nil
        · exact ih hs
      · obtain ⟨first, rest, hcs⟩ := List.exists_cons_of_ne_nil (segments_ne_nil cs)
        rw [segments_cons hc hcs] at hs
        rw [hcs] at ih
        rcases List.mem_cons.mp hs with rfl | hs
        · have hfirst : '.' ∉ first := ih List.mem_cons_self
          simp [hfirst, Ne.symm hc]
        · exact ih (List.mem_cons_of_mem first hs)

theorem segments_intercalate
    {ss : List (List Char)} (hne : ss ≠ []) (hss : ∀ s ∈ ss, '.' ∉ s) :
    segments (['.'].intercalate ss) = ss := by
  rw [segments_eq_splitOn]
  exact List.splitOn_intercalate '.' hss hne

/-! ## Written segments -/

theorem level_quotedSegment (s : List Char) : Level ['.'] (quotedSegment s) := by
  unfold quotedSegment
  split
  next hs =>
    subst hs
    exact .plain rfl (by decide) .nil
  next => exact Level.doubled rfl .nil s

/-- A written name is divided into its written segments. -/
theorem pieces_quotedChars
    (hname : IsRegular name) :
    pieces '.' .outside (quotedChars name) = (segments name).map quotedSegment := by
  have hlevel : ∀ p ∈ (segments name).map quotedSegment, Level ['.'] p := by
    intro p hp
    obtain ⟨s, _, rfl⟩ := List.mem_map.mp hp
    exact level_quotedSegment s
  rw [quotedChars_of_isRegular hname]
  exact pieces_intercalate '.' rfl List.mem_cons_self (by simpa using segments_ne_nil name) hlevel

/-- A segment from how it is written: a star, or the text between two quotes
without its doubling. -/
def segment? (piece : List Char) : Option (List Char) :=
  if piece = ['*'] then some piece else (between? '"' '"' piece).map (undoubled '"')

theorem segment?_quotedSegment (s : List Char) : segment? (quotedSegment s) = some s := by
  by_cases hs : s = ['*']
  · subst hs
    rfl
  · have hquoted : quotedSegment s = '"' :: (doubled '"' s ++ ['"']) := if_neg hs
    have hstar : quotedSegment s ≠ ['*'] := by simp [hquoted]
    rw [segment?, if_neg hstar, hquoted, between?_enclosed, Option.map_some, undoubled_doubled]

theorem quotedChars_injective
    {other : List Char} (hname : IsRegular name) (hother : IsRegular other)
    (heq : quotedChars name = quotedChars other) : name = other := by
  have hread : unquoted false (quotedChars name ++ []) = (name, []) :=
    unquoted_quotedChars hname nofun
  have hreadOther : unquoted false (quotedChars other ++ []) = (other, []) :=
    unquoted_quotedChars hother nofun
  rw [heq, hreadOther] at hread
  exact (congrArg Prod.fst hread).symm

/-- The pieces of a written name are the written segments of the name, each a
star or a whole stretch between quotes, and the segments are read back from
them.  So no two regular names are written alike. -/
theorem segments_read_back
    {name : String} (hname : IsRegular name.toList) :
    let written := pieces '.' .outside (quoted name).toList
    ['.'].intercalate written = (quoted name).toList ∧
    written = (name.toList.splitOn '.').map quotedSegment ∧
    (∀ piece ∈ written, piece = ['*'] ∨ ∃ s, piece = '"' :: (doubled '"' s ++ ['"'])) ∧
    written.mapM segment? = some (name.toList.splitOn '.') ∧
    ∀ other : String, IsRegular other.toList → quoted other = quoted name → other = name := by
  intro written
  have hwritten : written = (segments name.toList).map quotedSegment := by
    simp only [written, quoted, String.toList_ofList]
    exact pieces_quotedChars hname
  rw [← segments_eq_splitOn, hwritten]
  refine ⟨?_, rfl, ?_, ?_, ?_⟩
  · rw [quoted, String.toList_ofList, quotedChars_of_isRegular hname]
  · intro piece hpiece
    obtain ⟨s, _, rfl⟩ := List.mem_map.mp hpiece
    unfold quotedSegment
    split
    next hs => exact .inl hs
    next => exact .inr ⟨s, rfl⟩
  · simpa using mapM_map (h := id) fun s _ => segment?_quotedSegment s
  · intro other hother heq
    have hchars : quotedChars other.toList = quotedChars name.toList :=
      String.ofList_injective heq
    exact String.toList_inj.mp (quotedChars_injective hother hname hchars)

/-- A name with empty segments at both ends, a star, and quotes inside. -/
theorem segments_read_back_empty :
    IsRegular ".a\"..*.\\".toList ∧
      pieces '.' .outside (quoted ".a\"..*.\\").toList =
        ["\"\"".toList, "\"a\"\"\"".toList, "\"\"".toList, ['*'], "\"\\\"".toList] ∧
      (pieces '.' .outside (quoted ".a\"..*.\\").toList).mapM segment? =
        some [[], ['a', '"'], [], ['*'], ['\\']] := by
  have hname : IsRegular ".a\"..*.\\".toList := by decide
  obtain ⟨_, hwritten, _, hread, _⟩ := segments_read_back hname
  exact ⟨hname, hwritten, hread⟩

/-! ## Writing a name twice -/

/-- A name is left as it is if it is a star or not regular. -/
theorem isPlain_iff (name : List Char) :
    isPlain name = true ↔ name = ['*'] ∨ ¬IsRegular name := by
  have hany : (name.any fun c => c == ' ' || c == '(' || c == ')') = true ↔
      ' ' ∈ name ∨ '(' ∈ name ∨ ')' ∈ name := by
    simp [List.any_eq_true, or_assoc, and_or_left, exists_or]
  have hregular : IsRegular name ↔
      name.head? ≠ some '"' ∧ ' ' ∉ name ∧ '(' ∉ name ∧ ')' ∉ name := by
    refine ⟨fun h => ⟨h.unquoted, h.blank, h.opening, h.closing⟩, ?_⟩
    rintro ⟨hunquoted, hblank, hopening, hclosing⟩
    exact ⟨hblank, hopening, hclosing, hunquoted⟩
  rw [isPlain, Bool.or_eq_true, Bool.or_eq_true, hany, hregular, beq_iff_eq, beq_iff_eq]
  simp only [not_and_or, not_not, or_assoc]

theorem length_le_doubled (q : Char) (s : List Char) : s.length ≤ (doubled q s).length := by
  induction s with
  | nil => exact Nat.le_refl 0
  | cons c s ih =>
      unfold doubled
      split <;> simp only [List.length_cons] <;> omega

theorem quotedSegment_eq_self_iff (s : List Char) : quotedSegment s = s ↔ s = ['*'] := by
  constructor
  · -- Between quotes a segment is longer.
    intro hself
    by_contra hs
    have hlength := congrArg List.length hself
    have hdoubled := length_le_doubled '"' s
    simp only [quotedSegment, if_neg hs, List.length_cons, List.length_append,
      List.length_nil] at hlength
    omega
  · rintro rfl
    rfl

/-- A regular name is written as it is if it consists of stars. -/
theorem quotedChars_eq_self_iff
    (hname : IsRegular name) : quotedChars name = name ↔ ∀ s ∈ segments name, s = ['*'] := by
  have hdots : ∀ p ∈ (segments name).map quotedSegment, '.' ∉ p := by
    intro p hp hdot
    obtain ⟨s, hs, rfl⟩ := List.mem_map.mp hp
    rcases mem_quotedSegment hdot with hquote | hdot
    · simp at hquote
    · exact dot_notMem_of_mem_segments hs hdot
  have hsegments : segments (quotedChars name) = (segments name).map quotedSegment := by
    rw [quotedChars_of_isRegular hname]
    exact segments_intercalate (by simpa using segments_ne_nil name) hdots
  calc quotedChars name = name
      ↔ (segments name).map quotedSegment = segments name := by
        rw [← hsegments]
        refine ⟨congrArg segments, fun heq => ?_⟩
        rw [← intercalate_segments (quotedChars name), heq, intercalate_segments]
    _ ↔ ∀ s ∈ segments name, quotedSegment s = s := by
        rw [← List.map_inj_left (g := fun s => s), List.map_id']
    _ ↔ ∀ s ∈ segments name, s = ['*'] := by
        simp only [quotedSegment_eq_self_iff]

theorem mem_of_mem_quotedChars
    (hname : IsRegular name) {c : Char} (hc : c ∈ quotedChars name) (hquote : c ≠ '"') :
    c ∈ name := by
  rw [quotedChars_of_isRegular hname] at hc
  have hmem := (mem_intercalate hc).resolve_left hquote
  rwa [intercalate_segments] at hmem

theorem head?_quotedChars
    (hname : IsRegular name) {s : List Char} {rest : List (List Char)}
    (hsegments : segments name = s :: rest) :
    (quotedChars name).head? = some (if s = ['*'] then '*' else '"') := by
  rw [quotedChars_of_isRegular hname, hsegments]
  by_cases hs : s = ['*'] <;> cases rest <;>
    simp [quotedSegment, hs, List.intercalate_cons_cons]

/-- A written name that starts with a star is regular again. -/
theorem isRegular_quotedChars
    (hname : IsRegular name) {rest : List (List Char)} (hstar : segments name = ['*'] :: rest) :
    IsRegular (quotedChars name) where
  blank hblank := hname.blank (mem_of_mem_quotedChars hname hblank (by decide))
  opening hopening := hname.opening (mem_of_mem_quotedChars hname hopening (by decide))
  closing hclosing := hname.closing (mem_of_mem_quotedChars hname hclosing (by decide))
  unquoted := by simp [head?_quotedChars hname hstar]

theorem head?_of_segments
    {rest : List (List Char)} (hstar : segments name = ['*'] :: rest) :
    name.head? = some '*' := by
  rw [← intercalate_segments name, hstar]
  cases rest <;> simp [List.intercalate_cons_cons]

/-- Writing a written name changes it just if the name is neither an expression
nor quoted already, and a segment other than a star follows a star. -/
theorem quotedChars_quotedChars_iff (name : List Char) :
    quotedChars (quotedChars name) = quotedChars name ↔
      ¬(' ' ∉ name ∧ '(' ∉ name ∧ ')' ∉ name ∧
        ∃ rest, segments name = ['*'] :: rest ∧ ∃ s ∈ rest, s ≠ ['*']) := by
  by_cases hplain : isPlain name = true
  · have hself : quotedChars name = name := if_pos hplain
    refine iff_of_true (by rw [hself, hself]) ?_
    rintro ⟨hblank, hopening, hclosing, rest, hstar, s, hs, _⟩
    have hname : IsRegular name :=
      ⟨hblank, hopening, hclosing, by simp [head?_of_segments hstar]⟩
    obtain rfl := ((isPlain_iff name).mp hplain).resolve_right (not_not.mpr hname)
    obtain rfl : [] = rest := List.tail_eq_of_cons_eq hstar
    exact List.not_mem_nil hs
  · have hname : IsRegular name := by
      by_contra hname
      exact hplain ((isPlain_iff name).mpr (.inr hname))
    obtain ⟨first, rest, hsegments⟩ := List.exists_cons_of_ne_nil (segments_ne_nil name)
    by_cases hfirst : first = ['*']
    · -- The star hides the quotes after it, so they are written again.
      subst hfirst
      have hwritten := isRegular_quotedChars hname hsegments
      calc quotedChars (quotedChars name) = quotedChars name
          ↔ quotedChars name = name := ⟨quotedChars_injective hwritten hname, congrArg _⟩
        _ ↔ ∀ s ∈ rest, s = ['*'] := by
            simp [quotedChars_eq_self_iff hname, hsegments]
        _ ↔ _ := by
            simp [hname.blank, hname.opening, hname.closing, hsegments]
    · -- The written name starts with a quote, and nothing else is looked at.
      have hquote : (quotedChars name).head? = some '"' := by
        rw [head?_quotedChars hname hsegments, if_neg hfirst]
      have hplain : isPlain (quotedChars name) = true :=
        (isPlain_iff _).mpr (.inr fun hregular => hregular.unquoted hquote)
      refine iff_of_true (if_pos hplain) ?_
      rintro ⟨_, _, _, _, hstar, _⟩
      exact hfirst (List.cons.inj (hsegments.symm.trans hstar)).1

/-- A written name is written as it is once more, unless it holds no blank and no
parenthesis and a segment other than a star follows a star at its start. -/
theorem quoted_quoted_iff (name : String) :
    quoted (quoted name) = quoted name ↔
      ¬(' ' ∉ name.toList ∧ '(' ∉ name.toList ∧ ')' ∉ name.toList ∧
        ∃ rest, name.toList.splitOn '.' = ['*'] :: rest ∧ ∃ s ∈ rest, s ≠ ['*']) := by
  rw [← segments_eq_splitOn, ← quotedChars_quotedChars_iff]
  simp only [quoted, String.toList_ofList]
  exact ⟨fun heq => String.ofList_injective heq, congrArg String.ofList⟩

example : quoted "*.a" = "*.\"a\"" ∧ quoted (quoted "*.a") = "*.\"\"\"a\"\"\"" := by decide

end SqlBuilder.Identifier
