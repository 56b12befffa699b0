import SqlBuilder.Proofs.Statement.Name

/-!
# Reading names back

A name is read character by character.  Inside quotes a doubled quote stands
for one and a single one leads out; outside them a comma or a closing
parenthesis ends the name and everything else belongs to it.  A regular name
is read as it was before it was quoted.
-/

namespace SqlBuilder.Identifier

open Text

/-- Whether a character outside quotes ends a name. -/
def endsName (c : Char) : Bool := c == ',' || c == ')'

/-- A name without its quotes, and what follows it; `inside` tells whether the
text starts inside quotes. -/
def unquoted : (inside : Bool) → List Char → List Char × List Char
  | _, [] => ([], [])
  | false, c :: cs =>
    if c = '"' then unquoted true cs
    else if endsName c then ([], c :: cs)
    else (c :: (unquoted false cs).1, (unquoted false cs).2)
  | true, [c] => if c = '"' then ([], []) else ([c], [])
  | true, c :: d :: cs =>
    if c = '"' then
      if d = '"' then ('"' :: (unquoted true cs).1, (unquoted true cs).2)
      else unquoted false (d :: cs)
    else (c :: (unquoted true (d :: cs)).1, (unquoted true (d :: cs)).2)

theorem unquoted_doubled (s : List Char) {rest : List Char} (hrest : rest.head? ≠ some '"') :
    unquoted true (doubled '"' s ++ '"' :: rest) =
      (s ++ (unquoted false rest).1, (unquoted false rest).2) := by
  induction s with
  | nil =>
      cases rest with
      | nil => rfl
      | cons c cs =>
          have hc : c ≠ '"' := by simpa using hrest
          simp [unquoted, hc]
  | cons c s ih =>
      by_cases hc : c = '"'
      · subst hc
        simp [doubled, unquoted, ih]
      · obtain ⟨d, cs, hcs⟩ : ∃ d cs, doubled '"' s ++ '"' :: rest = d :: cs :=
          List.exists_cons_of_ne_nil (by simp)
        rw [doubled_cons_of_ne hc, List.cons_append, hcs, unquoted, ← hcs, ih]
        simp [hc]

theorem unquoted_segment (s : List Char) {rest : List Char} (hrest : rest.head? ≠ some '"') :
    unquoted false (quotedSegment s ++ rest) =
      (s ++ (unquoted false rest).1, (unquoted false rest).2) := by
  unfold quotedSegment
  split
  next hs =>
    subst hs
    simp [unquoted, endsName]
  next =>
    have hdoubled := unquoted_doubled s hrest
    simpa [unquoted] using hdoubled

theorem unquoted_intercalate
    {ss : List (List Char)} (hss : ss ≠ []) {rest : List Char}
    (hrest : ∀ c ∈ rest.head?, endsName c = true) :
    unquoted false (['.'].intercalate (ss.map quotedSegment) ++ rest) =
      (['.'].intercalate ss, rest) := by
  have hend : unquoted false rest = ([], rest) := by
    cases rest with
    | nil => rfl
    | cons c cs =>
        have hc : endsName c = true := hrest c (by simp)
        have hquote : c ≠ '"' := by
          rintro rfl
          simp [endsName] at hc
        simp [unquoted, hquote, hc]
  induction ss with
  | nil => exact absurd rfl hss
  | cons s ss ih =>
      cases ss with
      | nil =>
          have hquote : rest.head? ≠ some '"' := by
            intro hhead
            have hc := hrest '"' hhead
            simp [endsName] at hc
          have hsegment := unquoted_segment s hquote
          rw [hend] at hsegment
          simpa using hsegment
      | cons t ss =>
          have htail := ih (by simp)
          simp only [List.map_cons] at htail ⊢
          rw [List.intercalate_cons_cons, List.intercalate_cons_cons, List.append_assoc,
            List.append_assoc, unquoted_segment s (by simp)]
          simp [unquoted, endsName, htail]

/-- A regular name is read back from its written form. -/
theorem unquoted_quotedChars
    {name : List Char} (hname : IsRegular name) {rest : List Char}
    (hrest : ∀ c ∈ rest.head?, endsName c = true) :
    unquoted false (quotedChars name ++ rest) = (name, rest) := by
  rw [quotedChars_of_isRegular hname, unquoted_intercalate (segments_ne_nil name) hrest,
    intercalate_segments]

theorem mem_doubled {q c : Char} {s : List Char} (hc : c ∈ doubled q s) : c ∈ s := by
  induction s with
  | nil => simp at hc
  | cons d s ih =>
      unfold doubled at hc
      split at hc
      next hd =>
        subst hd
        rcases List.mem_cons.mp hc with rfl | hc
        · simp
        · rcases List.mem_cons.mp hc with rfl | hc
          · simp
          · exact List.mem_cons_of_mem _ (ih hc)
      next =>
        rcases List.mem_cons.mp hc with rfl | hc
        · simp
        · exact List.mem_cons_of_mem _ (ih hc)

theorem mem_quotedSegment {c : Char} {s : List Char} (hc : c ∈ quotedSegment s) :
    c = '"' ∨ c ∈ s := by
  unfold quotedSegment at hc
  split at hc
  next => exact Or.inr hc
  next =>
    rcases List.mem_cons.mp hc with rfl | hc
    · exact Or.inl rfl
    · rcases List.mem_append.mp hc with hc | hc
      · exact Or.inr (mem_doubled hc)
      · exact Or.inl (List.mem_singleton.mp hc)

theorem mem_intercalate {c : Char} {ss : List (List Char)}
    (hc : c ∈ ['.'].intercalate (ss.map quotedSegment)) :
    c = '"' ∨ c ∈ ['.'].intercalate ss := by
  induction ss with
  | nil => simp at hc
  | cons s ss ih =>
      cases ss with
      | nil => simpa using mem_quotedSegment (by simpa using hc)
      | cons t ss =>
          simp only [List.map_cons] at hc ih
          rw [List.intercalate_cons_cons] at hc ⊢
          simp only [List.mem_append] at hc ⊢
          rcases hc with (hc | hc) | hc
          · rcases mem_quotedSegment hc with rfl | hc
            · exact Or.inl rfl
            · exact Or.inr (Or.inl (Or.inl hc))
          · exact Or.inr (Or.inl (Or.inr hc))
          · rcases ih hc with rfl | hc
            · exact Or.inl rfl
            · exact Or.inr (Or.inr hc)

theorem blank_notMem_quotedChars {name : List Char} (hname : IsRegular name) :
    ' ' ∉ quotedChars name := by
  rw [quotedChars_of_isRegular hname]
  intro hmem
  rcases mem_intercalate hmem with hquote | hmem
  · simp at hquote
  · rw [intercalate_segments] at hmem
    exact hname.blank hmem

/-- A written name starts with a quote or a star. -/
theorem exists_cons_quotedChars {name : List Char} (hname : IsRegular name) :
    ∃ c cs, quotedChars name = c :: cs ∧ (c = '"' ∨ c = '*') := by
  have hsegment : ∀ s rest, ∃ c cs, quotedSegment s ++ rest = c :: cs ∧
      (c = '"' ∨ c = '*') := by
    intro s rest
    unfold quotedSegment
    split
    next hs =>
      subst hs
      exact ⟨'*', rest, rfl, Or.inr rfl⟩
    next => exact ⟨'"', _, rfl, Or.inl rfl⟩
  rw [quotedChars_of_isRegular hname]
  obtain ⟨s, ss, hss⟩ := List.exists_cons_of_ne_nil (segments_ne_nil name)
  rw [hss]
  cases ss with
  | nil =>
      obtain ⟨c, cs, hcs, hc⟩ := hsegment s []
      exact ⟨c, cs, by simpa using hcs, hc⟩
  | cons t ss =>
      obtain ⟨c, cs, hcs, hc⟩ := hsegment s
        (['.'] ++ ['.'].intercalate ((t :: ss).map quotedSegment))
      refine ⟨c, cs, ?_, hc⟩
      rw [← hcs]
      simp only [List.map_cons]
      rw [List.intercalate_cons_cons, List.append_assoc]

end SqlBuilder.Identifier
