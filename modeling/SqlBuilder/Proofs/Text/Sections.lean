/-!
# Sections of a sequence

A sequence is cut before every element that has a key.  A section is the key
of its first element with the elements up to the next one that has a key, so a
sequence that was put together from sections is cut into the same sections.
-/

namespace SqlBuilder.Text

variable {α κ : Type}

/-- The elements before the first one with a key. -/
def leading (key : α → Option κ) (as : List α) : List α :=
  as.takeWhile fun a => (key a).isNone

def sections (key : α → Option κ) : List α → List (κ × List α)
  | [] => []
  | a :: as => match key a with
    | some k => (k, leading key as) :: sections key as
    | none => sections key as

/-- A sequence none of whose elements has a key. -/
def Plain (key : α → Option κ) (as : List α) : Prop := ∀ a ∈ as, key a = none

variable {key : α → Option κ}

theorem leading_append
    {as rest : List α} (has : Plain key as) (hrest : ∀ a ∈ rest.head?, key a ≠ none) :
    leading key (as ++ rest) = as := by
  unfold leading
  rw [List.takeWhile_append_of_pos (fun a ha => by simp [has a ha])]
  cases rest with
  | nil => simp
  | cons a rest =>
      have hkey : key a ≠ none := hrest a (by simp)
      have hsome : (key a).isNone = false := by
        simpa [Option.isSome_iff_ne_none] using hkey
      rw [List.takeWhile_cons, hsome]
      simp

theorem sections_append
    {as : List α} (has : Plain key as) (rest : List α) :
    sections key (as ++ rest) = sections key rest := by
  induction as with
  | nil => rfl
  | cons a as ih =>
      have hkey : key a = none := has a (by simp)
      have htail : Plain key as := fun b hb => has b (List.mem_cons_of_mem a hb)
      rw [List.cons_append, sections, hkey]
      exact ih htail

theorem sections_flatMap
    (start : κ → α) {parts : List (κ × List α)}
    (hstart : ∀ part ∈ parts, key (start part.1) = some part.1)
    (hplain : ∀ part ∈ parts, Plain key part.2) :
    sections key (parts.flatMap fun part => start part.1 :: part.2) = parts := by
  induction parts with
  | nil => rfl
  | cons part parts ih =>
      obtain ⟨k, body⟩ := part
      have hkey : key (start k) = some k := hstart (k, body) (by simp)
      have hbody : Plain key body := hplain (k, body) (by simp)
      have hrest := ih (fun p hp => hstart p (List.mem_cons_of_mem _ hp))
        (fun p hp => hplain p (List.mem_cons_of_mem _ hp))
      have hhead : ∀ a ∈ (parts.flatMap fun part => start part.1 :: part.2).head?,
          key a ≠ none := by
        cases parts with
        | nil => simp
        | cons next parts =>
            have hnext : key (start next.1) = some next.1 := hstart next (by simp)
            simp [hnext]
      rw [List.flatMap_cons, List.cons_append, sections, hkey]
      simp only
      rw [leading_append hbody hhead, sections_append hbody, hrest]

theorem plain_append
    {as bs : List α} (has : Plain key as) (hbs : Plain key bs) : Plain key (as ++ bs) := by
  intro a ha
  rcases List.mem_append.mp ha with ha | ha
  · exact has a ha
  · exact hbs a ha

theorem mapM_map
    {β γ : Type} {as : List α} {f : β → Option γ} {g : α → β} {h : α → γ}
    (hf : ∀ a ∈ as, f (g a) = some (h a)) :
    (as.map g).mapM f = some (as.map h) := by
  induction as with
  | nil => rfl
  | cons a as ih =>
      have hhead : f (g a) = some (h a) := hf a (by simp)
      have htail := ih (fun b hb => hf b (List.mem_cons_of_mem a hb))
      rw [List.map_cons, List.mapM_cons, hhead, htail]
      rfl

end SqlBuilder.Text
