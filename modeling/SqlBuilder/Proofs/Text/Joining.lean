import Mathlib.Data.List.Basic

/-!
# Joined sequences

Names, lists of columns and drafts are joined with something between them.  What
goes part by part over sequences that are put together goes part by part over
joined ones as well, and over what stands between them.
-/

namespace SqlBuilder.Text

variable {α β : Type}

theorem map_intercalate
    {f : List α → List β} (hnil : f [] = []) (happend : ∀ as bs, f (as ++ bs) = f as ++ f bs)
    (between : List α) (parts : List (List α)) :
    f (between.intercalate parts) = (f between).intercalate (parts.map f) := by
  induction parts with
  | nil => exact hnil
  | cons part parts ih =>
      cases parts with
      | nil => simp
      | cons next parts =>
          rw [List.intercalate_cons_cons, happend, happend, ih]
          simp only [List.map_cons, List.intercalate_cons_cons]

theorem nil_intercalate (parts : List (List α)) : [].intercalate parts = parts.flatten := by
  induction parts with
  | nil => rfl
  | cons part parts ih =>
      cases parts with
      | nil => simp
      | cons next parts => rw [List.intercalate_cons_cons, List.append_nil, ih, ← List.flatten_cons]

theorem intercalate_append_of_ne_nil
    {parts others : List (List α)} (hparts : parts ≠ []) (hothers : others ≠ [])
    (between : List α) :
    between.intercalate (parts ++ others) =
      between.intercalate parts ++ between ++ between.intercalate others := by
  induction parts with
  | nil => exact absurd rfl hparts
  | cons part parts ih =>
      cases parts with
      | nil => simp [List.intercalate_cons_of_ne_nil hothers]
      | cons next parts =>
          have hrest := ih (List.cons_ne_nil next parts)
          rw [List.cons_append] at hrest
          rw [List.cons_append, List.cons_append, List.intercalate_cons_cons, hrest,
            List.intercalate_cons_cons]
          simp only [List.append_assoc]

end SqlBuilder.Text
