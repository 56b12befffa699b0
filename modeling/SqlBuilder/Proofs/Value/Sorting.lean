import Mathlib.Data.List.Sort
import Mathlib.Data.String.Basic
import SqlBuilder.Value.Ordering

/-!
# Sorting texts

Texts have a total order, so sorting them never fails, and what comes out is the
one list of the same texts in order.  It does not matter in which order they were
given.
-/

namespace SqlBuilder.Value

theorem less_text (s t : String) : less (.text s) (.text t) = .ok (decide (s < t)) := by
  simp [less]

/-! ## The run at the front -/

theorem ascending_texts (last : String) (names : List String) :
    ∃ run rest : List String,
      ascending (.text last) (names.map .text) = .ok (run.map .text, rest.map .text) ∧
      names = run ++ rest ∧ (last :: run).IsChain (· ≤ ·) := by
  induction names generalizing last with
  | nil => exact ⟨[], [], rfl, rfl, .singleton last⟩
  | cons name names ih =>
      rw [List.map_cons, ascending, less_text]
      by_cases hless : name < last
      · exact ⟨[], name :: names, by simp [hless, bind, Except.bind, pure, Except.pure], rfl,
          .singleton last⟩
      · obtain ⟨run, rest, hrun, hsplit, hchain⟩ := ih name
        refine ⟨name :: run, rest, ?_, by rw [hsplit]; rfl, ?_⟩
        · simp [hless, hrun, bind, Except.bind, pure, Except.pure]
        · exact List.isChain_cons_cons.mpr ⟨le_of_not_gt hless, hchain⟩

theorem descending_texts (last : String) (names : List String) :
    ∃ run rest : List String,
      descending (.text last) (names.map .text) = .ok (run.map .text, rest.map .text) ∧
      names = run ++ rest ∧ (last :: run).IsChain (· ≥ ·) := by
  induction names generalizing last with
  | nil => exact ⟨[], [], rfl, rfl, .singleton last⟩
  | cons name names ih =>
      rw [List.map_cons, descending, less_text]
      by_cases hless : name < last
      · obtain ⟨run, rest, hrun, hsplit, hchain⟩ := ih name
        refine ⟨name :: run, rest, ?_, by rw [hsplit]; rfl, ?_⟩
        · simp [hless, hrun, bind, Except.bind, pure, Except.pure]
        · exact List.isChain_cons_cons.mpr ⟨le_of_lt hless, hchain⟩
      · exact ⟨[], name :: names, by simp [hless, bind, Except.bind, pure, Except.pure], rfl,
          .singleton last⟩

theorem firstRun_texts (names : List String) :
    ∃ run rest : List String,
      firstRun (names.map .text) = .ok (run.map .text, rest.map .text) ∧
      (run ++ rest).Perm names ∧ run.Pairwise (· ≤ ·) := by
  match names with
  | [] => exact ⟨[], [], rfl, .refl _, .nil⟩
  | [name] => exact ⟨[name], [], rfl, .refl _, List.pairwise_singleton _ name⟩
  | first :: second :: names =>
      rw [List.map_cons, List.map_cons, firstRun, less_text]
      by_cases hless : second < first
      · obtain ⟨run, rest, hrun, hsplit, hchain⟩ := descending_texts second names
        have hrun' : (first :: second :: run).IsChain (· ≥ ·) :=
          List.isChain_cons_cons.mpr ⟨le_of_lt hless, hchain⟩
        refine ⟨(first :: second :: run).reverse, rest, ?_, ?_, ?_⟩
        · simp [hless, hrun, bind, Except.bind, pure, Except.pure]
        · rw [hsplit]
          exact (List.reverse_perm _).append_right rest
        · exact List.pairwise_reverse.mpr (List.isChain_iff_pairwise.mp hrun')
      · obtain ⟨run, rest, hrun, hsplit, hchain⟩ := ascending_texts second names
        have hrun' : (first :: second :: run).IsChain (· ≤ ·) :=
          List.isChain_cons_cons.mpr ⟨le_of_not_gt hless, hchain⟩
        refine ⟨first :: second :: run, rest, ?_, ?_, List.isChain_iff_pairwise.mp hrun'⟩
        · simp [hless, hrun, bind, Except.bind, pure, Except.pure]
        · rw [hsplit]
          exact .refl _

/-! ## The place of a text among others -/

/-- Halving ends behind all texts that `name` does not come before. -/
theorem place_texts {done : List String} (hdone : done.Pairwise (· ≤ ·)) (name : String)
    {low high : Nat} (hle : low ≤ high) (hhigh : high ≤ done.length)
    (hbefore : ∀ i (hi : i < done.length), i < low → done[i] ≤ name)
    (hafter : ∀ i (hi : i < done.length), high ≤ i → name ≤ done[i]) :
    ∃ n, place (.text name) (done.map .text) low high = .ok n ∧
      (∀ i (hi : i < done.length), i < n → done[i] ≤ name) ∧
      ∀ i (hi : i < done.length), n ≤ i → name ≤ done[i] := by
  have hordered := List.pairwise_iff_getElem.mp hdone
  induction hsize : high - low using Nat.strongRecOn generalizing low high with
  | _ size ih =>
    rw [place]
    by_cases hopen : low < high
    · obtain ⟨middle, hmiddle⟩ : ∃ middle, middle = low + (high - low) / 2 := ⟨_, rfl⟩
      have hinside : middle < done.length := by omega
      have hfound : ((done.map Value.text)[middle]?).getD (.text name) =
          .text done[middle] := by simp [hinside]
      simp only [if_pos hopen, ← hmiddle, hfound, less_text, bind, Except.bind]
      by_cases hless : name < done[middle]
      · rw [if_pos (decide_eq_true hless)]
        refine ih (middle - low) (by omega) (by omega) (by omega) hbefore ?_ rfl
        intro i hi hbehind
        rcases hbehind.eq_or_lt with rfl | hlater
        · exact le_of_lt hless
        · exact (le_of_lt hless).trans (hordered middle i hinside hi hlater)
      · rw [if_neg (by simpa using hless)]
        refine ih (high - (middle + 1)) (by omega) (by omega) (by omega) ?_ hafter rfl
        intro i hi hfront
        rcases (Nat.lt_succ_iff.mp hfront).eq_or_lt with rfl | hearlier
        · exact le_of_not_gt hless
        · exact (hordered i middle hi hinside hearlier).trans (le_of_not_gt hless)
    · obtain rfl : low = high := by omega
      rw [if_neg hopen]
      exact ⟨low, rfl, hbefore, hafter⟩

theorem insertSorted_texts {done : List String} (hdone : done.Pairwise (· ≤ ·)) (name : String) :
    ∃ longer : List String,
      insertSorted (done.map .text) (.text name) = .ok (longer.map .text) ∧
      longer.Perm (name :: done) ∧ longer.Pairwise (· ≤ ·) := by
  obtain ⟨n, hplace, hbefore, hafter⟩ := place_texts hdone name (Nat.zero_le done.length) le_rfl
    (fun _ _ hfront => absurd hfront (Nat.not_lt_zero _))
    (fun _ hi hbehind => absurd hi (Nat.not_lt.mpr hbehind))
  have hfront : ∀ other ∈ done.take n, other ≤ name := by
    intro other hother
    obtain ⟨i, hi, rfl⟩ := List.mem_take_iff_getElem.mp hother
    exact hbefore i (by omega) (by omega)
  have hback : ∀ other ∈ done.drop n, name ≤ other := by
    intro other hother
    obtain ⟨i, hi, rfl⟩ := List.mem_drop_iff_getElem.mp hother
    exact hafter (n + i) (by omega) (by omega)
  refine ⟨done.take n ++ name :: done.drop n, ?_, ?_, ?_⟩
  · unfold insertSorted
    rw [List.length_map, hplace]
    simp [bind, Except.bind, pure, Except.pure]
  · refine List.perm_middle.trans ?_
    rw [List.take_append_drop]
  · refine List.pairwise_append.mpr ⟨hdone.take, ?_, ?_⟩
    · exact List.pairwise_cons.mpr ⟨hback, hdone.drop⟩
    · intro other hother next hnext
      rcases List.mem_cons.mp hnext with rfl | hnext
      · exact hfront other hother
      · exact (hfront other hother).trans (hback next hnext)

theorem foldlM_insertSorted_texts {done : List String} (hdone : done.Pairwise (· ≤ ·))
    (names : List String) :
    ∃ all : List String,
      (names.map Value.text).foldlM insertSorted (done.map .text) = .ok (all.map .text) ∧
      all.Perm (done ++ names) ∧ all.Pairwise (· ≤ ·) := by
  induction names generalizing done with
  | nil => exact ⟨done, rfl, .of_eq (List.append_nil _).symm, hdone⟩
  | cons name names ih =>
      obtain ⟨longer, hinsert, hlonger, hsorted⟩ := insertSorted_texts hdone name
      obtain ⟨all, hall, hperm, hallSorted⟩ := ih hsorted
      refine ⟨all, ?_, ?_, hallSorted⟩
      · rw [List.map_cons, List.foldlM_cons, hinsert]
        exact hall
      · refine hperm.trans ((hlonger.append_right names).trans ?_)
        exact List.perm_middle.symm

/-! ## All texts in order -/

theorem sorted_texts (names : List String) :
    ∃ all : List String, sorted (names.map .text) = .ok (all.map .text) ∧
      all.Perm names ∧ all.Pairwise (· ≤ ·) := by
  obtain ⟨run, rest, hrun, hperm, hsorted⟩ := firstRun_texts names
  obtain ⟨all, hall, hsame, hallSorted⟩ := foldlM_insertSorted_texts hsorted rest
  refine ⟨all, ?_, hsame.trans hperm, hallSorted⟩
  unfold sorted
  rw [hrun]
  exact hall

/-- The order in which texts are given does not show after sorting. -/
theorem sorted_texts_of_perm {names others : List String} (hperm : names.Perm others) :
    sorted (names.map .text) = sorted (others.map .text) := by
  obtain ⟨all, hall, hnames, hallSorted⟩ := sorted_texts names
  obtain ⟨all', hall', hothers, hallSorted'⟩ := sorted_texts others
  have hsame : all.Perm all' := (hnames.trans hperm).trans hothers.symm
  rw [hall, hall', hsame.eq_of_pairwise' hallSorted hallSorted']

end SqlBuilder.Value
