import Mathlib.Data.List.Forall2
import SqlBuilder.Failure

/-!
# Calls that succeed

What a composed call gives when it succeeds, so that proofs about successful
calls take them apart step by step.
-/

namespace SqlBuilder

namespace Outcome

variable {α β : Type}

theorem bind_eq_ok {x : Outcome α} {f : α → Outcome β} {b : β} :
    (x >>= f) = .ok b ↔ ∃ a, x = .ok a ∧ f a = .ok b := by
  cases x <;> simp [bind, Except.bind]

theorem map_eq_ok {x : Outcome α} {f : α → β} {b : β} :
    x.map f = .ok b ↔ ∃ a, x = .ok a ∧ f a = b := by
  cases x <;> simp [Except.map]

theorem pure_eq_ok {a b : α} : (pure a : Outcome α) = .ok b ↔ a = b := by
  simp [pure, Except.pure]

theorem mapM_cons_eq_ok {f : α → Outcome β} {a : α} {as : List α} {bs : List β} :
    (a :: as).mapM f = .ok bs ↔ ∃ b others, f a = .ok b ∧ as.mapM f = .ok others ∧
      b :: others = bs := by
  rw [List.mapM_cons]
  cases f a <;> cases as.mapM f <;> simp [bind, Except.bind, pure, Except.pure]

/-- Every result of a list of calls is that of one of them, and every call has its result there. -/
theorem mem_of_mapM_eq_ok {f : α → Outcome β} {as : List α} {bs : List β}
    (hbs : as.mapM f = .ok bs) :
    (∀ a ∈ as, ∃ b ∈ bs, f a = .ok b) ∧ ∀ b ∈ bs, ∃ a ∈ as, f a = .ok b := by
  induction as generalizing bs with
  | nil =>
      obtain rfl := pure_eq_ok.mp hbs
      simp
  | cons a as ih =>
      obtain ⟨b, others, hb, hothers, rfl⟩ := mapM_cons_eq_ok.mp hbs
      obtain ⟨hleft, hright⟩ := ih hothers
      constructor
      · refine List.forall_mem_cons.mpr ⟨⟨b, List.mem_cons_self, hb⟩, ?_⟩
        intro a' ha'
        obtain ⟨b', hb', hresult⟩ := hleft a' ha'
        exact ⟨b', List.mem_cons_of_mem b hb', hresult⟩
      · refine List.forall_mem_cons.mpr ⟨⟨a, List.mem_cons_self, hb⟩, ?_⟩
        intro b' hb'
        obtain ⟨a', ha', hresult⟩ := hright b' hb'
        exact ⟨a', List.mem_cons_of_mem a ha', hresult⟩

/-- Where the values of entries are made into others under the same keys, one that was made has a
property if one that was given has the property it comes from. -/
theorem exists_keyed_iff {κ : Type} (make : κ → α → Outcome β) {entries : List (κ × α)}
    {made : List (κ × β)} {P : α → Prop} {Q : β → Prop}
    (hmade : (entries.mapM fun (key, a) => do return (key, ← make key a)) = .ok made)
    (hsame : ∀ key a b, make key a = .ok b → (Q b ↔ P a)) :
    (∃ entry ∈ made, Q entry.2) ↔ ∃ entry ∈ entries, P entry.2 := by
  obtain ⟨hkept, hgiven⟩ := mem_of_mapM_eq_ok hmade
  constructor
  · rintro ⟨entry, hentry, hb⟩
    obtain ⟨⟨key, a⟩, ha, hresult⟩ := hgiven entry hentry
    obtain ⟨b, hmake, hresult⟩ := bind_eq_ok.mp hresult
    obtain rfl := pure_eq_ok.mp hresult
    exact ⟨(key, a), ha, (hsame key a b hmake).mp hb⟩
  · rintro ⟨⟨key, a⟩, hentry, ha⟩
    obtain ⟨_, hb, hresult⟩ := hkept (key, a) hentry
    obtain ⟨b, hmake, hresult⟩ := bind_eq_ok.mp hresult
    obtain rfl := pure_eq_ok.mp hresult
    exact ⟨(key, b), hb, (hsame key a b hmake).mpr ha⟩

theorem bind_eq_error {x : Outcome α} {f : α → Outcome β} {failure : Failure} :
    (x >>= f) = .error failure ↔
      x = .error failure ∨ ∃ a, x = .ok a ∧ f a = .error failure := by
  cases x <;> simp [bind, Except.bind]

theorem mapM_eq_ok_map {f : α → Outcome β} {g : α → β} {as : List α}
    (hf : ∀ a ∈ as, f a = .ok (g a)) : as.mapM f = .ok (as.map g) := by
  induction as with
  | nil => rfl
  | cons a as ih =>
      obtain ⟨ha, has⟩ := List.forall_mem_cons.mp hf
      exact mapM_cons_eq_ok.mpr ⟨g a, as.map g, ha, ih has, rfl⟩

@[simp] theorem map_pure (f : α → β) (a : α) : (pure a : Outcome α).map f = pure (f a) := rfl

theorem reject_ne_ok (reason : Rejection) (a : α) : (reject reason : Outcome α) ≠ .ok a := by
  simp [reject]

/-! ## Failures of one kind -/

/-- However the call fails, its failure has the property `P`. -/
def FailsOnly (P : Failure → Prop) (x : Outcome α) : Prop :=
  ∀ failure, x = .error failure → P failure

section

variable {P : Failure → Prop}

theorem failsOnly_ok (a : α) : FailsOnly P (.ok a : Outcome α) := by
  intro failure hfailure
  cases hfailure

theorem failsOnly_error {failure : Failure} (hP : P failure) :
    FailsOnly P (.error failure : Outcome α) := by
  intro _ hfailure
  rwa [← Except.error.inj hfailure]

theorem FailsOnly.bind {x : Outcome α} {f : α → Outcome β} (hx : FailsOnly P x)
    (hf : ∀ a, x = .ok a → FailsOnly P (f a)) : FailsOnly P (x >>= f) := by
  intro failure hfailure
  rcases bind_eq_error.mp hfailure with hfirst | ⟨a, ha, hlater⟩
  · exact hx failure hfirst
  · exact hf a ha failure hlater

end

end Outcome

namespace Checked

variable {α β : Type}

theorem orInvalid_eq_ok {title : String} {check : Checked α} {a : α} :
    check.orInvalid title = .ok a ↔ check = .valid a := by
  cases check <;> simp [orInvalid]

theorem map_eq_valid {check : Checked α} {f : α → β} {b : β} :
    f <$> check = .valid b ↔ ∃ a, check = .valid a ∧ f a = b := by
  cases check <;> simp [Functor.map, Checked.map]

theorem seq_eq_valid {check : Checked (α → β)} {other : Checked α} {b : β} :
    check <*> other = .valid b ↔
      ∃ f a, check = .valid f ∧ other = .valid a ∧ f a = b := by
  cases check <;> cases other <;> simp [Seq.seq, both]

theorem within_eq_valid {place : Place} {check : Checked α} {a : α} :
    check.within place = .valid a ↔ check = .valid a := by
  cases check <;> simp [within]

theorem andThen_eq_valid {check : Checked α} {next : α → Checked β} {b : β} :
    check.andThen next = .valid b ↔ ∃ a, check = .valid a ∧ next a = .valid b := by
  cases check <;> simp [andThen]

theorem each_eq_valid {check : α → Checked β} {start : Nat} {as : List α} {bs : List β}
    (hbs : each check start as = .valid bs) :
    List.Forall₂ (fun a b => check a = .valid b) as bs := by
  induction as generalizing start bs with
  | nil =>
      obtain rfl := valid.inj hbs
      exact .nil
  | cons a as ih =>
      unfold each at hbs
      obtain ⟨_, others, hfirst, hothers, rfl⟩ := seq_eq_valid.mp hbs
      obtain ⟨b, hb, rfl⟩ := map_eq_valid.mp hfirst
      exact .cons (within_eq_valid.mp hb) (ih hothers)

end Checked

end SqlBuilder
