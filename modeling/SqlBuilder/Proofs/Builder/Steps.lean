import SqlBuilder.Builder.Change

/-!
# What a change can do

A change that is carried out changes one part of a builder, but for a write,
which is captured with its operation.  A change that is refused leaves the
builder as it is, with two exceptions: a write has become the operation, and
conditions have been added up to the first at fault.
-/

namespace SqlBuilder

namespace Builder

/-- What a change can make of a builder. -/
inductive Step (b : Builder) : Change → Builder → Prop
  | refused {c : Change} : Step b c b
  | selected {columns : List Value} : Step b (.select columns) { b with projection := columns }
  | inserted {data payload : Value} (data_fits : insertedPayload b.table data = .ok payload) :
      Step b (.insert data) { b with operation := .insert, payload, returning := true }
  | insertRefused {data : Value} : Step b (.insert data) { b with operation := .insert }
  | updated {data payload : Value} (data_fits : updatedPayload b.table data = .ok payload) :
      Step b (.update data) { b with operation := .update, payload, returning := true }
  | updateRefused {data : Value} : Step b (.update data) { b with operation := .update }
  | deleted : Step b .delete { b with operation := .delete, returning := true }
  | joined {kind : JoinKind} {table left operator right : Value} {j : Join}
      (made : Join.on kind table left operator right = .ok j) :
      Step b (.join kind table left operator right) { b with joins := b.joins ++ [j] }
  | filtered {connective : Connective} {conditions : Value} {named : Fields} {added : List Filter}
      (made : ∀ f ∈ added, ∃ column v fs,
        Conditions.ofEntry connective column v = .ok fs ∧ f ∈ fs) :
      Step b (.filter connective conditions named) { b with filters := b.filters ++ added }
  | limited {v : Value} {n : Nat} : Step b (.limit v) { b with limit := some n }
  | skipped {v : Value} {n : Nat} : Step b (.offset v) { b with offset := some n }

/-- Conditions are added to the filters, and nothing else is done to the builder. -/
theorem exists_addEntries
    (connective : Connective) (entries : List (Value × Value)) (b : Builder) :
    ∃ added,
      (addEntries connective entries b).builder = { b with filters := b.filters ++ added } ∧
      ∀ f ∈ added, ∃ column v fs, Conditions.ofEntry connective column v = .ok fs ∧ f ∈ fs := by
  induction entries generalizing b with
  | nil => exact ⟨[], by simp [addEntries], by simp⟩
  | cons entry entries ih =>
      obtain ⟨column, v⟩ := entry
      unfold addEntries
      split
      next fs hfs =>
        obtain ⟨added, hadded, hmade⟩ := ih { b with filters := b.filters ++ fs }
        refine ⟨fs ++ added, by rw [hadded, ← List.append_assoc], ?_⟩
        intro f hf
        rcases List.mem_append.mp hf with hf | hf
        · exact ⟨column, v, fs, hfs, hf⟩
        · exact hmade f hf
      next => exact ⟨[], by simp [unchanged], by simp⟩

theorem step_change
    (b : Builder) (c : Change) : b.Step c (b.change c).builder := by
  cases c with
  | select columns => exact .selected
  | insert data =>
      unfold change write
      simp only
      split
      next hpayload => exact .inserted hpayload
      next => exact .insertRefused
  | update data =>
      unfold change write
      simp only
      split
      next hpayload => exact .updated hpayload
      next => exact .updateRefused
  | delete => exact .deleted
  | join kind table left operator right =>
      unfold change
      simp only
      split
      next hj => exact .joined hj
      next => exact .refused
  | filter connective conditions named =>
      unfold change
      simp only
      split
      next entries _ =>
        obtain ⟨added, hadded, hmade⟩ := exists_addEntries connective entries b
        rw [hadded]
        exact .filtered hmade
      next => exact .refused
  | limit v =>
      unfold change
      simp only
      split
      next => exact .limited
      next => exact .refused
  | offset v =>
      unfold change
      simp only
      split
      next => exact .skipped
      next => exact .refused

end Builder

end SqlBuilder
