import SqlBuilder.Statement.Condition

/-!
# Writing into a statement under way

A statement under way has a list of the values that are bound so far. A value that is met goes to
its end, and its mark is the number of the place where it went. A condition that cannot be written
binds nothing itself and leaves the values of those before it on the list.
-/

namespace SqlBuilder

/-- Text, or the mark of a value that was bound. -/
inductive Emitted
  | text (s : String)
  | mark (n : Nat)
  deriving DecidableEq

namespace Emitted

def sql : Emitted → String
  | text s => s
  | mark n => Draft.mark n

/-- What was emitted, as one text. -/
def joined (es : List Emitted) : String := String.join (es.map sql)

/-- Parts with a blank between each and the next. -/
def spaced (parts : List (List Emitted)) : List Emitted := [text " "].intercalate parts

/-- Text as it is, and the mark that is `k` further on. -/
def shifted (k : Nat) : Emitted → Emitted
  | text s => text s
  | mark n => mark (k + n)

end Emitted

/-- Writing with a list of bound values, which remains if it fails. -/
abbrev Writing (α : Type) := ExceptT Failure (StateM (List Value)) α

namespace Writing

/-- What comes of writing into a statement with the values `vs`, and its values afterwards. -/
def onto {α : Type} (w : Writing α) (vs : List Value) : Outcome α × List Value := w.run.run vs

/-- A value is bound, for which its mark is written. -/
def bound (v : Value) : Writing Emitted := do
  modify (· ++ [v])
  return .mark (← get).length

variable {α β : Type}

@[simp] theorem onto_pure (a : α) (vs : List Value) : (pure a : Writing α).onto vs = (.ok a, vs) :=
  rfl

@[simp] theorem onto_bound (v : Value) (vs : List Value) :
    (bound v).onto vs = (.ok (.mark (vs.length + 1)), vs ++ [v]) := by
  have hend : (bound v).onto vs = (.ok (.mark (vs ++ [v]).length), vs ++ [v]) := rfl
  rw [hend, List.length_append, List.length_singleton]

theorem onto_bind (w : Writing α) (f : α → Writing β) (vs : List Value) :
    (w >>= f).onto vs = match w.onto vs with
      | (.ok a, us) => (f a).onto us
      | (.error failure, us) => (.error failure, us) := by
  unfold onto
  rw [ExceptT.run_bind, StateT.run_bind]
  match w.run.run vs with
  | (.ok a, us) => rfl
  | (.error failure, us) => rfl

end Writing

namespace Draft

/-- A draft is written piece by piece. -/
def emitted : Draft → Writing (List Emitted)
  | [] => return []
  | .text s :: d => return .text s :: (← emitted d)
  | .bound v :: d => do
    let mark ← Writing.bound v
    return mark :: (← emitted d)

end Draft

/-- The condition of a filter, in a statement under way. -/
def Filter.emitted (quoting : Bool) (f : Filter) : Writing (List Emitted) := do
  (← f.condition quoting).emitted

namespace Filters

/-- A part for each filter. The connective of the first one is not written. -/
def parts (quoting : Bool) : (first : Bool) → List Filter → Writing (List (List Emitted))
  | _, [] => return []
  | first, f :: fs => do
    let condition ← f.emitted quoting
    let part := if first then condition else .text (f.connective.word ++ " ") :: condition
    return part :: (← parts quoting false fs)

/-- The clause that the filters make in a statement under way, if there are any. -/
def emitted (quoting : Bool) (filters : List Filter) : Writing (List Emitted) :=
  if filters.isEmpty then return []
  else do return .text " WHERE " :: Emitted.spaced (← parts quoting true filters)

end Filters

end SqlBuilder
