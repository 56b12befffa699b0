import SqlBuilder.Validation.Issue

/-!
# Checks that report every fault

A check gives a result or a list of issues. Checks of independent parts are run side by side, so
the issues of all parts are reported, in order.
-/

namespace SqlBuilder

/-- The result of a check. -/
inductive Checked (α : Type)
  | valid (a : α)
  | faulty (issues : List Issue)
  deriving Repr

namespace Checked

variable {α β : Type}

def map (f : α → β) : Checked α → Checked β
  | valid a => valid (f a)
  | faulty issues => faulty issues

/-- Both parts are checked; the issues of the first come first. -/
def both (f : Checked (α → β)) (a : Checked α) : Checked β :=
  match f, a with
  | valid f, valid a => valid (f a)
  | valid _, faulty issues => faulty issues
  | faulty issues, valid _ => faulty issues
  | faulty first, faulty rest => faulty (first ++ rest)

instance : Applicative Checked where
  pure := valid
  map := map
  seq f a := both f (a ())

/-- The check `next` on a valid result. -/
def andThen (a : Checked α) (next : α → Checked β) : Checked β :=
  match a with
  | valid a => next a
  | faulty issues => faulty issues

/-- A single fault of the whole value. -/
def fail (fault : Fault) : Checked α := faulty [⟨[], fault⟩]

/-- The issues of a part, seen from the whole. -/
def within (place : Place) : Checked α → Checked α
  | valid a => valid a
  | faulty issues => faulty (issues.map fun issue => { issue with path := place :: issue.path })

/-- Every element checked, with its index. -/
def each (check : α → Checked β) : (start : Nat) → List α → Checked (List β)
  | _, [] => valid []
  | start, a :: as =>
    List.cons <$> (check a).within (.at start) <*> each check (start + 1) as

end Checked

end SqlBuilder
