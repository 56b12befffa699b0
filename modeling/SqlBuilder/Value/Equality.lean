import SqlBuilder.Failure
import SqlBuilder.Value.Fields

/-!
# Equality of values and keys of mappings

Numbers of every type are equal when their values are; a NaN differs from everything. A text of the
caller's own type equals its text. Keys of a mapping and members of a set must not be changeable, so
lists, sets and mappings are refused, and so are objects with an equality of their own.
-/

namespace SqlBuilder

/-- The exact value of a number. -/
inductive Exact
  | quotient (num : Int) (den : Nat)
  | infinite (negative : Bool)
  | nan
  deriving DecidableEq, Repr

namespace Exact

def signed (negative : Bool) (size : Nat × Nat) : Exact :=
  quotient (if negative then -(size.1 : Int) else size.1) size.2

def equals : Exact → Exact → Bool
  | quotient a b, quotient c d => a * d == c * b
  | infinite m, infinite n => m == n
  | _, _ => false

def less : Exact → Exact → Bool
  | quotient a b, quotient c d => a * d < c * b
  | quotient .., infinite n => !n
  | infinite m, quotient .. => m
  | infinite m, infinite n => m && !n
  | _, _ => false

end Exact

namespace TimeOfDay

/-- Microseconds since midnight in UTC; without an offset, by the clock on the wall. -/
def instant (t : TimeOfDay) : Int := t.microseconds - t.offset.getD 0 * 1000000

def equals (s t : TimeOfDay) : Bool :=
  s.offset.isSome == t.offset.isSome && s.instant == t.instant

end TimeOfDay

namespace DateTime

/-- Microseconds since the start of the calendar in UTC; without an offset, by the clock on the
wall. -/
def instant (m : DateTime) : Int := m.wallMicroseconds - m.time.offset.getD 0 * 1000000

def equals (m n : DateTime) : Bool :=
  m.time.offset.isSome == n.time.offset.isSome && m.instant == n.instant

end DateTime

namespace Value

/-- The exact value of a number of any type. -/
def number? : Value → Option Exact
  | bool b => some (.quotient (if b then 1 else 0) 1)
  | int n => some (.quotient n 1)
  | float (.finite negative m e) => some (.signed negative (Binary64.quotient m e))
  | float (.infinite negative) => some (.infinite negative)
  | float .nan => some .nan
  | decimal (.finite negative c e) => some (.signed negative (Decimal.quotient c e))
  | decimal (.infinite negative) => some (.infinite negative)
  | decimal (.nan ..) => some .nan
  | _ => none

def sameNumber (v w : Value) : Bool :=
  match v.number?, w.number? with
  | some x, some y => x.equals y
  | _, _ => false

/-- Whether two values equal one text, at least one of them being a text. Two mentions of a handle
are two objects. -/
def sameText (v w : Value) : Bool :=
  match v.equalText?, w.equalText? with
  | some s, some t => s == t && (v.text?.isSome || w.text?.isSome)
  | _, _ => false

mutual

/-- Whether two values are equal. -/
def equals : Value → Value → Bool
  | null, null => true
  | text s, text t => s == t
  | bytes a, bytes b => a == b
  | list xs, list ys => equalItems xs ys
  | tuple xs, tuple ys => equalItems xs ys
  | set xs, set ys | set xs, frozenSet ys | frozenSet xs, set ys | frozenSet xs, frozenSet ys =>
    xs.length == ys.length && allAmong xs ys
  | dict xs, dict ys => xs.length == ys.length && allEntriesAmong xs ys
  | moment m, moment n => m.equals n
  | day d, day e => d == e
  | clock s, clock t => s.equals t
  | uuid m, uuid n => m == n
  | typeName s, typeName t => s == t
  | columnType s, columnType t => s == t
  | record k xs, record l ys => k == l && equalFields xs ys
  | v, w => sameNumber v w || sameText v w

def equalItems : List Value → List Value → Bool
  | [], [] => true
  | x :: xs, y :: ys => x.equals y && equalItems xs ys
  | _, _ => false

def allAmong : List Value → List Value → Bool
  | [], _ => true
  | x :: xs, ys => ys.any (fun y => x.equals y) && allAmong xs ys

def allEntriesAmong : List (Value × Value) → List (Value × Value) → Bool
  | [], _ => true
  | (k, v) :: entries, ys =>
    ys.any (fun entry => k.equals entry.1 && v.equals entry.2) && allEntriesAmong entries ys

/-- Records list their fields in one order; a missing last field counts as given with nothing. -/
def equalFields : List (String × Value) → List (String × Value) → Bool
  | (f, v) :: xs, (g, w) :: ys => f == g && v.equals w && equalFields xs ys
  | [(_, v)], [] => v.equals null
  | [], [(_, w)] => null.equals w
  | [], [] => true
  | _, _ => false

end

theorem equalText?_eq_none_of_number?
    {v : Value} (hv : v.number?.isSome = true) : v.equalText? = none := by
  cases v <;> first | rfl | simp [number?] at hv

/-- Values that are equal equal the same text, if one of them equals a text at all. -/
theorem equalText?_of_equals
    {v w : Value} (hequals : v.equals w = true) : v.equalText? = w.equalText? := by
  unfold equals at hequals
  split at hequals
  case h_2 => rw [beq_iff_eq.mp hequals]
  case h_18 =>
    rcases (Bool.or_eq_true _ _).mp hequals with hnumber | htext
    · unfold sameNumber at hnumber
      split at hnumber
      next x y hx hy =>
        rw [equalText?_eq_none_of_number? (hx ▸ rfl), equalText?_eq_none_of_number? (hy ▸ rfl)]
      next => cases hnumber
    · unfold sameText at htext
      split at htext
      next s t hs ht =>
        obtain ⟨hsame, -⟩ := (Bool.and_eq_true _ _).mp htext
        rw [hs, ht, beq_iff_eq.mp hsame]
      next => cases htext
  all_goals rfl

mutual

/-- Whether a value can be a key of a mapping. -/
def isHashable : Value → Bool
  | list _ | set _ | dict _ | record .queryResult _ => false
  | decimal (.nan _ signalling _) => !signalling
  | handle _ equalTo => equalTo.isNone
  | tuple items => allHashable items
  | record _ fields => allFieldsHashable fields
  | _ => true

def allHashable : List Value → Bool
  | [] => true
  | v :: vs => v.isHashable && allHashable vs

def allFieldsHashable : List (String × Value) → Bool
  | [] => true
  | (_, v) :: fields => v.isHashable && allFieldsHashable fields

end

end Value

/-! ## Mappings in insertion order -/

/-- The value of the entry with the key `key`. -/
def lookup? {α : Type} (entries : List (Value × α)) (key : Value) : Option α :=
  (entries.find? fun entry => entry.1.equals key).map (·.2)

/-- A new key goes last; a key already there keeps its place and takes the new value. -/
def putEntry {α : Type} (key : Value) (v : α) : List (Value × α) → List (Value × α)
  | [] => [(key, v)]
  | entry :: entries =>
    if entry.1.equals key then (entry.1, v) :: entries else entry :: putEntry key v entries

/-- The value of the field `name`. -/
def field? {α : Type} (fields : List (String × α)) (name : String) : Option α :=
  (fields.find? fun entry => entry.1 == name).map (·.2)

/-- A new field goes last; a field already there keeps its place and takes the new value. -/
def putField {α : Type} (name : String) (v : α) : List (String × α) → List (String × α)
  | [] => [(name, v)]
  | entry :: fields =>
    if entry.1 = name then (name, v) :: fields else entry :: putField name v fields

@[simp] theorem field?_nil {α : Type} (name : String) : field? ([] : List (String × α)) name = none :=
  rfl

theorem field?_putField_self {α : Type} (name : String) (v : α) (fields : List (String × α)) :
    field? (putField name v fields) name = some v := by
  induction fields with
  | nil => simp [putField, field?]
  | cons entry fields ih =>
    by_cases h : entry.1 = name
    · simp [putField, field?, h]
    · simpa [putField, field?, h] using ih

/-! ## Collecting values into mappings and sets -/

namespace Value

/-- A mapping of entries in the order they come. -/
def dictOf (entries : List (Value × Value)) : Outcome Value :=
  if entries.all fun entry => entry.1.isHashable then
    .ok (dict (entries.foldl (fun done (k, v) => putEntry k v done) []))
  else .error .unfit

/-- The distinct members of a set. -/
def members (items : List Value) : Outcome (List Value) :=
  if items.all isHashable then
    .ok (items.foldl (fun done v => if done.any (·.equals v) then done else done ++ [v]) [])
  else .error .unfit

def setOf (items : List Value) : Outcome Value := (members items).map set

def frozenSetOf (items : List Value) : Outcome Value := (members items).map frozenSet

end Value

end SqlBuilder
