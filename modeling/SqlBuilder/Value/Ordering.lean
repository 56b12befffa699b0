import SqlBuilder.Failure
import SqlBuilder.Value.Equality

/-!
# Sorting values

Numbers, texts, octets, tuples, dates, times and UUIDs are ordered among their own kind, and
values of different kinds cannot be compared. A NaN comes before nothing and after nothing; where
one of the two numbers is a decimal, there is no such answer and the comparison fails.
-/

namespace SqlBuilder.Value

def lessOctets : List UInt8 → List UInt8 → Bool
  | _, [] => false
  | [], _ :: _ => true
  | a :: as, b :: bs => a < b || (a == b && lessOctets as bs)

def isDecimal : Value → Bool
  | decimal _ => true
  | _ => false

/-- Whether a number comes before another one. -/
def lessNumber (v w : Value) : Outcome Bool :=
  match v.number?, w.number? with
  | some x, some y =>
    if (v.isDecimal || w.isDecimal) && (x = .nan || y = .nan) then .error .unordered
    else .ok (x.less y)
  | _, _ => .error .unfit

mutual

/-- Whether the first value comes before the second. -/
def less : Value → Value → Outcome Bool
  | text s, text t => .ok (s < t)
  | bytes a, bytes b => .ok (lessOctets a b)
  | tuple xs, tuple ys => lessItems xs ys
  | moment m, moment n =>
    if m.time.offset.isSome = n.time.offset.isSome then .ok (m.instant < n.instant)
    else .error .unfit
  | day d, day e => .ok (d.ordinal < e.ordinal)
  | clock s, clock t =>
    if s.offset.isSome = t.offset.isSome then .ok (s.instant < t.instant) else .error .unfit
  | uuid m, uuid n => .ok (m < n)
  | frozenSet xs, frozenSet ys => .ok (xs.length < ys.length && allAmong xs ys)
  | v, w => match v.text?, w.text? with
    | some s, some t => .ok (s < t)
    | _, _ => lessNumber v w

/-- The first items that differ decide, then the lengths. -/
def lessItems : List Value → List Value → Outcome Bool
  | _, [] => .ok false
  | [], _ :: _ => .ok true
  | x :: xs, y :: ys => if x.equals y then lessItems xs ys else x.less y

end

/-! ## Sorting

The run at the front that is in order, or strictly against it, is kept or reversed; every other
value is put in its place among those before it, by halving. Where the order is total the result is
the one sorted list in which equal values keep their places; where it is not, as with a NaN, what is
compared with what decides.
-/

/-- The values as long as none comes before the one in front of it, and the rest. -/
def ascending (last : Value) : List Value → Outcome (List Value × List Value)
  | [] => .ok ([], [])
  | w :: ws => do
    if ← w.less last then return ([], w :: ws)
    let (run, rest) ← ascending w ws
    return (w :: run, rest)

/-- The values as long as each comes before the one in front of it, and the rest. -/
def descending (last : Value) : List Value → Outcome (List Value × List Value)
  | [] => .ok ([], [])
  | w :: ws => do
    if !(← w.less last) then return ([], w :: ws)
    let (run, rest) ← descending w ws
    return (w :: run, rest)

/-- The run at the front, in order, and the rest. -/
def firstRun : List Value → Outcome (List Value × List Value)
  | [] => .ok ([], [])
  | [v] => .ok ([v], [])
  | v :: w :: ws => do
    if ← w.less v then
      let (run, rest) ← descending w ws
      return (run.reverse ++ [w, v], rest)
    let (run, rest) ← ascending w ws
    return (v :: w :: run, rest)

/-- The place for `v` between `low` and `high`, behind all that it does not come before. -/
def place (v : Value) (done : List Value) (low high : Nat) : Outcome Nat :=
  if low < high then do
    let middle := low + (high - low) / 2
    if ← v.less (done[middle]?.getD v) then place v done low middle
    else place v done (middle + 1) high
  else .ok low
termination_by high - low

def insertSorted (done : List Value) (v : Value) : Outcome (List Value) := do
  let n ← place v done 0 done.length
  return done.take n ++ v :: done.drop n

/-- The values in order, unless a comparison fails. -/
def sorted (vs : List Value) : Outcome (List Value) := do
  let (run, rest) ← firstRun vs
  rest.foldlM insertSorted run

end SqlBuilder.Value
