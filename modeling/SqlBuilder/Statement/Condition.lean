import SqlBuilder.Statement.Basic
import SqlBuilder.Statement.Draft
import SqlBuilder.Statement.Identifier

/-!
# Conditions

Each filter is written as one condition. Values are bound, but the right-hand side of `IS` is
written out, and membership in an empty list is a condition without column or values. Conditions
are chained from left to right and never grouped.
-/

namespace SqlBuilder

/-- The right-hand side of `IS` and `IS NOT`. -/
def writtenOut : Value → String
  | .null => "NULL"
  | .bool b => if b then "TRUE" else "FALSE"
  | v => v.plain

namespace Filter

/-- Whether a filter asks for membership in a list. -/
def asksMembership (f : Filter) : Bool := f.operator = .isIn || f.operator = .notIn

/-- The condition of a filter. -/
def condition (quoting : Bool) (f : Filter) : Outcome Draft :=
  let start := Identifier.written quoting f.column ++ " " ++ f.operator.word ++ " "
  match f.operator with
  | .isIn | .notIn => match f.value.listed? with
    | none => Outcome.reject (.invalidFilter (.text f.column)
        (.text (f.operator.word ++ " needs a list of values, got " ++ f.value.shown)))
    | some [] => .ok [.text (if f.operator = .isIn then "1=0" else "1=1")]
    | some vs => .ok (.text start :: Draft.enclosed vs)
  | .is | .isNot => .ok [.text (start ++ writtenOut f.value)]
  | .eq | .ne | .gt | .lt | .gte | .lte | .like | .ilike => .ok [.text start, .bound f.value]

/-- The values a filter binds. -/
def bound (f : Filter) : List Value :=
  match f.operator with
  | .isIn | .notIn => f.value.listed?.getD []
  | .is | .isNot => []
  | .eq | .ne | .gt | .lt | .gte | .lte | .like | .ilike => [f.value]

/-- Whether a filter can be written as a condition. -/
def isWritable (f : Filter) : Bool := !f.asksMembership || f.value.listed?.isSome

end Filter

namespace Filters

/-- The filters after the first, each with its connective. -/
def rest (quoting : Bool) : List Filter → Outcome Draft
  | [] => .ok []
  | f :: fs => do
    let condition ← f.condition quoting
    return .text (" " ++ f.connective.word ++ " ") :: (condition ++ (← rest quoting fs))

/-- The filters one after the other; the connective of the first is not written. -/
def chained (quoting : Bool) : List Filter → Outcome Draft
  | [] => .ok []
  | f :: fs => do
    let condition ← f.condition quoting
    return condition ++ (← rest quoting fs)

/-- The clause that the filters make, if there are any. -/
def whereClause (quoting : Bool) (filters : List Filter) : Outcome Draft :=
  if filters.isEmpty then .ok []
  else do return .text " WHERE " :: (← chained quoting filters)

/-- The values bound before a filter is met that cannot be written. -/
def boundUntilFailure (filters : List Filter) : List Value :=
  (filters.takeWhile Filter.isWritable).flatMap Filter.bound

end Filters

end SqlBuilder
