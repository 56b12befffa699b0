import SqlBuilder.Rejection
import SqlBuilder.Validation.Checked

/-!
# How a call fails

Besides its own rejections and the issues of a check, a call fails where a value is of a type that
the operation has no meaning for, where a callback raises, and where a driver refuses a statement.
-/

namespace SqlBuilder

inductive Failure
  /-- The library rejects what it was given. -/
  | rejected (reason : Rejection)
  /-- A record cannot be made from its fields. -/
  | invalid (title : String) (issues : List Issue)
  /-- A value is of a type that the operation is not defined on. -/
  | unfit
  /-- Two numbers have no order. -/
  | unordered
  /-- A value lacks the operation that is asked of it. -/
  | lacking
  /-- A value is not one of those allowed. -/
  | unlisted
  /-- A structured value is bound to a name that a statement does not use. -/
  | unusedBind
  /-- A statement cannot be sent with the values given for it. -/
  | unsendable
  /-- A URL cannot be read. -/
  | unreadableUrl
  /-- No driver or plugin goes by the name in a URL. -/
  | unknownDriver
  /-- What a driver needs is not there. -/
  | missingModule
  /-- No connection became free. -/
  | exhausted
  /-- Raised by a callback. -/
  | raised (message : String)
  /-- Raised by a driver. -/
  | driver (message : String)
  deriving Repr

/-- The result of a call that may fail. -/
abbrev Outcome (α : Type) := Except Failure α

namespace Checked

/-- A check of the fields of the record shape `title`. -/
def orInvalid {α : Type} (title : String) : Checked α → Outcome α
  | valid a => .ok a
  | faulty issues => .error (.invalid title issues)

end Checked

namespace Outcome

/-- A result, or the failure `failure` if there is none. -/
def ofOption {α : Type} (failure : Failure) : Option α → Outcome α
  | some a => .ok a
  | none => .error failure

def reject {α : Type} (reason : Rejection) : Outcome α := .error (.rejected reason)

/-- The text of a value whose parts are to be replaced. Octets, dates and times replace parts of
their own kind only, and other values have none. -/
def textToReplaceIn (v : Value) : Outcome String :=
  match v with
  | .text s => .ok s
  | .ownText t => .ok t.text
  | .bytes _ | .moment _ | .day _ | .clock _ | .typeName .text | .typeName .bytes
  | .typeName .moment | .typeName .day => .error .unfit
  | _ => .error .lacking

end Outcome

end SqlBuilder
