import SqlBuilder.Number.FloatText
import SqlBuilder.Text.Quoted
import SqlBuilder.Value.Basic
import SqlBuilder.Vocabulary

/-!
# Values as messages show them

The shown form names the type of everything but numbers, texts and plain collections. The plain
text of a value, used where a value stands in the middle of a sentence or a statement, drops the
quotes of a text and the type of a date, a UUID and a decimal.
-/

namespace SqlBuilder

/-- The parts of a shown form, separated by commas. -/
def commaSeparated (parts : List String) : String := ", ".intercalate parts

/-- A member of a vocabulary. -/
def shownMember {α : Type} [Vocabulary α] (m : α) : String :=
  "<" ++ Vocabulary.title α ++ "." ++ Vocabulary.label m ++ ": " ++ Text.shown (Vocabulary.word m)
    ++ ">"

/-- A text that names a member of a vocabulary is shown as that member. -/
def shownWord (α : Type) [Vocabulary α] : Value → Option String
  | .text s => (Vocabulary.ofWord? (α := α) s).map shownMember
  | _ => none

namespace TypeName

def shown (t : TypeName) : String := "<class '" ++ t.home ++ t.shortName ++ "'>"

end TypeName

namespace TimeOfDay

/-- An offset from UTC as days and seconds, the seconds never negative. -/
def shownZone (seconds : Int) : String :=
  if seconds = 0 then "datetime.timezone.utc"
  else
    let days := seconds.fdiv 86400
    let rest := seconds.fmod 86400
    let parts := (if days = 0 then [] else ["days=" ++ toString days])
      ++ (if rest = 0 then [] else ["seconds=" ++ toString rest])
    "datetime.timezone(datetime.timedelta(" ++ commaSeparated parts ++ "))"

/-- Hours and minutes, then seconds and microseconds as far as they are not zero, then the zone. -/
def shownParts (t : TimeOfDay) : List String :=
  [toString t.hour, toString t.minute]
    ++ (if t.second = 0 ∧ t.microsecond = 0 then [] else [toString t.second])
    ++ (if t.microsecond = 0 then [] else [toString t.microsecond])
    ++ (t.offset.map fun seconds => "tzinfo=" ++ shownZone seconds).toList

end TimeOfDay

namespace Date

def shownParts (d : Date) : List String := [toString d.year, toString d.month, toString d.day]

end Date

/-- Thirty-two hexadecimal digits in groups of 8, 4, 4, 4 and 12. -/
def uuidText (n : Nat) : String :=
  let digits := Number.paddedDigits 16 32 n
  let group (start size : Nat) : String := String.ofList ((digits.drop start).take size)
  "-".intercalate [group 0 8, group 8 4, group 12 4, group 16 4, group 20 12]

/-- Texts as a tuple. -/
def shownTuple : List String → String
  | [s] => "(" ++ Text.shown s ++ ",)"
  | ss => "(" ++ commaSeparated (ss.map Text.shown) ++ ")"

/-- A type of a primitive kind. -/
def PrimitiveKind.shownType (kind : PrimitiveKind) : String :=
  "PrimitiveType(brand='primitive', kind=" ++ shownMember kind ++ ")"

namespace ColumnType

def shownFields : ColumnType → List String
  | bare => []
  | primitive kind => ["brand='primitive'", "kind=" ++ shownMember kind]
  | json => ["brand='json'"]
  | uuid => ["brand='uuid'"]
  | enumerated values => ["brand='enum'", "values=" ++ shownTuple values]
  | array item => ["brand='array'", "item_type=" ++ item.shownType]

def shown (t : ColumnType) : String :=
  t.typeName.shortName ++ "(" ++ commaSeparated t.shownFields ++ ")"

end ColumnType

namespace RecordKind

/-- The fields of a record that are members of a vocabulary are shown as such. -/
def shownField (kind : RecordKind) (field : String) (v : Value) : Option String :=
  match kind, field with
  | filter, "connective" => shownWord Connective v
  | filter, "operator" => shownWord FilterOperator v
  | join, "kind" => shownWord JoinKind v
  | statement, "operation" => shownWord Operation v
  | _, _ => none

/-- A column's default is shown even if none was given. -/
def shownMissing (kind : RecordKind) (fields : List (String × Value)) : List String :=
  match kind with
  | columnDefinition => if fields.any (·.1 == "default") then [] else ["default=None"]
  | filter | join | statement | queryResult => []

end RecordKind

namespace Value

mutual

/-- The form of a value in messages. -/
def shown : Value → String
  | null => "None"
  | bool b => if b then "True" else "False"
  | int n => toString n
  | float x => x.text
  | text s => Text.shown s
  | ownText t => t.shown
  | bytes octets => Text.shownOctets octets
  | list items => "[" ++ commaSeparated (shownItems items) ++ "]"
  | tuple [item] => "(" ++ item.shown ++ ",)"
  | tuple items => "(" ++ commaSeparated (shownItems items) ++ ")"
  | set [] => "set()"
  | set items => "\x7b" ++ commaSeparated (shownItems items) ++ "\x7d"
  | frozenSet [] => "frozenset()"
  | frozenSet items => "frozenset(\x7b" ++ commaSeparated (shownItems items) ++ "\x7d)"
  | dict entries => "\x7b" ++ commaSeparated (shownEntries entries) ++ "\x7d"
  | moment m =>
    "datetime.datetime(" ++ commaSeparated (m.date.shownParts ++ m.time.shownParts) ++ ")"
  | day d => "datetime.date(" ++ commaSeparated d.shownParts ++ ")"
  | clock t => "datetime.time(" ++ commaSeparated t.shownParts ++ ")"
  | uuid n => "UUID('" ++ uuidText n ++ "')"
  | decimal d => "Decimal('" ++ d.text ++ "')"
  | typeName t => t.shown
  | handle name _ => "<" ++ name ++ ">"
  | columnType t => t.shown
  | record kind fields =>
    kind.title ++ "("
      ++ commaSeparated (shownFields kind fields ++ kind.shownMissing fields) ++ ")"

def shownItems : List Value → List String
  | [] => []
  | v :: vs => v.shown :: shownItems vs

def shownEntries : List (Value × Value) → List String
  | [] => []
  | (k, v) :: entries => (k.shown ++ ": " ++ v.shown) :: shownEntries entries

def shownFields (kind : RecordKind) : List (String × Value) → List String
  | [] => []
  | (field, v) :: fields =>
    (field ++ "=" ++ (kind.shownField field v).getD v.shown) :: shownFields kind fields

end

/-- The text of a value in the middle of a sentence or a statement. -/
def plain : Value → String
  | text s => s
  | ownText t => t.printed
  | moment m => m.textWith " "
  | day d => d.text
  | clock t => t.text
  | uuid n => uuidText n
  | decimal d => d.text
  | columnType t => " ".intercalate t.shownFields
  | record kind fields => " ".intercalate (shownFields kind fields ++ kind.shownMissing fields)
  | v => v.shown

end Value

end SqlBuilder
