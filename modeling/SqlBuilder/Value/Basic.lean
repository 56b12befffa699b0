import SqlBuilder.Number.Decimal
import SqlBuilder.Schema.ColumnType
import SqlBuilder.Value.Calendar

/-!
# Host values

What a caller hands in is not known in advance: names, records, conditions, defaults and bound
values are all host values, and what they may be is decided where they are used.
-/

namespace SqlBuilder

/-- The library's record shapes. -/
inductive RecordKind
  | columnDefinition
  | filter
  | join
  | statement
  | queryResult
  deriving DecidableEq, Repr

/-- A type, itself used as a value. -/
inductive TypeName
  | integer
  | text
  | boolean
  | floating
  | mapping
  | sequence
  | tuple
  | set
  | bytes
  | anything
  | moment
  | day
  | uuid
  | decimal
  | columnType
  | primitiveType
  | jsonType
  | uuidType
  | enumType
  | arrayType
  | record (kind : RecordKind)
  deriving DecidableEq, Repr

/-- A text of a type of the caller's own, such as a member of an enumeration of texts. It equals its
text and is read as that text, but its type decides how it is printed and shown. -/
structure OwnText where
  typeName : String
  text : String
  printed : String
  shown : String
  deriving DecidableEq, Repr

/-- A host value. Mappings keep their insertion order. A handle is an object known only by name, and
by the text that it claims to equal if there is one. -/
inductive Value
  | null
  | bool (b : Bool)
  | int (n : Int)
  | float (x : Binary64)
  | text (s : String)
  | ownText (t : OwnText)
  | bytes (octets : List UInt8)
  | list (items : List Value)
  | tuple (items : List Value)
  | set (items : List Value)
  | frozenSet (items : List Value)
  | dict (entries : List (Value × Value))
  | moment (m : DateTime)
  | day (d : Date)
  | clock (t : TimeOfDay)
  | uuid (n : Nat)
  | decimal (d : Decimal)
  | typeName (t : TypeName)
  | handle (name : String) (equalTo : Option String)
  | columnType (t : ColumnType)
  | record (kind : RecordKind) (fields : List (String × Value))
  deriving Repr

instance : Inhabited Value := ⟨.null⟩

namespace RecordKind

/-- The name of a record shape in messages. -/
def title : RecordKind → String
  | columnDefinition => "ColumnDefinition"
  | filter => "FilterClause"
  | join => "JoinClause"
  | statement => "StatementState"
  | queryResult => "QueryResult"

end RecordKind

namespace ColumnType

/-- The type of a column type. -/
def typeName : ColumnType → TypeName
  | bare => .columnType
  | primitive _ => .primitiveType
  | json => .jsonType
  | uuid => .uuidType
  | enumerated _ => .enumType
  | array _ => .arrayType

end ColumnType

namespace TypeName

/-- The short name of a type. -/
def shortName : TypeName → String
  | integer => "int"
  | text => "str"
  | boolean => "bool"
  | floating => "float"
  | mapping => "dict"
  | sequence => "list"
  | tuple => "tuple"
  | set => "set"
  | bytes => "bytes"
  | anything => "object"
  | moment => "datetime"
  | day => "date"
  | uuid => "UUID"
  | decimal => "Decimal"
  | columnType => "ColumnType"
  | primitiveType => "PrimitiveType"
  | jsonType => "JsonType"
  | uuidType => "UuidType"
  | enumType => "EnumType"
  | arrayType => "ArrayType"
  | record kind => kind.title

/-- The place a type is declared in, where its name is shown with one. -/
def home : TypeName → String
  | integer | text | boolean | floating | mapping | sequence | tuple | set | bytes | anything => ""
  | moment | day => "datetime."
  | uuid => "uuid."
  | decimal => "decimal."
  | columnType | primitiveType | jsonType | uuidType | enumType | arrayType
  | record .columnDefinition => "pawql.schema.columns."
  | record _ => "pawql.core.types."

def all : List TypeName :=
  [integer, text, boolean, floating, mapping, sequence, tuple, set, bytes, anything, moment, day,
    uuid, decimal, columnType, primitiveType, jsonType, uuidType, enumType, arrayType,
    record .columnDefinition, record .filter, record .join, record .statement,
    record .queryResult]

def ofShortName? (s : String) : Option TypeName := all.find? fun t => t.shortName == s

/-- Whether a type is one of the library's own record or column types. -/
def isOwn : TypeName → Bool
  | columnType | primitiveType | jsonType | uuidType | enumType | arrayType | record _ => true
  | _ => false

end TypeName

namespace Value

/-- The name of a value's type in messages. -/
def kindName : Value → String
  | null => "NoneType"
  | bool _ => TypeName.boolean.shortName
  | int _ => TypeName.integer.shortName
  | float _ => TypeName.floating.shortName
  | text _ => TypeName.text.shortName
  | ownText t => t.typeName
  | bytes _ => TypeName.bytes.shortName
  | list _ => TypeName.sequence.shortName
  | tuple _ => TypeName.tuple.shortName
  | set _ => TypeName.set.shortName
  | frozenSet _ => "frozenset"
  | dict _ => TypeName.mapping.shortName
  | moment _ => TypeName.moment.shortName
  | day _ => TypeName.day.shortName
  | clock _ => "time"
  | uuid _ => TypeName.uuid.shortName
  | decimal _ => TypeName.decimal.shortName
  | typeName t => if t.isOwn then "ModelMetaclass" else "type"
  | handle .. => "Opaque"
  | columnType t => t.typeName.shortName
  | record kind _ => kind.title

/-- Nothing, zero and whatever is empty count as not given. -/
def isTruthy : Value → Bool
  | null => false
  | bool b => b
  | int n => n != 0
  | float x => !x.isZero
  | text s => !s.isEmpty
  | ownText t => !t.text.isEmpty
  | bytes b => !b.isEmpty
  | list xs | tuple xs | set xs | frozenSet xs => !xs.isEmpty
  | dict entries => !entries.isEmpty
  | decimal d => !d.isZero
  | moment _ | day _ | clock _ | uuid _ | typeName _ | handle .. | columnType _ | record .. => true

/-- `fallback` in place of a value that counts as not given. -/
def orElse (v fallback : Value) : Value := if v.isTruthy then v else fallback

/-- A list of texts. -/
def texts (xs : List String) : Value := list (xs.map text)

end Value

end SqlBuilder
