import SqlBuilder.Failure
import SqlBuilder.Text.Quoted
import SqlBuilder.Value.Fields
import SqlBuilder.Value.Json

/-!
# Defaults as SQL literals

A default is written in the domain of its column: as a JSON document, as an array, or by what the
value itself is. A value that no literal stands for is rejected.
-/

namespace SqlBuilder.Literal

/-- A text between single quotes. -/
def quoted (s : String) : String := Text.quoted '\'' s

/-- A value of any type between single quotes, which has to be a text. -/
def quoted? (v : Value) : Outcome String := (Outcome.textToReplaceIn v).map quoted

/-- A JSON document as a text literal. -/
def json (v : Value) : Outcome String :=
  (v.jsonText?.map quoted).elim (.error .unfit) .ok

/-- A value as a literal by what it is. -/
def scalar (columnName : Value) (v : Value) : Outcome String :=
  match v with
  | .null => .ok "NULL"
  | .bool b => .ok (if b then "TRUE" else "FALSE")
  | .int n => .ok (toString n)
  | .float x => .ok x.text
  | .moment m => .ok (quoted m.text)
  | .day d => .ok (quoted d.text)
  | .text s => .ok (quoted s)
  | .ownText t => .ok (quoted t.printed)
  | .uuid n => .ok (quoted (uuidText n))
  | .dict _ | .list _ => json v
  | _ => Outcome.reject (.unrenderableDefault columnName v)

/-- A list or tuple as an array of scalars. -/
def array (columnName : Value) (v : Value) : Outcome String :=
  match v.listed? with
  | none => Outcome.reject (.unlistedDefault columnName v)
  | some [] => .ok "'\x7b\x7d'"
  | some items => do return "ARRAY[" ++ commaSeparated (← items.mapM (scalar columnName)) ++ "]"

/-- The default `v` of a column of the type `t`. -/
def render (t : ColumnType) (columnName : Value) (v : Value) : Outcome String :=
  match t, v with
  | _, .null => .ok "NULL"
  | .json, v => json v
  | .array _, v => array columnName v
  | _, v => scalar columnName v

/-- The default `v` of a column of a type given as a value; what is no column type has no domain of
its own. -/
def renderFor (type : Value) (columnName : Value) (v : Value) : Outcome String :=
  match type with
  | .columnType t => render t columnName v
  | _ => render .bare columnName v

end SqlBuilder.Literal
