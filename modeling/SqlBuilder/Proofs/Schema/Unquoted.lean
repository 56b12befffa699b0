import SqlBuilder.Proofs.Schema.TableReading
import SqlBuilder.Proofs.Statement.Unquoted

/-!
# Tables without their double quotes

The names of a table and of its columns are written like those of a statement,
and a check repeats the name of its column.  Types, defaults and allowed texts
are written in one way only, whatever quotes they hold.
-/

namespace SqlBuilder

/-- The names that a table and its columns are written with are texts. -/
structure Columns.HasTextNames (columns : Columns) (table : Value) : Prop where
  table : ∃ name, table = .text name
  columns : ∀ column ∈ columns, ∃ name, column.2.columnName column.1 = .text name

theorem Identifier.written?_text (quoting : Bool) (name : String) :
    written? quoting (.text name) = .ok (.text (written quoting name)) := by
  cases quoting <;> rfl

namespace ColumnDefinition

def checkTexts (quoting : Bool) (name : String) : ColumnType → List String
  | .enumerated values =>
    ["CHECK (" ++ Identifier.written quoting name ++ " IN ("
      ++ commaSeparated (values.map Literal.quoted) ++ "))"]
  | _ => []

/-- The parts of a column with the literal of its default, if it has one. -/
def partTexts (quoting : Bool) (d : ColumnDefinition) (name type : String)
    (literal : Option String) : List String :=
  [Identifier.written quoting name, type]
    ++ (if d.nullable then [] else ["NOT NULL"])
    ++ (if d.primaryKey then ["PRIMARY KEY"] else [])
    ++ (literal.map ("DEFAULT " ++ ·)).toList
    ++ checkTexts quoting name d.type

theorem map_partTexts
    (quoting : Bool) (d : ColumnDefinition) (name type : String) (literal : Option String) :
    (d.partTexts quoting name type literal).map .text =
      [Value.text (Identifier.written quoting name), Value.text type]
        ++ (if d.nullable then [] else [Value.text "NOT NULL"])
        ++ (if d.primaryKey then [Value.text "PRIMARY KEY"] else [])
        ++ (literal.map fun l => Value.text ("DEFAULT " ++ l)).toList
        ++ checkClause (Value.text (Identifier.written quoting name)) d.type := by
  have hcheck : (checkTexts quoting name d.type).map Value.text =
      checkClause (Value.text (Identifier.written quoting name)) d.type := by
    cases d.type <;> rfl
  unfold partTexts
  simp only [List.map_append, hcheck]
  cases d.nullable <;> cases d.primaryKey <;> cases literal <;> rfl

theorem sql_of_textName
    {key : Value} {d : ColumnDefinition} {name : String} (hname : d.columnName key = .text name)
    (quoting : Bool) :
    d.sql quoting key = do
      let type ← d.type.sqlType (.text name)
      let literal ← d.literal key
      return " ".intercalate (d.partTexts quoting name type literal) := by
  -- the parts are texts whatever the literal is, so joining them does not fail
  have hjoined : ∀ (type : String) (literal : Option String),
      (do return " ".intercalate (← Outcome.ofOption .unfit (Value.texts?
        ([Value.text (Identifier.written quoting name), Value.text type]
          ++ (if d.nullable then [] else [Value.text "NOT NULL"])
          ++ (if d.primaryKey then [Value.text "PRIMARY KEY"] else [])
          ++ (literal.map fun l => Value.text ("DEFAULT " ++ l)).toList
          ++ checkClause (Value.text (Identifier.written quoting name)) d.type)))) =
        (.ok (" ".intercalate (d.partTexts quoting name type literal)) : Outcome String) := by
    intro type literal
    have hread : Value.texts? ((d.partTexts quoting name type literal).map .text) =
        some ((d.partTexts quoting name type literal).map id) := Text.mapM_map fun _ _ => rfl
    rw [← map_partTexts, hread, List.map_id]
    rfl
  unfold sql parts literal
  simp only [hname, Identifier.written?_text]
  cases d.type.sqlType (.text name) with
  | error failure => rfl
  | ok type =>
      cases d.default with
      | none => exact hjoined type none
      | some v =>
          simp only
          cases Literal.render d.type (.text name) v with
          | error failure => rfl
          | ok l => exact hjoined type (some l)

end ColumnDefinition

end SqlBuilder
