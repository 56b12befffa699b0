import SqlBuilder.Proofs.Schema.LiteralGrammar
import SqlBuilder.Proofs.Statement.NameReading
import SqlBuilder.Proofs.Text.Sections

/-!
# Reading tables back

A reader that knows quotes and brackets takes the text of a table apart: into
words, the last of them into columns, and each column into words again.  Every
word of a column is whole, since names and texts stand between quotes and lists
between brackets, so nothing that a name, a default or an allowed text holds is
taken for a word of its own.
-/

namespace SqlBuilder

open Text

/-! ## What a table's text tells -/

/-- A column's name, what it may hold, and the literal of its default if one was
given. -/
structure ColumnOutline where
  name : String
  type : ColumnType
  nullable : Bool
  primaryKey : Bool
  default : Option String
  deriving DecidableEq

structure TableOutline where
  name : String
  columns : List ColumnOutline
  deriving DecidableEq

/-- The literal of a column's default, if it has one. -/
def ColumnDefinition.literal (key : Value) (d : ColumnDefinition) : Outcome (Option String) :=
  match d.default with
  | none => .ok none
  | some v => (Literal.render d.type (d.columnName key) v).map some

def ColumnDefinition.outline (key : Value) (d : ColumnDefinition) : Outcome ColumnOutline := do
  let name ← Outcome.ofOption .unfit (d.columnName key).text?
  let default ← d.literal key
  return { name, type := d.type, nullable := d.nullable, primaryKey := d.primaryKey, default }

def Columns.outline (columns : Columns) (table : Value) : Outcome TableOutline := do
  let name ← Outcome.ofOption .unfit table.text?
  return { name, columns := ← columns.mapM fun (key, d) => d.outline key }

/-! ## The reader -/

/-- The words of a text between the blanks outside its quotes and brackets. -/
def wholeWords (cs : List Char) : List String := (pieces ' ' .outside cs).map String.ofList

namespace ColumnOutline

/-- The words after a clause, if they start with it. -/
def after? : (clause words : List String) → Option (List String)
  | [], words => some words
  | _ :: _, [] => none
  | first :: clause, word :: words => if word = first then after? clause words else none

/-- The texts that a check allows. -/
def allowed? (check : String) : Option (List String) := do
  let inner ← between? '(' ')' check.toList
  match wholeWords inner with
  | [_, "IN", texts] => (items (← between? '(' ')' texts.toList)).mapM (unquoted? '\'')
  | _ => none

/-- The types that are told by their names alone. -/
def namedTypes : List ColumnType :=
  let kinds : List PrimitiveKind := [.number, .string, .boolean, .date]
  [.json, .uuid] ++ kinds.map .primitive ++ kinds.map .array

/-- A type by its name and what follows the other clauses of its column. -/
def type? (name : String) : (words : List String) → Option ColumnType
  | [] => namedTypes.find? fun t => (t.sqlType .null).toOption == some name
  | ["CHECK", check] => if name = "TEXT" then (allowed? check).map .enumerated else none
  | _ => none

def read (cs : List Char) : Option ColumnOutline :=
  match wholeWords cs with
  | name :: type :: words => do
    let required := after? ["NOT", "NULL"] words
    let words := required.getD words
    let key := after? ["PRIMARY", "KEY"] words
    let words := key.getD words
    let default := (after? ["DEFAULT"] words).bind List.head?
    let words := if default.isSome then words.drop 2 else words
    return {
      name := String.ofList (Identifier.unquoted false name.toList).1
      type := ← type? type words
      nullable := required.isNone
      primaryKey := key.isSome
      default }
  | _ => none

end ColumnOutline

def TableOutline.read (sql : String) : Option TableOutline :=
  match wholeWords sql.toList with
  | ["CREATE", "TABLE", "IF", "NOT", "EXISTS", name, columns] => do
    return {
      name := String.ofList (Identifier.unquoted false name.toList).1
      columns := ← (items (← between? '(' ')' columns.toList)).mapM ColumnOutline.read }
  | _ => none

/-! ## Columns as words -/

namespace ColumnOutline

/-- The words of what is checked. -/
def checked (name : String) (values : List String) : List String :=
  [Identifier.quoted name, "IN", "(" ++ commaSeparated (values.map Literal.quoted) ++ ")"]

/-- What is checked, as one word. -/
def checkedWord (name : String) (values : List String) : String :=
  "(" ++ " ".intercalate (checked name values) ++ ")"

/-- The clause that restricts a column, if its type lists texts. -/
def check (name : String) : ColumnType → List (List String)
  | .enumerated values => [["CHECK", checkedWord name values]]
  | _ => []

/-- The clauses of a column, each with its words. -/
def clauses (o : ColumnOutline) (type : String) : List (List String) :=
  [[Identifier.quoted o.name], [type]]
    ++ (if o.nullable then [] else [["NOT", "NULL"]])
    ++ (if o.primaryKey then [["PRIMARY", "KEY"]] else [])
    ++ (o.default.map fun l => ["DEFAULT", l]).toList
    ++ check o.name o.type

theorem clauses_ne_nil
    (o : ColumnOutline) (type : String) : ∀ clause ∈ o.clauses type, clause ≠ [] := by
  obtain ⟨name, columnType, nullable, primaryKey, default⟩ := o
  have hcheck : ∀ clause ∈ check name columnType, clause ≠ [] := by
    cases columnType <;> simp [check]
  simp only [clauses, List.forall_mem_append]
  refine ⟨⟨⟨⟨?_, ?_⟩, ?_⟩, ?_⟩, hcheck⟩
  · simp
  · cases nullable <;> simp
  · cases primaryKey <;> simp
  · cases default <;> simp

theorem map_clauses
    (o : ColumnOutline) (type : String) :
    (o.clauses type).map (fun clause => Value.text (" ".intercalate clause)) =
      [Value.text (Identifier.quoted o.name), Value.text type]
        ++ (if o.nullable then [] else [Value.text "NOT NULL"])
        ++ (if o.primaryKey then [Value.text "PRIMARY KEY"] else [])
        ++ (o.default.map fun l => Value.text ("DEFAULT " ++ l)).toList
        ++ ColumnDefinition.checkClause (Value.text (Identifier.quoted o.name)) o.type := by
  obtain ⟨name, columnType, nullable, primaryKey, default⟩ := o
  have hnull : " ".intercalate ["NOT", "NULL"] = "NOT NULL" := rfl
  have hkey : " ".intercalate ["PRIMARY", "KEY"] = "PRIMARY KEY" := rfl
  have hcheck : (check name columnType).map (fun clause => Value.text (" ".intercalate clause)) =
      ColumnDefinition.checkClause (.text (Identifier.quoted name)) columnType := by
    cases columnType with
    | enumerated values =>
        refine congrArg (fun s => [Value.text s]) (String.toList_inj.mp ?_)
        simp [checkedWord, checked, Value.plain]
    | _ => rfl
  unfold clauses
  simp only [List.map_append, hcheck]
  congr 1
  cases nullable <;> cases primaryKey <;> cases default <;>
    simp [hnull, hkey]

end ColumnOutline

theorem intercalate_flatten
    (between : String) {clauses : List (List String)}
    (hclauses : ∀ clause ∈ clauses, clause ≠ []) :
    between.intercalate (clauses.map between.intercalate) =
      between.intercalate clauses.flatten := by
  induction clauses with
  | nil => rfl
  | cons clause clauses ih =>
      obtain ⟨hclause, hothers⟩ := List.forall_mem_cons.mp hclauses
      have hrest := ih hothers
      cases clauses with
      | nil => simp
      | cons next clauses =>
          -- An empty clause would leave a blank with no word after it.
          have hne : (next :: clauses).flatten ≠ [] := by
            simp [List.flatten_cons, (List.forall_mem_cons.mp hothers).1]
          rw [List.map_cons, List.flatten_cons,
            String.intercalate_append_of_ne_nil hclause hne, ← hrest,
            String.intercalate_cons_of_ne_nil (by simp)]

namespace ColumnDefinition

variable {key : Value} {d : ColumnDefinition} {name text : String}

theorem isWhole_literal
    {literal : Option String} (hliteral : d.literal key = .ok literal) :
    ∀ l ∈ literal, IsWhole l := by
  unfold ColumnDefinition.literal at hliteral
  split at hliteral
  next =>
    obtain rfl := Except.ok.inj hliteral
    simp
  next =>
    obtain ⟨l, hl, rfl⟩ := Outcome.map_eq_ok.mp hliteral
    simpa using Literal.isWhole_render hl

theorem parts_eq_ok
    (hname : d.columnName key = .text name) {parts : List Value}
    (hparts : d.parts true key = .ok parts) :
    ∃ type literal,
      d.type.sqlType (d.columnName key) = .ok type ∧ d.literal key = .ok literal ∧
      parts = [Value.text (Identifier.quoted name), Value.text type]
        ++ (if d.nullable then [] else [Value.text "NOT NULL"])
        ++ (if d.primaryKey then [Value.text "PRIMARY KEY"] else [])
        ++ (literal.map fun l => Value.text ("DEFAULT " ++ l)).toList
        ++ checkClause (Value.text (Identifier.quoted name)) d.type := by
  unfold ColumnDefinition.parts at hparts
  obtain ⟨written, hwritten, hparts⟩ := Outcome.bind_eq_ok.mp hparts
  obtain ⟨type, htype, hparts⟩ := Outcome.bind_eq_ok.mp hparts
  rw [hname] at hwritten
  obtain rfl := Except.ok.inj hwritten
  unfold ColumnDefinition.literal
  cases hdefault : d.default with
  | none =>
      rw [hdefault] at hparts
      exact ⟨type, none, htype, rfl, (Except.ok.inj hparts).symm⟩
  | some v =>
      rw [hdefault] at hparts
      obtain ⟨l, hl, hparts⟩ := Outcome.bind_eq_ok.mp hparts
      refine ⟨type, some l, htype, ?_, (Except.ok.inj hparts).symm⟩
      simp only [hl]
      rfl

/-- A column that is written has an outline, and its text is the words of that. -/
theorem sql_eq_ok
    (hname : d.columnName key = .text name) (htext : d.sql true key = .ok text) :
    ∃ o type, d.outline key = .ok o ∧ o.name = name ∧
      o.type.sqlType (d.columnName key) = .ok type ∧ (∀ l ∈ o.default, IsWhole l) ∧
      text = " ".intercalate (o.clauses type).flatten := by
  unfold ColumnDefinition.sql at htext
  obtain ⟨parts, hparts, htext⟩ := Outcome.bind_eq_ok.mp htext
  obtain ⟨texts, htexts, htext⟩ := Outcome.bind_eq_ok.mp htext
  obtain rfl := Outcome.pure_eq_ok.mp htext
  obtain ⟨type, literal, htype, hliteral, rfl⟩ := parts_eq_ok hname hparts
  let o : ColumnOutline := ⟨name, d.type, d.nullable, d.primaryKey, literal⟩
  refine ⟨o, type, ?_, rfl, htype, isWhole_literal hliteral, ?_⟩
  · unfold ColumnDefinition.outline
    rw [hliteral, hname]
    rfl
  · have hmap := o.map_clauses type
    have hread : Value.texts? ((o.clauses type).map fun clause =>
        Value.text (" ".intercalate clause)) = some ((o.clauses type).map " ".intercalate) :=
      mapM_map fun _ _ => rfl
    have htexts :=
      (congrArg (fun ps => Outcome.ofOption .unfit (Value.texts? ps)) hmap).trans htexts
    simp only [hread] at htexts
    obtain rfl := Except.ok.inj htexts
    exact intercalate_flatten " " (o.clauses_ne_nil type)

end ColumnDefinition

/-! ## Reading columns -/

theorem isWhole_parenthesized
    {s : String} (hs : Level [] s.toList) : IsWhole ("(" ++ s ++ ")") := by
  have henclosed : Level [' ', ','] ('(' :: (s.toList ++ [')'])) := hs.enclosed rfl rfl
  simpa [IsWhole] using henclosed

theorem between?_parenthesized
    (s : String) : between? '(' ')' ("(" ++ s ++ ")").toList = some s.toList := by
  simpa using between?_enclosed '(' ')' s.toList

namespace Identifier

theorem isWhole_quoted
    {name : String} (hname : IsRegular name.toList) : IsWhole (quoted name) := by
  have hsegment : ∀ s, Level [' ', ','] (quotedSegment s) := by
    intro s
    unfold quotedSegment
    -- An asterisk stands without quotes.
    split
    next hs =>
      subst hs
      exact .plain rfl (by decide) .nil
    next => exact Level.doubled rfl .nil s
  unfold IsWhole quoted
  rw [String.toList_ofList, quotedChars_of_isRegular hname]
  apply Level.intercalate
  · intro p hp
    obtain ⟨s, _, rfl⟩ := List.mem_map.mp hp
    exact hsegment s
  · exact .plain rfl (by decide) .nil

theorem unquoted_quoted
    {name : String} (hname : IsRegular name.toList) :
    String.ofList (unquoted false (quoted name).toList).1 = name := by
  have hread : unquoted false (quotedChars name.toList ++ []) = (name.toList, []) :=
    unquoted_quotedChars hname (by simp)
  rw [List.append_nil] at hread
  rw [quoted, String.toList_ofList, hread, String.ofList_toList]

end Identifier

theorem isWhole_sqlType
    {t : ColumnType} {columnName : Value} {type : String}
    (htype : t.sqlType columnName = .ok type) :
    IsWhole type := by
  have hkind : ∀ kind : PrimitiveKind, IsWhole kind.sqlType := by
    intro kind
    apply IsBare.isWhole
    cases kind <;> decide
  cases t with
  | bare => exact absurd htype (Outcome.reject_ne_ok _ _)
  | primitive kind => exact Except.ok.inj htype ▸ hkind kind
  | json => exact Except.ok.inj htype ▸ (by decide : IsBare "JSONB").isWhole
  | uuid => exact Except.ok.inj htype ▸ (by decide : IsBare "UUID").isWhole
  | enumerated values => exact Except.ok.inj htype ▸ (by decide : IsBare "TEXT").isWhole
  | array item =>
      obtain rfl := Except.ok.inj htype
      have hbrackets : Level [' ', ','] ['[', ']'] := Level.nil.enclosed rfl rfl
      simpa [IsWhole] using Level.append (hkind item) hbrackets

theorem wholeWords_intercalate
    {words : List String} (hne : words ≠ []) (hwords : ∀ word ∈ words, IsWhole word) :
    wholeWords (" ".intercalate words).toList = words := by
  have hlevel : ∀ cs ∈ words.map String.toList, Level [' ', ','] cs := by
    intro cs hcs
    obtain ⟨word, hword, rfl⟩ := List.mem_map.mp hcs
    exact hwords word hword
  have hdivided := pieces_intercalate ' ' rfl (by simp) (by simpa using hne) hlevel
  unfold wholeWords
  rw [String.toList_intercalate]
  change (pieces ' ' .outside ([' '].intercalate _)).map _ = _
  rw [hdivided]
  simp

theorem level_intercalate
    {words : List String} (hwords : ∀ word ∈ words, IsWhole word) :
    Level [','] (" ".intercalate words).toList := by
  rw [String.toList_intercalate]
  apply Level.intercalate
  · intro cs hcs
    obtain ⟨word, hword, rfl⟩ := List.mem_map.mp hcs
    exact (hwords word hword).mono (by simp)
  · exact .plain rfl (by decide) .nil

namespace Literal

theorem items_quoted
    (values : List String) :
    items (commaSeparated (values.map quoted)).toList =
      (values.map quoted).map String.toList := by
  apply items_commaSeparated
  · intro s hs
    obtain ⟨v, _, rfl⟩ := List.mem_map.mp hs
    exact (isWhole_quoted v).mono (by simp)
  · intro s hs
    obtain ⟨v, _, rfl⟩ := List.mem_map.mp hs
    exact ⟨'\'', _, String.toList_ofList, by decide⟩

theorem quoted_mem_items
    {s : String} {values : List String} :
    (quoted s).toList ∈ items (commaSeparated (values.map quoted)).toList ↔ s ∈ values := by
  have hinjective : Function.Injective fun s => (quoted s).toList := by
    intro s t hst
    have hread := (unquoted?_quoted '\'' s).symm.trans
      ((congrArg (unquoted? '\'') hst).trans (unquoted?_quoted '\'' t))
    exact Option.some.inj hread
  rw [items_quoted, List.map_map]
  exact List.mem_map_of_injective hinjective

theorem mapM_unquoted?_items
    (values : List String) :
    (items (commaSeparated (values.map quoted)).toList).mapM (unquoted? '\'') = some values := by
  have hread : ((values.map quoted).map String.toList).mapM (unquoted? '\'') =
      some (values.map id) := by
    rw [List.map_map]
    exact mapM_map fun v _ => unquoted?_quoted '\'' v
  rw [items_quoted, hread, List.map_id]

end Literal

namespace ColumnOutline

theorem isWhole_checked
    {name : String} (hname : Identifier.IsRegular name.toList) (values : List String) :
    ∀ word ∈ checked name values, IsWhole word := by
  have hlist : IsWhole ("(" ++ commaSeparated (values.map Literal.quoted) ++ ")") := by
    apply isWhole_parenthesized
    apply level_commaSeparated
    intro s hs
    obtain ⟨v, _, rfl⟩ := List.mem_map.mp hs
    exact (Literal.isWhole_quoted v).mono (List.nil_subset _)
  have hin : IsWhole "IN" := (by decide : IsBare "IN").isWhole
  simp [checked, Identifier.isWhole_quoted hname, hin, hlist]

theorem isWhole_check
    {name : String} (hname : Identifier.IsRegular name.toList) (t : ColumnType) :
    ∀ word ∈ (check name t).flatten, IsWhole word := by
  cases t with
  | enumerated values =>
      have hcheck : IsWhole "CHECK" := (by decide : IsBare "CHECK").isWhole
      have hword : IsWhole (checkedWord name values) := isWhole_parenthesized
        ((level_intercalate (isWhole_checked hname values)).mono (List.nil_subset _))
      simp [check, hcheck, hword]
  | _ => simp [check]

theorem isWhole_clauses
    {o : ColumnOutline} {type : String} (hname : Identifier.IsRegular o.name.toList)
    (htype : IsWhole type) (hdefault : ∀ l ∈ o.default, IsWhole l) :
    ∀ word ∈ (o.clauses type).flatten, IsWhole word := by
  obtain ⟨name, columnType, nullable, primaryKey, default⟩ := o
  have hbare : ∀ word ∈ ["NOT", "NULL", "PRIMARY", "KEY", "DEFAULT"], IsWhole word := by
    intro word hword
    apply IsBare.isWhole
    revert word
    decide
  have hquoted := Identifier.isWhole_quoted hname
  have hcheck := isWhole_check hname columnType
  simp only [clauses, List.flatten_append, List.forall_mem_append]
  refine ⟨⟨⟨⟨?_, ?_⟩, ?_⟩, ?_⟩, hcheck⟩
  · simp [hquoted, htype]
  · cases nullable <;> simp [hbare]
  · cases primaryKey <;> simp [hbare]
  · cases default with
    | none => simp
    | some l => simp [hbare, hdefault l rfl]

theorem allowed?_check
    {name : String} (hname : Identifier.IsRegular name.toList) (values : List String) :
    allowed? (checkedWord name values) = some values := by
  unfold allowed? checkedWord
  rw [between?_parenthesized]
  simp only [Option.bind_eq_bind, Option.bind_some]
  rw [wholeWords_intercalate (by simp [checked]) (isWhole_checked hname values)]
  simp only [checked]
  rw [between?_parenthesized, Option.bind_some, Literal.mapM_unquoted?_items]

theorem type?_check
    {name : String} (hname : Identifier.IsRegular name.toList) {t : ColumnType} {columnName : Value}
    {type : String} (htype : t.sqlType columnName = .ok type) :
    type? type (check name t).flatten = some t := by
  cases t with
  | bare => exact absurd htype (Outcome.reject_ne_ok _ _)
  | enumerated values =>
      obtain rfl := Except.ok.inj htype
      have hallowed := allowed?_check hname values
      simp [check, type?, hallowed]
  | json | uuid =>
      obtain rfl := Except.ok.inj htype
      change type? _ [] = _
      decide
  | primitive kind | array kind =>
      obtain rfl := Except.ok.inj htype
      change type? _ [] = _
      cases kind <;> decide

theorem after?_check
    (name : String) (t : ColumnType) {first : String} (others : List String)
    (hfirst : first ≠ "CHECK") : after? (first :: others) (check name t).flatten = none := by
  cases t <;> simp [after?, check, Ne.symm hfirst]

theorem read_clauses
    {o : ColumnOutline} {columnName : Value} {type : String}
    (hname : Identifier.IsRegular o.name.toList) (htype : o.type.sqlType columnName = .ok type)
    (hdefault : ∀ l ∈ o.default, IsWhole l) :
    read (" ".intercalate (o.clauses type).flatten).toList = some o := by
  have hwords := wholeWords_intercalate (by simp [clauses])
    (isWhole_clauses hname (isWhole_sqlType htype) hdefault)
  have hcheck := type?_check hname htype
  obtain ⟨name, columnType, nullable, primaryKey, default⟩ := o
  -- Where a clause is left out, the check may stand, and is not taken for it.
  have hrequired := after?_check name columnType ["NULL"] (by decide : "NOT" ≠ _)
  have hkey := after?_check name columnType ["KEY"] (by decide : "PRIMARY" ≠ _)
  have hgiven := after?_check name columnType [] (by decide : "DEFAULT" ≠ _)
  have hunquoted := Identifier.unquoted_quoted hname
  unfold read
  rw [hwords]
  cases nullable <;> cases primaryKey <;> cases default <;>
    simp [clauses, after?, hrequired, hkey, hgiven, hunquoted, hcheck]

end ColumnOutline

/-! ## Reading tables -/

/-- The names of a table and of its columns are texts, and regular. -/
structure Columns.HasRegularNames (columns : Columns) (table : Value) : Prop where
  table : ∃ s, table = .text s ∧ Identifier.IsRegular s.toList
  columns : ∀ column ∈ columns, ∃ s, column.2.columnName column.1 = .text s ∧
    Identifier.IsRegular s.toList

/-- A column that is written is one item of its table, and is read back. -/
theorem ColumnDefinition.read_sql
    {key : Value} {d : ColumnDefinition} {text : String}
    (hname : ∃ s, d.columnName key = .text s ∧ Identifier.IsRegular s.toList)
    (htext : d.sql true key = .ok text) :
    ∃ o, d.outline key = .ok o ∧ ColumnOutline.read text.toList = some o ∧
      Level [','] text.toList ∧ ∃ c cs, text.toList = c :: cs ∧ c ≠ ' ' := by
  obtain ⟨name, hcolumn, hregular⟩ := hname
  obtain ⟨o, type, houtline, rfl, htype, hdefault, rfl⟩ := sql_eq_ok hcolumn htext
  have hwhole := ColumnOutline.isWhole_clauses hregular (isWhole_sqlType htype) hdefault
  refine ⟨o, houtline, ColumnOutline.read_clauses hregular htype hdefault,
    level_intercalate hwhole, ?_⟩
  obtain ⟨c, cs, hcs, hc⟩ := Identifier.exists_cons_quotedChars hregular
  have hblank : c ≠ ' ' := by rcases hc with rfl | rfl <;> decide
  obtain ⟨rest, hrest⟩ : ∃ rest,
      (o.clauses type).flatten = Identifier.quoted o.name :: type :: rest := ⟨_, rfl⟩
  rw [hrest, String.intercalate_cons_of_ne_nil (by simp), String.toList_append,
    String.toList_append, Identifier.quoted, String.toList_ofList, hcs]
  exact ⟨c, _, rfl, hblank⟩

theorem Columns.read_definitions
    {columns : Columns} {definitions : List String}
    (hnames : ∀ column ∈ columns, ∃ s, column.2.columnName column.1 = .text s ∧
      Identifier.IsRegular s.toList)
    (hdefinitions : (columns.mapM fun (key, d) => d.sql true key) = .ok definitions) :
    ∃ os, (columns.mapM fun (key, d) => d.outline key) = .ok os ∧
      (definitions.map String.toList).mapM ColumnOutline.read = some os ∧
      (∀ s ∈ definitions, Level [','] s.toList) ∧
      ∀ s ∈ definitions, ∃ c cs, s.toList = c :: cs ∧ c ≠ ' ' := by
  induction columns generalizing definitions with
  | nil =>
      obtain rfl : [] = definitions := Except.ok.inj hdefinitions
      exact ⟨[], rfl, rfl, by simp, by simp⟩
  | cons column columns ih =>
      obtain ⟨hname, hothers⟩ := List.forall_mem_cons.mp hnames
      obtain ⟨text, rest, htext, hrest, rfl⟩ := Outcome.mapM_cons_eq_ok.mp hdefinitions
      obtain ⟨o, houtline, hread, hlevel, hhead⟩ := ColumnDefinition.read_sql hname htext
      obtain ⟨os, houtlines, hreads, hlevels, hheads⟩ := ih hothers hrest
      refine ⟨o :: os, Outcome.mapM_cons_eq_ok.mpr ⟨o, os, houtline, houtlines, rfl⟩, ?_,
        List.forall_mem_cons.mpr ⟨hlevel, hlevels⟩, List.forall_mem_cons.mpr ⟨hhead, hheads⟩⟩
      rw [List.map_cons, List.mapM_cons, hread, hreads]
      rfl

theorem TableOutline.read_createTable
    {table : Value} {columns : Columns} {sql : String} (hnames : columns.HasRegularNames table)
    (hsql : createTable true table columns = .ok sql) :
    ∃ outline, columns.outline table = .ok outline ∧ read sql = some outline := by
  unfold createTable at hsql
  obtain ⟨definitions, hdefinitions, hsql⟩ := Outcome.bind_eq_ok.mp hsql
  obtain ⟨written, hwritten, hsql⟩ := Outcome.bind_eq_ok.mp hsql
  obtain ⟨name, rfl, hname⟩ := hnames.table
  obtain rfl := Except.ok.inj hwritten
  obtain ⟨os, houtlines, hreads, hlevels, hheads⟩ :=
    Columns.read_definitions hnames.columns hdefinitions
  refine ⟨⟨name, os⟩, ?_, ?_⟩
  · unfold Columns.outline
    rw [houtlines]
    rfl
  · let words := ["CREATE", "TABLE", "IF", "NOT", "EXISTS", Identifier.quoted name,
      "(" ++ commaSeparated definitions ++ ")"]
    have htext : sql = " ".intercalate words := by
      rw [← Outcome.pure_eq_ok.mp hsql]
      apply String.toList_inj.mp
      simp [words, Value.plain]
    have hwhole : ∀ word ∈ words, IsWhole word := by
      have hbare : ∀ word ∈ ["CREATE", "TABLE", "IF", "NOT", "EXISTS"], IsWhole word := by
        intro word hword
        apply IsBare.isWhole
        revert word
        decide
      have hcolumns := isWhole_parenthesized (level_commaSeparated fun s hs =>
        (hlevels s hs).mono (List.nil_subset _))
      simp [words, hbare, Identifier.isWhole_quoted hname, hcolumns]
    unfold read
    rw [htext, wholeWords_intercalate (by simp [words]) hwhole]
    simp only [words]
    rw [between?_parenthesized]
    simp only [Option.bind_eq_bind, Option.bind_some]
    rw [items_commaSeparated hlevels hheads, hreads, Identifier.unquoted_quoted hname]
    rfl

/-- The text of a table tells its name and, column by column, the name, the type
with the texts it allows, whether nothing may stand there, whether it is part of
the key, and the literal of the default if there is one.  So no other name,
default or allowed text leads to the same text. -/
theorem createTable_read_back
    {table : Value} {columns : Columns} {sql : String} (hnames : columns.HasRegularNames table)
    (hsql : createTable true table columns = .ok sql) :
    ∃ outline, columns.outline table = .ok outline ∧ TableOutline.read sql = some outline ∧
      ∀ (table' : Value) (columns' : Columns), columns'.HasRegularNames table' →
        createTable true table' columns' = .ok sql → columns'.outline table' = .ok outline := by
  obtain ⟨outline, houtline, hread⟩ := TableOutline.read_createTable hnames hsql
  refine ⟨outline, houtline, hread, ?_⟩
  intro table' columns' hnames' hsql'
  obtain ⟨outline', houtline', hread'⟩ := TableOutline.read_createTable hnames' hsql'
  rw [hread] at hread'
  rw [houtline', Option.some.inj hread']

theorem createTable_read_back_clauses :
    let columns : Columns :=
      [(.text "a,\"b", {
          ColumnDefinition.ofType (.enumerated ["x', 'y", ")) NOT NULL, \"z\" TEXT"]) with
          default := some (.text "x', 'y") }),
        (.text "k", { ColumnDefinition.ofType (.array .string) with
          name := some "PRIMARY", nullable := true,
          default := some (.list [.text "], ARRAY[", .null]) })]
    ∃ sql, createTable true (.text "t.*") columns = .ok sql ∧
      columns.HasRegularNames (.text "t.*") ∧
      TableOutline.read sql = some
        { name := "t.*"
          columns :=
            [{ name := "a,\"b", type := .enumerated ["x', 'y", ")) NOT NULL, \"z\" TEXT"],
               nullable := false, primaryKey := false, default := some "'x'', ''y'" },
              { name := "PRIMARY", type := .array .string, nullable := true, primaryKey := false,
                default := some "ARRAY['], ARRAY[', NULL]" }] } := by
  intro columns
  obtain ⟨sql, hsql⟩ : ∃ sql, createTable true (.text "t.*") columns = .ok sql := ⟨_, rfl⟩
  have hnames : columns.HasRegularNames (.text "t.*") := by
    constructor
    · exact ⟨"t.*", rfl, by decide⟩
    · intro column hcolumn
      rcases List.mem_cons.mp hcolumn with rfl | hcolumn
      · exact ⟨"a,\"b", rfl, by decide⟩
      · obtain rfl := List.mem_singleton.mp hcolumn
        exact ⟨"PRIMARY", rfl, by decide⟩
  obtain ⟨outline, houtline, hread, _⟩ := createTable_read_back hnames hsql
  refine ⟨sql, hsql, hnames, ?_⟩
  rw [hread, ← Except.ok.inj houtline]
  rfl

end SqlBuilder
