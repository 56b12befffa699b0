import SqlBuilder.Proofs.Schema.Supported
import SqlBuilder.Proofs.Schema.Unquoted

/-!
# Defaults of enumerated columns

Whichever way a definition is made, a default of an enumerated column is nothing
or equals one of its texts.  The check of the column lists these texts.  A default
is written as it prints, so the literal is one of those in the list if the default
prints as a text of the column.  A text of the caller's own type may equal such a
text and print otherwise, and an object that only equals one cannot be written.
-/

namespace SqlBuilder

open Text

/-- The definitions that can be had: from fields, as what an entry of a schema stands for, or as
the column of a table in a registry. -/
inductive ColumnDefinition.Built : ColumnDefinition → Prop
  | fields {fields : Fields} {d : ColumnDefinition} (hd : ofFields fields = .ok d) : Built d
  | entry {v key : Value} {d : ColumnDefinition} (hd : resolve v key = .ok d) : Built d
  | registered {schema : Value} {r : Registry} (hr : Registry.ofValue schema = .ok r)
      {table : Value × Columns} (htable : table ∈ r.tables)
      {column : Value × ColumnDefinition} (hcolumn : column ∈ table.2) : Built column.2

theorem Columns.resolve_of_mem
    {v : Value} {columns : Columns} (hcolumns : Columns.ofValue v = .ok columns)
    {column : Value × ColumnDefinition} (hcolumn : column ∈ columns) :
    ∃ entry, ColumnDefinition.resolve entry column.1 = .ok column.2 := by
  unfold Columns.ofValue at hcolumns
  obtain ⟨entries, _, hcolumns⟩ := Outcome.bind_eq_ok.mp hcolumns
  obtain ⟨⟨key, entry⟩, _, hmade⟩ := (Outcome.mem_of_mapM_eq_ok hcolumns).2 column hcolumn
  obtain ⟨d, hd, hmade⟩ := Outcome.bind_eq_ok.mp hmade
  obtain rfl := Outcome.pure_eq_ok.mp hmade
  exact ⟨entry, hd⟩

theorem Registry.ofValue_of_mem
    {schema : Value} {r : Registry} (hr : Registry.ofValue schema = .ok r)
    {table : Value × Columns} (htable : table ∈ r.tables) :
    ∃ columns, Columns.ofValue columns = .ok table.2 := by
  unfold Registry.ofValue at hr
  obtain ⟨entries, _, hr⟩ := Outcome.bind_eq_ok.mp hr
  obtain ⟨tables, htables, hr⟩ := Outcome.bind_eq_ok.mp hr
  obtain rfl := Outcome.pure_eq_ok.mp hr
  obtain ⟨⟨name, columns⟩, _, hmade⟩ := (Outcome.mem_of_mapM_eq_ok htables).2 table htable
  obtain ⟨made, hcolumns, hmade⟩ := Outcome.bind_eq_ok.mp hmade
  obtain rfl := Outcome.pure_eq_ok.mp hmade
  exact ⟨columns, hcolumns⟩

namespace ColumnDefinition

variable {d : ColumnDefinition}

theorem defaultAllowed_of_resolve
    {v key : Value} (hd : resolve v key = .ok d) : defaultAllowed d.type d.default = true := by
  unfold resolve at hd
  split at hd
  next => exact (of_ofFields_eq_ok hd).2
  next =>
    split at hd
    next => exact absurd hd (Outcome.reject_ne_ok _ _)
    next =>
      obtain ⟨t, _, hd⟩ := Outcome.bind_eq_ok.mp hd
      unfold ofOptions at hd
      split at hd
      next => exact (of_ofFields_eq_ok hd).2
      next => simp at hd
  next =>
    obtain ⟨t, _, hd⟩ := Outcome.bind_eq_ok.mp hd
    obtain rfl := Outcome.pure_eq_ok.mp hd
    cases t <;> rfl

theorem Built.defaultAllowed
    (hd : d.Built) : defaultAllowed d.type d.default = true := by
  cases hd with
  | fields hd => exact (of_ofFields_eq_ok hd).2
  | entry hd => exact defaultAllowed_of_resolve hd
  | registered hr htable hcolumn =>
      obtain ⟨columns, hcolumns⟩ := Registry.ofValue_of_mem hr htable
      obtain ⟨entry, hentry⟩ := Columns.resolve_of_mem hcolumns hcolumn
      exact defaultAllowed_of_resolve hentry

/-- The default of an enumerated column is absent, nothing, or equal to one of its texts. -/
theorem default_of_allowed
    {values : List String} {default : Option Value}
    (hallowed : ColumnDefinition.defaultAllowed (.enumerated values) default = true) :
    default = none ∨ default = some .null ∨
      ∃ v s, default = some v ∧ v.equalText? = some s ∧ s ∈ values := by
  cases default with
  | none => exact .inl rfl
  | some v =>
      by_cases hv : v = .null
      · exact .inr (.inl (congrArg some hv))
      · have hany : (values.any fun s => v.equals (.text s)) = true := by
          cases v with
          | null => exact absurd rfl hv
          | _ => exact hallowed
        obtain ⟨s, hs, hequals⟩ := List.any_eq_true.mp hany
        exact .inr (.inr ⟨v, s, rfl, Value.equalText?_of_equals hequals, hs⟩)

theorem literal_of_default
    {v : Value} (hdefault : d.default = some v) (key : Value) :
    d.literal key = (Literal.render d.type (d.columnName key) v).map some := by
  rw [literal, hdefault]

theorem exists_columnName
    (d : ColumnDefinition) (key : String) : ∃ name, d.columnName (.text key) = .text name := by
  unfold columnName
  split
  next => exact ⟨key, rfl⟩
  next => exact ⟨key, rfl⟩
  next name _ _ => exact ⟨name, rfl⟩

/-- The clause of a default with the literal `l`, if there is one. -/
def defaultText (literal : Option String) : String :=
  (literal.map (" DEFAULT " ++ ·)).getD ""

theorem defaultText_none : defaultText none = "" := rfl

theorem defaultText_some (literal : String) :
    defaultText (some literal) = " DEFAULT " ++ literal := rfl

theorem defaultText_null : defaultText (some "NULL") = " DEFAULT NULL" := rfl

theorem intercalate_partTexts
    {values : List String} (hvalues : d.type = .enumerated values) (quoting : Bool)
    (name type : String) (literal : Option String) :
    " ".intercalate (d.partTexts quoting name type literal) =
      Identifier.written quoting name ++ " " ++ type
        ++ (if d.nullable then "" else " NOT NULL") ++ (if d.primaryKey then " PRIMARY KEY" else "")
        ++ defaultText literal ++ " CHECK (" ++ Identifier.written quoting name ++ " IN ("
        ++ commaSeparated (values.map Literal.quoted) ++ "))" := by
  apply String.toList_inj.mp
  unfold partTexts defaultText
  cases d.nullable <;> cases d.primaryKey <;> cases literal <;>
    simp [hvalues, checkTexts]

theorem sql_of_literal
    {values : List String} (hvalues : d.type = .enumerated values) {key name : String}
    (hname : d.columnName (.text key) = .text name) (quoting : Bool) {literal : Option String}
    (hliteral : d.literal (.text key) = .ok literal) :
    d.sql quoting (.text key) = .ok
      (Identifier.written quoting name ++ " TEXT"
        ++ (if d.nullable then "" else " NOT NULL") ++ (if d.primaryKey then " PRIMARY KEY" else "")
        ++ defaultText literal ++ " CHECK (" ++ Identifier.written quoting name ++ " IN ("
        ++ commaSeparated (values.map Literal.quoted) ++ "))") := by
  have htype : d.type.sqlType (.text name) = .ok "TEXT" := by rw [hvalues]; rfl
  have hwritten : Identifier.written quoting name ++ " " ++ "TEXT" =
      Identifier.written quoting name ++ " TEXT" := by
    rw [String.append_assoc]
    rfl
  rw [sql_of_textName hname, htype, hliteral, ← hwritten, ← intercalate_partTexts hvalues]
  rfl

theorem sql_of_literal_error
    {values : List String} (hvalues : d.type = .enumerated values) {key name : String}
    (hname : d.columnName (.text key) = .text name) (quoting : Bool) {failure : Failure}
    (hliteral : d.literal (.text key) = .error failure) :
    d.sql quoting (.text key) = .error failure := by
  have htype : d.type.sqlType (.text name) = .ok "TEXT" := by rw [hvalues]; rfl
  rw [sql_of_textName hname, htype, hliteral]
  rfl

/-- A text is written as it is printed, and what equals a text without being one is not written. -/
theorem render_of_equalText?
    (values : List String) (columnName : Value) {v : Value} {s : String}
    (hs : v.equalText? = some s) :
    v.text? = some s ∧
        Literal.render (.enumerated values) columnName v = .ok (Literal.quoted v.plain) ∨
      v.text? = none ∧ Literal.render (.enumerated values) columnName v =
        Outcome.reject (.unrenderableDefault columnName v) := by
  cases v with
  | text t | ownText t => exact .inl ⟨hs, rfl⟩
  | handle => exact .inr ⟨rfl, rfl⟩
  | _ => cases hs

/-- An enumerated column is written under one name, the check lists the texts of the column in
order, and a default that is given and not nothing equals one of those texts.  What is written for
a text is the way it prints, which need not be in the list; the column is not written if the
default is no text. -/
theorem sql_of_enumerated
    (hd : d.Built) {values : List String} (hvalues : d.type = .enumerated values) (key : String)
    (quoting : Bool) :
    ∃ name listed,
      d.columnName (.text key) = .text name ∧
      (items listed.toList).mapM (unquoted? '\'') = some values ∧
      ((∃ v, ∃ s ∈ values, d.default = some v ∧ v.equalText? = some s ∧ v.text? = none ∧
          d.sql quoting (.text key) =
            .error (.rejected (.unrenderableDefault (.text name) v))) ∨
        ∃ clause, d.sql quoting (.text key) = .ok
          (Identifier.written quoting name ++ " TEXT"
            ++ (if d.nullable then "" else " NOT NULL")
            ++ (if d.primaryKey then " PRIMARY KEY" else "") ++ clause
            ++ " CHECK (" ++ Identifier.written quoting name ++ " IN (" ++ listed ++ "))") ∧
          (d.default = none ∧ clause = "" ∨ d.default = some .null ∧ clause = " DEFAULT NULL" ∨
            ∃ v l, ∃ s ∈ values, d.default = some v ∧ v.text? = some s ∧
              clause = " DEFAULT " ++ l ∧ unquoted? '\'' l.toList = some v.plain ∧
              (l.toList ∈ items listed.toList ↔ v.plain ∈ values))) := by
  obtain ⟨name, hname⟩ := d.exists_columnName key
  have hallowed := hd.defaultAllowed
  rw [hvalues] at hallowed
  refine ⟨name, _, hname, Literal.mapM_unquoted?_items values, ?_⟩
  rcases default_of_allowed hallowed with hnone | hnull | ⟨v, s, hdefault, hequal, hs⟩
  · have hliteral : d.literal (.text key) = .ok none := by rw [literal, hnone]
    have hwritten := sql_of_literal hvalues hname quoting hliteral
    rw [defaultText_none] at hwritten
    exact .inr ⟨_, hwritten, .inl ⟨hnone, rfl⟩⟩
  · have hliteral : d.literal (.text key) = .ok (some "NULL") := by
      rw [literal_of_default hnull, hvalues]
      rfl
    have hwritten := sql_of_literal hvalues hname quoting hliteral
    rw [defaultText_null] at hwritten
    exact .inr ⟨_, hwritten, .inr (.inl ⟨hnull, rfl⟩)⟩
  · rcases render_of_equalText? values (.text name) hequal with
      ⟨htext, hrender⟩ | ⟨htext, hrender⟩
    · have hliteral : d.literal (.text key) = .ok (some (Literal.quoted v.plain)) := by
        rw [literal_of_default hdefault, hvalues, hname, hrender]
        rfl
      have hwritten := sql_of_literal hvalues hname quoting hliteral
      rw [defaultText_some] at hwritten
      exact .inr ⟨_, hwritten, .inr (.inr
        ⟨v, Literal.quoted v.plain, s, hs, hdefault, htext, rfl, unquoted?_quoted '\'' v.plain,
          Literal.quoted_mem_items⟩)⟩
    · have hliteral : d.literal (.text key) =
          Outcome.reject (.unrenderableDefault (.text name) v) := by
        rw [literal_of_default hdefault, hvalues, hname, hrender]
        rfl
      exact .inl ⟨v, s, hs, hdefault, hequal, htext,
        sql_of_literal_error hvalues hname quoting hliteral⟩

/-- The column of a registry that has a name of its own, and whose default is a member of an
enumeration: it equals a text of the column and prints otherwise. -/
theorem sql_of_enumerated_member :
    let admin : Value := .ownText ⟨"Role", "admin", "Role.ADMIN", "<Role.ADMIN: 'admin'>"⟩
    let d : ColumnDefinition := { ofType (.enumerated ["admin", "it's"]) with
      name := some "role", default := some admin }
    let schema : Value := .dict [(.text "t", .dict [(.text "c", .dict
      [(.text "type", .columnType d.type), (.text "name", .text "role"),
        (.text "default", admin)])])]
    let r : Registry := ⟨[(.text "t", [(.text "c", d)])]⟩
    Registry.ofValue schema = .ok r ∧ d.Built ∧
      ∃ l listed, l.toList ∉ items listed.toList ∧ unquoted? '\'' l.toList = some "Role.ADMIN" ∧
        (items listed.toList).mapM (unquoted? '\'') = some ["admin", "it's"] ∧
        d.sql true (.text "c") = .ok
          ("\"role\" TEXT NOT NULL DEFAULT " ++ l ++ " CHECK (\"role\" IN (" ++ listed ++ "))") := by
  intro admin d schema r
  have hr : Registry.ofValue schema = .ok r := by cbv
  have htable : ((.text "t", [(.text "c", d)]) : Value × Columns) ∈ r.tables :=
    List.mem_singleton_self _
  have hd : d.Built := .registered hr htable (List.mem_singleton_self (Value.text "c", d))
  obtain ⟨name, listed, hname, hlisted, hcourse⟩ := sql_of_enumerated hd rfl "c" true
  obtain rfl : "role" = name := Value.text.inj hname
  have hwritten : Identifier.written true "role" = "\"role\"" := by cbv
  rcases hcourse with ⟨v, _, _, hv, _, htext, _⟩ | ⟨clause, hsql, hdefault⟩
  · obtain rfl : admin = v := Option.some.inj hv
    cases htext
  · rcases hdefault with ⟨hnone, _⟩ | ⟨hnull, _⟩ | ⟨v, l, _, _, hv, _, rfl, hl, hmem⟩
    · simp [d] at hnone
    · simp [d, admin] at hnull
    · obtain rfl : admin = v := Option.some.inj hv
      refine ⟨hr, hd, l, listed, hmem.not.mpr (by decide), hl, hlisted, ?_⟩
      rw [hsql, hwritten]
      refine congrArg Except.ok (String.toList_inj.mp ?_)
      simp [d, ofType]

end ColumnDefinition

end SqlBuilder
