import SqlBuilder.Proofs.Schema.Supported
import SqlBuilder.Proofs.Schema.Unquoted
import SqlBuilder.Proofs.Value.JsonText

/-!
# How the writing of defaults fails

A default that no literal stands for is rejected, and the rejection blames the
schema.  The exception is a default that is written as a JSON document and has no
JSON text: there the writing breaks off with a failure of another kind, and so
does that of the column and of the table, unless something before it is rejected.
-/

namespace SqlBuilder

/-- A rejection that says what is wrong with a schema. -/
def Failure.IsSchema : Failure → Prop
  | rejected reason => .schema ∈ reason.kind.lineage
  | _ => False

/-! ## Three ways to end -/

namespace Outcome

variable {α β : Type}

/-- A call ends with a result if `written`, breaks off if `broken`, and otherwise is rejected
for its schema. -/
structure Ending (x : Outcome α) (written broken : Prop) : Prop where
  written_iff : (∃ a, x = .ok a) ↔ written
  broken_iff : x = .error .unfit ↔ broken
  others : ∀ failure, x = .error failure → failure.IsSchema ∨ failure = .unfit

/-- Whether the first of the items for which it is not `written` is one for which it is `broken`. -/
def StopsAt (written broken : α → Prop) (as : List α) : Prop :=
  ∃ before a after, as = before ++ a :: after ∧ (∀ b ∈ before, written b) ∧ broken a

theorem stopsAt_nil
    {written broken : α → Prop} : ¬ StopsAt written broken [] := by
  rintro ⟨before, a, after, heq, _⟩
  cases before <;> simp at heq

theorem stopsAt_cons
    {written broken : α → Prop} {a : α} {as : List α} :
    StopsAt written broken (a :: as) ↔ broken a ∨ (written a ∧ StopsAt written broken as) := by
  constructor
  · rintro ⟨before, b, after, heq, hbefore, hb⟩
    cases before with
    | nil =>
        obtain ⟨rfl, rfl⟩ := List.cons.inj heq
        exact .inl hb
    | cons c before =>
        obtain ⟨rfl, rfl⟩ := List.cons.inj heq
        obtain ⟨ha, hbefore⟩ := List.forall_mem_cons.mp hbefore
        exact .inr ⟨ha, before, b, after, rfl, hbefore, hb⟩
  · rintro (ha | ⟨ha, before, b, after, rfl, hbefore, hb⟩)
    · exact ⟨[], a, as, rfl, by simp, ha⟩
    · exact ⟨a :: before, b, after, rfl, List.forall_mem_cons.mpr ⟨ha, hbefore⟩, hb⟩

namespace Ending

theorem congr
    {x : Outcome α} {written broken written' broken' : Prop} (hx : Ending x written broken)
    (hwritten : written ↔ written') (hbroken : broken ↔ broken') : Ending x written' broken' :=
  ⟨hx.written_iff.trans hwritten, hx.broken_iff.trans hbroken, hx.others⟩

theorem ok
    (a : α) : Ending (.ok a : Outcome α) True False :=
  ⟨by simp, by simp, failsOnly_ok a⟩

theorem unfit : Ending (.error .unfit : Outcome α) False True :=
  ⟨by simp, by simp, failsOnly_error (.inr rfl)⟩

theorem reject
    {reason : Rejection} (hreason : .schema ∈ reason.kind.lineage) :
    Ending (Outcome.reject reason : Outcome α) False False :=
  ⟨by simp [Outcome.reject], by simp [Outcome.reject], failsOnly_error (.inl hreason)⟩

theorem bind
    {x : Outcome α} {f : α → Outcome β} {written broken written' broken' : Prop}
    (hx : Ending x written broken) (hf : ∀ a, x = .ok a → Ending (f a) written' broken') :
    Ending (x >>= f) (written ∧ written') (broken ∨ (written ∧ broken')) := by
  refine ⟨?_, ?_, FailsOnly.bind hx.others fun a ha => (hf a ha).others⟩
  · rw [← hx.written_iff]
    constructor
    · rintro ⟨b, hb⟩
      obtain ⟨a, ha, hb⟩ := bind_eq_ok.mp hb
      exact ⟨⟨a, ha⟩, (hf a ha).written_iff.mp ⟨b, hb⟩⟩
    · rintro ⟨⟨a, ha⟩, hwritten⟩
      obtain ⟨b, hb⟩ := (hf a ha).written_iff.mpr hwritten
      exact ⟨b, bind_eq_ok.mpr ⟨a, ha, hb⟩⟩
  · rw [← hx.written_iff, ← hx.broken_iff, bind_eq_error]
    apply or_congr_right
    constructor
    · rintro ⟨a, ha, hfailure⟩
      exact ⟨⟨a, ha⟩, (hf a ha).broken_iff.mp hfailure⟩
    · rintro ⟨⟨a, ha⟩, hbroken⟩
      exact ⟨a, ha, (hf a ha).broken_iff.mpr hbroken⟩

theorem map
    {x : Outcome α} {f : α → β} {written broken : Prop} (hx : Ending x written broken) :
    Ending (x.map f) written broken :=
  (hx.bind fun a _ => ok (f a)).congr (by simp) (by simp)

theorem mapM
    {f : α → Outcome β} {written broken : α → Prop} {as : List α}
    (hf : ∀ a ∈ as, Ending (f a) (written a) (broken a)) :
    Ending (as.mapM f) (∀ a ∈ as, written a) (StopsAt written broken as) := by
  induction as with
  | nil => exact (ok []).congr (by simp) (by simp [stopsAt_nil])
  | cons a as ih =>
      obtain ⟨ha, has⟩ := List.forall_mem_cons.mp hf
      rw [List.mapM_cons]
      refine (ha.bind fun b _ => (ih has).bind fun bs _ => ok (b :: bs)).congr ?_ ?_
      · simp
      · simp [stopsAt_cons]

end Ending

end Outcome

open Outcome

/-! ## Defaults -/

namespace Literal

/-- A value that is written as a JSON document whatever its column is. -/
def IsStructure : Value → Prop
  | .dict _ | .list _ => True
  | _ => False

/-- Whether a literal stands for a value by what it is. -/
def HasScalar : Value → Prop
  | .null | .bool _ | .int _ | .float _ | .moment _ | .day _ | .text _ | .ownText _ | .uuid _ => True
  | v => IsStructure v ∧ ¬ v.LacksJson

/-- Whether a value would be written as a JSON document and has no JSON text. -/
def BreaksScalar (v : Value) : Prop := IsStructure v ∧ v.LacksJson

/-- Whether a literal stands for the default of a column of this type. -/
def HasLiteral : ColumnType → Value → Prop
  | _, .null => True
  | .json, v => ¬ v.LacksJson
  | .array _, v => ∃ items, v.listed? = some items ∧ ∀ item ∈ items, HasScalar item
  | _, v => HasScalar v

/-- Whether the default of a column of this type is, or has as its first item without a literal,
a document that has no JSON text. -/
def BreaksAtJson : ColumnType → Value → Prop
  | .json, v => v.LacksJson
  | .array _, v => ∃ items, v.listed? = some items ∧ StopsAt HasScalar BreaksScalar items
  | _, v => BreaksScalar v

theorem ending_json
    (v : Value) : Ending (json v) (¬ v.LacksJson) v.LacksJson := by
  unfold json
  cases htext : v.jsonText? with
  | none =>
      have hlacks := Value.jsonText?_eq_none_iff.mp htext
      exact Ending.unfit.congr (by simp [hlacks]) (by simp [hlacks])
  | some text =>
      have hhas : ¬ v.LacksJson := fun hlacks => by simp [hlacks.jsonText?_eq_none] at htext
      exact (Ending.ok (quoted text)).congr (by simp [hhas]) (by simp [hhas])

theorem ending_scalar
    (columnName v : Value) : Ending (scalar columnName v) (HasScalar v) (BreaksScalar v) := by
  have hkind : RejectionKind.schema ∈ (Rejection.unrenderableDefault columnName v).kind.lineage :=
    List.mem_cons_self
  cases v with
  | null | bool | int | float | moment | day | text | ownText | uuid =>
      exact (Ending.ok _).congr (by simp [HasScalar]) (by simp [BreaksScalar, IsStructure])
  | dict | list =>
      exact (ending_json _).congr (by simp [HasScalar, IsStructure])
        (by simp [BreaksScalar, IsStructure])
  | _ =>
      exact (Ending.reject hkind).congr (by simp [HasScalar, IsStructure])
        (by simp [BreaksScalar, IsStructure])

theorem ending_array
    (columnName v : Value) :
    Ending (array columnName v) (∃ items, v.listed? = some items ∧ ∀ item ∈ items, HasScalar item)
      (∃ items, v.listed? = some items ∧ StopsAt HasScalar BreaksScalar items) := by
  unfold array
  split
  next hlisted =>
    have hkind : RejectionKind.schema ∈ (Rejection.unlistedDefault columnName v).kind.lineage :=
      List.mem_cons_self
    exact (Ending.reject hkind).congr (by simp [hlisted]) (by simp [hlisted])
  next hlisted =>
    exact (Ending.ok _).congr (by simp [hlisted]) (by simp [hlisted, stopsAt_nil])
  next items _ hlisted =>
    have hitems := Ending.mapM fun item (_ : item ∈ items) => ending_scalar columnName item
    exact (hitems.bind fun texts _ => Ending.ok _).congr (by simp [hlisted]) (by simp [hlisted])

theorem not_breaksAtJson_null
    (t : ColumnType) : ¬ BreaksAtJson t .null := by
  have htext : ¬ Value.null.LacksJson := fun hlacks => by
    simpa [Value.jsonText?] using hlacks.jsonText?_eq_none
  cases t <;> simp [BreaksAtJson, BreaksScalar, IsStructure, Value.listed?, htext]

theorem ending_render
    (t : ColumnType) (columnName v : Value) :
    Ending (render t columnName v) (HasLiteral t v) (BreaksAtJson t v) := by
  unfold render
  split
  next => exact (Ending.ok "NULL").congr (by simp [HasLiteral]) (by simp [not_breaksAtJson_null])
  next hnull => exact (ending_json v).congr (by simp [HasLiteral]) (by simp [BreaksAtJson])
  next hnull =>
    exact (ending_array columnName v).congr (by simp [HasLiteral]) (by simp [BreaksAtJson])
  next hjson harray hnull =>
    cases t with
    | json => exact absurd rfl hjson
    | array kind => exact absurd rfl (harray kind)
    | bare | primitive | uuid | enumerated =>
        exact (ending_scalar columnName v).congr (by simp [HasLiteral]) (by simp [BreaksAtJson])

end Literal

/-! ## Columns and tables -/

namespace ColumnDefinition

/-- Whether a column has a type to be written with, and a literal for its default if it has one. -/
def HasSql (d : ColumnDefinition) : Prop :=
  d.type ≠ .bare ∧ ∀ v ∈ d.default, Literal.HasLiteral d.type v

/-- Whether a column has a type to be written with, and its default breaks off. -/
def BreaksAtJson (d : ColumnDefinition) : Prop :=
  d.type ≠ .bare ∧ ∃ v ∈ d.default, Literal.BreaksAtJson d.type v

theorem ending_literal
    (key : Value) (d : ColumnDefinition) :
    Ending (d.literal key) (∀ v ∈ d.default, Literal.HasLiteral d.type v)
      (∃ v ∈ d.default, Literal.BreaksAtJson d.type v) := by
  unfold literal
  cases d.default with
  | none => exact (Ending.ok none).congr (by simp) (by simp)
  | some v =>
      exact (Literal.ending_render d.type (d.columnName key) v).map.congr (by simp) (by simp)

theorem ending_sql
    {key : Value} {d : ColumnDefinition} {name : String} (hname : d.columnName key = .text name)
    (quoting : Bool) : Ending (d.sql quoting key) d.HasSql d.BreaksAtJson := by
  have hkind : RejectionKind.schema ∈
      (Rejection.unsupportedColumnType (.columnType .bare) (.text name)).kind.lineage :=
    List.mem_cons_of_mem _ List.mem_cons_self
  have htype : Ending (d.type.sqlType (.text name)) (d.type ≠ .bare) False := by
    cases d.type with
    | bare => exact (Ending.reject hkind).congr (by simp) (by simp)
    | _ => exact (Ending.ok _).congr (by simp) (by simp)
  rw [sql_of_textName hname]
  refine (htype.bind fun type _ => (ending_literal key d).bind fun literal _ => .ok _).congr ?_ ?_
  · simp [HasSql]
  · simp [BreaksAtJson]

end ColumnDefinition

theorem ending_createTable
    {columns : Columns} {table : Value} (hnames : columns.HasTextNames table) (quoting : Bool) :
    Ending (createTable quoting table columns) (∀ column ∈ columns, column.2.HasSql)
      (StopsAt (fun column => column.2.HasSql) (fun column => column.2.BreaksAtJson) columns) := by
  obtain ⟨⟨name, rfl⟩, hcolumns⟩ := hnames
  have hdefinitions := Ending.mapM fun column (hcolumn : column ∈ columns) => by
    obtain ⟨columnName, hname⟩ := hcolumns column hcolumn
    exact ColumnDefinition.ending_sql hname quoting
  unfold createTable
  rw [Identifier.written?_text]
  exact (hdefinitions.bind fun definitions _ => .ok _).congr (by simp) (by simp)

/-- A default either has a literal or is rejected with a reason that blames the schema, and so are
its column and its table.  Only a document without a JSON text, where the writing gets to it, ends
all of them with another failure. -/
theorem ending_of_default
    (t : ColumnType) (name : String) (v : Value) (quoting : Bool) :
    Ending (Literal.render t (.text name) v) (Literal.HasLiteral t v)
      (Literal.BreaksAtJson t v) ∧
    (∀ (key : Value) (d : ColumnDefinition), (∃ name, d.columnName key = .text name) →
      Ending (d.sql quoting key) d.HasSql d.BreaksAtJson) ∧
    ∀ (table : Value) (columns : Columns), columns.HasTextNames table →
      Ending (createTable quoting table columns) (∀ column ∈ columns, column.2.HasSql)
        (StopsAt (fun column => column.2.HasSql) (fun column => column.2.BreaksAtJson)
          columns) := by
  refine ⟨Literal.ending_render t (.text name) v, ?_, ?_⟩
  · rintro key d ⟨name, hname⟩
    exact ColumnDefinition.ending_sql hname quoting
  · intro table columns hnames
    exact ending_createTable hnames quoting

theorem ending_of_default_set :
    let hidden : Value := .dict [(.text "k", .list [.set [.int 1]])]
    let document : ColumnDefinition :=
      { ColumnDefinition.ofType .json with default := some hidden }
    let handle : ColumnDefinition :=
      { ColumnDefinition.ofType (.primitive .number) with default := some (.handle "x" none) }
    Literal.render (.array .string) (.text "c") (.list [.text "a", hidden, .bytes []]) =
        .error .unfit ∧
      document.sql true (.text "c") = .error .unfit ∧
      createTable true (.text "t") [(.text "c", document), (.text "d", handle)] = .error .unfit ∧
      ∃ reason, createTable true (.text "t") [(.text "d", handle), (.text "c", document)] =
        Outcome.reject reason ∧ .schema ∈ reason.kind.lineage := by
  intro hidden document handle
  obtain ⟨hrender, hsql, htable⟩ := ending_of_default (.array .string) "c"
    (.list [.text "a", hidden, .bytes []]) true
  have hlacks : hidden.LacksJson :=
    .inDict List.mem_cons_self (.inList List.mem_cons_self (.foreign rfl))
  have hbreaks : document.BreaksAtJson :=
    ⟨by simp [document, ColumnDefinition.ofType], hidden, rfl, hlacks⟩
  have hnames : Columns.HasTextNames [(.text "c", document), (.text "d", handle)] (.text "t") :=
    ⟨⟨"t", rfl⟩, by simp [document, handle, ColumnDefinition.columnName, ColumnDefinition.ofType]⟩
  refine ⟨?_, ?_, ?_, .unrenderableDefault (.text "d") (.handle "x" none), rfl, List.mem_cons_self⟩
  · refine hrender.broken_iff.mpr ⟨_, rfl, ?_⟩
    exact ⟨[.text "a"], hidden, [.bytes []], rfl, by simp [Literal.HasScalar], trivial, hlacks⟩
  · exact (hsql (.text "c") document ⟨"c", rfl⟩).broken_iff.mpr hbreaks
  · refine (htable (.text "t") _ hnames).broken_iff.mpr ?_
    exact ⟨[], (.text "c", document), [(.text "d", handle)], rfl, by simp, hbreaks⟩

end SqlBuilder
