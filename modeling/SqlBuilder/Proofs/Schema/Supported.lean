import Mathlib.Data.List.Permutation
import SqlBuilder.Proofs.Outcome
import SqlBuilder.Schema.Registry
import SqlBuilder.Validation.Record

/-!
# Supported column types

The bare type is a column type, and a registry takes it for one, though no
column can be written with it.  So an entry that stands for the bare type is not
refused until its table is to be created.  Every other entry that a registry
takes stands for a type that a column can be written with.
-/

namespace SqlBuilder

/-! ## Entries that stand for the bare type -/

namespace Value

/-- Whether a definition whose type is given as this value has the bare type: a
mapping gives it, whatever it holds. -/
def GivesBare : Value → Prop
  | columnType t => t = .bare
  | dict _ => True
  | _ => False

/-- Whether an entry for a column stands for the bare type. -/
def StandsForBare : Value → Prop
  | columnType t => t = .bare
  | dict entries => lookup? entries (.text "type") = some (.columnType .bare)
  | record .columnDefinition fields => ∃ type, field? fields "type" = some type ∧ type.GivesBare
  | _ => False

/-- Whether a column of an entry for a table stands for the bare type. -/
def DeclaresBare (table : Value) : Prop :=
  ∃ columns, table.entries = .ok columns ∧ ∃ column ∈ columns, column.2.StandsForBare

/-- Whether a column of a schema stands for the bare type. -/
def HoldsBare (schema : Value) : Prop :=
  ∃ tables, schema.entries = .ok tables ∧ ∃ table ∈ tables, table.2.DeclaresBare

end Value

theorem ColumnType.resolve_eq_ok
    {v columnName : Value} {t : ColumnType} (ht : resolve v columnName = .ok t) :
    t = .bare ↔ v = .columnType .bare := by
  unfold resolve Value.asColumnType at ht
  cases v with
  | columnType given =>
      obtain rfl := Except.ok.inj ht
      simp
  | typeName name =>
      cases hkind : name.primitive? with
      | some kind =>
          simp only [hkind] at ht
          obtain rfl := Except.ok.inj ht
          simp
      | none =>
          simp only [hkind] at ht
          exact absurd ht (Outcome.reject_ne_ok _ _)
  | _ => exact absurd ht (Outcome.reject_ne_ok _ _)

theorem Validation.columnType_eq_valid
    {v : Value} {t : ColumnType} (ht : columnType v = .valid t) : t = .bare ↔ v.GivesBare := by
  unfold columnType Value.asColumnType at ht
  cases v with
  | columnType given =>
      obtain rfl := Checked.valid.inj ht
      rfl
  | dict entries =>
      obtain rfl := Checked.valid.inj ht
      simp [Value.GivesBare]
  | typeName name =>
      cases hkind : name.primitive? with
      | some kind =>
          simp only [hkind] at ht
          obtain rfl := Checked.valid.inj ht
          simp [Value.GivesBare]
      | none => simp [hkind, Checked.fail] at ht
  | _ => simp [Checked.fail] at ht

theorem Fields.required_eq_valid
    {α : Type} {fields : Fields} {name : String} {check : Value → Checked α} {a : α} :
    fields.required name check = .valid a ↔
      ∃ v, field? fields name = some v ∧ check v = .valid a := by
  unfold required
  cases field? fields name <;> simp [Checked.within_eq_valid, Checked.fail]

namespace ColumnDefinition

variable {d : ColumnDefinition} {fields : Fields} {v key : Value}

/-- A definition that is made has the type that was given, and the default was checked for it. -/
theorem of_ofFields_eq_ok
    (hd : ofFields fields = .ok d) :
    (∃ type, field? fields "type" = some type ∧ Validation.columnType type = .valid d.type) ∧
      defaultAllowed d.type d.default = true := by
  unfold ofFields Validation.columnDefinition at hd
  obtain ⟨checked, hchecked, hnext⟩ := Checked.andThen_eq_valid.mp (Checked.orInvalid_eq_ok.mp hd)
  obtain ⟨_, primaryKey, hnullable, _, rfl⟩ := Checked.seq_eq_valid.mp hchecked
  obtain ⟨_, nullable, hname, _, rfl⟩ := Checked.seq_eq_valid.mp hnullable
  obtain ⟨_, name, hmade, _, rfl⟩ := Checked.seq_eq_valid.mp hname
  obtain ⟨t, hrequired, rfl⟩ := Checked.map_eq_valid.mp hmade
  obtain ⟨type, hfield, htype⟩ := Fields.required_eq_valid.mp hrequired
  split at hnext
  next values =>
    split at hnext
    next hallowed =>
      obtain rfl := Checked.valid.inj hnext
      exact ⟨⟨type, hfield, htype⟩, hallowed⟩
    next => simp [Checked.fail] at hnext
  next hother =>
    obtain rfl := Checked.valid.inj hnext
    refine ⟨⟨type, hfield, htype⟩, ?_⟩
    cases t with
    | enumerated values => exact absurd rfl (hother values)
    | bare | primitive kind | json | uuid | array item => rfl

theorem type_of_ofFields
    (hd : ofFields fields = .ok d) :
    ∃ type, field? fields "type" = some type ∧ (d.type = .bare ↔ type.GivesBare) := by
  obtain ⟨⟨type, hfield, htype⟩, _⟩ := of_ofFields_eq_ok hd
  exact ⟨type, hfield, Validation.columnType_eq_valid htype⟩

/-- A definition has the bare type if its entry stands for it, and only then. -/
theorem resolve_eq_ok
    (hd : resolve v key = .ok d) : d.type = .bare ↔ v.StandsForBare := by
  unfold resolve at hd
  split at hd
  next fields =>
    obtain ⟨type, hfield, htype⟩ := type_of_ofFields hd
    simp [Value.StandsForBare, hfield, htype]
  next entries =>
    split at hd
    next => exact absurd hd (Outcome.reject_ne_ok _ _)
    next type hlookup =>
      obtain ⟨t, ht, hd⟩ := Outcome.bind_eq_ok.mp hd
      unfold ofOptions at hd
      split at hd
      next =>
        obtain ⟨given, hfield, hgiven⟩ := type_of_ofFields hd
        rw [field?_putField_self] at hfield
        obtain rfl := Option.some.inj hfield
        rw [hgiven]
        simp [Value.GivesBare, Value.StandsForBare, hlookup, ColumnType.resolve_eq_ok ht]
      next => simp at hd
  next hdefinition hdict =>
    obtain ⟨t, ht, hd⟩ := Outcome.bind_eq_ok.mp hd
    obtain rfl := Outcome.pure_eq_ok.mp hd
    have hbare : v = .columnType .bare ↔ v.StandsForBare := by
      cases v with
      | columnType given => simp [Value.StandsForBare]
      | dict entries => exact absurd rfl (hdict entries)
      | record kind fields =>
          cases kind with
          | columnDefinition => exact absurd rfl (hdefinition fields)
          | filter | join | statement | queryResult => simp [Value.StandsForBare]
      | _ => simp [Value.StandsForBare]
    rw [← hbare]
    exact ColumnType.resolve_eq_ok ht

end ColumnDefinition

/-! ## Failures that blame a type -/

/-- Whether a failure says that a column type is not supported. -/
def Failure.BlamesType : Failure → Prop
  | rejected reason => reason.kind = .unsupportedColumnType
  | _ => False

theorem Rejection.kind_of_tableNotFound?
    {name available : Value} {reason : Rejection}
    (hreason : tableNotFound? name available = some reason) : reason.kind = .tableNotFound := by
  unfold tableNotFound? at hreason
  simp only at hreason
  split at hreason
  next =>
    obtain ⟨listed, _, hreason⟩ := Option.bind_eq_some_iff.mp hreason
    obtain rfl := Option.some.inj hreason
    rfl
  next =>
    obtain rfl := Option.some.inj hreason
    rfl

namespace Outcome

variable {α β : Type}

/-- A call that does not fail by an unsupported column type. -/
def Supported (x : Outcome α) : Prop := ∀ failure, x = .error failure → ¬failure.BlamesType

theorem supported_ok
    (a : α) : Supported (.ok a : Outcome α) := failsOnly_ok a

theorem supported_error
    {failure : Failure} (hfailure : ¬failure.BlamesType) :
    Supported (.error failure : Outcome α) := failsOnly_error hfailure

theorem Supported.bind
    {x : Outcome α} {f : α → Outcome β} (hx : Supported x)
    (hf : ∀ a, x = .ok a → Supported (f a)) : Supported (x >>= f) := FailsOnly.bind hx hf

theorem supported_mapM
    {f : α → Outcome β} {as : List α} (hf : ∀ a ∈ as, Supported (f a)) :
    Supported (as.mapM f) := by
  induction as with
  | nil => exact supported_ok []
  | cons a as ih =>
      obtain ⟨ha, has⟩ := List.forall_mem_cons.mp hf
      rw [List.mapM_cons]
      exact ha.bind fun b _ => (ih has).bind fun bs _ => supported_ok (b :: bs)

theorem supported_ofOption
    (x : Option α) : Supported (ofOption .unfit x) := by
  cases x with
  | some a => exact supported_ok a
  | none => exact supported_error not_false

end Outcome

open Outcome

theorem Identifier.supported_written?
    (quoting : Bool) (name : Value) : Supported (written? quoting name) := by
  unfold written?
  split
  next => exact supported_ok name
  next =>
    split
    case h_1 | h_2 => exact supported_ok _
    case h_3 =>
      split
      next => exact supported_ok _
      next => exact supported_error not_false
    all_goals exact supported_error not_false

namespace Literal

theorem supported_json
    (v : Value) : Supported (json v) := by
  unfold json
  cases v.jsonText?.map quoted with
  | some s => exact supported_ok s
  | none => exact supported_error not_false

theorem supported_scalar
    (columnName v : Value) : Supported (scalar columnName v) := by
  unfold scalar
  split
  case h_10 | h_11 => exact supported_json _
  case h_12 => exact supported_error (by simp [Failure.BlamesType, Rejection.kind])
  all_goals exact supported_ok _

theorem supported_array
    (columnName v : Value) : Supported (array columnName v) := by
  unfold array
  split
  next => exact supported_error (by simp [Failure.BlamesType, Rejection.kind])
  next => exact supported_ok _
  next items _ _ =>
    exact (supported_mapM fun item _ => supported_scalar columnName item).bind
      fun _ _ => supported_ok _

theorem supported_render
    (t : ColumnType) (columnName v : Value) : Supported (render t columnName v) := by
  unfold render
  split
  next => exact supported_ok _
  next => exact supported_json v
  next => exact supported_array columnName v
  next => exact supported_scalar columnName v

end Literal

/-! ## Columns and tables -/

theorem ColumnType.exists_sqlType_iff
    (t : ColumnType) (columnName : Value) :
    (∃ sqlType, t.sqlType columnName = .ok sqlType) ↔ t ≠ .bare := by
  cases t <;> simp [sqlType, Outcome.reject]

namespace ColumnDefinition

variable {d : ColumnDefinition}

theorem supported_sql
    (hd : d.type ≠ .bare) (quoting : Bool) (key : Value) : Supported (d.sql quoting key) := by
  have htype : Supported (d.type.sqlType (d.columnName key)) := by
    obtain ⟨sqlType, hsqlType⟩ := (d.type.exists_sqlType_iff (d.columnName key)).mpr hd
    rw [hsqlType]
    exact supported_ok sqlType
  have hparts : Supported (d.parts quoting key) := by
    unfold parts
    refine (Identifier.supported_written? quoting _).bind fun name _ => ?_
    refine htype.bind fun sqlType _ => ?_
    cases d.default with
    | none => exact supported_ok _
    | some v =>
        exact (Literal.supported_render d.type _ v).bind fun literal _ => supported_ok _
  exact hparts.bind fun parts _ => (supported_ofOption _).bind fun _ _ => supported_ok _

theorem type_ne_bare_of_sql
    {quoting : Bool} {key : Value} {sql : String} (hsql : d.sql quoting key = .ok sql) :
    d.type ≠ .bare := by
  unfold ColumnDefinition.sql parts at hsql
  obtain ⟨_, hparts, _⟩ := Outcome.bind_eq_ok.mp hsql
  obtain ⟨_, _, hparts⟩ := Outcome.bind_eq_ok.mp hparts
  obtain ⟨sqlType, hsqlType, _⟩ := Outcome.bind_eq_ok.mp hparts
  exact (d.type.exists_sqlType_iff _).mp ⟨sqlType, hsqlType⟩

end ColumnDefinition

theorem supported_createTable
    {columns : Columns} (hcolumns : ∀ column ∈ columns, column.2.type ≠ .bare) (quoting : Bool)
    (table : Value) : Supported (createTable quoting table columns) := by
  have hdefinitions : Supported (columns.mapM fun column => column.2.sql quoting column.1) :=
    supported_mapM fun column hcolumn =>
      ColumnDefinition.supported_sql (hcolumns column hcolumn) quoting column.1
  exact hdefinitions.bind fun definitions _ =>
    (Identifier.supported_written? quoting table).bind fun name _ => supported_ok _

theorem type_ne_bare_of_createTable
    {columns : Columns} {quoting : Bool} {table : Value} {sql : String}
    (hsql : createTable quoting table columns = .ok sql) :
    ∀ column ∈ columns, column.2.type ≠ .bare := by
  unfold createTable at hsql
  obtain ⟨definitions, hdefinitions, _⟩ := Outcome.bind_eq_ok.mp hsql
  intro column hcolumn
  obtain ⟨text, _, htext⟩ := (Outcome.mem_of_mapM_eq_ok hdefinitions).1 column hcolumn
  exact ColumnDefinition.type_ne_bare_of_sql htext

/-- The columns made from an entry for a table have one of the bare type if the entry
has one for a column that stands for it. -/
theorem Columns.exists_bare_iff
    {table : Value} {columns : Columns} (hcolumns : Columns.ofValue table = .ok columns) :
    (∃ column ∈ columns, column.2.type = .bare) ↔ table.DeclaresBare := by
  unfold Columns.ofValue at hcolumns
  obtain ⟨entries, hentries, hcolumns⟩ := Outcome.bind_eq_ok.mp hcolumns
  have hexists := Outcome.exists_keyed_iff (fun key v => ColumnDefinition.resolve v key) hcolumns
    fun key v d hd => ColumnDefinition.resolve_eq_ok hd
  simpa only [Value.DeclaresBare, hentries, Except.ok.injEq, exists_eq_left'] using hexists

namespace Registry

variable {r : Registry} {schema : Value}

theorem exists_bare_iff
    (hr : ofValue schema = .ok r) :
    (∃ table ∈ r.tables, ∃ column ∈ table.2, column.2.type = .bare) ↔ schema.HoldsBare := by
  unfold ofValue at hr
  obtain ⟨entries, hentries, hr⟩ := Outcome.bind_eq_ok.mp hr
  obtain ⟨tables, htables, hr⟩ := Outcome.bind_eq_ok.mp hr
  obtain rfl := Outcome.pure_eq_ok.mp hr
  have hexists := Outcome.exists_keyed_iff (fun _ => Columns.ofValue) htables
    fun _ table columns hcolumns => Columns.exists_bare_iff hcolumns
  simpa only [Value.HoldsBare, hentries, Except.ok.injEq, exists_eq_left'] using hexists

theorem get_eq_ok
    {name : Value} {columns : Columns} (hcolumns : r.get name = .ok columns) :
    ∃ table ∈ r.tables, table.2 = columns := by
  unfold get lookup at hcolumns
  split at hcolumns
  next =>
    obtain ⟨found, hfound, hcolumns⟩ := Outcome.bind_eq_ok.mp hcolumns
    obtain rfl := Except.ok.inj hfound
    split at hcolumns
    next columns' hlookup =>
      obtain rfl := Outcome.pure_eq_ok.mp hcolumns
      obtain ⟨table, htable, rfl⟩ := Option.map_eq_some_iff.mp hlookup
      exact ⟨table, List.mem_of_find?_eq_some htable, rfl⟩
    next => simp at hcolumns
  next => simp [bind, Except.bind] at hcolumns

theorem supported_get
    (r : Registry) (name : Value) : Supported (r.get name) := by
  have hlookup : Supported (r.lookup name) := by
    unfold lookup
    split
    next => exact supported_ok _
    next => exact supported_error not_false
  refine hlookup.bind fun found _ => ?_
  split
  next => exact supported_ok _
  next =>
    unfold missing
    split
    next reason hreason =>
      have hkind := Rejection.kind_of_tableNotFound? hreason
      exact supported_error (by simp [Failure.BlamesType, hkind])
    next => exact supported_error not_false

/-- What a registry takes for the types of its columns is supported as long as no entry
of its schema stands for the bare type, and only then.  If none does, no table is
refused for the type of a column; if one does, not all tables can be created. -/
theorem supported_iff
    (hr : ofValue schema = .ok r) :
    ((∀ table ∈ r.tables, ∀ column ∈ table.2, ∀ columnName,
        ∃ sqlType, column.2.type.sqlType columnName = .ok sqlType) ↔ ¬schema.HoldsBare) ∧
    (¬schema.HoldsBare → ∀ quoting,
      (∀ name, Supported (r.createTable quoting name)) ∧ Supported (r.createTables quoting)) ∧
    (schema.HoldsBare → ∀ quoting sqls, r.createTables quoting ≠ .ok sqls) := by
  have hexists := exists_bare_iff hr
  have hnone : ¬schema.HoldsBare → ∀ table ∈ r.tables, ∀ column ∈ table.2,
      column.2.type ≠ .bare := by
    intro hschema table htable column hcolumn hbare
    exact hschema (hexists.mp ⟨table, htable, column, hcolumn, hbare⟩)
  refine ⟨⟨?_, ?_⟩, ?_, ?_⟩
  · intro hsupported hschema
    obtain ⟨table, htable, column, hcolumn, hbare⟩ := hexists.mpr hschema
    exact (column.2.type.exists_sqlType_iff .null).mp
      (hsupported table htable column hcolumn .null) hbare
  · intro hschema table htable column hcolumn columnName
    exact (column.2.type.exists_sqlType_iff columnName).mpr
      (hnone hschema table htable column hcolumn)
  · intro hschema quoting
    constructor
    · intro name
      refine (supported_get r name).bind fun columns hcolumns => ?_
      obtain ⟨table, htable, rfl⟩ := get_eq_ok hcolumns
      exact supported_createTable (hnone hschema table htable) quoting name
    · exact supported_mapM fun table htable =>
        supported_createTable (hnone hschema table htable) quoting table.1
  · intro hschema quoting sqls hsqls
    obtain ⟨table, htable, column, hcolumn, hbare⟩ := hexists.mpr hschema
    obtain ⟨sql, _, hsql⟩ := (Outcome.mem_of_mapM_eq_ok hsqls).1 table htable
    exact type_ne_bare_of_createTable hsql column hcolumn hbare

/-- A schema that is taken, though its one table cannot be created. -/
theorem supported_iff_bare :
    let schema : Value := .dict [(.text "t", .dict [(.text "c", .columnType .bare)])]
    let r : Registry := ⟨[(.text "t", [(.text "c", .ofType .bare)])]⟩
    ofValue schema = .ok r ∧ schema.HoldsBare ∧
      r.createTable true (.text "t") =
        Outcome.reject (.unsupportedColumnType (.columnType .bare) (.text "c")) ∧
      ∀ quoting sqls, r.createTables quoting ≠ .ok sqls := by
  intro schema r
  have hr : ofValue schema = .ok r := rfl
  have hschema : schema.HoldsBare :=
    ⟨_, rfl, _, List.mem_singleton_self _, _, rfl, _, List.mem_singleton_self _, rfl⟩
  refine ⟨hr, hschema, ?_, (supported_iff hr).2.2 hschema⟩
  cbv

end Registry

end SqlBuilder
