import SqlBuilder.Proofs.Schema.Supported
import SqlBuilder.Proofs.Value.Fields

/-!
# Definitions from a mapping of options

A column is defined by a mapping with a type among its options or by giving the
same options by name.  Either way the options are read as the fields of a
definition, but the type of a mapping is resolved beforehand.  What resolves to
a column type is one for the fields as well, and what does not is refused by
both, a mapping in the place of the type apart: the fields take it for the bare
type.
-/

namespace SqlBuilder

namespace ColumnDefinition

variable {type : Value} {t : ColumnType}

/-- Of what is given as a type, a definition depends on the type that is read from it only. -/
theorem ofFields_type_congr
    {other : Value} (hsame : Validation.columnType type = Validation.columnType other)
    (options : Fields) :
    ofFields (("type", type) :: options) = ofFields (("type", other) :: options) := by
  simp [ofFields, Validation.columnDefinition, Fields.required, Fields.defaulted, field?, hsame]

/-- The type of a mapping of options is resolved, and takes the place of what was given. -/
theorem resolve_dict_eq
    (type : Value) (options : Fields) (key : Value) :
    resolve (.dict (Fields.toEntries (("type", type) :: options))) key =
      ColumnType.resolve type key >>= fun t => ofFields (("type", .columnType t) :: options) := by
  have htype : field? (("type", type) :: options) "type" = some type := by simp [field?]
  have htexts : (Fields.toEntries (("type", type) :: options)).all
      (fun entry => entry.1.text?.isSome) = true := by
    rw [List.all_eq_true]
    intro entry hentry
    obtain ⟨name, hname⟩ := Fields.isText_of_mem_toEntries hentry
    simp [hname, Value.text?]
  unfold resolve
  simp only [Fields.lookup?_toEntries, htype, ofOptions, htexts, if_true,
    Fields.ofEntries_toEntries, putField]

theorem resolve_dict_of_columnType
    (ht : type.asColumnType = .columnType t) (options : Fields) (key : Value) :
    resolve (.dict (Fields.toEntries (("type", type) :: options))) key =
      ofFields (("type", type) :: options) := by
  have hresolved : ColumnType.resolve type key = .ok t := by simp [ColumnType.resolve, ht]
  have hread : Validation.columnType type = Validation.columnType (.columnType t) := by
    rw [Validation.columnType, ht]
    rfl
  rw [resolve_dict_eq, hresolved, ofFields_type_congr hread]
  rfl

theorem resolve_dict_of_not_columnType
    (htype : ∀ t, type.asColumnType ≠ .columnType t) (options : Fields) (key : Value) :
    resolve (.dict (Fields.toEntries (("type", type) :: options))) key =
      Outcome.reject (.unsupportedColumnType type key) := by
  have hresolved : ColumnType.resolve type key =
      Outcome.reject (.unsupportedColumnType type key) := by
    unfold ColumnType.resolve
    split
    next t ht => exact absurd ht (htype t)
    next => rfl
  rw [resolve_dict_eq, hresolved]
  rfl

/-- Only what is or stands for a column type and a mapping are read as the type of a definition. -/
theorem columnType_of_ofFields
    {options : Fields} {d : ColumnDefinition}
    (hd : ofFields (("type", type) :: options) = .ok d) :
    type.asColumnType = .columnType d.type ∨ ∃ entries, type = .dict entries := by
  obtain ⟨⟨given, hfield, hread⟩, _⟩ := of_ofFields_eq_ok hd
  obtain rfl : type = given := by simpa [field?] using hfield
  unfold Validation.columnType at hread
  split at hread
  next t ht =>
    obtain rfl := Checked.valid.inj hread
    exact .inl ht
  next entries hentries =>
    have hdict : ∀ t, type ≠ .typeName t := by
      rintro t rfl
      unfold Value.asColumnType at hentries
      cases hkind : t.primitive? <;> simp [hkind] at hentries
    refine .inr ⟨entries, ?_⟩
    cases type with
    | typeName t => exact absurd rfl (hdict t)
    | dict => exact hentries
    | _ => simp [Value.asColumnType] at hentries
  next => simp [Checked.fail] at hread

/-- A mapping of options makes a definition just if giving the options by name makes it, unless
their type is a mapping once more.  The mapping of options is then refused, whereas the options
alone make a definition of the bare type, with which no column can be written. -/
theorem resolve_dict_eq_ok_iff
    (type : Value) (options : Fields) (key : Value) :
    let given : Fields := ("type", type) :: options
    (∀ d, resolve (.dict given.toEntries) key = .ok d ↔
      ofFields given = .ok d ∧ ∀ entries, type ≠ .dict entries) ∧
    ∀ entries, type = .dict entries →
      resolve (.dict given.toEntries) key = Outcome.reject (.unsupportedColumnType type key) ∧
      ofFields given = ofFields (("type", .columnType .bare) :: options) ∧
      ∀ d, ofFields given = .ok d → ∀ quoting name sql, d.sql quoting name ≠ .ok sql := by
  intro given
  have hmapping : ∀ entries, type = .dict entries → ∀ t, type.asColumnType ≠ .columnType t := by
    rintro entries rfl t ht
    simp [Value.asColumnType] at ht
  refine ⟨fun d => ⟨?_, ?_⟩, ?_⟩
  · intro hd
    by_cases htype : ∃ t, type.asColumnType = .columnType t
    · obtain ⟨t, ht⟩ := htype
      rw [resolve_dict_of_columnType ht] at hd
      exact ⟨hd, fun entries hentries => hmapping entries hentries t ht⟩
    · rw [resolve_dict_of_not_columnType (not_exists.mp htype)] at hd
      exact absurd hd (Outcome.reject_ne_ok _ _)
  · rintro ⟨hd, hdict⟩
    rcases columnType_of_ofFields hd with ht | ⟨entries, hentries⟩
    · rwa [resolve_dict_of_columnType ht]
    · exact absurd hentries (hdict entries)
  · rintro entries rfl
    have hbare : ofFields given = ofFields (("type", .columnType .bare) :: options) :=
      ofFields_type_congr rfl options
    refine ⟨resolve_dict_of_not_columnType (hmapping entries rfl) options key, hbare, ?_⟩
    intro d hd quoting name sql hsql
    obtain ⟨type, hfield, htype⟩ := type_of_ofFields hd
    obtain rfl : Value.dict entries = type := by simpa [given, field?] using hfield
    exact type_ne_bare_of_sql hsql (htype.mpr trivial)

/-- The fields of a column type, as a mapping, are no type of a mapping of options. -/
theorem resolve_dict_eq_ok_iff_brand :
    let json : Value := .dict [(.text "brand", .text "json")]
    let given : Fields := [("type", json), ("nullable", .bool true)]
    let made : ColumnDefinition := { ofType .bare with nullable := true }
    ofFields given = .ok made ∧
      resolve (.dict given.toEntries) (.text "c") =
        Outcome.reject (.unsupportedColumnType json (.text "c")) ∧
      (∀ quoting name sql, made.sql quoting name ≠ .ok sql) ∧
      resolve (.dict (Fields.toEntries [("type", .columnType .json)])) (.text "c") =
        .ok (ofType .json) := by
  intro json given made
  have hmade : ofFields given = .ok made := rfl
  obtain ⟨hrefused, _, hunwritable⟩ :=
    (resolve_dict_eq_ok_iff json [("nullable", .bool true)] (.text "c")).2 _ rfl
  have hjson := (resolve_dict_eq_ok_iff (.columnType .json) [] (.text "c")).1 (ofType .json)
  exact ⟨hmade, hrefused, hunwritable made hmade, hjson.mpr ⟨rfl, nofun⟩⟩

end ColumnDefinition

end SqlBuilder
