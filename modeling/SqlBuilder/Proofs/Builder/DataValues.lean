import SqlBuilder.Proofs.Builder.Reachable
import SqlBuilder.Proofs.Statement.DataValues

/-!
# The data values of calls

Of a data value a builder asks two things at most: whether it is nothing, and
whether it is a mapping.  Two runs whose data values agree on these are told
apart by their parameters alone.
-/

namespace SqlBuilder

/-- A replacement of data values that keeps what builders ask of them. -/
structure KeepsShape (f : Value → Value) : Prop where
  null_iff : ∀ v, f v = .null ↔ v = .null
  dict_iff : ∀ v, (∃ entries, f v = .dict entries) ↔ ∃ entries, v = .dict entries

variable (f : Value → Value)

/-! ## Data values in arguments -/

namespace Value

/-- Other values in a record. -/
def mapRecord : Value → Value
  | dict entries => dict (entries.map (Prod.map id f))
  | v => v

/-- Other values in a record, or in each record of a list or a tuple. -/
def mapRecords : Value → Value
  | dict entries => dict (entries.map (Prod.map id f))
  | list vs => list (vs.map (mapRecord f))
  | tuple vs => tuple (vs.map (mapRecord f))
  | v => v

/-- Another value under a key of an operator mapping. -/
def mapOperand (key v : Value) : Value :=
  match key.equalText? with
  | some "in" | some "not_in" | some "notIn" => v.mapItems f
  | some "like" | some "ilike" | some "gt" | some "lt" | some "gte" | some "lte" | some "not" => f v
  | _ => v

/-- Other values in what is asked of a column. -/
def mapAsked : Value → Value
  | dict entries => dict (entries.map fun (key, v) => (key, mapOperand f key v))
  | v => f v

/-- Other values in conditions by column. -/
def mapConditions : Value → Value
  | dict entries => dict (entries.map (Prod.map id (mapAsked f)))
  | v => v

end Value

namespace Call

/-- Other data values in an argument by position. -/
def mapArgument (word : String) : Value → Value :=
  match word with
  | "insert" => Value.mapRecords f
  | "update" => Value.mapRecord f
  | "where" | "or_where" => Value.mapConditions f
  | _ => id

/-- Other data values in an argument by name. -/
def mapNamed (word : String) : Value → Value :=
  match word with
  | "insert" => Value.mapRecords f
  | "update" => Value.mapRecord f
  | "where" | "or_where" => Value.mapAsked f
  | _ => id

theorem mapArgument_eq_id
    {word : String} (hword : word ∉ ["insert", "update", "where", "or_where"]) :
    mapArgument f word = id := by
  unfold mapArgument
  split <;> simp at hword ⊢

theorem mapNamed_eq_id
    {word : String} (hword : word ∉ ["insert", "update", "where", "or_where"]) :
    mapNamed f word = id := by
  unfold mapNamed
  split <;> simp at hword ⊢

/-- A call with other data values. -/
def mapData (c : Call) : Call :=
  { word := c.word
    args := c.args.map (mapArgument f c.word)
    named := c.named.map (Prod.map id (mapNamed f c.word)) }

end Call

def Change.mapData : Change → Change
  | insert data => insert (data.mapRecords f)
  | update data => update (data.mapRecord f)
  | filter connective conditions named =>
    filter connective (conditions.mapConditions f) (named.map (Prod.map id (Value.mapAsked f)))
  | select columns => select columns
  | delete => delete
  | join kind table left operator right => join kind table left operator right
  | limit n => limit n
  | offset n => offset n

def Request.mapData : Request → Request
  | change c => change (c.mapData f)
  | compiled => compiled
  | snapshot => snapshot
  | tableName => tableName
  | execute => execute
  | first => first
  | rows => rows

/-- A builder that was given other data values. -/
def Builder.mapData (b : Builder) : Builder :=
  { b with
    filters := b.filters.map (Filter.mapData f)
    payload := b.payload.mapRecords f }

def Changed.mapData (c : Changed) : Changed := { c with builder := c.builder.mapData f }

/-! ## Requests by name -/

namespace Request

variable (g : Value → Value) (args : List Value) (named : Fields)

theorem field?_map
    (name : String) : field? (named.map (Prod.map id g)) name = (field? named name).map g :=
  Record.field?_mapData g named name

theorem mapM_field?_map
    (parameters : List String) :
    parameters.mapM (field? (named.map (Prod.map id g))) =
      (parameters.mapM (field? named)).map (List.map g) := by
  induction parameters with
  | nil => rfl
  | cons parameter parameters ih =>
      rw [List.mapM_cons, List.mapM_cons, field?_map, ih]
      cases field? named parameter with
      | none => rfl
      | some v => cases parameters.mapM (field? named) <;> rfl

theorem bind_map
    (parameters : List String) :
    bind parameters (args.map g) (named.map (Prod.map id g)) =
      (bind parameters args named).map (List.map g) := by
  have hnamed : ∀ parameters, bindNamed parameters (named.map (Prod.map id g)) =
      (bindNamed parameters named).map (List.map g) := by
    intro parameters
    unfold bindNamed
    rw [mapM_field?_map, List.all_map]
    simp only [Function.comp_def, Prod.map_fst, id_eq]
    split
    next => cases parameters.mapM (field? named) <;> rfl
    next => rfl
  unfold bind
  rw [List.length_map, hnamed]
  split
  next => rfl
  next => cases bindNamed (parameters.drop args.length) named <;>
    simp [Bind.bind, Except.bind, pure, Except.pure, Except.map]

theorem single_map
    {make : Value → Change} (hmake : ∀ v, (make v).mapData f = make (g v)) (parameter : String) :
    single parameter make (args.map g) (named.map (Prod.map id g)) =
      (single parameter make args named).map (mapData f) := by
  unfold single
  rw [bind_map]
  cases bind [parameter] args named with
  | error failure => rfl
  | ok vs =>
      match vs with
      | [] | _ :: _ :: _ => rfl
      | [v] => exact congrArg (fun c => Except.ok (Request.change c)) (hmake v).symm

theorem plain_mapData
    {r : Request} (hr : r.mapData f = r) :
    (plain r args named).map (mapData f) = plain r args named := by
  unfold plain
  cases bind [] args named with
  | error failure => rfl
  | ok vs => exact congrArg Except.ok hr

theorem select_mapData :
    (select args named).map (mapData f) = select args named := by
  unfold select
  split <;> rfl

theorem join_mapData
    (kind : JoinKind) : (join kind args named).map (mapData f) = join kind args named := by
  unfold join
  cases bind ["table", "left", "operator", "right"] args named with
  | error failure => rfl
  | ok vs =>
      simp only [Bind.bind, Except.bind]
      split <;> rfl

theorem filter_mapData
    (connective : Connective) :
    filter connective (args.map (Value.mapConditions f))
        (named.map (Prod.map id (Value.mapAsked f))) =
      (filter connective args named).map (mapData f) := by
  match args with
  | [] | [_] | _ :: _ :: _ => rfl

/-- Requests that are given no data values. -/
theorem map_ofWord
    {word : String} (hword : word ∉ ["insert", "update", "where", "or_where"]) :
    (ofWord word args named).map (mapData f) = ofWord word args named := by
  unfold ofWord
  split
  case h_2 | h_3 | h_9 | h_10 => simp at hword
  case h_1 => exact select_mapData f args named
  case h_5 | h_6 | h_7 | h_8 => exact join_mapData f args named _
  case h_4 | h_13 | h_14 | h_15 => exact plain_mapData f args named rfl
  case h_11 | h_12 => simpa using (single_map f id args named (fun _ => rfl) _).symm
  case h_16 | h_17 | h_18 | h_19 => rfl

theorem ofWord_mapData
    (c : Call) :
    ofWord c.word (c.mapData f).args (c.mapData f).named =
      (ofWord c.word c.args c.named).map (mapData f) := by
  obtain ⟨word, args, named⟩ := c
  by_cases hword : word ∈ ["insert", "update", "where", "or_where"]
  case pos =>
    simp only [List.mem_cons, List.not_mem_nil, or_false] at hword
    rcases hword with rfl | rfl | rfl | rfl
    · exact single_map f _ args named (fun _ => rfl) "data"
    · exact single_map f _ args named (fun _ => rfl) "data"
    · exact filter_mapData f args named .and
    · exact filter_mapData f args named .or
  case neg =>
    simp only [Call.mapData, Call.mapArgument_eq_id f hword, Call.mapNamed_eq_id f hword,
      Prod.map_id, List.map_id]
    exact (map_ofWord f args named hword).symm

end Request

/-! ## Mappings with other values -/

section

variable {g : Value → Value → Value}

theorem putEntry_map
    (hg : ∀ k k', k.equals k' = true → g k = g k') (key v : Value)
    (entries : List (Value × Value)) :
    putEntry key (g key v) (entries.map fun e => (e.1, g e.1 e.2)) =
      (putEntry key v entries).map fun e => (e.1, g e.1 e.2) := by
  induction entries with
  | nil => rfl
  | cons entry entries ih =>
      rw [List.map_cons, putEntry, putEntry]
      split
      next hkey => rw [List.map_cons, hg entry.1 key hkey]
      next => rw [List.map_cons, ih]

theorem lookup?_map
    (hg : ∀ k k', k.equals k' = true → g k = g k') (entries : List (Value × Value))
    (key : Value) :
    lookup? (entries.map fun e => (e.1, g e.1 e.2)) key = (lookup? entries key).map (g key) := by
  induction entries with
  | nil => rfl
  | cons entry entries ih =>
      unfold lookup? at ih ⊢
      rw [List.map_cons, List.find?_cons, List.find?_cons]
      cases hkey : entry.1.equals key with
      | true => simp [hg entry.1 key hkey]
      | false => exact ih

end

namespace Value

theorem mapOperand_of_equals
    (k k' : Value) (hk : k.equals k' = true) : mapOperand f k = mapOperand f k' := by
  funext v
  rw [mapOperand, mapOperand, equalText?_of_equals hk]

end Value

/-! ## Conditions -/

theorem Filter.on_mapData
    (connective : Connective) (column : Value) (operator : FilterOperator) (v : Value) :
    Filter.on connective column operator (operator.mapData f v) =
      (Filter.on connective column operator v).map (Filter.mapData f) := by
  unfold Filter.on
  cases Validation.text column <;> rfl

namespace Conditions

theorem given_mapData
    (entries : List (Value × Value)) :
    given (entries.map fun e => (e.1, Value.mapOperand f e.1 e.2)) =
      (given entries).map fun e => (e.1, Value.mapOperand f e.1 e.2) := by
  -- Values are replaced alike under both spellings of a key.
  have husual : ∀ key, Value.mapOperand f (usualKey key) = Value.mapOperand f key := by
    intro key
    unfold usualKey
    split
    next hkey =>
      funext v
      rw [Value.mapOperand, Value.mapOperand, Value.equalText?_of_text? hkey]
      rfl
    next => rfl
  have hfold : ∀ done, (entries.map fun e => (e.1, Value.mapOperand f e.1 e.2)).foldl
      (fun done e => putEntry (usualKey e.1) e.2 done)
      (done.map fun e => (e.1, Value.mapOperand f e.1 e.2)) =
        (entries.foldl (fun done e => putEntry (usualKey e.1) e.2 done) done).map
          fun e => (e.1, Value.mapOperand f e.1 e.2) := by
    induction entries with
    | nil => exact fun _ => rfl
    | cons entry entries ih =>
        intro done
        rw [List.map_cons, List.foldl_cons, List.foldl_cons, ← ih, ← husual,
          putEntry_map (Value.mapOperand_of_equals f)]
  exact hfold []

theorem comparison_ne
    (column : Value) (key : String) {v : Value} (hv : v ≠ .null) :
    comparison column key .ne v = .ok (.ne, v) := by
  cases v with
  | null => exact absurd rfl hv
  | _ => rfl

theorem comparison_mapData
    (hf : KeepsShape f) (column v : Value) (key : String) {operator : FilterOperator}
    (hoperator : operator ≠ .is ∧ operator ≠ .isNot) :
    comparison column key operator (operator.mapData f v) =
      (comparison column key operator v).map fun p => (p.1, p.1.mapData f p.2) := by
  cases operator with
  | isIn | notIn =>
      simp only [comparison, FilterOperator.mapData, Value.listed?_mapItems]
      cases hv : v.listed? with
      | none =>
          rw [Value.mapItems_of_listed? f hv]
          rfl
      | some vs => rfl
  | ne =>
      -- This operator alone asks whether its value is nothing.
      change comparison column key .ne (f v) = _
      by_cases hv : v = .null
      case pos =>
        subst hv
        rw [(hf.null_iff .null).mpr rfl]
        rfl
      case neg =>
        have hfv : f v ≠ .null := fun h => hv ((hf.null_iff v).mp h)
        rw [comparison_ne column key hfv, comparison_ne column key hv]
        rfl
  | is | isNot => simp at hoperator
  | eq | gt | lt | gte | lte | like | ilike => rfl

/-- The keys of operator mappings, each with what its values are. -/
theorem mapOperand_key :
    ∀ key ∈ FilterOperator.keys, (key.2 ≠ .is ∧ key.2 ≠ .isNot) ∧
      Value.mapOperand f (.text key.1) = key.2.mapData f := by
  intro key hkey
  simp only [FilterOperator.keys, List.mem_cons, List.not_mem_nil, or_false] at hkey
  rcases hkey with rfl | rfl | rfl | rfl | rfl | rfl | rfl | rfl | rfl <;> exact ⟨by decide, rfl⟩

theorem known_mapData
    (hf : KeepsShape f) (connective : Connective) (column : Value) (given : List (Value × Value))
    {keys : List (String × FilterOperator)} (hkeys : keys ⊆ FilterOperator.keys) :
    known connective column (given.map fun e => (e.1, Value.mapOperand f e.1 e.2)) keys =
      (known connective column given keys).map (List.map (Filter.mapData f)) := by
  induction keys with
  | nil => rfl
  | cons key keys ih =>
      obtain ⟨hkey, hrest⟩ := List.cons_subset.mp hkeys
      obtain ⟨hoperator, hoperand⟩ := mapOperand_key f key hkey
      have hothers := ih hrest
      obtain ⟨key, operator⟩ := key
      unfold known
      rw [lookup?_map (Value.mapOperand_of_equals f), hoperand]
      cases lookup? given (.text key) with
      | none => exact hothers
      | some v =>
          simp only [Option.map_some]
          rw [comparison_mapData f hf column v key hoperator, hothers]
          cases comparison column key operator v with
          | error failure => rfl
          | ok asked =>
              simp only [Except.map, bind, Except.bind, Filter.on_mapData]
              cases Filter.on connective column asked.1 asked.2 with
              | error failure => rfl
              | ok filter => cases known connective column given keys <;> rfl

theorem ofOperators_mapData
    (hf : KeepsShape f) (connective : Connective) (column : Value)
    (entries : List (Value × Value)) :
    ofOperators connective column (entries.map fun e => (e.1, Value.mapOperand f e.1 e.2)) =
      (ofOperators connective column entries).map (List.map (Filter.mapData f)) := by
  have hkeys : unknownKeys column (entries.map fun e => (e.1, Value.mapOperand f e.1 e.2)) =
      unknownKeys column entries := by
    unfold unknownKeys
    rw [List.map_map]
    rfl
  unfold ofOperators
  rw [given_mapData, known_mapData f hf connective column _ (List.Subset.refl _), hkeys]
  match known connective column (given entries) FilterOperator.keys with
  | .error _ | .ok [] | .ok (_ :: _) => rfl

theorem ofEntry_eq_on
    (connective : Connective) (column : Value) {v : Value} (hnull : v ≠ .null)
    (hdict : ∀ entries, v ≠ .dict entries) :
    ofEntry connective column v = (Filter.on connective column .eq v).map ([·]) := by
  unfold ofEntry
  split
  next => exact absurd rfl hnull
  next entries => exact absurd rfl (hdict entries)
  next => rfl

theorem ofEntry_mapData
    (hf : KeepsShape f) (connective : Connective) (column v : Value) :
    ofEntry connective column (v.mapAsked f) =
      (ofEntry connective column v).map (List.map (Filter.mapData f)) := by
  by_cases hdict : ∃ entries, v = .dict entries
  case pos =>
    obtain ⟨entries, rfl⟩ := hdict
    exact ofOperators_mapData f hf connective column entries
  case neg =>
    have hasked : v.mapAsked f = f v := by
      cases v with
      | dict entries => exact absurd ⟨entries, rfl⟩ hdict
      | _ => rfl
    have hmapped : ∀ entries, f v ≠ .dict entries :=
      fun entries h => hdict ((hf.dict_iff v).mp ⟨entries, h⟩)
    rw [hasked]
    by_cases hnull : v = .null
    case pos =>
      subst hnull
      rw [(hf.null_iff .null).mpr rfl]
      unfold ofEntry Filter.on
      cases Validation.text column <;> rfl
    case neg =>
      rw [ofEntry_eq_on connective column (fun h => hnull ((hf.null_iff v).mp h)) hmapped,
        ofEntry_eq_on connective column hnull fun entries h => hdict ⟨entries, h⟩]
      unfold Filter.on
      cases Validation.text column <;> rfl

theorem entries_mapData
    (conditions : Value) (named : Fields) :
    entries (conditions.mapConditions f) (named.map (Prod.map id (Value.mapAsked f))) =
      (entries conditions named).map (List.map (Prod.map id (Value.mapAsked f))) := by
  have hmerged : ∀ done : List (Value × Value),
      (named.map (Prod.map id (Value.mapAsked f))).foldl
        (fun done e => putEntry (.text e.1) e.2 done) (done.map (Prod.map id (Value.mapAsked f))) =
        (named.foldl (fun done e => putEntry (.text e.1) e.2 done) done).map
          (Prod.map id (Value.mapAsked f)) := by
    induction named with
    | nil => exact fun _ => rfl
    | cons entry named ih =>
        intro done
        rw [List.map_cons, List.foldl_cons, List.foldl_cons, ← ih]
        exact congrArg (List.foldl _ · _)
          (putEntry_map (g := fun _ => Value.mapAsked f) (fun _ _ _ => rfl) _ _ done)
  unfold entries
  cases conditions with
  | dict entries => exact congrArg Except.ok (hmerged entries)
  | _ =>
      simp only [Value.mapConditions]
      split
      next => rfl
      next => exact congrArg Except.ok (hmerged [])

end Conditions

/-! ## What is written -/

theorem writtenRecord_mapData
    (index : Nat) (v : Value) :
    writtenRecord index (v.mapRecord f) = (writtenRecord index v).map (Value.mapRecord f) := by
  cases v <;> rfl

theorem writtenRecords_mapData
    (index : Nat) (vs : List Value) :
    writtenRecords index (vs.map (Value.mapRecord f)) =
      (writtenRecords index vs).map (List.map (Value.mapRecord f)) := by
  induction vs generalizing index with
  | nil => rfl
  | cons v vs ih =>
      rw [List.map_cons, writtenRecords, writtenRecords, writtenRecord_mapData, ih]
      cases writtenRecord index v with
      | error failure => rfl
      | ok record => cases writtenRecords (index + 1) vs <;> rfl

theorem insertedPayload_mapData
    (table data : Value) :
    insertedPayload table (data.mapRecords f) =
      (insertedPayload table data).map (Value.mapRecords f) := by
  cases data with
  | list vs | tuple vs =>
      simp only [insertedPayload, Value.mapRecords, writtenRecords_mapData]
      cases writtenRecords 0 vs <;> rfl
  | _ => rfl

theorem updatedPayload_mapData
    (table data : Value) :
    updatedPayload table (data.mapRecord f) =
      (updatedPayload table data).map (Value.mapRecords f) := by
  cases data <;> rfl

namespace Validation

theorem putField_map
    (name : String) (v : Value) (fields : Fields) :
    putField name (f v) (fields.map (Prod.map id f)) =
      (putField name v fields).map (Prod.map id f) := by
  induction fields with
  | nil => rfl
  | cons field fields ih =>
      rw [List.map_cons, putField, putField, Prod.map_fst, id_eq, ih]
      split <;> rfl

theorem recordEntries_mapData
    (entries : List (Value × Value)) :
    recordEntries (entries.map (Prod.map id f)) =
      (recordEntries entries).map (List.map (Prod.map id f)) := by
  induction entries with
  | nil => rfl
  | cons entry entries ih =>
      obtain ⟨key, v⟩ := entry
      rw [List.map_cons, Prod.map_apply, id_eq, recordEntries, recordEntries, ih]
      cases ((text key).within (.named "[key]")).within (placeOfKey key) <;>
        cases recordEntries entries <;> rfl

theorem record_mapData
    (v : Value) : record (v.mapRecord f) = (record v).map (Record.mapData f) := by
  have hfold : ∀ (fields : Fields) (done : Fields),
      (fields.map (Prod.map id f)).foldl (fun done e => putField e.1 e.2 done)
        (done.map (Prod.map id f)) =
        (fields.foldl (fun done e => putField e.1 e.2 done) done).map (Prod.map id f) := by
    intro fields
    induction fields with
    | nil => exact fun _ => rfl
    | cons field fields ih =>
        intro done
        rw [List.map_cons, List.foldl_cons, List.foldl_cons, ← ih]
        exact congrArg (List.foldl _ · _) (putField_map f field.1 field.2 done)
  cases v with
  | dict entries =>
      simp only [Value.mapRecord, record, recordEntries_mapData]
      cases recordEntries entries with
      | faulty issues => rfl
      | valid fields => exact congrArg Checked.valid (hfold fields [])
  | _ => rfl

theorem each_record_mapData
    (start : Nat) (vs : List Value) :
    Checked.each record start (vs.map (Value.mapRecord f)) =
      (Checked.each record start vs).map (List.map (Record.mapData f)) := by
  induction vs generalizing start with
  | nil => rfl
  | cons v vs ih =>
      rw [List.map_cons, Checked.each, Checked.each, record_mapData, ih]
      cases record v <;> cases Checked.each record (start + 1) vs <;> rfl

end Validation

/-- What a builder has to write: nothing, a record or a list. -/
def Value.IsPayload : Value → Prop
  | null | dict _ | list _ => True
  | _ => False

theorem Validation.payload_mapData
    {v : Value} (hv : v.IsPayload) :
    payload (v.mapRecords f) = (payload v).map (Payload.mapData f) := by
  cases v with
  | null => rfl
  | dict entries =>
      change payload ((Value.dict entries).mapRecord f) = _
      have hrecord := record_mapData f (.dict entries)
      unfold payload
      simp only [Value.mapRecord] at hrecord ⊢
      rw [hrecord]
      cases record (.dict entries) <;> rfl
  | list vs =>
      have hrows := each_record_mapData f 0 vs
      simp only [payload, Value.mapRecords, record, listOf, items?, Value.elements?, Checked.fail]
      rw [hrows]
      cases Checked.each record 0 vs <;> rfl
  | _ => exact absurd hv id

namespace Builder

theorem addEntries_mapData
    (hf : KeepsShape f) (connective : Connective) (entries : List (Value × Value)) (b : Builder) :
    addEntries connective (entries.map (Prod.map id (Value.mapAsked f))) (b.mapData f) =
      (addEntries connective entries b).mapData f := by
  induction entries generalizing b with
  | nil => rfl
  | cons entry entries ih =>
      obtain ⟨column, v⟩ := entry
      rw [List.map_cons, Prod.map_apply, id_eq, addEntries, addEntries,
        Conditions.ofEntry_mapData f hf]
      cases Conditions.ofEntry connective column v with
      | error failure => rfl
      | ok filters =>
          rw [← ih]
          simp only [Except.map, mapData, List.map_append]

theorem write_mapData
    (b : Builder) (operation : Operation) (payload : Outcome Value) :
    (b.mapData f).write operation (payload.map (Value.mapRecords f)) =
      (b.write operation payload).mapData f := by
  cases payload <;> rfl

theorem change_mapData
    (hf : KeepsShape f) (b : Builder) (c : Change) :
    (b.mapData f).change (c.mapData f) = (b.change c).mapData f := by
  cases c with
  | select columns | delete => rfl
  | insert data =>
      exact (congrArg (write _ _) (insertedPayload_mapData f b.table data)).trans
        (write_mapData f b .insert _)
  | update data =>
      exact (congrArg (write _ _) (updatedPayload_mapData f b.table data)).trans
        (write_mapData f b .update _)
  | join kind table left operator right =>
      simp only [change, Change.mapData]
      cases Join.on kind table left operator right <;> rfl
  | filter connective conditions named =>
      simp only [change, Change.mapData, Conditions.entries_mapData]
      cases Conditions.entries conditions named with
      | error failure => rfl
      | ok entries => exact addEntries_mapData f hf connective entries b
  | limit n =>
      have htable : (b.mapData f).table = b.table := rfl
      simp only [change, Change.mapData, htable]
      cases count b.table "limit" n <;> rfl
  | offset n =>
      have htable : (b.mapData f).table = b.table := rfl
      simp only [change, Change.mapData, htable]
      cases count b.table "offset" n <;> rfl

theorem isPayload_insertedPayload
    (table data payload : Value) (hpayload : insertedPayload table data = .ok payload) :
    payload.IsPayload := by
  unfold insertedPayload at hpayload
  split at hpayload
  next => exact Except.ok.inj hpayload ▸ trivial
  next => exact Except.ok.inj hpayload ▸ trivial
  case h_3 | h_4 =>
    obtain ⟨records, _, rfl⟩ := Outcome.map_eq_ok.mp hpayload
    trivial
  next => exact absurd hpayload (Outcome.reject_ne_ok _ _)

theorem isPayload_updatedPayload
    (table data payload : Value) (hpayload : updatedPayload table data = .ok payload) :
    payload.IsPayload := by
  unfold updatedPayload at hpayload
  split at hpayload
  next => exact Except.ok.inj hpayload ▸ trivial
  next => exact Except.ok.inj hpayload ▸ trivial
  next => exact absurd hpayload (Outcome.reject_ne_ok _ _)

theorem Step.isPayload
    {b b' : Builder} {c : Change} (hstep : b.Step c b') (hb : b.payload.IsPayload) :
    b'.payload.IsPayload := by
  cases hstep with
  | inserted hpayload => exact isPayload_insertedPayload _ _ _ hpayload
  | updated hpayload => exact isPayload_updatedPayload _ _ _ hpayload
  | refused | selected | insertRefused | updateRefused | deleted | joined | filtered | limited
  | skipped => exact hb

theorem Reachable.isPayload
    {b : Builder} (hb : b.Reachable) : b.payload.IsPayload := by
  induction hb with
  | fresh table => trivial
  | changed _ c ih => exact (step_change _ c).isPayload ih

theorem snapshot_mapData
    {b : Builder} (hb : b.payload.IsPayload) :
    (b.mapData f).snapshot = b.snapshot.map (Statement.mapData f) := by
  have hpayload := Validation.payload_mapData f hb
  simp only [snapshot, mapData, hpayload]
  cases (Validation.text b.table).within (.named "table") <;>
    cases (Checked.each Validation.text 0 b.projection).within (.named "projection") <;>
      cases Validation.payload b.payload <;> rfl

theorem compile_mapData
    {b : Builder} (hb : b.payload.IsPayload) (quoting : Bool) :
    (b.mapData f).compile quoting = (b.compile quoting).map (Compiled.mapData f) := by
  unfold compile
  rw [snapshot_mapData f hb]
  cases b.snapshot with
  | error failure => rfl
  | ok s => exact Statement.compile_mapData f quoting s

theorem met_mapData
    (hf : KeepsShape f) (b : Builder) (calls : List Call) :
    (b.mapData f).met (calls.map (Call.mapData f)) = (b.met calls).map (mapData f) := by
  induction calls generalizing b with
  | nil => rfl
  | cons c calls ih =>
      have hafter : (b.mapData f).after (c.mapData f) = (b.after c).mapData f := by
        have hword : (c.mapData f).word = c.word := rfl
        unfold after
        rw [hword, Request.ofWord_mapData]
        cases Request.ofWord c.word c.args c.named with
        | error failure => rfl
        | ok r =>
            cases r with
            | change c => exact congrArg Changed.builder (change_mapData f hf b c)
            | _ => rfl
      rw [List.map_cons, met, met, List.map_cons, hafter, ih]

end Builder

end SqlBuilder
