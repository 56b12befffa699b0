import Mathlib.Data.List.Basic
import SqlBuilder.Proofs.Text.Joining
import SqlBuilder.Statement.Compiled

/-!
# The data values of statements

A statement handles the values in its records and conditions without looking at
them: putting another value in the place of each leaves its text and its
refusals as they are, and puts those values in the places of its parameters.
-/

namespace SqlBuilder

variable (f : Value → Value)

/-! ## Values in drafts -/

def Piece.mapData : Piece → Piece
  | text s => text s
  | bound v => bound (f v)

namespace Draft

def mapData (d : Draft) : Draft := d.map (Piece.mapData f)

theorem sql_mapData
    (n : Nat) (d : Draft) : sql n (mapData f d) = sql n d := by
  induction d generalizing n with
  | nil => rfl
  | cons piece d ih =>
      cases piece with
      | text s => exact congrArg (s ++ ·) (ih n)
      | bound v => exact congrArg (mark n ++ ·) (ih (n + 1))

theorem bound_mapData
    (d : Draft) : bound (mapData f d) = (bound d).map f := by
  induction d with
  | nil => rfl
  | cons piece d ih =>
      cases piece with
      | text s => exact ih
      | bound v => exact congrArg (f v :: ·) ih

@[simp] theorem mapData_nil : mapData f [] = [] := rfl

@[simp] theorem mapData_text
    (s : String) (d : Draft) : mapData f (.text s :: d) = .text s :: mapData f d :=
  rfl

@[simp] theorem mapData_bound
    (v : Value) (d : Draft) : mapData f (.bound v :: d) = .bound (f v) :: mapData f d :=
  rfl

@[simp] theorem mapData_append
    (c d : Draft) : mapData f (c ++ d) = mapData f c ++ mapData f d :=
  List.map_append

theorem mapData_commaSeparated
    (ds : List Draft) : mapData f (commaSeparated ds) = commaSeparated (ds.map (mapData f)) :=
  Text.map_intercalate (mapData_nil f) (mapData_append f) [.text ", "] ds

theorem mapData_enclosed
    (vs : List Value) : mapData f (enclosed vs) = enclosed (vs.map f) := by
  have hplaces : mapData f (places vs) = places (vs.map f) := by
    unfold places
    rw [mapData_commaSeparated, List.map_map, List.map_map]
    rfl
  simp [enclosed, hplaces]

end Draft

/-! ## Values in conditions -/

namespace Value

/-- Other items in a list or a tuple. -/
def mapItems : Value → Value
  | list items => list (items.map f)
  | tuple items => tuple (items.map f)
  | v => v

theorem listed?_mapItems
    (v : Value) : (v.mapItems f).listed? = v.listed?.map (List.map f) := by
  cases v <;> rfl

theorem mapItems_of_listed?
    {v : Value} (hv : v.listed? = none) : v.mapItems f = v := by
  cases v with
  | list | tuple => simp [listed?] at hv
  | _ => rfl

end Value

/-- Other values to compare with: membership compares with items, and `IS` with
what is written out. -/
def FilterOperator.mapData : FilterOperator → Value → Value
  | isIn, v | notIn, v => v.mapItems f
  | is, v | isNot, v => v
  | eq, v | ne, v | gt, v | lt, v | gte, v | lte, v | like, v | ilike, v => f v

def Filter.mapData (c : Filter) : Filter :=
  { c with value := c.operator.mapData f c.value }

theorem Filter.condition_mapData
    (quoting : Bool) (c : Filter) :
    (c.mapData f).condition quoting = (c.condition quoting).map (Draft.mapData f) := by
  obtain ⟨connective, column, operator, v⟩ := c
  unfold condition mapData FilterOperator.mapData
  cases operator with
  | isIn | notIn =>
      simp only [Value.listed?_mapItems]
      cases hv : v.listed? with
      | none =>
          rw [Value.mapItems_of_listed? f hv]
          rfl
      | some vs =>
          cases vs with
          | nil => rfl
          | cons v vs =>
              exact congrArg (fun d => Except.ok (Piece.text _ :: d))
                (Draft.mapData_enclosed f (v :: vs)).symm
  | is | isNot | eq | ne | gt | lt | gte | lte | like | ilike => rfl

namespace Filters

theorem rest_mapData
    (quoting : Bool) (cs : List Filter) :
    rest quoting (cs.map (Filter.mapData f)) = (rest quoting cs).map (Draft.mapData f) := by
  induction cs with
  | nil => rfl
  | cons c cs ih =>
      rw [List.map_cons, rest, rest, Filter.condition_mapData, ih]
      cases c.condition quoting with
      | error failure => rfl
      | ok condition =>
          cases rest quoting cs with
          | error failure => rfl
          | ok draft =>
              simp [bind, Except.bind, pure, Except.pure, Except.map, Filter.mapData]

theorem whereClause_mapData
    (quoting : Bool) (cs : List Filter) :
    whereClause quoting (cs.map (Filter.mapData f)) =
      (whereClause quoting cs).map (Draft.mapData f) := by
  cases cs with
  | nil => rfl
  | cons c cs =>
      unfold whereClause
      rw [List.map_cons, List.isEmpty_cons, List.isEmpty_cons, chained, chained,
        Filter.condition_mapData, rest_mapData]
      cases c.condition quoting with
      | error failure => rfl
      | ok condition =>
          cases rest quoting cs with
          | error failure => rfl
          | ok draft => simp [bind, Except.bind, pure, Except.pure, Except.map]

end Filters

/-! ## Values in records -/

namespace Record

def mapData (record : Record) : Record := record.map (Prod.map id f)

theorem columns_mapData
    (record : Record) : (record.mapData f).map (·.1) = record.map (·.1) := by
  unfold mapData
  rw [List.map_map]
  rfl

theorem field?_mapData
    (record : Record) (name : String) :
    field? (record.mapData f) name = (field? record name).map f := by
  unfold mapData field?
  rw [List.find?_map]
  simp only [Function.comp_def, Prod.map_fst, id_eq, Option.map_map]
  rfl

theorem lacking_mapData
    (columns : List String) (record : Record) :
    lacking columns (record.mapData f) = lacking columns record := by
  unfold lacking
  simp only [field?_mapData, Option.isNone_map]

theorem row_mapData
    (columns : List String) (record : Record) :
    row columns (record.mapData f) = (row columns record).map f := by
  unfold row
  rw [List.map_filterMap]
  simp only [field?_mapData]

theorem rows_mapData
    (table : String) (columns : List String) (index : Nat) (records : List Record) :
    rows table columns index (records.map (mapData f)) =
      (rows table columns index records).map (List.map (List.map f)) := by
  induction records generalizing index with
  | nil => rfl
  | cons record records ih =>
      rw [List.map_cons, rows, rows, lacking_mapData]
      cases lacking columns record with
      | cons column missing => rfl
      | nil =>
          simp only [row_mapData, ih]
          cases rows table columns (index + 1) records <;> rfl

end Record

/-! ## Values in statements -/

def Payload.mapData : Payload → Payload
  | nothing => nothing
  | record fields => record (Record.mapData f fields)
  | records rows => records (rows.map (Record.mapData f))

theorem Payload.toRecords_mapData
    (p : Payload) : (p.mapData f).toRecords = p.toRecords.map (List.map (Record.mapData f)) := by
  cases p <;> rfl

def Compiled.mapData (c : Compiled) : Compiled := { c with parameters := c.parameters.map f }

namespace Statement

/-- A statement with other values in its conditions and in what it writes. -/
def mapData (s : Statement) : Statement :=
  { s with
    filters := s.filters.map (Filter.mapData f)
    payload := s.payload.mapData f }

variable (quoting : Bool) (s : Statement)

theorem selectDraft_mapData :
    (s.mapData f).selectDraft quoting = (s.selectDraft quoting).map (Draft.mapData f) := by
  simp only [selectDraft, mapData, Filters.whereClause_mapData, projected]
  cases Filters.whereClause quoting s.filters with
  | error failure => rfl
  | ok conditions => simp [bind, Except.bind, pure, Except.pure, Except.map]

theorem insertDraft_of_records
    {first : Record} {others : List Record}
    (hrecords : s.payload.toRecords = some (first :: others)) (hfirst : first ≠ []) :
    s.insertDraft quoting =
      (Record.rows s.table (first.map (·.1)) 0 (first :: others)).map fun rows =>
        .text ("INSERT INTO " ++ Identifier.written quoting s.table
            ++ " (" ++ columnList quoting (first.map (·.1)) ++ ") VALUES ")
          :: (Draft.commaSeparated (rows.map Draft.enclosed)
            ++ [.text (s.returningClause quoting)]) := by
  unfold insertDraft
  rw [hrecords]
  cases first with
  | nil => exact absurd rfl hfirst
  | cons column columns => rfl

theorem insertDraft_mapData :
    (s.mapData f).insertDraft quoting = (s.insertDraft quoting).map (Draft.mapData f) := by
  have hmapped := Payload.toRecords_mapData f s.payload
  match hrecords : s.payload.toRecords with
  | none | some [] | some ([] :: _) =>
      rw [hrecords] at hmapped
      simp only [insertDraft, mapData, hmapped, hrecords]
      rfl
  | some ((column :: columns) :: others) =>
      rw [hrecords] at hmapped
      have hfirst : Record.mapData f (column :: columns) ≠ [] := by simp [Record.mapData]
      rw [insertDraft_of_records quoting s hrecords (List.cons_ne_nil column columns),
        insertDraft_of_records quoting (s.mapData f) hmapped hfirst, Record.columns_mapData,
        ← List.map_cons (f := Record.mapData f), Record.rows_mapData]
      simp only [mapData]
      cases Record.rows s.table ((column :: columns).map (·.1)) 0
        ((column :: columns) :: others) with
      | error failure => rfl
      | ok rows =>
          have hrows : (rows.map (List.map f)).map Draft.enclosed =
              (rows.map Draft.enclosed).map (Draft.mapData f) := by
            simp [Draft.mapData_enclosed]
          simp [Except.map, Draft.mapData_commaSeparated, hrows, returningClause, projected]

theorem updateDraft_of_record
    {fields : Record} (hpayload : s.payload = .record fields) (hfields : fields ≠ []) :
    s.updateDraft quoting = (Filters.whereClause quoting s.filters).map fun conditions =>
      .text ("UPDATE " ++ Identifier.written quoting s.table ++ " SET ")
        :: (Draft.commaSeparated (fields.map (assignment quoting)) ++ conditions
          ++ [.text (s.returningClause quoting)]) := by
  unfold updateDraft
  rw [hpayload]
  cases fields with
  | nil => exact absurd rfl hfields
  | cons field fields => rfl

theorem assignments_mapData
    (fields : Record) :
    (fields.mapData f).map (assignment quoting) =
      (fields.map (assignment quoting)).map (Draft.mapData f) := by
  simp [Record.mapData, assignment, Function.comp_def]

theorem updateDraft_mapData :
    (s.mapData f).updateDraft quoting = (s.updateDraft quoting).map (Draft.mapData f) := by
  match hpayload : s.payload with
  | .nothing | .records _ | .record [] =>
      simp only [updateDraft, mapData, hpayload]
      rfl
  | .record (field :: fields) =>
      have hmapped : (s.mapData f).payload = .record (Record.mapData f (field :: fields)) :=
        congrArg (Payload.mapData f) hpayload
      have hfields : Record.mapData f (field :: fields) ≠ [] := by simp [Record.mapData]
      rw [updateDraft_of_record quoting s hpayload (List.cons_ne_nil field fields),
        updateDraft_of_record quoting (s.mapData f) hmapped hfields, assignments_mapData]
      simp only [mapData, Filters.whereClause_mapData]
      cases Filters.whereClause quoting s.filters with
      | error failure => rfl
      | ok conditions =>
          simp [Except.map, Draft.mapData_commaSeparated, returningClause, projected]

theorem deleteDraft_mapData :
    (s.mapData f).deleteDraft quoting = (s.deleteDraft quoting).map (Draft.mapData f) := by
  simp only [deleteDraft, mapData, Filters.whereClause_mapData]
  cases Filters.whereClause quoting s.filters with
  | error failure => rfl
  | ok conditions =>
      simp [bind, Except.bind, pure, Except.pure, Except.map, returningClause, projected]

theorem draft_mapData :
    (s.mapData f).draft quoting = (s.draft quoting).map (Draft.mapData f) := by
  have hjoins : (s.mapData f).joins = s.joins := rfl
  have hoperation : (s.mapData f).operation = s.operation := rfl
  unfold draft
  rw [hjoins, hoperation]
  split
  next => rfl
  next =>
    cases s.operation with
    | select => exact selectDraft_mapData f quoting s
    | insert => exact insertDraft_mapData f quoting s
    | update => exact updateDraft_mapData f quoting s
    | delete => exact deleteDraft_mapData f quoting s

/-- The text of a statement does not depend on its data values, and its parameters
are data values in the places where they stand. -/
theorem compile_mapData :
    (s.mapData f).compile quoting = (s.compile quoting).map (Compiled.mapData f) := by
  unfold compile
  rw [draft_mapData]
  cases s.draft quoting with
  | error failure => rfl
  | ok draft =>
      simp [bind, Except.bind, pure, Except.pure, Except.map, Compiled.mapData,
        Draft.sql_mapData, Draft.bound_mapData]

end Statement

end SqlBuilder
