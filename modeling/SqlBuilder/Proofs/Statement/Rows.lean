import SqlBuilder.Proofs.Statement.Composition
import SqlBuilder.Proofs.Statement.DataValues
import SqlBuilder.Proofs.Value.Fields

/-!
# Rows of insertions

The first record of an insertion decides the columns.  Where every other record
has them, each record becomes one row of as many marks, numbered row by row, and
its values stand at the numbers of its row in the order of the columns.  What
else a record holds, and in which order, leaves no trace.
-/

namespace SqlBuilder

/-- Rows of marks for `k` records with `m` columns, numbered row by row from one on. -/
def markRows (m k : Nat) : List String :=
  (List.range k).map fun i =>
    "(" ++ commaSeparated ((List.range m).map fun j => Draft.mark (i * m + j + 1)) ++ ")"

theorem markRow_eq (n m : Nat) :
    markRow n m =
      "(" ++ commaSeparated ((List.range m).map fun j => Draft.mark (n + j)) ++ ")" := by
  unfold markRow markList
  rw [List.range'_eq_map_range, List.map_map]
  rfl

theorem markRows_eq (m k : Nat) :
    markRows m k = (List.range k).map fun i => markRow (1 + i * m) m := by
  have hnumber : ∀ i j, i * m + j + 1 = 1 + i * m + j := by
    intro i j
    omega
  simp only [markRows, markRow_eq, hnumber]

theorem commaSeparated_cons (s : String) {ss : List String} (hss : ss ≠ []) :
    commaSeparated (s :: ss) = s ++ ", " ++ commaSeparated ss := by
  obtain ⟨t, ss, rfl⟩ := List.exists_cons_of_ne_nil hss
  simp [commaSeparated, String.append_assoc]

namespace Draft

/-- Rows of one length are numbered one after the other. -/
theorem sql_rows {m : Nat} {rows : List (List Value)} (hrows : ∀ vs ∈ rows, vs.length = m)
    (n : Nat) :
    (commaSeparated (rows.map enclosed)).sql n =
      SqlBuilder.commaSeparated ((List.range rows.length).map fun i => markRow (n + i * m) m) := by
  induction rows generalizing n with
  | nil => rfl
  | cons vs rows ih =>
      obtain ⟨hlength, hothers⟩ := List.forall_mem_cons.mp hrows
      have hfirst : (enclosed vs).sql n = markRow n m := by rw [sql_enclosed, hlength]
      cases rows with
      | nil => simp [commaSeparated, SqlBuilder.commaSeparated, hfirst]
      | cons us rows =>
          have hrest := ih hothers (n + m)
          have hshift : ∀ i, n + m + i * m = n + (i + 1) * m := by
            intro i
            rw [Nat.succ_mul, Nat.add_assoc, Nat.add_comm m]
          -- the first row has the first numbers, and the others those after it
          have hsplit : ((List.range (vs :: us :: rows).length).map fun i =>
              markRow (n + i * m) m) =
                markRow n m :: ((List.range (us :: rows).length).map fun i =>
                  markRow (n + m + i * m) m) := by
            simp only [hshift]
            rw [List.length_cons, List.range_succ_eq_map, List.map_cons, List.map_map, Nat.zero_mul]
            rfl
          rw [hsplit, commaSeparated_cons _ (by simp), ← hrest, List.map_cons, List.map_cons,
            commaSeparated_cons_cons, sql_append, sql_text, bound_enclosed, hlength, hfirst,
            String.append_assoc]

end Draft

namespace Record

/-- Two records that hold the same values for the columns. -/
def AgreeOn (columns : List String) (record other : Record) : Prop :=
  ∀ column ∈ columns, field? other column = field? record column

/-- Neither the order of a record nor what else it holds matters for its values of columns. -/
theorem agreeOn_of_perm
    {columns : List String} {record other extra : Record} (hother : other.Perm (record ++ extra))
    (hnames : (other.map (·.1)).Nodup)
    (hcolumns : ∀ column ∈ columns, column ∈ record.map (·.1)) :
    AgreeOn columns record other := by
  intro column hcolumn
  obtain ⟨v, hv⟩ := Option.isSome_iff_exists.mp (isSome_field?_iff.mpr (hcolumns column hcolumn))
  have hmem : (column, v) ∈ other :=
    hother.mem_iff.mpr (List.mem_append_left extra (mem_of_field?_eq_some hv))
  rw [hv, field?_of_mem hnames hmem]

theorem lacking_eq_nil_iff
    {columns : List String} {record : Record} :
    lacking columns record = [] ↔ ∀ column ∈ columns, column ∈ record.map (·.1) := by
  unfold lacking
  rw [List.filter_eq_nil_iff]
  refine forall₂_congr fun column _ => ?_
  rw [← isSome_field?_iff, Option.isNone_iff_eq_none, ← ne_eq, Option.isSome_iff_ne_none]

/-- A record that lacks no column has one value for each, at its place. -/
theorem getElem?_row
    {columns : List String} {record : Record}
    (hrecord : ∀ column ∈ columns, column ∈ record.map (·.1)) (j : Nat) :
    (row columns record)[j]? = columns[j]?.bind (field? record) := by
  unfold row
  induction columns generalizing j with
  | nil => rfl
  | cons column columns ih =>
      obtain ⟨hcolumn, hothers⟩ := List.forall_mem_cons.mp hrecord
      obtain ⟨v, hv⟩ := Option.isSome_iff_exists.mp (isSome_field?_iff.mpr hcolumn)
      rw [List.filterMap_cons_some hv]
      cases j with
      | zero => exact hv.symm
      | succ j => exact ih hothers j

theorem length_row
    {columns : List String} {record : Record}
    (hrecord : ∀ column ∈ columns, column ∈ record.map (·.1)) :
    (row columns record).length = columns.length := by
  unfold row
  induction columns with
  | nil => rfl
  | cons column columns ih =>
      obtain ⟨hcolumn, hothers⟩ := List.forall_mem_cons.mp hrecord
      obtain ⟨v, hv⟩ := Option.isSome_iff_exists.mp (isSome_field?_iff.mpr hcolumn)
      rw [List.filterMap_cons_some hv, List.length_cons, List.length_cons, ih hothers]

theorem row_of_agreeOn
    {columns : List String} {record other : Record} (hagree : AgreeOn columns record other) :
    row columns other = row columns record :=
  List.filterMap_congr hagree

/-- Records that agree on columns have the same rows, and all columns if the others have them. -/
theorem rows_of_agreeOn
    {columns : List String} {records changed : List Record}
    (hchanged : List.Forall₂ (AgreeOn columns) records changed)
    (hrecords : ∀ record ∈ records, ∀ column ∈ columns, column ∈ record.map (·.1)) :
    changed.map (row columns) = records.map (row columns) ∧
      ∀ record ∈ changed, ∀ column ∈ columns, column ∈ record.map (·.1) := by
  induction hchanged with
  | nil => simp
  | @cons record other records changed hagree _ ih =>
      obtain ⟨hrecord, hothers⟩ := List.forall_mem_cons.mp hrecords
      obtain ⟨hsame, hcomplete⟩ := ih hothers
      constructor
      · rw [List.map_cons, List.map_cons, row_of_agreeOn hagree, hsame]
      · refine List.forall_mem_cons.mpr ⟨?_, hcomplete⟩
        intro column hcolumn
        rw [← isSome_field?_iff, hagree column hcolumn, isSome_field?_iff]
        exact hrecord column hcolumn

theorem rows_of_complete
    {columns : List String} {records : List Record}
    (hrecords : ∀ record ∈ records, ∀ column ∈ columns, column ∈ record.map (·.1))
    (table : String) (index : Nat) :
    rows table columns index records = .ok (records.map (row columns)) := by
  induction records generalizing index with
  | nil => rfl
  | cons record records ih =>
      obtain ⟨hrecord, hothers⟩ := List.forall_mem_cons.mp hrecords
      rw [rows, lacking_eq_nil_iff.mpr hrecord, ih hothers]
      rfl

/-- The values of records of one length stand row by row. -/
theorem getElem?_flatMap_row
    {columns : List String} {records : List Record}
    (hrecords : ∀ record ∈ records, ∀ column ∈ columns, column ∈ record.map (·.1))
    {i j : Nat} (hj : j < columns.length) :
    (records.flatMap (row columns))[i * columns.length + j]? =
      records[i]?.bind fun record => columns[j]?.bind (field? record) := by
  induction records generalizing i with
  | nil => rfl
  | cons record records ih =>
      obtain ⟨hrecord, hothers⟩ := List.forall_mem_cons.mp hrecords
      have hlength := length_row hrecord
      rw [List.flatMap_cons]
      -- the values of this record come first, and those of all others after them
      cases i with
      | zero =>
          rw [Nat.zero_mul, Nat.zero_add, List.getElem?_append_left (hlength ▸ hj),
            getElem?_row hrecord]
          rfl
      | succ i =>
          have hskipped : (i + 1) * columns.length + j - (row columns record).length =
              i * columns.length + j := by
            rw [hlength, Nat.succ_mul]
            omega
          have hlate : (row columns record).length ≤ (i + 1) * columns.length + j := by
            rw [hlength, Nat.succ_mul]
            omega
          rw [List.getElem?_append_right hlate, hskipped, ih hothers]
          rfl

theorem length_flatMap_row
    {columns : List String} {records : List Record}
    (hrecords : ∀ record ∈ records, ∀ column ∈ columns, column ∈ record.map (·.1)) :
    (records.flatMap (row columns)).length = records.length * columns.length := by
  induction records with
  | nil => simp
  | cons record records ih =>
      obtain ⟨hrecord, hothers⟩ := List.forall_mem_cons.mp hrecords
      rw [List.flatMap_cons, List.length_append, length_row hrecord, ih hothers,
        List.length_cons, Nat.succ_mul, Nat.add_comm]

end Record

namespace Statement

def insertionStart (quoting : Bool) (s : Statement) (columns : List String) : String :=
  "INSERT INTO " ++ Identifier.written quoting s.table ++ " (" ++ columnList quoting columns
    ++ ") VALUES "

/-- The statement that inserts records whose first one has columns that all of them have. -/
def inserted (quoting : Bool) (s : Statement) (columns : List String) (records : List Record) :
    Compiled where
  sql := s.insertionStart quoting columns
    ++ commaSeparated (markRows columns.length records.length) ++ s.returningClause quoting
  parameters := records.flatMap (Record.row columns)

theorem compile_insert
    {s : Statement} (hinsert : s.operation = .insert) (hjoins : s.joins = []) {first : Record}
    {others : List Record} (hrecords : s.payload.toRecords = some (first :: others))
    (hfirst : first ≠ [])
    (hcomplete : ∀ record ∈ first :: others, ∀ column ∈ first.map (·.1),
      column ∈ record.map (·.1)) (quoting : Bool) :
    s.compile quoting = .ok (s.inserted quoting (first.map (·.1)) (first :: others)) := by
  have hdraft : s.draft quoting = s.insertDraft quoting := by simp [draft, hinsert, hjoins]
  have hlengths : ∀ vs ∈ (first :: others).map (Record.row (first.map (·.1))),
      vs.length = (first.map (·.1)).length := by
    intro vs hvs
    obtain ⟨record, hrecord, rfl⟩ := List.mem_map.mp hvs
    exact Record.length_row (hcomplete record hrecord)
  have hrows := Draft.sql_rows hlengths 1
  rw [← markRows_eq, List.length_map (Record.row _)] at hrows
  have hvalues : (Draft.commaSeparated (((first :: others).map
      (Record.row (first.map (·.1)))).map Draft.enclosed)).bound =
        (first :: others).flatMap (Record.row (first.map (·.1))) := by
    rw [Draft.bound_commaSeparated, List.map_map, List.flatMap_map]
    exact List.flatMap_congr fun _ _ => Draft.bound_enclosed _
  unfold compile
  rw [hdraft, insertDraft_of_records quoting s hrecords hfirst,
    Record.rows_of_complete hcomplete]
  simp only [Except.map, bind, Except.bind, pure, Except.pure]
  congr 1
  unfold inserted insertionStart
  congr 1
  · rw [Draft.sql_text, Draft.sql_append, hrows, Draft.sql_text, Draft.sql_nil,
      String.append_empty, ← String.append_assoc]
  · rw [Draft.bound_text, Draft.bound_append, hvalues, Draft.bound_text, Draft.bound_nil,
      List.append_nil]

/-- An insertion without joins whose records all have the columns of the first one is compiled: to
one row of marks for each record, each mark at the number of its record and its column, and to the
values of the records at these numbers.  Other records after the first that hold the same values
for its columns, in any order and among others, are compiled to the same. -/
theorem compile_rows
    {s : Statement} (hinsert : s.operation = .insert) (hjoins : s.joins = []) {first : Record}
    {others : List Record} (hrecords : s.payload.toRecords = some (first :: others))
    (hfirst : first ≠ [])
    (hcomplete : ∀ record ∈ others, ∀ column ∈ first.map (·.1), column ∈ record.map (·.1))
    (quoting : Bool) :
    ∃ c, s.compile quoting = .ok c ∧
      c.sql = "INSERT INTO " ++ Identifier.written quoting s.table ++ " ("
        ++ commaSeparated ((first.map (·.1)).map (Identifier.written quoting)) ++ ") VALUES "
        ++ commaSeparated (markRows first.length (others.length + 1))
        ++ s.returningClause quoting ∧
      c.parameters.length = (others.length + 1) * first.length ∧
      (∀ i record, (first :: others)[i]? = some record →
        ∀ j column, (first.map (·.1))[j]? = some column →
          ∃ v, field? record column = some v ∧
            c.parameters[i * first.length + j]? = some v) ∧
      ∀ changed, List.Forall₂ (Record.AgreeOn (first.map (·.1))) others changed →
        { s with payload := .records (first :: changed) }.compile quoting = .ok c := by
  have hall : ∀ record ∈ first :: others, ∀ column ∈ first.map (·.1),
      column ∈ record.map (·.1) :=
    List.forall_mem_cons.mpr ⟨fun _ hcolumn => hcolumn, hcomplete⟩
  have hlength : (first.map (·.1)).length = first.length := List.length_map _
  refine ⟨_, compile_insert hinsert hjoins hrecords hfirst hall quoting, ?_, ?_, ?_, ?_⟩
  · unfold inserted insertionStart columnList
    rw [hlength, List.length_cons]
  · rw [← hlength, ← List.length_cons]
    exact Record.length_flatMap_row hall
  · intro i record hrecord j column hcolumn
    have hj : j < (first.map (·.1)).length := (List.getElem?_eq_some_iff.mp hcolumn).1
    have hmem := hall record (List.mem_of_getElem? hrecord) column (List.mem_of_getElem? hcolumn)
    obtain ⟨v, hv⟩ := Option.isSome_iff_exists.mp (isSome_field?_iff.mpr hmem)
    have hplace := Record.getElem?_flatMap_row hall (i := i) hj
    rw [hrecord, hcolumn, hlength] at hplace
    exact ⟨v, hv, hplace.trans hv⟩
  · intro changed hchanged
    obtain ⟨hsame, hothers⟩ := Record.rows_of_agreeOn hchanged hcomplete
    let s' : Statement := { s with payload := .records (first :: changed) }
    have hcompiled : s'.compile quoting =
        .ok (s'.inserted quoting (first.map (·.1)) (first :: changed)) := by
      refine compile_insert (s := s') hinsert hjoins rfl hfirst ?_ quoting
      exact List.forall_mem_cons.mpr ⟨fun _ hcolumn => hcolumn, hothers⟩
    have hvalues : (first :: changed).flatMap (Record.row (first.map (·.1))) =
        (first :: others).flatMap (Record.row (first.map (·.1))) := by
      rw [List.flatMap_def, List.flatMap_def, List.map_cons, List.map_cons, hsame]
    have hsize : (first :: changed).length = (first :: others).length :=
      congrArg (· + 1) hchanged.length_eq.symm
    rw [hcompiled]
    unfold inserted
    rw [hvalues, hsize]
    rfl

/-- The second record may have its columns in another order and one more. -/
theorem compile_rows_reordered :
    let s : Statement :=
      { table := "t", operation := .insert, projection := [], filters := [], joins := []
        payload := .records [[("b", .int 1), ("a", .int 2)], [("a", .int 3), ("b", .int 4)]]
        limit := none, offset := none, returning := true }
    let changed : List Record := [[("b", .int 4), ("z", .null), ("a", .int 3)]]
    ∃ c, s.compile true = .ok c ∧
      c.sql = "INSERT INTO \"t\" (\"b\", \"a\") VALUES ($1, $2), ($3, $4) RETURNING *" ∧
      c.parameters[1 * 2 + 0]? = some (.int 4) ∧
      { s with payload := .records ([("b", .int 1), ("a", .int 2)] :: changed) }.compile true =
        .ok c := by
  intro s changed
  have hcomplete : ∀ column ∈ ["b", "a"], column ∈ ["a", "b"] := by decide
  have hperm : ([("b", .int 4), ("z", .null)] ++ [("a", .int 3)] : Record).Perm
      ([("a", .int 3)] ++ [("b", .int 4), ("z", .null)]) := List.perm_append_comm
  have hagree : Record.AgreeOn ["b", "a"] [("a", .int 3), ("b", .int 4)]
      [("b", .int 4), ("z", .null), ("a", .int 3)] :=
    Record.agreeOn_of_perm hperm (by decide) hcomplete
  obtain ⟨c, hc, hsql, _, hvalues, hchanged⟩ :=
    compile_rows (s := s) rfl rfl rfl (List.cons_ne_nil _ _) (by simp) true
  obtain ⟨v, hv, hplace⟩ := hvalues 1 _ rfl 0 "b" rfl
  obtain rfl := Option.some.inj hv
  exact ⟨c, hc, hsql.trans (by cbv), hplace, hchanged changed (.cons hagree .nil)⟩

end Statement

end SqlBuilder
