import SqlBuilder.Proofs.Outcome
import SqlBuilder.Proofs.Statement.Word
import SqlBuilder.Statement.Compiled

/-!
# Statements as words

Every statement has its words, and compiling a statement writes them.  The
text of a compiled statement is therefore known word by word, whatever names
and values it holds, and its parameters are the values of its words.
-/

namespace SqlBuilder

open Word

/-! ## The words of a statement -/

namespace FilterOperator

/-- An operator as words; two of them are written as two. -/
def words : FilterOperator → List Word
  | .notIn => [literal "NOT", literal "IN"]
  | .isNot => [literal "IS", literal "NOT"]
  | operator => [literal operator.word]

end FilterOperator

/-- Values between parentheses. -/
def rowWords (vs : List Value) : List Word :=
  enclosed (listed (vs.map fun v => [holding v]))

/-- Names with commas between them. -/
def nameWords (names : List String) : List Word :=
  listed (names.map fun s => [naming s])

namespace Filter

def words (f : Filter) : List Word :=
  match f.operator with
  | .isIn | .notIn => match f.value.listed? with
    | none | some [] => [literal (if f.operator = .isIn then "1=0" else "1=1")]
    | some vs => naming f.column :: (f.operator.words ++ rowWords vs)
  | .is | .isNot =>
    naming f.column :: (f.operator.words ++ [literal (writtenOut f.value)])
  | .eq | .ne | .gt | .lt | .gte | .lte | .like | .ilike =>
    naming f.column :: (f.operator.words ++ [holding f.value])

end Filter

namespace Filters

/-- The words of filters after the first, each after its connective. -/
def restWords (fs : List Filter) : List Word :=
  fs.flatMap fun f => literal f.connective.word :: f.words

def words : List Filter → List Word
  | [] => []
  | f :: fs => literal "WHERE" :: (f.words ++ restWords fs)

end Filters

namespace Join

def words (j : Join) : List Word :=
  [literal j.kind.word, literal "JOIN", naming j.table, literal "ON", naming j.leftColumn,
    literal j.operator, naming j.rightColumn]

end Join

/-- A count after its word. -/
def countWords (word : String) : Option Nat → List Word
  | none => []
  | some n => [literal word, literal (toString n)]

/-- The columns that a single record gives values to. -/
def Payload.fields : Payload → List (String × Value)
  | .record fields => fields
  | .nothing | .records _ => []

namespace Statement

/-- The columns to select or to return; none stands for all of them. -/
def columns (s : Statement) : List String :=
  if s.projection.isEmpty then ["*"] else s.projection

def returningWords (s : Statement) : List Word :=
  if s.returning then literal "RETURNING" :: nameWords s.columns else []

def selectWords (s : Statement) : List Word :=
  literal "SELECT" :: (nameWords s.columns ++ [literal "FROM", naming s.table]
    ++ s.joins.flatMap Join.words ++ Filters.words s.filters
    ++ countWords "LIMIT" s.limit ++ countWords "OFFSET" s.offset)

/-- The words of an insertion of rows. -/
def rowsWords (s : Statement) (columns : List String) (rows : List (List Value)) :
    List Word :=
  [literal "INSERT", literal "INTO", naming s.table] ++ enclosed (nameWords columns)
    ++ literal "VALUES" :: listed (rows.map rowWords) ++ s.returningWords

def insertWords (s : Statement) : List Word :=
  match s.payload.toRecords with
  | none | some [] => []
  | some (first :: others) =>
    let columns := first.map (·.1)
    s.rowsWords columns ((first :: others).map (Record.row columns))

/-- A column that takes a new value. -/
def assignmentWords (field : String × Value) : List Word :=
  [naming field.1, literal "=", holding field.2]

def updateWords (s : Statement) : List Word :=
  [literal "UPDATE", naming s.table, literal "SET"]
    ++ listed (s.payload.fields.map assignmentWords) ++ Filters.words s.filters
    ++ s.returningWords

def deleteWords (s : Statement) : List Word :=
  [literal "DELETE", literal "FROM", naming s.table] ++ Filters.words s.filters
    ++ s.returningWords

/-- The words of a statement. -/
def words (s : Statement) : List Word :=
  match s.operation with
  | .select => s.selectWords
  | .insert => s.insertWords
  | .update => s.updateWords
  | .delete => s.deleteWords

end Statement

/-! ## Drafts that spell words -/

/-- A draft that is the text of words up to the blank before the first. -/
structure Draft.Spells (d : Draft) (ws : List Word) : Prop where
  nonempty : ws ≠ []
  text : ∀ n, ' ' :: (d.sql n).toList = spelled n ws
  bound : d.bound = Word.bound ws

/-- A draft that is the text of words. -/
structure Draft.Continues (d : Draft) (ws : List Word) : Prop where
  text : ∀ n, (d.sql n).toList = spelled n ws
  bound : d.bound = Word.bound ws

namespace Draft

theorem Continues.nil : Continues [] [] := ⟨fun _ => rfl, rfl⟩

theorem Continues.append {c d : Draft} {ws vs : List Word} (hc : c.Continues ws)
    (hd : d.Continues vs) : (c ++ d).Continues (ws ++ vs) := by
  constructor
  · intro n
    rw [sql_append, String.toList_append, hc.text, hd.text, spelled_append, hc.bound]
  · rw [bound_append, hc.bound, hd.bound, Word.bound_append]

theorem Spells.continues {d : Draft} {ws : List Word} (hd : d.Spells ws) :
    Continues (.text " " :: d) ws := by
  constructor
  · intro n
    rw [← hd.text n]
    simp
  · exact hd.bound

/-- A draft after the text of other words and a blank. -/
theorem Spells.after {s : String} {d : Draft} {ws vs : List Word} (hs : Spells [.text s] ws)
    (hd : d.Spells vs) : Spells (.text (s ++ " ") :: d) (ws ++ vs) := by
  constructor
  · simp [hs.nonempty]
  · intro n
    rw [spelled_append, ← hs.text n, ← hs.bound, ← hd.text]
    simp
  · rw [Word.bound_append, ← hs.bound, ← hd.bound]
    rfl

theorem Spells.text_append {s t : String} {ws vs : List Word} (hs : Spells [.text s] ws)
    (ht : Spells [.text t] vs) : Spells [.text (s ++ " " ++ t)] (ws ++ vs) := by
  have hst := hs.after ht
  constructor
  · exact hst.nonempty
  · intro n
    rw [← hst.text n]
    simp
  · exact hst.bound

theorem spells_literal (s : String) : Spells [.text s] [literal s] := by
  constructor
  · simp
  · intro n
    simp [spelled_cons, Word.chars, Term.chars, literal]
  · rfl

theorem spells_name (s : String) :
    Spells [.text (Identifier.written true s)] [naming s] := by
  constructor
  · simp
  · intro n
    simp [spelled_cons, Word.chars, Term.chars, naming, Identifier.written, Identifier.quoted]
  · rfl

theorem spells_value (v : Value) : Spells [.bound v] [holding v] := by
  constructor
  · simp
  · intro n
    simp [spelled_cons, Word.chars, Term.chars, holding]
  · rfl

theorem Spells.enclosed {d : Draft} {ws : List Word} (hd : d.Spells ws) :
    Spells (.text "(" :: (d ++ [.text ")"])) (Word.enclosed ws) := by
  constructor
  · unfold Word.enclosed
    cases hws : followedBy ')' ws with
    | nil => exact absurd hws (followedBy_ne_nil hd.nonempty)
    | cons w vs => simp [precededBy]
  · intro n
    rw [spelled_enclosed n hd.nonempty, ← hd.text n]
    simp [sql_append]
  · simp [hd.bound]

theorem commaSeparated_cons_cons (c d : Draft) (ds : List Draft) :
    commaSeparated (c :: d :: ds) = c ++ .text ", " :: commaSeparated (d :: ds) := by
  simp [commaSeparated, List.intercalate_cons_cons]

theorem listed_ne_nil {α : Type} {g : α → List Word} {as : List α}
    (hg : ∀ a ∈ as, g a ≠ []) (has : as ≠ []) : listed (as.map g) ≠ [] := by
  cases as with
  | nil => exact absurd rfl has
  | cons a as =>
      have hfirst : g a ≠ [] := hg a (by simp)
      cases as with
      | nil => simpa using hfirst
      | cons b as =>
          rw [List.map_cons, List.map_cons, listed_cons_cons]
          simp [followedBy_ne_nil hfirst]

/-- Drafts with commas between them spell their words with commas between
them. -/
theorem spells_listed {α : Type} {d : α → Draft} {g : α → List Word} {as : List α}
    (hd : ∀ a ∈ as, (d a).Spells (g a)) (has : as ≠ []) :
    Spells (commaSeparated (as.map d)) (listed (as.map g)) := by
  induction as with
  | nil => exact absurd rfl has
  | cons a as ih =>
      have hfirst : (d a).Spells (g a) := hd a (by simp)
      cases as with
      | nil => simpa [commaSeparated] using hfirst
      | cons b as =>
          have hrest := ih (fun x hx => hd x (List.mem_cons_of_mem a hx)) (by simp)
          simp only [List.map_cons] at hrest ⊢
          rw [commaSeparated_cons_cons, listed_cons_cons]
          constructor
          · simp [followedBy_ne_nil hfirst.nonempty]
          · intro n
            rw [spelled_append, spelled_followedBy n ',' hfirst.nonempty, bound_followedBy,
              ← hfirst.bound, ← hrest.text, ← hfirst.text n]
            simp [sql_append]
          · rw [bound_append, bound_text, hrest.bound, Word.bound_append, bound_followedBy,
              hfirst.bound]

theorem sql_commaSeparated_text (n : Nat) (ss : List String) :
    (commaSeparated (ss.map fun s => [.text s])).sql n = SqlBuilder.commaSeparated ss := by
  induction ss with
  | nil => rfl
  | cons s ss ih =>
      cases ss with
      | nil => simp [commaSeparated, SqlBuilder.commaSeparated]
      | cons t ss =>
          simp only [List.map_cons] at ih ⊢
          rw [commaSeparated_cons_cons, sql_append]
          simp only [sql_text, sql_nil, bound_text, bound_nil, List.length_nil, Nat.add_zero]
          rw [ih]
          simp [SqlBuilder.commaSeparated, String.append_assoc]

/-- Names with commas between them, as one text. -/
theorem spelled_nameWords {names : List String} (hnames : names ≠ []) (n : Nat) :
    ' ' :: (Statement.columnList true names).toList = spelled n (nameWords names) := by
  have hspells := spells_listed (fun s _ => spells_name s) hnames
  unfold nameWords
  rw [← hspells.text n]
  have htext := sql_commaSeparated_text n (names.map (Identifier.written true))
  rw [List.map_map] at htext
  rw [show (names.map fun s => [Piece.text (Identifier.written true s)]) =
    names.map ((fun s => [Piece.text s]) ∘ Identifier.written true) from rfl, htext]
  rfl

theorem bound_nameWords (names : List String) : Word.bound (nameWords names) = [] := by
  unfold nameWords
  rw [bound_listed, List.flatMap_map]
  simp [naming, Term.bound]

theorem spells_row {vs : List Value} (hvs : vs ≠ []) :
    Spells (Draft.enclosed vs) (rowWords vs) :=
  (spells_listed (fun v _ => spells_value v) hvs).enclosed

end Draft

/-! ## Clauses -/

namespace Filter

theorem spells_operator (operator : FilterOperator) :
    Draft.Spells [.text operator.word] operator.words := by
  cases operator with
  | notIn => exact (Draft.spells_literal "NOT").text_append (Draft.spells_literal "IN")
  | isNot => exact (Draft.spells_literal "IS").text_append (Draft.spells_literal "NOT")
  | eq | ne | gt | lt | gte | lte | like | ilike | isIn | is =>
      exact Draft.spells_literal _

theorem spells_comparison (column : String) (operator : FilterOperator) {d : Draft}
    {ws : List Word} (hd : d.Spells ws) :
    Draft.Spells (.text (Identifier.written true column ++ " " ++ operator.word ++ " ") :: d)
      (naming column :: (operator.words ++ ws)) := by
  have hstart := (Draft.spells_name column).text_append (spells_operator operator)
  simpa using hstart.after hd

theorem spells_test (column : String) (operator : FilterOperator) (s : String) :
    Draft.Spells [.text (Identifier.written true column ++ " " ++ operator.word ++ " " ++ s)]
      (naming column :: (operator.words ++ [literal s])) := by
  have hstart := (Draft.spells_name column).text_append (spells_operator operator)
  simpa using hstart.text_append (Draft.spells_literal s)

theorem spells_condition {f : Filter} {d : Draft} (hd : f.condition true = .ok d) :
    d.Spells f.words := by
  obtain ⟨connective, column, operator, v⟩ := f
  unfold condition at hd
  unfold words
  cases operator with
  | isIn | notIn =>
      cases hlisted : v.listed? with
      | none =>
          simp only [hlisted] at hd
          exact absurd hd (Outcome.reject_ne_ok _ _)
      | some vs =>
          cases vs with
          | nil =>
              simp only [hlisted] at hd ⊢
              obtain rfl := Except.ok.inj hd
              exact Draft.spells_literal _
          | cons v vs =>
              simp only [hlisted] at hd ⊢
              obtain rfl := Except.ok.inj hd
              exact spells_comparison column _ (Draft.spells_row (by simp))
  | is | isNot =>
      simp only at hd ⊢
      obtain rfl := Except.ok.inj hd
      exact spells_test column _ (writtenOut v)
  | eq | ne | gt | lt | gte | lte | like | ilike =>
      simp only at hd ⊢
      obtain rfl := Except.ok.inj hd
      exact spells_comparison column _ (Draft.spells_value v)

end Filter

namespace Filters

theorem continues_rest {fs : List Filter} {d : Draft} (hd : rest true fs = .ok d) :
    d.Continues (restWords fs) := by
  induction fs generalizing d with
  | nil =>
      obtain rfl := Except.ok.inj hd
      exact Draft.Continues.nil
  | cons f fs ih =>
      unfold rest at hd
      obtain ⟨condition, hcondition, hd⟩ := Outcome.bind_eq_ok.mp hd
      obtain ⟨others, hothers, hd⟩ := Outcome.bind_eq_ok.mp hd
      obtain rfl := Outcome.pure_eq_ok.mp hd
      have hword := (Draft.spells_literal f.connective.word).after
        (Filter.spells_condition hcondition)
      have hall := hword.continues.append (ih hothers)
      constructor
      · intro n
        have htext := hall.text n
        simp only [restWords, List.flatMap_cons, List.cons_append, List.nil_append] at htext ⊢
        rw [← htext]
        simp [Draft.sql_append]
      · exact hall.bound

theorem continues_whereClause {fs : List Filter} {d : Draft}
    (hd : whereClause true fs = .ok d) : d.Continues (words fs) := by
  cases fs with
  | nil =>
      obtain rfl := Except.ok.inj hd
      exact Draft.Continues.nil
  | cons f fs =>
      unfold whereClause at hd
      simp only [List.isEmpty_cons, Bool.false_eq_true, if_false] at hd
      obtain ⟨chain, hchain, hd⟩ := Outcome.bind_eq_ok.mp hd
      obtain rfl := Outcome.pure_eq_ok.mp hd
      unfold chained at hchain
      obtain ⟨condition, hcondition, hchain⟩ := Outcome.bind_eq_ok.mp hchain
      obtain ⟨others, hothers, hchain⟩ := Outcome.bind_eq_ok.mp hchain
      obtain rfl := Outcome.pure_eq_ok.mp hchain
      have hword := (Draft.spells_literal "WHERE").after (Filter.spells_condition hcondition)
      have hall := hword.continues.append (continues_rest hothers)
      constructor
      · intro n
        have htext := hall.text n
        simp only [words, List.cons_append, List.nil_append] at htext ⊢
        rw [← htext]
        simp [Draft.sql_append]
      · exact hall.bound

end Filters

theorem Join.continues_sql (j : Join) : Draft.Continues [.text (j.sql true)] j.words := by
  have hkind := (Draft.spells_literal j.kind.word).text_append (Draft.spells_literal "JOIN")
  have htable := (hkind.text_append (Draft.spells_name j.table)).text_append
    (Draft.spells_literal "ON")
  have hleft := (htable.text_append (Draft.spells_name j.leftColumn)).text_append
    (Draft.spells_literal j.operator)
  have hall := (hleft.text_append (Draft.spells_name j.rightColumn)).continues
  constructor
  · intro n
    have htext := hall.text n
    simp only [List.cons_append, List.nil_append] at htext
    unfold words
    rw [← htext]
    simp [Join.sql]
  · exact hall.bound

theorem continues_joinClause (joins : List Join) :
    Draft.Continues [.text (joinClause true joins)] (joins.flatMap Join.words) := by
  unfold joinClause
  induction joins with
  | nil => exact ⟨fun _ => rfl, rfl⟩
  | cons j joins ih =>
      have hall := (Join.continues_sql j).append ih
      constructor
      · intro n
        rw [List.flatMap_cons, ← hall.text n]
        simp
      · exact hall.bound

theorem continues_countClause (word : String) (n : Option Nat) :
    Draft.Continues [.text (Statement.countClause word n)] (countWords word n) := by
  cases n with
  | none => exact ⟨fun _ => rfl, rfl⟩
  | some n =>
      have hall := ((Draft.spells_literal word).text_append
        (Draft.spells_literal (toString n))).continues
      constructor
      · intro k
        have htext := hall.text k
        simp only [List.cons_append, List.nil_append] at htext
        unfold countWords
        rw [← htext]
        simp [Statement.countClause]
      · exact hall.bound

namespace Statement

theorem spells_projected (s : Statement) :
    Draft.Spells [.text (s.projected true)] (nameWords s.columns) := by
  unfold projected columns
  split
  next =>
    constructor
    · simp [nameWords]
    · intro n
      simp [nameWords, spelled_cons, chars, Term.chars, naming, Identifier.quotedChars,
        Identifier.isPlain]
    · rfl
  next hprojection =>
    have hne : s.projection ≠ [] := by simpa using hprojection
    constructor
    · exact Draft.listed_ne_nil (by simp) hne
    · intro n
      simpa using Draft.spelled_nameWords hne n
    · exact (Draft.bound_nameWords _).symm

theorem continues_returningClause (s : Statement) :
    Draft.Continues [.text (s.returningClause true)] s.returningWords := by
  unfold returningClause returningWords
  split
  next =>
    have hall := ((Draft.spells_literal "RETURNING").text_append s.spells_projected).continues
    constructor
    · intro n
      have htext := hall.text n
      simp only [List.cons_append, List.nil_append] at htext
      rw [← htext]
      simp
    · exact hall.bound
  next => exact ⟨fun _ => rfl, rfl⟩

theorem spells_selectDraft {s : Statement} {d : Draft} (hd : s.selectDraft true = .ok d) :
    d.Spells s.selectWords := by
  unfold selectDraft at hd
  obtain ⟨conditions, hconditions, hd⟩ := Outcome.bind_eq_ok.mp hd
  obtain rfl := Outcome.pure_eq_ok.mp hd
  have hstart := ((Draft.spells_literal "SELECT").text_append s.spells_projected).text_append
    ((Draft.spells_literal "FROM").text_append (Draft.spells_name s.table))
  have hjoined := hstart.continues.append (continues_joinClause s.joins)
  have hfiltered := hjoined.append (Filters.continues_whereClause hconditions)
  have hall := (hfiltered.append (continues_countClause "LIMIT" s.limit)).append
    (continues_countClause "OFFSET" s.offset)
  constructor
  · simp [selectWords]
  · intro n
    have htext := hall.text n
    simp only [List.cons_append, List.nil_append, List.append_assoc] at htext
    unfold selectWords
    simp only [List.cons_append, List.nil_append, List.append_assoc]
    rw [← htext]
    simp [Draft.sql_append]
  · have hbound := hall.bound
    simpa [selectWords] using hbound

end Statement

namespace Record

theorem row_ne_nil {columns : List String} {record : Record}
    (hcolumns : columns ≠ []) (hlacking : lacking columns record = []) :
    row columns record ≠ [] := by
  cases columns with
  | nil => exact absurd rfl hcolumns
  | cons column columns =>
      have hfield : (field? record column).isSome := by
        have hmem := List.filter_eq_nil_iff.mp hlacking column (by simp)
        simpa [Option.isSome_iff_ne_none] using hmem
      obtain ⟨v, hv⟩ := Option.isSome_iff_exists.mp hfield
      simp [row, hv]

/-- Rows are only made of records that lack none of the columns. -/
theorem rows_eq_ok {table : String} {columns : List String} {index : Nat}
    {records : List Record} {found : List (List Value)}
    (hrows : rows table columns index records = .ok found) :
    found = records.map (row columns) ∧ ∀ r ∈ records, lacking columns r = [] := by
  induction records generalizing index found with
  | nil =>
      obtain rfl := Except.ok.inj hrows
      simp
  | cons record records ih =>
      unfold rows at hrows
      split at hrows
      next hlacking =>
        obtain ⟨others, hothers, hfound⟩ := Outcome.bind_eq_ok.mp hrows
        obtain rfl := Outcome.pure_eq_ok.mp hfound
        obtain ⟨rfl, hall⟩ := ih hothers
        constructor
        · simp
        · intro r hr
          rcases List.mem_cons.mp hr with rfl | hr
          · exact hlacking
          · exact hall r hr
      next => exact absurd hrows (Outcome.reject_ne_ok _ _)

end Record

namespace Statement

theorem spells_insertDraft {s : Statement} {d : Draft} (hd : s.insertDraft true = .ok d) :
    d.Spells s.insertWords := by
  unfold insertDraft at hd
  split at hd
  next => exact absurd hd (Outcome.reject_ne_ok _ _)
  next => exact absurd hd (Outcome.reject_ne_ok _ _)
  next => exact absurd hd (Outcome.reject_ne_ok _ _)
  next first others hfirst hrecords =>
    obtain ⟨rows, hrows, hd⟩ := Outcome.bind_eq_ok.mp hd
    obtain rfl := Outcome.pure_eq_ok.mp hd
    obtain ⟨rfl, hlacking⟩ := Record.rows_eq_ok hrows
    have hcolumns : first.map (·.1) ≠ [] := by
      intro hnil
      exact hfirst (List.map_eq_nil_iff.mp hnil)
    have hnames : Draft.Spells [.text (columnList true (first.map (·.1)))]
        (nameWords (first.map (·.1))) := by
      constructor
      · exact Draft.listed_ne_nil (by simp) hcolumns
      · intro n
        simpa using Draft.spelled_nameWords hcolumns n
      · exact (Draft.bound_nameWords _).symm
    have hrow : ∀ vs ∈ (first :: others).map (Record.row (first.map (·.1))),
        (Draft.enclosed vs).Spells (rowWords vs) := by
      intro vs hvs
      obtain ⟨record, hrecord, rfl⟩ := List.mem_map.mp hvs
      exact Draft.spells_row (Record.row_ne_nil hcolumns (hlacking record hrecord))
    have hall := Draft.spells_listed hrow (by simp)
    have hstart := (((Draft.spells_literal "INSERT").text_append
      (Draft.spells_literal "INTO")).text_append (Draft.spells_name s.table)).continues.append
        hnames.enclosed.continues
    have htext := ((hstart.append (Draft.spells_literal "VALUES").continues).append
      hall.continues).append s.continues_returningClause
    unfold insertWords
    rw [hrecords]
    constructor
    · simp [rowsWords]
    · intro n
      have htext := htext.text n
      simp only [List.cons_append, List.nil_append, List.append_assoc] at htext
      simp only [rowsWords, List.cons_append, List.nil_append, List.append_assoc]
      rw [← htext]
      simp [Draft.sql_append]
    · have hbound := htext.bound
      simpa [rowsWords] using hbound

theorem spells_updateDraft {s : Statement} {d : Draft} (hd : s.updateDraft true = .ok d) :
    d.Spells s.updateWords := by
  unfold updateDraft at hd
  split at hd
  next => exact absurd hd (Outcome.reject_ne_ok _ _)
  next => exact absurd hd (Outcome.reject_ne_ok _ _)
  next => exact absurd hd (Outcome.reject_ne_ok _ _)
  next fields hfields hpayload =>
    obtain ⟨conditions, hconditions, hd⟩ := Outcome.bind_eq_ok.mp hd
    obtain rfl := Outcome.pure_eq_ok.mp hd
    have hitem : ∀ field ∈ fields,
        (assignment true field).Spells (assignmentWords field) := by
      intro field _
      have hname := (Draft.spells_name field.1).text_append (Draft.spells_literal "=")
      have hstart : Identifier.written true field.1 ++ " = " =
          Identifier.written true field.1 ++ " " ++ "=" ++ " " := by
        rw [String.append_assoc, String.append_assoc]
        rfl
      unfold assignment
      rw [hstart]
      exact hname.after (Draft.spells_value field.2)
    have hitems := Draft.spells_listed hitem hfields
    have hstart := ((Draft.spells_literal "UPDATE").text_append
      (Draft.spells_name s.table)).text_append (Draft.spells_literal "SET")
    have htext := ((hstart.continues.append hitems.continues).append
      (Filters.continues_whereClause hconditions)).append s.continues_returningClause
    unfold updateWords
    rw [hpayload]
    constructor
    · simp
    · intro n
      have htext := htext.text n
      simp only [List.cons_append, List.nil_append, List.append_assoc] at htext
      simp only [Payload.fields, List.cons_append, List.nil_append, List.append_assoc]
      rw [← htext]
      simp [Draft.sql_append]
    · have hbound := htext.bound
      simpa [Payload.fields] using hbound

theorem spells_deleteDraft {s : Statement} {d : Draft} (hd : s.deleteDraft true = .ok d) :
    d.Spells s.deleteWords := by
  unfold deleteDraft at hd
  obtain ⟨conditions, hconditions, hd⟩ := Outcome.bind_eq_ok.mp hd
  obtain rfl := Outcome.pure_eq_ok.mp hd
  have hstart := ((Draft.spells_literal "DELETE").text_append
    (Draft.spells_literal "FROM")).text_append (Draft.spells_name s.table)
  have htext := (hstart.continues.append
    (Filters.continues_whereClause hconditions)).append s.continues_returningClause
  constructor
  · simp [deleteWords]
  · intro n
    have htext := htext.text n
    simp only [List.cons_append, List.nil_append] at htext
    unfold deleteWords
    simp only [List.cons_append, List.nil_append]
    rw [← htext]
    simp [Draft.sql_append]
  · have hbound := htext.bound
    simpa [deleteWords] using hbound

theorem spells_draft {s : Statement} {d : Draft} (hd : s.draft true = .ok d) :
    d.Spells s.words := by
  unfold draft at hd
  split at hd
  next => exact absurd hd (Outcome.reject_ne_ok _ _)
  next =>
    unfold words
    cases hoperation : s.operation with
    | select =>
        rw [hoperation] at hd
        exact spells_selectDraft hd
    | insert =>
        rw [hoperation] at hd
        exact spells_insertDraft hd
    | update =>
        rw [hoperation] at hd
        exact spells_updateDraft hd
    | delete =>
        rw [hoperation] at hd
        exact spells_deleteDraft hd

/-- A compiled statement is the text of its words and their values. -/
theorem spelled_words {s : Statement} {c : Compiled} (hc : s.compile true = .ok c) :
    ' ' :: c.sql.toList = spelled 1 s.words ∧ c.parameters = Word.bound s.words := by
  unfold compile at hc
  obtain ⟨d, hd, hc⟩ := Outcome.bind_eq_ok.mp hc
  obtain rfl := Outcome.pure_eq_ok.mp hc
  exact ⟨(spells_draft hd).text 1, (spells_draft hd).bound⟩

end Statement

end SqlBuilder
