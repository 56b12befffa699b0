import SqlBuilder.Proofs.Statement.Regular
import SqlBuilder.Proofs.Text.Mark

/-!
# The numbering of marks

The marks of a compiled statement are numbered from one on without a gap, and
the parameters are the values that the statement writes followed by those that
its filters bind.  Words carry the count: a word that holds a value is written
with the number of values before it, whichever clause it stands in.
-/

namespace SqlBuilder

open Text

theorem bound_rowWords (vs : List Value) : Word.bound (rowWords vs) = vs := by
  unfold rowWords
  rw [Word.bound_enclosed, Word.bound_listed, List.flatMap_map]
  simp [Word.holding, Term.bound]

theorem bound_operatorWords (operator : FilterOperator) :
    Word.bound operator.words = [] := by
  cases operator <;> rfl

theorem Filter.bound_words (f : Filter) : Word.bound f.words = f.bound := by
  obtain ⟨connective, column, operator, v⟩ := f
  unfold words Filter.bound
  cases operator with
  | isIn | notIn =>
      simp only
      split
      next hlisted => simp [hlisted, Word.literal, Term.bound]
      next hlisted => simp [hlisted, Word.literal, Term.bound]
      next vs _ hlisted =>
        simp [hlisted, Word.naming, Term.bound, bound_operatorWords, bound_rowWords]
  | is | isNot =>
      simp [Word.naming, Word.literal, Term.bound, bound_operatorWords]
  | eq | ne | gt | lt | gte | lte | like | ilike =>
      simp [Word.naming, Word.holding, Term.bound, bound_operatorWords]

theorem Filters.bound_restWords (fs : List Filter) :
    Word.bound (restWords fs) = fs.flatMap Filter.bound := by
  induction fs with
  | nil => rfl
  | cons f fs ih =>
      have hwords : restWords (f :: fs) =
          Word.literal f.connective.word :: (f.words ++ restWords fs) := rfl
      rw [hwords, Word.bound_cons, Word.bound_append, Filter.bound_words, ih]
      rfl

theorem Filters.bound_words (fs : List Filter) :
    Word.bound (Filters.words fs) = fs.flatMap Filter.bound := by
  cases fs with
  | nil => rfl
  | cons f fs =>
      rw [words, Word.bound_cons, Word.bound_append, Filter.bound_words,
        Filters.bound_restWords]
      rfl

theorem bound_joinWords (joins : List Join) :
    Word.bound (joins.flatMap Join.words) = [] := by
  induction joins with
  | nil => rfl
  | cons j joins ih =>
      rw [List.flatMap_cons, Word.bound_append, ih]
      rfl

theorem bound_countWords (word : String) (n : Option Nat) :
    Word.bound (countWords word n) = [] := by
  cases n <;> rfl

namespace Statement

/-- The values that a statement writes: row by row in the order of the first
record's columns, or column by column. -/
def writtenValues (s : Statement) : List Value :=
  match s.operation with
  | .insert => match s.payload.toRecords with
    | none | some [] => []
    | some (first :: others) =>
      (first :: others).flatMap (Record.row (first.map (·.1)))
  | .update => s.payload.fields.map (·.2)
  | .select | .delete => []

/-- The values that the filters of a statement bind, from left to right. -/
def filterValues (s : Statement) : List Value :=
  match s.operation with
  | .insert => []
  | .select | .update | .delete => s.filters.flatMap Filter.bound

theorem bound_returningWords (s : Statement) : Word.bound s.returningWords = [] := by
  unfold returningWords
  split
  next => simpa [Word.literal, Term.bound] using Draft.bound_nameWords s.columns
  next => rfl

theorem bound_words (s : Statement) :
    Word.bound s.words = s.writtenValues ++ s.filterValues := by
  unfold words writtenValues filterValues
  cases s.operation with
  | select =>
      simp [selectWords, Word.literal, Word.naming, Term.bound, Draft.bound_nameWords,
        bound_joinWords, bound_countWords, Filters.bound_words]
  | insert =>
      simp only [insertWords, List.append_nil]
      cases hrecords : s.payload.toRecords with
      | none => rfl
      | some records =>
          cases records with
          | nil => rfl
          | cons first others =>
              simp only [rowsWords, Word.bound_append, Word.bound_cons, Word.bound_nil,
                Word.bound_enclosed, Word.bound_listed, Draft.bound_nameWords,
                bound_returningWords]
              rw [List.flatMap_map, List.flatMap_map]
              simp [Word.literal, Word.naming, Term.bound, bound_rowWords]
  | update =>
      have hitems : s.payload.fields.flatMap (fun field => Word.bound (assignmentWords field)) =
          s.payload.fields.map (·.2) := by
        induction s.payload.fields with
        | nil => rfl
        | cons field fields ih => exact congrArg (field.2 :: ·) ih
      simp only [updateWords, Word.bound_append, Word.bound_cons, Word.bound_nil,
        Word.bound_listed, bound_returningWords, Filters.bound_words]
      rw [List.flatMap_map, hitems]
      simp [Word.literal, Word.naming, Term.bound]
  | delete =>
      simp [deleteWords, Word.literal, Word.naming, Term.bound, bound_returningWords,
        Filters.bound_words]

/-- A compiled text is lexical tokens, with one mark for each parameter. -/
theorem tokens_of_compile
    {s : Statement} {c : Compiled} (hnames : s.HasRegularNames) (hwritable : s.IsWritable)
    (hc : s.compile true = .ok c) :
    ∃ ts, Token.Lexical ts ∧ c.sql.toList = ts.flatMap Token.chars ∧
      Token.marks ts = List.range' 1 c.parameters.length := by
  obtain ⟨htext, hparameters⟩ := spelled_words hc
  have hregular := isRegular_words hnames hwritable
  have hlexical := Word.lexical_tokens hregular 1
  have hchars := Word.flatMap_chars_tokens hregular 1
  have hmarks := Word.marks_tokens 1 s.words
  have hhead := Word.tokens_head 1 s.words
  rw [← htext] at hchars
  -- the blank before the first word is a token, and no part of the text
  cases htokens : Word.tokens 1 s.words with
  | nil => simp [htokens] at hchars
  | cons t ts =>
      rw [htokens] at hlexical hchars hmarks hhead
      obtain rfl := hhead t (by simp)
      refine ⟨ts, hlexical.tail, ?_, ?_⟩
      · rw [List.flatMap_cons, Token.chars_plain, List.singleton_append] at hchars
        exact (List.cons.inj hchars).2.symm
      · rw [Token.marks_cons_plain] at hmarks
        rw [hmarks, hparameters]

theorem marks_of_tokens
    {sql : String} {ts : List Token} (hts : Token.Lexical ts)
    (hsql : sql.toList = ts.flatMap Token.chars) :
    marks sql = (Token.marks ts).map Draft.mark := by
  unfold marks
  rw [hsql, markDigits_chars hts, List.map_map]
  apply List.map_congr_left
  intro n _
  apply String.toList_inj.mp
  simp [Draft.mark]

/-- The marks of a compiled statement are `$1, $2, …` in the order of the text,
one for each parameter, and the parameters are the values it writes and those
its filters bind. -/
theorem marks_of_compile
    {s : Statement} {c : Compiled} (hnames : s.HasRegularNames) (hwritable : s.IsWritable)
    (hc : s.compile true = .ok c) :
    marks c.sql = (List.range' 1 c.parameters.length).map Draft.mark ∧
      c.parameters = s.writtenValues ++ s.filterValues := by
  obtain ⟨ts, hts, hsql, hmarks⟩ := tokens_of_compile hnames hwritable hc
  constructor
  · rw [marks_of_tokens hts hsql, hmarks]
  · obtain ⟨_, hparameters⟩ := spelled_words hc
    rw [hparameters, bound_words]

theorem marks_of_compile_update :
    let s : Statement :=
      { table := "t", operation := .update, projection := [], joins := [], limit := none,
        offset := none, returning := true, payload := .record [("c:d", .text "x")],
        filters := [⟨.and, "a", .isIn, .tuple [.int 1, .int 2]⟩, ⟨.or, "b$1", .is, .null⟩] }
    ∃ c, s.compile true = .ok c ∧ s.HasRegularNames ∧ s.IsWritable ∧
      marks c.sql = ["$1", "$2", "$3"] ∧ c.parameters = [.text "x", .int 1, .int 2] := by
  intro s
  obtain ⟨c, hc⟩ : ∃ c, s.compile true = .ok c := ⟨_, rfl⟩
  have hnames : s.HasRegularNames := by decide
  have hwritable : s.IsWritable := ⟨by simp [s], by simp [s]⟩
  obtain ⟨hmarks, hparameters⟩ := marks_of_compile hnames hwritable hc
  rw [hparameters] at hmarks
  exact ⟨c, hc, hnames, hwritable, hmarks, hparameters⟩

end Statement

end SqlBuilder
