import SqlBuilder.Proofs.Text.Joining
import SqlBuilder.Proofs.Text.Token
import SqlBuilder.Statement.Identifier

/-!
# Names that are quoted

A name is regular when it holds no blank and no parenthesis and does not start
with a double quote.  Such a name is written segment by segment: a star as it
is, any other segment between quotes.  So its text is quoted stretches, stars
and dots, and the name can be read back from it.
-/

namespace SqlBuilder.Identifier

open Text

/-- A name that is neither quoted already nor an expression. -/
structure IsRegular (name : List Char) : Prop where
  blank : ' ' ∉ name
  opening : '(' ∉ name
  closing : ')' ∉ name
  unquoted : name.head? ≠ some '"'

instance (name : List Char) : Decidable (IsRegular name) :=
  decidable_of_iff (' ' ∉ name ∧ '(' ∉ name ∧ ')' ∉ name ∧ name.head? ≠ some '"')
    ⟨fun ⟨hblank, hopening, hclosing, hunquoted⟩ =>
      ⟨hblank, hopening, hclosing, hunquoted⟩,
    fun hname => ⟨hname.blank, hname.opening, hname.closing, hname.unquoted⟩⟩

theorem segments_dot (cs : List Char) : segments ('.' :: cs) = [] :: segments cs := by
  simp [segments]

theorem segments_cons {c : Char} (hc : c ≠ '.') {cs s : List Char} {rest : List (List Char)}
    (hcs : segments cs = s :: rest) : segments (c :: cs) = (c :: s) :: rest := by
  simp [segments, hc, hcs]

theorem intercalate_segments (name : List Char) :
    ['.'].intercalate (segments name) = name := by
  induction name with
  | nil => rfl
  | cons c cs ih =>
      obtain ⟨s, rest, hcs⟩ := List.exists_cons_of_ne_nil (segments_ne_nil cs)
      by_cases hc : c = '.'
      · subst hc
        rw [segments_dot, hcs, List.intercalate_cons_cons, ← hcs, ih]
        rfl
      · rw [segments_cons hc hcs]
        rw [hcs] at ih
        cases rest with
        | nil => simpa using ih
        | cons t rest =>
            rw [List.intercalate_cons_cons] at ih ⊢
            rw [← ih]
            simp

theorem quotedChars_of_isRegular {name : List Char} (hname : IsRegular name) :
    quotedChars name = ['.'].intercalate ((segments name).map quotedSegment) := by
  unfold quotedChars
  split
  next hplain =>
    have hany : (name.any fun c => c == ' ' || c == '(' || c == ')') = false := by
      rw [List.any_eq_false]
      intro c hc
      have hblank : c ≠ ' ' := fun h => hname.blank (h ▸ hc)
      have hopening : c ≠ '(' := fun h => hname.opening (h ▸ hc)
      have hclosing : c ≠ ')' := fun h => hname.closing (h ▸ hc)
      simp [hblank, hopening, hclosing]
    have hstar : name = ['*'] := by
      simpa [isPlain, hany, hname.unquoted] using hplain
    subst hstar
    rfl
  next => rfl

/-! ## The tokens of a name -/

/-- The tokens of a segment. -/
def segmentToken (s : List Char) : Token := if s = ['*'] then .plain '*' else .quoted s

def nameTokens (name : List Char) : List Token :=
  [Token.plain '.'].intercalate ((segments name).map fun s => [segmentToken s])

theorem chars_segmentToken (s : List Char) : (segmentToken s).chars = quotedSegment s := by
  unfold segmentToken quotedSegment
  split
  next hs =>
    subst hs
    rfl
  next => rfl

theorem flatMap_chars_intercalate (ss : List (List Char)) :
    ([Token.plain '.'].intercalate (ss.map fun s => [segmentToken s])).flatMap Token.chars =
      ['.'].intercalate (ss.map quotedSegment) := by
  rw [map_intercalate List.flatMap_nil fun _ _ => List.flatMap_append, List.map_map]
  simp [Function.comp_def, chars_segmentToken]

/-- A regular name is written as its tokens. -/
theorem flatMap_chars_nameTokens {name : List Char} (hname : IsRegular name) :
    (nameTokens name).flatMap Token.chars = quotedChars name := by
  rw [quotedChars_of_isRegular hname]
  exact flatMap_chars_intercalate (segments name)

theorem marks_intercalate (ss : List (List Char)) :
    Token.marks ([Token.plain '.'].intercalate (ss.map fun s => [segmentToken s])) = [] := by
  have hsegment : ∀ s, Token.marks [segmentToken s] = [] := by
    intro s
    unfold segmentToken
    split <;> rfl
  rw [map_intercalate Token.marks_nil Token.marks_append, List.map_map, Token.marks_cons_plain,
    Token.marks_nil, nil_intercalate]
  simp [hsegment]

theorem marks_nameTokens (name : List Char) : Token.marks (nameTokens name) = [] :=
  marks_intercalate (segments name)

theorem lexical_segmentToken (s : List Char) {ts : List Token} (hts : Token.Lexical ts)
    (hplain : ∀ t ∈ ts.head?, ∃ c, t = .plain c) : Token.Lexical (segmentToken s :: ts) := by
  refine ⟨?_, ?_, hts⟩
  · intro c hc
    unfold segmentToken at hc
    split at hc
    next =>
      obtain rfl := Token.plain.inj hc
      decide
    next => simp at hc
  · intro u hu
    obtain ⟨c, rfl⟩ := hplain u hu
    unfold segmentToken
    split <;> trivial

theorem lexical_intercalate (ss : List (List Char)) {ts : List Token}
    (hts : Token.Lexical ts) (hplain : ∀ t ∈ ts.head?, ∃ c, t = .plain c) :
    Token.Lexical
      ([Token.plain '.'].intercalate (ss.map fun s => [segmentToken s]) ++ ts) := by
  induction ss with
  | nil => exact hts
  | cons s ss ih =>
      cases ss with
      | nil => exact lexical_segmentToken s hts hplain
      | cons t ss =>
          simp only [List.map_cons] at ih ⊢
          rw [List.intercalate_cons_cons]
          simp only [List.cons_append, List.nil_append]
          apply lexical_segmentToken
          · refine ⟨?_, ?_, ih⟩
            · intro c hc
              obtain rfl := Token.plain.inj hc
              decide
            · intro u hu
              have hhead : u = segmentToken t := by
                cases ss with
                | nil => simpa using hu.symm
                | cons s ss =>
                    simp only [List.map_cons] at hu
                    rw [List.intercalate_cons_cons] at hu
                    simpa using hu.symm
              subst hhead
              unfold segmentToken
              split <;> trivial
          · simp

/-- The tokens of a name may come before a plain character. -/
theorem lexical_nameTokens (name : List Char) {ts : List Token} (hts : Token.Lexical ts)
    (hplain : ∀ t ∈ ts.head?, ∃ c, t = .plain c) :
    Token.Lexical (nameTokens name ++ ts) :=
  lexical_intercalate (segments name) hts hplain

end SqlBuilder.Identifier
