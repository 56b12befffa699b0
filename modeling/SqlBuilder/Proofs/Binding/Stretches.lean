import SqlBuilder.Proofs.Binding.Lexing
import SqlBuilder.Proofs.Binding.Pattern
import SqlBuilder.Schema.Literal
import SqlBuilder.Statement.Identifier

/-!
# Written quotes are one stretch

Literals and the segments of names are written between quotes, with the quotes
inside them doubled.  The pattern and the lexer take such a text as a whole,
whatever it holds, unless what follows goes on with another quote that is
closed later.  Colons may be escaped before: this changes what stands between
the quotes, but not where they are.
-/

namespace SqlBuilder.Binding

open Text

/-- A text between quotes, with the quotes inside doubled. -/
def Quote.enclosed (q : Quote) (s : List Char) : List Char :=
  q.char :: (doubled q.char s ++ [q.char])

/-- The pattern matches `stretch` at the start of `text` without capturing anything,
and the lexer reads it as quoted and goes on after it. -/
structure StartsQuoted (text stretch rest : List Char) : Prop where
  matched : Pattern.placeholder.first? text = some ⟨stretch, none, rest⟩
  lexed : lexemes text = .quoted stretch :: lexemes rest

/-! ## Where a stretch is closed -/

theorem closing_quote_iff {q : Char} {rest : List Char} :
    closing q (q :: rest) = some ([q], rest) ↔ ∀ more, rest = q :: more → q ∉ more := by
  cases rest with
  | nil => simp [closing]
  | cons c more =>
      by_cases hc : c = q
      · subst hc
        rw [closing, if_pos rfl, if_pos rfl]
        cases hclosing : closing c more with
        | none =>
            have habsent : c ∉ more := by
              rw [← isSome_closing_iff, hclosing]
              exact Bool.false_ne_true
            simp [habsent]
        | some closed =>
            have hmem : c ∈ more := isSome_closing_iff.mp (by rw [hclosing]; rfl)
            simp [hmem]
      · simp [closing, hc]

/-- What is between doubled quotes does not matter for where they are closed. -/
theorem closing_doubled_iff (q : Char) (s rest : List Char) :
    closing q (doubled q s ++ q :: rest) = some (doubled q s ++ [q], rest) ↔
      closing q (q :: rest) = some ([q], rest) := by
  obtain ⟨closed, hclosed⟩ : ∃ closed, closing q (q :: rest) = some closed :=
    Option.isSome_iff_exists.mp (isSome_closing_iff.mpr List.mem_cons_self)
  rw [Token.closing_doubled_append s hclosed, hclosed, Option.some.injEq, Option.some.injEq,
    Prod.mk.injEq, List.append_cancel_left_eq, Prod.ext_iff]

namespace Quote

theorem enclosed_append (q : Quote) (s rest : List Char) :
    q.enclosed s ++ rest = q.char :: (doubled q.char s ++ q.char :: rest) := by
  simp [enclosed]

/-- A text between quotes is matched as a whole, unless a quote follows it and
another one comes after that. -/
theorem first?_enclosed_iff (q : Quote) (s rest : List Char) :
    Pattern.placeholder.first? (q.enclosed s ++ rest) = some ⟨q.enclosed s, none, rest⟩ ↔
      ∀ more, rest = q.char :: more → q.char ∉ more := by
  rw [← closing_quote_iff, ← closing_doubled_iff q.char s rest, enclosed_append,
    Pattern.first?_quote, Option.map_eq_some_iff]
  constructor
  · rintro ⟨⟨run, rest'⟩, hclosing, hmatch⟩
    obtain ⟨hrun, -, rfl⟩ := Match.mk.inj hmatch
    rw [hclosing, (List.cons.inj hrun).2]
  · intro hclosing
    exact ⟨_, hclosing, rfl⟩

theorem escaped_enclosed (q : Quote) (s : List Char) :
    escaped (q.enclosed s) = q.enclosed (escaped s) := by
  obtain ⟨-, hcolon, hslash⟩ := q.char_ne
  simp [enclosed, escaped, escaped_append, escaped_doubled hcolon hslash, hcolon]

theorem startsQuoted_enclosed
    (q : Quote) (s : List Char) {rest : List Char} (hrest : rest.head? ≠ some q.char) :
    StartsQuoted (q.enclosed s ++ rest) (q.enclosed s) rest := by
  have hmatched : Pattern.placeholder.first? (q.enclosed s ++ rest) =
      some ⟨q.enclosed s, none, rest⟩ := by
    refine (first?_enclosed_iff q s rest).mpr ?_
    rintro more rfl
    exact absurd rfl hrest
  refine ⟨hmatched, ?_⟩
  rw [enclosed_append] at hmatched ⊢
  rw [Pattern.lexemes_cons, hmatched]
  rfl

/-- Escaped text starts with a quote only where the text did. -/
theorem head?_escaped_ne (q : Quote) {rest : List Char} (hrest : rest.head? ≠ some q.char) :
    (escaped rest).head? ≠ some q.char := by
  cases rest with
  | nil => simp [escaped]
  | cons c rest =>
      by_cases hc : c = ':'
      · simpa [escaped, hc] using q.char_ne.2.2.symm
      · simpa [escaped, hc] using hrest

theorem startsQuoted_escaped
    (q : Quote) (s : List Char) {rest : List Char} (hrest : rest.head? ≠ some q.char) :
    StartsQuoted (escaped (q.enclosed s ++ rest)) (escaped (q.enclosed s)) (escaped rest) := by
  rw [escaped_append, escaped_enclosed]
  exact startsQuoted_enclosed q (escaped s) (head?_escaped_ne q hrest)

end Quote

/-! ## Literals and segments -/

theorem toList_literal (s : String) :
    (Literal.quoted s).toList = Quote.single.enclosed s.toList :=
  String.toList_ofList

theorem quotedSegment_eq {s : List Char} (hs : s ≠ ['*']) :
    Identifier.quotedSegment s = Quote.double.enclosed s :=
  if_neg hs

/-- A literal that no single quote follows, and a segment other than a star that no
double quote follows, are matched as a whole and read as one quoted stretch, also
after every colon has been escaped. -/
theorem startsQuoted_written :
    (∀ (s : String) (rest : List Char), rest.head? ≠ some '\'' →
      let literal := (Literal.quoted s).toList
      StartsQuoted (literal ++ rest) literal rest ∧
        StartsQuoted (escaped (literal ++ rest)) (escaped literal) (escaped rest)) ∧
    ∀ s rest : List Char, s ≠ ['*'] → rest.head? ≠ some '"' →
      let segment := Identifier.quotedSegment s
      StartsQuoted (segment ++ rest) segment rest ∧
        StartsQuoted (escaped (segment ++ rest)) (escaped segment) (escaped rest) := by
  constructor
  · intro s rest hrest literal
    have hliteral : literal = Quote.single.enclosed s.toList := toList_literal s
    rw [hliteral]
    exact ⟨Quote.startsQuoted_enclosed .single s.toList hrest,
      Quote.startsQuoted_escaped .single s.toList hrest⟩
  · intro s rest hs hrest segment
    have hsegment : segment = Quote.double.enclosed s := quotedSegment_eq hs
    rw [hsegment]
    exact ⟨Quote.startsQuoted_enclosed .double s hrest,
      Quote.startsQuoted_escaped .double s hrest⟩

/-- Quotes at both ends of what is written, a mark in it, and the other quote after it. -/
theorem startsQuoted_written_quotes :
    let literal := (Literal.quoted "'a:$1''").toList
    let segment := Identifier.quotedSegment "\"\":\"".toList
    literal = "'''a:$1'''''".toList ∧ segment = "\"\"\"\"\":\"\"\"".toList ∧
      StartsQuoted (escaped (literal ++ "\"$2'".toList)) (escaped literal) "\"$2'".toList ∧
      StartsQuoted (segment ++ "':'\"".toList) segment "':'\"".toList := by
  intro literal segment
  have hliteral := (startsQuoted_written.1 "'a:$1''" "\"$2'".toList (by decide)).2
  have hsegment :=
    (startsQuoted_written.2 "\"\":\"".toList "':'\"".toList (by decide) (by decide)).1
  exact ⟨by decide, by decide, hliteral, hsegment⟩

end SqlBuilder.Binding
