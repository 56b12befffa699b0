import SqlBuilder.Proofs.Binding.Quoting

/-!
# The pattern of quoted stretches and marks

A pattern is matched by trying: of two alternatives the first one, of a
repetition one more turn, and what was tried last is given up first when the
rest of the pattern does not fit.  The ways in which a pattern can match are
listed in the order in which they are tried, so that the match is the first of
them.

The lexer goes through a text as a search for `placeholder` does: where the
pattern matches it takes what is matched, and elsewhere a single character.
-/

namespace SqlBuilder.Binding

open Text

/-- What a pattern matched at the start of a text, what its group captured, and
what comes after. -/
structure Match where
  chars : List Char
  captured : Option (List Char)
  rest : List Char
  deriving DecidableEq

namespace Match

/-- One match after the other; a group keeps what it captured last. -/
def followedBy (m n : Match) : Match := ⟨m.chars ++ n.chars, n.captured.or m.captured, n.rest⟩

@[simp] theorem rest_followedBy (m n : Match) : (m.followedBy n).rest = n.rest := rfl

theorem followedBy_followedBy (m n : Match) :
    m.followedBy ∘ n.followedBy = (m.followedBy n).followedBy := by
  funext l
  simp [followedBy, Option.or_assoc]

@[simp] theorem followedBy_nothing (cs : List Char) : followedBy ⟨[], none, cs⟩ = id := by
  funext m
  simp [followedBy]

/-- The lexeme that is matched: a mark if digits were captured, and quoted otherwise. -/
def lexeme (m : Match) : Lexeme :=
  match m.captured with
  | some digits => .mark digits
  | none => .quoted m.chars

end Match

/-- A pattern, with at most one group. -/
inductive Pattern
  | one (accepts : Char → Bool)
  | seq (p q : Pattern)
  | either (p q : Pattern)
  | many (p : Pattern)
  | group (p : Pattern)

namespace Pattern

/-- Turns of a repetition, as many as there can be coming first and none at all
last; a turn that takes nothing is not made. -/
def turns (step : List Char → List Match) (cs : List Char) : List Match :=
  ((step cs).flatMap fun m =>
    if _h : m.rest.length < cs.length then (turns step m.rest).map m.followedBy else [])
      ++ [⟨[], none, cs⟩]
termination_by cs.length

/-- The ways to match a pattern at the start of a text, in the order in which they
are tried. -/
def ways : Pattern → List Char → List Match
  | one _, [] => []
  | one accepts, c :: cs => if accepts c then [⟨[c], none, cs⟩] else []
  | seq p q, cs => (p.ways cs).flatMap fun m => (q.ways m.rest).map m.followedBy
  | either p q, cs => p.ways cs ++ q.ways cs
  | many p, cs => turns p.ways cs
  | group p, cs => (p.ways cs).map fun m => { m with captured := some m.chars }

/-- The match of a pattern at the start of a text. -/
def first? (p : Pattern) (cs : List Char) : Option Match := (p.ways cs).head?

/-- A character other than the quote, or the quote twice. -/
def inside (q : Char) : Pattern :=
  either (one (· ≠ q)) (seq (one (· = q)) (one (· = q)))

/-- Everything between two quotes. -/
def stretch (q : Char) : Pattern :=
  seq (one (· = q)) (seq (many (inside q)) (one (· = q)))

/-- A dollar sign with a group of digits. -/
def dollar : Pattern :=
  seq (one (· = '$')) (group (seq (one isDigit) (many (one isDigit))))

/-- A quoted stretch or a mark: `"(?:[^"]|"")*"|'(?:[^']|'')*'|\$(\d+)`. -/
def placeholder : Pattern := either (stretch '"') (either (stretch '\'') dollar)

/-! ## Ways to match -/

theorem turns_eq (step : List Char → List Match) (cs : List Char) :
    turns step cs =
      ((step cs).flatMap fun m =>
        if m.rest.length < cs.length then (turns step m.rest).map m.followedBy else [])
          ++ [⟨[], none, cs⟩] := by
  rw [turns]
  rfl

@[simp] theorem ways_one_nil (accepts : Char → Bool) : (one accepts).ways [] = [] := rfl

@[simp] theorem ways_one_cons (accepts : Char → Bool) (c : Char) (cs : List Char) :
    (one accepts).ways (c :: cs) = if accepts c then [⟨[c], none, cs⟩] else [] := rfl

theorem ways_seq (p q : Pattern) (cs : List Char) :
    (seq p q).ways cs = (p.ways cs).flatMap fun m => (q.ways m.rest).map m.followedBy := rfl

theorem ways_either (p q : Pattern) (cs : List Char) :
    (either p q).ways cs = p.ways cs ++ q.ways cs := rfl

theorem ways_many (p : Pattern) (cs : List Char) : (many p).ways cs = turns p.ways cs := rfl

section

variable {p : Pattern} {cs : List Char} {m : Match}

theorem ways_seq_of_nil (hp : p.ways cs = []) (q : Pattern) : (seq p q).ways cs = [] := by
  rw [ways_seq, hp, List.flatMap_nil]

theorem ways_seq_of_single (hp : p.ways cs = [m]) (q : Pattern) :
    (seq p q).ways cs = (q.ways m.rest).map m.followedBy := by
  rw [ways_seq, hp, List.flatMap_singleton]

theorem ways_many_of_nil (hp : p.ways cs = []) : (many p).ways cs = [⟨[], none, cs⟩] := by
  rw [ways_many, turns_eq, hp, List.flatMap_nil, List.nil_append]

theorem ways_many_of_single (hp : p.ways cs = [m]) (hm : m.rest.length < cs.length) :
    (many p).ways cs = ((many p).ways m.rest).map m.followedBy ++ [⟨[], none, cs⟩] := by
  rw [ways_many, turns_eq, hp, List.flatMap_singleton, if_pos hm, ways_many]

theorem ways_many_seq_of_nil (hp : p.ways cs = []) (q : Pattern) :
    (seq (many p) q).ways cs = q.ways cs := by
  rw [ways_seq_of_single (ways_many_of_nil hp), Match.followedBy_nothing, List.map_id]

theorem ways_many_seq_of_single
    (hp : p.ways cs = [m]) (hm : m.rest.length < cs.length) (q : Pattern) :
    (seq (many p) q).ways cs =
      ((seq (many p) q).ways m.rest).map m.followedBy ++ q.ways cs := by
  -- the turn is given up, and `q` tried at once, only if `q` does not match after it
  rw [ways_seq, ways_many_of_single hp hm, List.flatMap_append, List.flatMap_singleton,
    Match.followedBy_nothing, List.map_id, List.flatMap_map, ways_seq, List.map_flatMap]
  simp only [Match.rest_followedBy, List.map_map, Match.followedBy_followedBy]

theorem first?_either (p q : Pattern) (cs : List Char) :
    (either p q).first? cs = (p.first? cs).or (q.first? cs) :=
  List.head?_append

theorem first?_of_nil (hp : p.ways cs = []) : p.first? cs = none :=
  congrArg List.head? hp

theorem first?_seq_of_single (hp : p.ways cs = [m]) (q : Pattern) :
    (seq p q).first? cs = (q.first? m.rest).map m.followedBy :=
  (congrArg List.head? (ways_seq_of_single hp q)).trans List.head?_map

theorem first?_group (p : Pattern) (cs : List Char) :
    (group p).first? cs = (p.first? cs).map fun m => { m with captured := some m.chars } :=
  List.head?_map

end

section

variable {accepts : Char → Bool} {c : Char}

theorem ways_one_of_accepted (hc : accepts c = true) (cs : List Char) :
    (one accepts).ways (c :: cs) = [⟨[c], none, cs⟩] := by
  rw [ways_one_cons, if_pos hc]

theorem ways_one_of_refused (hc : accepts c = false) (cs : List Char) :
    (one accepts).ways (c :: cs) = [] := by
  rw [ways_one_cons, hc, if_neg Bool.false_ne_true]

theorem first?_one_seq (hc : accepts c = true) (q : Pattern) (cs : List Char) :
    (seq (one accepts) q).first? (c :: cs) = (q.first? cs).map (Match.followedBy ⟨[c], none, cs⟩) :=
  first?_seq_of_single (ways_one_of_accepted hc cs) q

theorem first?_one_seq_of_refused (hc : accepts c = false) (q : Pattern) (cs : List Char) :
    (seq (one accepts) q).first? (c :: cs) = none :=
  first?_of_nil (ways_seq_of_nil (ways_one_of_refused hc cs) q)

end

theorem first?_many_one (accepts : Char → Bool) (cs : List Char) :
    (many (one accepts)).first? cs =
      some ⟨cs.takeWhile accepts, none, cs.dropWhile accepts⟩ := by
  change ((many (one accepts)).ways cs).head? = _
  induction cs with
  | nil =>
      rw [ways_many_of_nil (ways_one_nil accepts)]
      rfl
  | cons c cs ih =>
      cases hc : accepts c with
      | false =>
          rw [ways_many_of_nil (ways_one_of_refused hc cs)]
          simp [hc]
      | true =>
          rw [ways_many_of_single (ways_one_of_accepted hc cs) (Nat.lt_succ_self _),
            List.head?_append, List.head?_map, ih]
          simp [Match.followedBy, hc]

/-! ## Quoted stretches -/

theorem ways_inside_nil (q : Char) : (inside q).ways [] = [] := rfl

theorem ways_inside_of_ne {q c : Char} (hc : c ≠ q) (cs : List Char) :
    (inside q).ways (c :: cs) = [⟨[c], none, cs⟩] := by
  rw [inside, ways_either, ways_seq]
  simp [hc]

theorem ways_inside_doubled (q : Char) (cs : List Char) :
    (inside q).ways (q :: q :: cs) = [⟨[q, q], none, cs⟩] := by
  rw [inside, ways_either, ways_seq]
  simp [Match.followedBy]

theorem ways_inside_of_head {q : Char} {cs : List Char} (hcs : cs.head? ≠ some q) :
    (inside q).ways (q :: cs) = [] := by
  rw [inside, ways_either, ways_seq]
  cases cs with
  | nil => simp
  | cons c cs =>
      have hc : c ≠ q := by simpa using hcs
      simp [hc]

/-- What comes up to the closing quote is matched as the lexer reads it. -/
theorem first?_closing (q : Char) (cs : List Char) :
    (seq (many (inside q)) (one (· = q))).first? cs =
      (closing q cs).map fun (run, rest) => ⟨run, none, rest⟩ := by
  change ((seq (many (inside q)) (one (· = q))).ways cs).head? = _
  fun_induction closing q cs with
  | case1 =>
      rw [ways_many_seq_of_nil (ways_inside_nil q)]
      rfl
  | case2 =>
      rw [ways_many_seq_of_nil (ways_inside_of_head (by simp))]
      simp
  | case3 c hc =>
      rw [ways_many_seq_of_single (ways_inside_of_ne hc []) (by simp),
        ways_many_seq_of_nil (ways_inside_nil q)]
      simp [hc]
  | case4 cs run rest hclosing ih =>
      rw [ways_many_seq_of_single (ways_inside_doubled q cs) (by simp only [List.length_cons]; omega),
        List.head?_append, List.head?_map, ih, hclosing]
      simp [Match.followedBy]
  | case5 cs hclosing ih =>
      rw [ways_many_seq_of_single (ways_inside_doubled q cs) (by simp only [List.length_cons]; omega),
        List.head?_append, List.head?_map, ih, hclosing]
      simp
  | case6 d cs hd =>
      rw [ways_many_seq_of_nil (ways_inside_of_head (by simpa using hd))]
      simp
  | case7 c d cs hc ih =>
      rw [ways_many_seq_of_single (ways_inside_of_ne hc (d :: cs)) (by simp), List.head?_append,
        List.head?_map, ih]
      cases closing q (d :: cs) with
      | none => simp [hc]
      | some closed => simp [Match.followedBy]

theorem first?_stretch (q : Char) (cs : List Char) :
    (stretch q).first? (q :: cs) =
      (closing q cs).map fun (run, rest) => ⟨q :: run, none, rest⟩ := by
  rw [stretch, first?_one_seq (by simp), first?_closing, Option.map_map]
  simp [Match.followedBy, Function.comp_def]

theorem first?_stretch_of_ne {q c : Char} (hc : c ≠ q) (cs : List Char) :
    (stretch q).first? (c :: cs) = none :=
  first?_one_seq_of_refused (by simp [hc]) _ cs

theorem first?_dollar (cs : List Char) :
    dollar.first? ('$' :: cs) =
      if cs.takeWhile isDigit = [] then none
      else some ⟨'$' :: cs.takeWhile isDigit, some (cs.takeWhile isDigit),
        cs.dropWhile isDigit⟩ := by
  rw [dollar, first?_one_seq (by simp), first?_group]
  cases cs with
  | nil => rfl
  | cons c cs =>
      cases hc : isDigit c with
      | false =>
          rw [first?_one_seq_of_refused hc]
          simp [hc]
      | true =>
          rw [first?_one_seq hc, first?_many_one]
          simp [Match.followedBy, hc]

theorem first?_dollar_of_ne {c : Char} (hc : c ≠ '$') (cs : List Char) :
    dollar.first? (c :: cs) = none :=
  first?_one_seq_of_refused (by simp [hc]) _ cs

/-! ## The lexer -/

/-- A quote starts a match if its stretch is closed, and what is matched is the stretch. -/
theorem first?_quote (q : Quote) (cs : List Char) :
    placeholder.first? (q.char :: cs) =
      (closing q.char cs).map fun (run, rest) => ⟨q.char :: run, none, rest⟩ := by
  rw [placeholder, first?_either, first?_either, first?_dollar_of_ne q.char_ne.1, Option.or_none]
  cases q with
  | double =>
      have hne : Quote.double.char ≠ '\'' := by decide
      rw [first?_stretch_of_ne hne, Option.or_none]
      exact first?_stretch _ cs
  | single =>
      have hne : Quote.single.char ≠ '"' := by decide
      rw [first?_stretch_of_ne hne, Option.none_or]
      exact first?_stretch _ cs

theorem first?_of_not_quote {c : Char} (hc : ¬ (c = '"' ∨ c = '\'')) (cs : List Char) :
    placeholder.first? (c :: cs) = dollar.first? (c :: cs) := by
  rw [not_or] at hc
  rw [placeholder, first?_either, first?_either, first?_stretch_of_ne hc.1,
    first?_stretch_of_ne hc.2, Option.none_or, Option.none_or]

/-- The lexer takes what the pattern matches, and one character where it does not match. -/
theorem lexemes_cons (c : Char) (cs : List Char) :
    lexemes (c :: cs) =
      match placeholder.first? (c :: cs) with
      | some m => m.lexeme :: lexemes m.rest
      | none => .plain c :: lexemes cs := by
  by_cases hquote : c = '"' ∨ c = '\''
  · obtain ⟨q, rfl⟩ : ∃ q : Quote, q.char = c :=
      hquote.elim (fun h => ⟨.double, h.symm⟩) (fun h => ⟨.single, h.symm⟩)
    rw [first?_quote, lexemes, if_pos hquote]
    split
    next run rest hclosing => rw [hclosing]; rfl
    next hclosing => rw [hclosing]; rfl
  · rw [first?_of_not_quote hquote, lexemes, if_neg hquote]
    by_cases hdollar : c = '$'
    · subst hdollar
      rw [first?_dollar]
      by_cases hdigits : cs.takeWhile isDigit = []
      · simp [hdigits]
      · simp [hdigits, Match.lexeme]
    · rw [first?_dollar_of_ne hdollar]
      simp [hdollar]

end Pattern

end SqlBuilder.Binding
