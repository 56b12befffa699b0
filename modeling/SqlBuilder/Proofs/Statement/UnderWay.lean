import SqlBuilder.Proofs.Statement.Composition
import SqlBuilder.Statement.Writing

/-!
# Conditions in a statement under way

Writing goes the same way whatever values a statement has already: they stay
where they are, what is bound comes after them, and every mark is as many places
further on as there are.  Each step of writing has this property and hands it on
to the next one, so it holds of all the filters.

Filters are written one after the other.  Those of a clause can therefore be
written in two goes, the second of which starts with the values of the first.
-/

namespace SqlBuilder

namespace Emitted

@[simp] theorem joined_cons (e : Emitted) (es : List Emitted) :
    joined (e :: es) = e.sql ++ joined es := String.join_cons

theorem joined_append (es fs : List Emitted) : joined (es ++ fs) = joined es ++ joined fs := by
  rw [joined, List.map_append, String.join_append]
  rfl

theorem spaced_append
    {parts others : List (List Emitted)} (hparts : parts ≠ []) (hothers : others ≠ []) :
    spaced (parts ++ others) = spaced parts ++ text " " :: spaced others := by
  unfold spaced
  rw [Text.intercalate_append_of_ne_nil hparts hothers, List.append_assoc]
  rfl

theorem spaced_cons_cons (e : Emitted) (part : List Emitted) (parts : List (List Emitted)) :
    spaced ((e :: part) :: parts) = e :: spaced (part :: parts) := by
  cases parts with
  | nil => simp [spaced]
  | cons next parts => simp [spaced, List.intercalate_cons_cons]

theorem map_shifted_spaced (k : Nat) (parts : List (List Emitted)) :
    (spaced parts).map (shifted k) = spaced (parts.map (List.map (shifted k))) :=
  Text.map_intercalate List.map_nil (fun _ _ => List.map_append) _ _

/-- The text of parts that follow others, each after a blank. -/
def restJoined (parts : List (List Emitted)) : String :=
  String.join (parts.map (" " ++ joined ·))

theorem restJoined_cons (part : List Emitted) (parts : List (List Emitted)) :
    restJoined (part :: parts) = " " ++ joined part ++ restJoined parts := by
  simp [restJoined]

theorem joined_spaced_cons (part : List Emitted) (parts : List (List Emitted)) :
    joined (spaced (part :: parts)) = joined part ++ restJoined parts := by
  induction parts generalizing part with
  | nil => simp [spaced, restJoined]
  | cons next parts ih =>
      have hsplit : spaced (part :: next :: parts) =
          spaced [part] ++ text " " :: spaced (next :: parts) :=
        spaced_append (List.cons_ne_nil part []) (List.cons_ne_nil next parts)
      rw [hsplit, joined_append, joined_cons, ih next, restJoined_cons]
      simp [spaced, sql, String.append_assoc]

end Emitted

/-! ## Writing after other values -/

namespace Writing

variable {α β : Type}

theorem onto_bind_of_ok
    {w : Writing α} {vs us : List Value} {a : α} (hw : w.onto vs = (.ok a, us))
    (f : α → Writing β) : (w >>= f).onto vs = (f a).onto us := by
  rw [onto_bind, hw]

theorem onto_bind_of_error
    {w : Writing α} {vs us : List Value} {failure : Failure}
    (hw : w.onto vs = (.error failure, us)) (f : α → Writing β) :
    (w >>= f).onto vs = (.error failure, us) := by
  rw [onto_bind, hw]

/-- A writing succeeds step by step, every step with the values of the one before. -/
theorem onto_bind_eq_ok
    {w : Writing α} {f : α → Writing β} {vs us : List Value} {b : β} :
    (w >>= f).onto vs = (.ok b, us) ↔
      ∃ a between, w.onto vs = (.ok a, between) ∧ (f a).onto between = (.ok b, us) := by
  rw [onto_bind]
  match w.onto vs with
  | (.ok a, between) => simp
  | (.error failure, between) => simp

theorem onto_bind_pure_eq_ok
    {w : Writing α} {f : α → β} {vs us : List Value} {b : β} :
    (w >>= fun a => pure (f a)).onto vs = (.ok b, us) ↔
      ∃ a, w.onto vs = (.ok a, us) ∧ f a = b := by
  simp only [onto_bind_eq_ok, onto_pure, Prod.mk.injEq, Except.ok.injEq]
  constructor
  · rintro ⟨a, _, hw, hb, rfl⟩
    exact ⟨a, hw, hb⟩
  · rintro ⟨a, hw, hb⟩
    exact ⟨a, us, hw, hb, rfl⟩

/-- After the values `front`, `w'` does what `w` does without them, up to `shift` in
what it writes. -/
def Framed (front : List Value) (shift : α → α) (w w' : Writing α) : Prop :=
  ∀ vs, w'.onto (front ++ vs) = ((w.onto vs).1.map shift, front ++ (w.onto vs).2)

variable {front : List Value}

theorem framed_pure {shift : α → α} {a a' : α} (ha : shift a = a') :
    Framed front shift (pure a) (pure a') := by
  intro vs
  rw [← ha]
  rfl

theorem framed_liftM (x : Outcome α) : Framed front id (liftM x) (liftM x) := by
  intro vs
  cases x <;> rfl

theorem framed_bound (v : Value) :
    Framed front (Emitted.shifted front.length) (bound v) (bound v) := by
  intro vs
  simp [Except.map, Emitted.shifted, Nat.add_assoc]

/-- Both parts of a writing being framed, so is the whole: the second part starts
with what the first one left. -/
theorem Framed.bind
    {shift : α → α} {shift' : β → β} {w w' : Writing α} {f f' : α → Writing β}
    (hw : Framed front shift w w') (hf : ∀ a, Framed front shift' (f a) (f' (shift a))) :
    Framed front shift' (w >>= f) (w' >>= f') := by
  intro vs
  rw [onto_bind, onto_bind, hw vs]
  match w.onto vs with
  | (.ok a, between) => exact hf a between
  | (.error failure, between) => rfl

end Writing

open Emitted Writing

theorem Draft.framed_emitted (front : List Value) (d : Draft) :
    Framed front (List.map (Emitted.shifted front.length)) d.emitted d.emitted := by
  induction d with
  | nil => exact framed_pure rfl
  | cons piece d ih =>
      cases piece with
      | text s => exact ih.bind fun _ => framed_pure rfl
      | bound v => exact (framed_bound v).bind fun _ => ih.bind fun _ => framed_pure rfl

theorem Filter.framed_emitted (front : List Value) (quoting : Bool) (f : Filter) :
    Framed front (List.map (Emitted.shifted front.length))
      (f.emitted quoting) (f.emitted quoting) :=
  (framed_liftM (f.condition quoting)).bind fun d => d.framed_emitted front

namespace Filters

theorem framed_parts (front : List Value) (quoting first : Bool) (fs : List Filter) :
    Framed front (List.map (List.map (Emitted.shifted front.length)))
      (parts quoting first fs) (parts quoting first fs) := by
  induction fs generalizing first with
  | nil => exact framed_pure rfl
  | cons f fs ih =>
      refine (f.framed_emitted front quoting).bind fun condition => ?_
      refine (ih false).bind fun others => framed_pure ?_
      cases first <;> rfl

theorem framed_emitted (front : List Value) (quoting : Bool) (fs : List Filter) :
    Framed front (List.map (Emitted.shifted front.length))
      (emitted quoting fs) (emitted quoting fs) := by
  unfold emitted
  split
  next => exact framed_pure rfl
  next =>
    refine (framed_parts front quoting true fs).bind fun ps => framed_pure ?_
    exact congrArg (Emitted.text " WHERE " :: ·) (Emitted.map_shifted_spaced _ ps)

/-! ## Writing in two goes -/

theorem parts_append (quoting : Bool) (fs gs : List Filter) :
    parts quoting false (fs ++ gs) = do
      let ps ← parts quoting false fs
      return ps ++ (← parts quoting false gs) := by
  induction fs with
  | nil => simp [parts]
  | cons f fs ih => simp [parts, ih]

theorem parts_cons_append (quoting : Bool) (f : Filter) (fs gs : List Filter) :
    parts quoting true (f :: (fs ++ gs)) = do
      let ps ← parts quoting true (f :: fs)
      return ps ++ (← parts quoting false gs) := by
  simp [parts, parts_append]

section

variable {quoting first : Bool} {f : Filter} {fs : List Filter} {vs after : List Value}

theorem parts_cons_eq_ok {ps : List (List Emitted)} :
    (parts quoting first (f :: fs)).onto vs = (.ok ps, after) ↔
      ∃ condition between others,
        (f.emitted quoting).onto vs = (.ok condition, between) ∧
        (parts quoting false fs).onto between = (.ok others, after) ∧
        (if first then condition else .text (f.connective.word ++ " ") :: condition) :: others =
          ps := by
  rw [parts, onto_bind_eq_ok]
  simp only [onto_bind_pure_eq_ok, exists_and_left]

theorem emitted_cons_eq_ok {es : List Emitted} :
    (emitted quoting (f :: fs)).onto vs = (.ok es, after) ↔
      ∃ ps, (parts quoting true (f :: fs)).onto vs = (.ok ps, after) ∧
        .text " WHERE " :: spaced ps = es := by
  have hclause : emitted quoting (f :: fs) = do
      return .text " WHERE " :: spaced (← parts quoting true (f :: fs)) := rfl
  rw [hclause, onto_bind_pure_eq_ok]

end

theorem exists_emitted_append
    {quoting : Bool} {fs gs : List Filter} {g : Filter} {vs after : List Value}
    {whole : List Emitted} (hfs : fs ≠ [])
    (hwhole : (emitted quoting (fs ++ g :: gs)).onto vs = (.ok whole, after)) :
    ∃ head between body,
      (emitted quoting fs).onto vs = (.ok head, between) ∧
      (emitted quoting (g :: gs)).onto between = (.ok (.text " WHERE " :: body), after) ∧
      whole = head ++ .text " " :: .text (g.connective.word ++ " ") :: body := by
  obtain ⟨f, fs, rfl⟩ := List.exists_cons_of_ne_nil hfs
  -- the parts of all filters are those of the first ones and those of the others
  rw [List.cons_append] at hwhole
  obtain ⟨_, hall, rfl⟩ := emitted_cons_eq_ok.mp hwhole
  rw [parts_cons_append] at hall
  obtain ⟨ps, between, hps, hall⟩ := onto_bind_eq_ok.mp hall
  obtain ⟨qs, hqs, rfl⟩ := onto_bind_pure_eq_ok.mp hall
  -- the first of the others has its connective, which it has not in a clause of its own
  obtain ⟨condition, met, others, hcondition, hothers, rfl⟩ := parts_cons_eq_ok.mp hqs
  have hown : (parts quoting true (g :: gs)).onto between = (.ok (condition :: others), _) :=
    parts_cons_eq_ok.mpr ⟨condition, met, others, hcondition, hothers, rfl⟩
  have hnonempty : ps ≠ [] := by
    obtain ⟨_, _, _, _, _, rfl⟩ := parts_cons_eq_ok.mp hps
    exact List.cons_ne_nil _ _
  refine ⟨_, between, spaced (condition :: others), emitted_cons_eq_ok.mpr ⟨ps, hps, rfl⟩,
    emitted_cons_eq_ok.mpr ⟨_, hown, rfl⟩, ?_⟩
  rw [spaced_append hnonempty (List.cons_ne_nil _ _), if_neg Bool.false_ne_true,
    spaced_cons_cons]
  rfl

end Filters

/-! ## The clause of a compiled statement -/

theorem Draft.exists_emitted (d : Draft) (vs : List Value) :
    ∃ es, d.emitted.onto vs = (.ok es, vs ++ d.bound) ∧ joined es = d.sql (vs.length + 1) := by
  induction d generalizing vs with
  | nil => exact ⟨[], by simp [Draft.emitted], rfl⟩
  | cons piece d ih =>
      cases piece with
      | text s =>
          obtain ⟨es, hes, htext⟩ := ih vs
          refine ⟨.text s :: es, onto_bind_pure_eq_ok.mpr ⟨es, hes, rfl⟩, ?_⟩
          rw [joined_cons, htext]
          rfl
      | bound v =>
          obtain ⟨es, hes, htext⟩ := ih (vs ++ [v])
          rw [List.append_assoc] at hes
          rw [List.length_append] at htext
          refine ⟨.mark (vs.length + 1) :: es,
            onto_bind_eq_ok.mpr ⟨_, _, onto_bound v vs, onto_bind_pure_eq_ok.mpr ⟨es, hes, rfl⟩⟩,
            ?_⟩
          rw [joined_cons, htext]
          rfl

theorem Filter.isWritable_eq (f : Filter) (quoting : Bool) :
    f.isWritable = (f.condition quoting).isOk := by
  obtain ⟨connective, column, operator, v⟩ := f
  unfold isWritable asksMembership condition
  cases operator with
  | isIn | notIn =>
      cases v.listed? with
      | none => rfl
      | some items => cases items <;> rfl
  | is | isNot | eq | ne | gt | lt | gte | lte | like | ilike => rfl

theorem Filter.exists_emitted
    {f : Filter} {quoting : Bool} {d : Draft} (hd : f.condition quoting = .ok d)
    (vs : List Value) :
    ∃ es, (f.emitted quoting).onto vs = (.ok es, vs ++ f.bound) ∧
      joined es = d.sql (vs.length + 1) := by
  obtain ⟨es, hes, htext⟩ := d.exists_emitted vs
  rw [(Filter.condition_eq_ok hd).2] at hes
  refine ⟨es, ?_, htext⟩
  rw [Filter.emitted, hd]
  exact hes

theorem Filter.onto_emitted_of_error
    {f : Filter} {quoting : Bool} {failure : Failure}
    (hfailure : f.condition quoting = .error failure) (vs : List Value) :
    (f.emitted quoting).onto vs = (.error failure, vs) := by
  rw [Filter.emitted, hfailure]
  rfl

namespace Filters

theorem boundUntilFailure_of_ok
    {f : Filter} {quoting : Bool} {d : Draft} (hd : f.condition quoting = .ok d)
    (fs : List Filter) :
    boundUntilFailure (f :: fs) = f.bound ++ boundUntilFailure fs := by
  have hwritable : f.isWritable = true := by rw [f.isWritable_eq quoting, hd]; rfl
  simp [boundUntilFailure, hwritable]

theorem boundUntilFailure_of_error
    {f : Filter} {quoting : Bool} {failure : Failure}
    (hfailure : f.condition quoting = .error failure) (fs : List Filter) :
    boundUntilFailure (f :: fs) = [] := by
  have hwritable : f.isWritable = false := by rw [f.isWritable_eq quoting, hfailure]; rfl
  simp [boundUntilFailure, hwritable]

theorem rest_cons (quoting : Bool) (f : Filter) (fs : List Filter) :
    rest quoting (f :: fs) =
      (chained quoting (f :: fs)).map (.text (" " ++ f.connective.word ++ " ") :: ·) := by
  rw [rest, chained]
  cases f.condition quoting with
  | error failure => rfl
  | ok condition => cases rest quoting fs <;> rfl

section

variable {quoting : Bool} {f : Filter} {fs : List Filter}

theorem exists_parts_cons
    {d : Draft} (hd : chained quoting (f :: fs) = .ok d)
    (hothers : ∀ us others, rest quoting fs = .ok others →
      ∃ ps, (parts quoting false fs).onto us = (.ok ps, us ++ boundUntilFailure fs) ∧
        restJoined ps = others.sql (us.length + 1)) (first : Bool) (vs : List Value) :
    ∃ es ps, (parts quoting first (f :: fs)).onto vs =
        (.ok ((if first then es else .text (f.connective.word ++ " ") :: es) :: ps),
          vs ++ boundUntilFailure (f :: fs)) ∧
      joined es ++ restJoined ps = d.sql (vs.length + 1) := by
  obtain ⟨condition, hcondition, hd⟩ := Outcome.bind_eq_ok.mp hd
  obtain ⟨others, hrest, hd⟩ := Outcome.bind_eq_ok.mp hd
  obtain rfl := Outcome.pure_eq_ok.mp hd
  obtain ⟨es, hes, htext⟩ := f.exists_emitted hcondition vs
  obtain ⟨ps, hps, hjoined⟩ := hothers (vs ++ f.bound) others hrest
  rw [boundUntilFailure_of_ok hcondition, ← List.append_assoc]
  refine ⟨es, ps, parts_cons_eq_ok.mpr ⟨es, _, ps, hes, hps, rfl⟩, ?_⟩
  rw [htext, hjoined, Draft.sql_append, (Filter.condition_eq_ok hcondition).2,
    List.length_append, Nat.add_right_comm]

/-- Where a filter cannot be written, its values are not bound and those before it stay. -/
theorem parts_cons_of_error
    {failure : Failure} (hfailure : chained quoting (f :: fs) = .error failure)
    (hothers : ∀ us, rest quoting fs = .error failure →
      (parts quoting false fs).onto us = (.error failure, us ++ boundUntilFailure fs))
    (first : Bool) (vs : List Value) :
    (parts quoting first (f :: fs)).onto vs =
      (.error failure, vs ++ boundUntilFailure (f :: fs)) := by
  rw [parts]
  rcases Outcome.bind_eq_error.mp hfailure with hcondition | ⟨condition, hcondition, hlater⟩
  · rw [onto_bind_of_error (f.onto_emitted_of_error hcondition vs),
      boundUntilFailure_of_error hcondition, List.append_nil]
  · obtain hrest | ⟨_, -, hpure⟩ := Outcome.bind_eq_error.mp hlater
    · obtain ⟨es, hes, -⟩ := f.exists_emitted hcondition vs
      rw [onto_bind_of_ok hes, onto_bind_of_error (hothers (vs ++ f.bound) hrest),
        boundUntilFailure_of_ok hcondition, List.append_assoc]
    · cases hpure

end

theorem exists_parts
    {quoting : Bool} {fs : List Filter} {d : Draft} (hd : rest quoting fs = .ok d)
    (vs : List Value) :
    ∃ ps, (parts quoting false fs).onto vs = (.ok ps, vs ++ boundUntilFailure fs) ∧
      restJoined ps = d.sql (vs.length + 1) := by
  induction fs generalizing d vs with
  | nil =>
      obtain rfl := Except.ok.inj hd
      exact ⟨[], by simp [parts, boundUntilFailure], rfl⟩
  | cons f fs ih =>
      rw [rest_cons] at hd
      obtain ⟨chain, hchain, rfl⟩ := Outcome.map_eq_ok.mp hd
      obtain ⟨es, ps, hps, htext⟩ := exists_parts_cons hchain (fun us _ h => ih h us) false vs
      refine ⟨_, hps, ?_⟩
      rw [restJoined_cons, if_neg Bool.false_ne_true, Draft.sql_text, ← htext]
      simp [sql, String.append_assoc]

theorem onto_parts_of_error
    {quoting : Bool} {fs : List Filter} {failure : Failure}
    (hfailure : rest quoting fs = .error failure) (vs : List Value) :
    (parts quoting false fs).onto vs = (.error failure, vs ++ boundUntilFailure fs) := by
  induction fs generalizing vs with
  | nil => cases hfailure
  | cons f fs ih =>
      have hchain : chained quoting (f :: fs) = .error failure := by
        rw [rest_cons] at hfailure
        cases hchain : chained quoting (f :: fs) with
        | error other => rw [hchain] at hfailure; exact hfailure
        | ok chain => rw [hchain] at hfailure; cases hfailure
      exact parts_cons_of_error hchain (fun us h => ih h us) false vs

/-- The clause that is written into a statement under way is the one that a compiled
statement has, with marks from the next number on.  Whether or not it can be written, the
values bound are those of the filters before the first that cannot. -/
theorem onto_emitted (quoting : Bool) (fs : List Filter) (vs : List Value) :
    ((emitted quoting fs).onto vs).1.map joined =
        (whereClause quoting fs).map (Draft.sql (vs.length + 1)) ∧
      ((emitted quoting fs).onto vs).2 = vs ++ boundUntilFailure fs := by
  cases fs with
  | nil => exact ⟨rfl, (List.append_nil vs).symm⟩
  | cons f fs =>
      have hclause : whereClause quoting (f :: fs) =
          (chained quoting (f :: fs)).map (.text " WHERE " :: ·) := by
        rw [whereClause, List.isEmpty_cons, if_neg Bool.false_ne_true]
        cases chained quoting (f :: fs) <;> rfl
      rw [hclause]
      cases hchain : chained quoting (f :: fs) with
      | error failure =>
          have hfailed := parts_cons_of_error hchain
            (fun us h => onto_parts_of_error h us) true vs
          have hemitted : (emitted quoting (f :: fs)).onto vs = (.error failure, _) :=
            onto_bind_of_error hfailed _
          rw [hemitted]
          exact ⟨rfl, rfl⟩
      | ok d =>
          obtain ⟨es, ps, hps, htext⟩ := exists_parts_cons hchain
            (fun us _ h => exists_parts h us) true vs
          rw [emitted_cons_eq_ok.mpr ⟨_, hps, rfl⟩]
          refine ⟨congrArg Except.ok ?_, rfl⟩
          rw [if_pos rfl, joined_cons, joined_spaced_cons, htext]
          rfl

/-! ## Composition -/

/-- Filters are written into a statement that has values as into one that has none: the same
filters fail, the same values come to those that are there, and every mark is their number
further on.  Filters that can be written are written in two goes, where the text of the
whole is that of the first ones, the connective of the next filter, and what the others
have after `WHERE`. -/
theorem emitted_composes (quoting : Bool) (vs : List Value) :
    (∀ fs, (emitted quoting fs).onto vs =
      (((emitted quoting fs).onto []).1.map (List.map (shifted vs.length)),
        vs ++ ((emitted quoting fs).onto []).2)) ∧
    ∀ fs g gs whole after, fs ≠ [] →
      (emitted quoting (fs ++ g :: gs)).onto vs = (.ok whole, after) →
      ∃ head between tail body,
        (emitted quoting fs).onto vs = (.ok head, between) ∧
        (emitted quoting (g :: gs)).onto between = (.ok tail, after) ∧
        joined tail = " WHERE " ++ body ∧
        joined whole = joined head ++ " " ++ g.connective.word ++ " " ++ body := by
  constructor
  · intro fs
    have hframed := framed_emitted vs quoting fs []
    rwa [List.append_nil] at hframed
  · intro fs g gs whole after hfs hwhole
    obtain ⟨head, between, body, hhead, htail, rfl⟩ := exists_emitted_append hfs hwhole
    refine ⟨head, between, _, joined body, hhead, htail, joined_cons _ _, ?_⟩
    rw [joined_append, joined_cons, joined_cons]
    simp [sql, String.append_assoc]

/-- A list, a name that looks like a mark, and a value that is written out. -/
theorem emitted_composes_list :
    let first : Filter := ⟨.and, "a", .isIn, .tuple [.int 1, .int 2]⟩
    let second : Filter := ⟨.or, "b$1", .eq, .text "$2"⟩
    let third : Filter := ⟨.and, "c", .is, .null⟩
    ∃ whole head between tail body,
      (emitted true [first, second, third]).onto [.bool true] =
        (.ok whole, [.bool true, .int 1, .int 2, .text "$2"]) ∧
      joined whole = " WHERE \"a\" IN ($2, $3) OR \"b$1\" = $4 AND \"c\" IS NULL" ∧
      (emitted true [first]).onto [.bool true] = (.ok head, between) ∧
      (emitted true [second, third]).onto between =
        (.ok tail, [.bool true, .int 1, .int 2, .text "$2"]) ∧
      joined tail = " WHERE " ++ body ∧
      joined whole = joined head ++ " " ++ "OR" ++ " " ++ body := by
  intro first second third
  have hwhole : (emitted true [⟨.and, "a", .isIn, .tuple [.int 1, .int 2]⟩,
      ⟨.or, "b$1", .eq, .text "$2"⟩, ⟨.and, "c", .is, .null⟩]).onto [.bool true] =
      (.ok [.text " WHERE ", .text "\"a\" IN ", .text "(", .mark 2, .text ", ", .mark 3,
          .text ")", .text " ", .text "OR ", .text "\"b$1\" = ", .mark 4, .text " ",
          .text "AND ", .text "\"c\" IS NULL"],
        [.bool true, .int 1, .int 2, .text "$2"]) := rfl
  obtain ⟨head, between, tail, body, hhead, htail, hbody, hjoined⟩ :=
    (emitted_composes true [.bool true]).2 [first] second [third] _ _
      (List.cons_ne_nil first []) hwhole
  exact ⟨_, head, between, tail, body, hwhole, by decide, hhead, htail, hbody, hjoined⟩

end Filters

end SqlBuilder
