import Mathlib.Data.List.Permutation
import SqlBuilder.Proofs.Builder.Reachable
import SqlBuilder.Proofs.Builder.Words
import SqlBuilder.Session.Recorder

/-!
# Calls in another order

Every call that changes a builder works on one part of it, and how it goes
depends on its arguments, the table and that part alone.  Seen from one part, a
run of such calls is the run of those that work on it, however the others come
in between.  So calls may change places as long as those that work on the same
part do not.
-/

namespace SqlBuilder

/-- The parts of a builder that calls work on.  What is written, how, and whether it is returned
are one part. -/
inductive Part
  | projection
  | written
  | filters
  | joins
  | limit
  | offset
  deriving DecidableEq

/-- The part that a word asks to change. -/
def Part.ofWord? : String → Option Part
  | "select" => some .projection
  | "insert" | "update" | "delete" => some .written
  | "where" | "or_where" => some .filters
  | "inner_join" | "left_join" | "right_join" | "full_join" => some .joins
  | "limit" => some .limit
  | "offset" => some .offset
  | _ => none

def Change.part : Change → Part
  | select _ => .projection
  | insert _ | update _ | delete => .written
  | filter .. => .filters
  | join .. => .joins
  | limit _ => .limit
  | offset _ => .offset

theorem Change.ofWord?_word (c : Change) : Part.ofWord? c.word = some c.part := by
  cases c with
  | join kind => cases kind <;> rfl
  | filter connective => cases connective <;> rfl
  | select | insert | update | delete | limit | offset => rfl

/-- The part that a call asks to change, whether or not its arguments are fit for it. -/
def Call.part? (c : Call) : Option Part := Part.ofWord? c.word

/-- Those of the calls that work on a part. -/
def Part.among (p : Part) (calls : List Call) : List Call := calls.filter (·.part? = some p)

theorem Request.exists_change
    {word : String} {args : List Value} {named : Fields} {r : Request} {p : Part}
    (hr : ofWord word args named = .ok r) (hp : Part.ofWord? word = some p) :
    ∃ c : Change, r = .change c ∧ c.part = p := by
  obtain rfl := word_of_ofWord hr
  cases r with
  | change c => exact ⟨c, rfl, Option.some.inj (c.ofWord?_word.symm.trans hp)⟩
  | compiled | snapshot | tableName | execute | first | rows =>
      simp [word, Part.ofWord?] at hp

namespace Builder

/-- A builder of the same table with one part of a builder and nothing else in it. -/
def only (p : Part) (b : Builder) : Builder :=
  match p with
  | .projection => { table := b.table, projection := b.projection }
  | .written =>
    { table := b.table, operation := b.operation, payload := b.payload, returning := b.returning }
  | .filters => { table := b.table, filters := b.filters }
  | .joins => { table := b.table, joins := b.joins }
  | .limit => { table := b.table, limit := b.limit }
  | .offset => { table := b.table, offset := b.offset }

theorem eq_of_only {b b' : Builder} (hsame : ∀ p, b.only p = b'.only p) : b = b' := by
  have hprojection := hsame .projection
  have hwritten := hsame .written
  have hfilters := hsame .filters
  have hjoins := hsame .joins
  have hlimit := hsame .limit
  have hoffset := hsame .offset
  simp only [only, mk.injEq] at hprojection hwritten hfilters hjoins hlimit hoffset
  cases b
  cases b'
  simp_all only [and_self]

/-! ## One change -/

theorem addEntries_only
    (connective : Connective) (entries : List (Value × Value)) (b : Builder) :
    addEntries connective entries (b.only .filters) =
      ⟨(addEntries connective entries b).builder.only .filters,
        (addEntries connective entries b).refusal⟩ := by
  induction entries generalizing b with
  | nil => rfl
  | cons entry entries ih =>
      obtain ⟨column, v⟩ := entry
      unfold addEntries
      cases Conditions.ofEntry connective column v with
      | error failure => rfl
      | ok fs => exact ih { b with filters := b.filters ++ fs }

theorem write_only (operation : Operation) (payload : Outcome Value) (b : Builder) :
    (b.only .written).write operation payload =
      ⟨(b.write operation payload).builder.only .written, (b.write operation payload).refusal⟩ := by
  cases payload <;> rfl

/-- A change goes as it would if its part were all there is of the builder. -/
theorem change_only (b : Builder) (c : Change) :
    (b.only c.part).change c = ⟨(b.change c).builder.only c.part, (b.change c).refusal⟩ := by
  cases c with
  | select columns => rfl
  | insert data => exact write_only .insert (insertedPayload b.table data) b
  | update data => exact write_only .update (updatedPayload b.table data) b
  | delete => rfl
  | join kind table left operator right =>
      simp only [change, Change.part]
      cases Join.on kind table left operator right <;> rfl
  | filter connective conditions named =>
      simp only [change, Change.part]
      cases Conditions.entries conditions named with
      | error failure => rfl
      | ok entries => exact addEntries_only connective entries b
  | limit n =>
      have htable : (b.only .limit).table = b.table := rfl
      simp only [change, Change.part, htable]
      cases count b.table "limit" n <;> rfl
  | offset n =>
      have htable : (b.only .offset).table = b.table := rfl
      simp only [change, Change.part, htable]
      cases count b.table "offset" n <;> rfl

/-- A change leaves the other parts as they are, even when it is refused. -/
theorem Step.only_eq
    {b b' : Builder} {c : Change} (hstep : b.Step c b') {p : Part} (hp : c.part ≠ p) :
    b'.only p = b.only p := by
  cases hstep with
  | refused => rfl
  | selected =>
      cases p with
      | projection => exact absurd rfl hp
      | written | filters | joins | limit | offset => rfl
  | inserted _ | insertRefused | updated _ | updateRefused | deleted =>
      cases p with
      | written => exact absurd rfl hp
      | projection | filters | joins | limit | offset => rfl
  | joined _ =>
      cases p with
      | joins => exact absurd rfl hp
      | projection | written | filters | limit | offset => rfl
  | filtered _ =>
      cases p with
      | filters => exact absurd rfl hp
      | projection | written | joins | limit | offset => rfl
  | limited =>
      cases p with
      | limit => exact absurd rfl hp
      | projection | written | filters | joins | offset => rfl
  | skipped =>
      cases p with
      | offset => exact absurd rfl hp
      | projection | written | filters | joins | limit => rfl

/-! ## One call -/

theorem after_only
    (b : Builder) {c : Call} {p : Part} (hc : c.part? = some p) :
    (b.only p).after c = (b.after c).only p := by
  unfold Builder.after
  cases hr : Request.ofWord c.word c.args c.named with
  | error failure => rfl
  | ok r =>
      obtain ⟨change, rfl, rfl⟩ := Request.exists_change hr hc
      simp only [change_only]

theorem only_after_of_ne
    (b : Builder) {c : Call} {p : Part} (hfluent : c.part?.isSome) (hp : c.part? ≠ some p) :
    (b.after c).only p = b.only p := by
  obtain ⟨other, hother⟩ := Option.isSome_iff_exists.mp hfluent
  unfold Builder.after
  cases hr : Request.ofWord c.word c.args c.named with
  | error failure => rfl
  | ok r =>
      obtain ⟨change, rfl, rfl⟩ := Request.exists_change hr hother
      exact (b.step_change change).only_eq fun hsame => hp (hother.trans (congrArg some hsame))

section

variable {World Handle : Type} (A : Adapter World Handle) (quoting : Bool) (h : Handle)

/-- A call is answered and works on its part as if that were all there is of the builder, and
nothing is sent. -/
theorem call_only
    (b : Builder) (w : World) {c : Call} {p : Part} (hc : c.part? = some p) :
    b.call A quoting h w c = (((b.call A quoting h w c).1.1, b.after c), w) ∧
    (b.only p).call A quoting h w c = (((b.call A quoting h w c).1.1, (b.after c).only p), w) := by
  unfold Builder.call Builder.after
  cases hr : Request.ofWord c.word c.args c.named with
  | error failure => exact ⟨rfl, rfl⟩
  | ok r =>
      obtain ⟨change, rfl, rfl⟩ := Request.exists_change hr hc
      simp only [Builder.request, change_only]
      cases (b.change change).refusal <;> exact ⟨rfl, rfl⟩

/-! ## A run of calls -/

/-- The builder after calls, however they are answered. -/
def afterAll (b : Builder) (calls : List Call) : Builder := calls.foldl Builder.after b

/-- The calls that work on a part with their answers, in order. -/
def answersOn (p : Part) (calls : List Call) (turns : List (Outcome Answer × Builder)) :
    List (Call × Outcome Answer) :=
  (calls.zip (turns.map (·.1))).filter (·.1.part? = some p)

theorem only_afterAll
    {calls : List Call} (hfluent : ∀ c ∈ calls, c.part?.isSome) (p : Part) (b : Builder) :
    (b.afterAll calls).only p = (b.only p).afterAll (p.among calls) := by
  induction calls generalizing b with
  | nil => rfl
  | cons c calls ih =>
      obtain ⟨hc, hcalls⟩ := List.forall_mem_cons.mp hfluent
      have hrest := ih hcalls (b.after c)
      unfold afterAll Part.among at hrest ⊢
      rw [List.foldl_cons, hrest]
      by_cases hp : c.part? = some p
      · rw [← after_only b hp]
        simp [hp]
      · rw [only_after_of_ne b hc hp]
        simp [hp]

/-- Seen from one part, a conversation is the one made of the calls that work on it. -/
theorem answersOn_converse
    {calls : List Call} (hfluent : ∀ c ∈ calls, c.part?.isSome) (p : Part) (b : Builder)
    (w : World) :
    answersOn p calls (b.converse A quoting h w calls).1 =
      (p.among calls).zip (((b.only p).converse A quoting h w (p.among calls)).1.map (·.1)) := by
  induction calls generalizing b with
  | nil => rfl
  | cons c calls ih =>
      obtain ⟨hc, hcalls⟩ := List.forall_mem_cons.mp hfluent
      obtain ⟨part, hpart⟩ := Option.isSome_iff_exists.mp hc
      have hrest := ih hcalls (b.after c)
      have hcall := (call_only A quoting h b w hpart).1
      generalize (b.call A quoting h w c).1.1 = answer at hcall
      unfold answersOn Part.among at hrest ⊢
      by_cases hp : c.part? = some p
      · have hown := (call_only A quoting h b w hp).2
        rw [hcall] at hown
        simp [converse, hcall, hown, hp, hrest]
      · rw [only_after_of_ne b hc hp] at hrest
        simp [converse, hcall, hp, hrest]

theorem converse_append
    {calls : List Call} (hfluent : ∀ c ∈ calls, c.part?.isSome) (later : List Call) (b : Builder)
    (w : World) :
    b.converse A quoting h w (calls ++ later) =
      ((b.converse A quoting h w calls).1 ++ ((b.afterAll calls).converse A quoting h w later).1,
        ((b.afterAll calls).converse A quoting h w later).2) := by
  induction calls generalizing b with
  | nil => rfl
  | cons c calls ih =>
      obtain ⟨hc, hcalls⟩ := List.forall_mem_cons.mp hfluent
      obtain ⟨part, hpart⟩ := Option.isSome_iff_exists.mp hc
      have hcall := (call_only A quoting h b w hpart).1
      generalize (b.call A quoting h w c).1.1 = answer at hcall
      simp only [List.cons_append, converse, hcall, ih hcalls, afterAll, List.foldl_cons]

/-- Two conversations in which the calls that work on a part come in the same order, for every
part, answer each call alike, whether it is carried out or refused.  They leave the same builder
behind, which gives the same statement to whoever asks for it, or is refused alike. -/
theorem converse_reordered
    {calls others : List Call} (hcalls : ∀ c ∈ calls, c.part?.isSome)
    (hothers : ∀ c ∈ others, c.part?.isSome) (hsame : ∀ p : Part, p.among calls = p.among others)
    (b : Builder) (w : World) :
    (∀ p, answersOn p calls (b.converse A quoting h w calls).1 =
      answersOn p others (b.converse A quoting h w others).1) ∧
    ∃ final : Builder,
      b.converse A quoting h w (calls ++ [⟨"to_sql", [], []⟩]) =
        ((b.converse A quoting h w calls).1 ++ [((final.compile quoting).map .compiled, final)],
          w) ∧
      b.converse A quoting h w (others ++ [⟨"to_sql", [], []⟩]) =
        ((b.converse A quoting h w others).1 ++ [((final.compile quoting).map .compiled, final)],
          w) := by
  have hafter : b.afterAll calls = b.afterAll others := by
    refine eq_of_only fun p => ?_
    rw [only_afterAll hcalls, only_afterAll hothers, hsame]
  refine ⟨fun p => ?_, b.afterAll calls, ?_, ?_⟩
  · rw [answersOn_converse A quoting h hcalls, answersOn_converse A quoting h hothers, hsame]
  · rw [converse_append A quoting h hcalls]
    rfl
  · rw [converse_append A quoting h hothers, ← hafter]
    rfl

end

/-- Refused calls among them: a partly added mapping, a count, a write that has become the
operation, and one with an argument too many. -/
theorem converse_reordered_refused :
    let a : Value := .text "a"
    let calls : List Call :=
      [⟨"insert", [.dict [(a, .int 1)]], []⟩, ⟨"where", [.dict [(a, .int 2), (.null, .int 3)]], []⟩,
        ⟨"limit", [.int (-1)], []⟩, ⟨"update", [.list [a]], []⟩, ⟨"delete", [a], []⟩,
        ⟨"or_where", [], [("b", .null)]⟩, ⟨"select", [a], []⟩]
    let others : List Call :=
      [⟨"select", [a], []⟩, ⟨"where", [.dict [(a, .int 2), (.null, .int 3)]], []⟩,
        ⟨"or_where", [], [("b", .null)]⟩, ⟨"insert", [.dict [(a, .int 1)]], []⟩,
        ⟨"update", [.list [a]], []⟩, ⟨"limit", [.int (-1)], []⟩, ⟨"delete", [a], []⟩]
    (∀ c ∈ calls, c.part?.isSome) ∧ (∀ c ∈ others, c.part?.isSome) ∧
      (∀ p : Part, p.among calls = p.among others) ∧
      ((({ table := .text "t" } : Builder).converse recorder true false []
        (others ++ [⟨"to_sql", [], []⟩])).1.map (·.1)).getLast? =
      some (.ok (.compiled
        { sql := "UPDATE \"t\" SET \"a\" = $1 WHERE \"a\" = $2 OR \"b\" IS NULL RETURNING \"a\""
          parameters := [.int 1, .int 2] })) := by
  intro a calls others
  have hcalls : ∀ c ∈ calls, c.part?.isSome := by simp [calls, Call.part?, Part.ofWord?]
  have hothers : ∀ c ∈ others, c.part?.isSome := by simp [others, Call.part?, Part.ofWord?]
  have hsame : ∀ p : Part, p.among calls = p.among others := by
    intro p
    cases p <;> rfl
  refine ⟨hcalls, hothers, hsame, ?_⟩
  obtain ⟨-, final, hfinal, hother⟩ :=
    converse_reordered recorder true false hcalls hothers hsame { table := .text "t" } []
  have hlast : ((({ table := .text "t" } : Builder).converse recorder true false []
      (calls ++ [⟨"to_sql", [], []⟩])).1.map (·.1)).getLast? =
      some ((final.compile true).map .compiled) := by
    rw [hfinal]
    simp
  rw [hother]
  simp only [List.map_append, List.map_singleton, List.getLast?_concat]
  rw [← hlast]
  cbv

end Builder

end SqlBuilder
