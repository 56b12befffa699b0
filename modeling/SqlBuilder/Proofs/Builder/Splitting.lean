import Mathlib.Data.List.Forall2
import SqlBuilder.Builder.Change

/-!
# Conditions column by column

A call with conditions works through its columns in order, so it is the same as
one call for the first of them and, unless that is refused, another for the rest.
A column either adds all of its clauses or is refused and adds none: when a call is
refused, what the columns before the one at fault add by themselves is all that
has changed.
-/

namespace SqlBuilder

/-- A change and then another, unless the first was refused. -/
def Changed.andThen (changed : Changed) (next : Builder → Changed) : Changed :=
  match changed.refusal with
  | none => next changed.builder
  | some _ => changed

@[simp] theorem Changed.andThen_accepted (b : Builder) (next : Builder → Changed) :
    andThen ⟨b, none⟩ next = next b := rfl

@[simp] theorem Changed.andThen_refused (b : Builder) (failure : Failure) (next : Builder → Changed) :
    andThen ⟨b, some failure⟩ next = ⟨b, some failure⟩ := rfl

namespace Builder

/-- The call that adds the conditions of a mapping. -/
def addMapping (connective : Connective) (entries : List (Value × Value)) (b : Builder) : Changed :=
  b.change (.filter connective (.dict entries) [])

/-- A column with a value adds these clauses by itself, whatever the builder. -/
def AddsAlone (connective : Connective) (entry : Value × Value) (clauses : List Filter) : Prop :=
  ∀ b : Builder,
    b.addMapping connective [entry] = ⟨{ b with filters := b.filters ++ clauses }, none⟩

/-- A column with a value is refused by itself, and leaves every builder as it is. -/
def RefusedAlone (connective : Connective) (entry : Value × Value) (failure : Failure) : Prop :=
  ∀ b : Builder, b.addMapping connective [entry] = ⟨b, some failure⟩

theorem addEntries_append
    (connective : Connective) (first second : List (Value × Value)) (b : Builder) :
    addEntries connective (first ++ second) b =
      (addEntries connective first b).andThen (addEntries connective second) := by
  induction first generalizing b with
  | nil => rfl
  | cons entry first ih =>
      obtain ⟨column, v⟩ := entry
      rw [List.cons_append, addEntries, addEntries]
      cases Conditions.ofEntry connective column v with
      | ok clauses => exact ih { b with filters := b.filters ++ clauses }
      | error failure => rfl

theorem alone_of_ofEntry (connective : Connective) (entry : Value × Value) :
    (∀ clauses, Conditions.ofEntry connective entry.1 entry.2 = .ok clauses →
        AddsAlone connective entry clauses) ∧
      ∀ failure, Conditions.ofEntry connective entry.1 entry.2 = .error failure →
        RefusedAlone connective entry failure := by
  obtain ⟨column, v⟩ := entry
  have halone : ∀ b : Builder, b.addMapping connective [(column, v)] =
      addEntries connective [(column, v)] b := fun _ => rfl
  constructor
  · intro clauses houtcome b
    rw [halone, addEntries, houtcome]
    rfl
  · intro failure houtcome b
    rw [halone, addEntries, houtcome]
    rfl

/-- Columns are worked through up to the first that is refused. -/
theorem exists_course
    (connective : Connective) (entries : List (Value × Value)) (b : Builder) :
    ∃ done groups, List.Forall₂ (AddsAlone connective) done groups ∧
      (addEntries connective entries b).builder =
        { b with filters := b.filters ++ groups.flatten } ∧
      ((addEntries connective entries b).refusal = none ∧ entries = done ∨
        ∃ entry later failure, entries = done ++ entry :: later ∧
          RefusedAlone connective entry failure ∧
          (addEntries connective entries b).refusal = some failure) := by
  induction entries generalizing b with
  | nil => exact ⟨[], [], .nil, by simp [addEntries], .inl ⟨rfl, rfl⟩⟩
  | cons entry entries ih =>
      obtain ⟨hadds, hrefused⟩ := alone_of_ofEntry connective entry
      unfold addEntries
      cases houtcome : Conditions.ofEntry connective entry.1 entry.2 with
      | error failure =>
          exact ⟨[], [], .nil, by simp [unchanged],
            .inr ⟨entry, entries, failure, rfl, hrefused failure houtcome, rfl⟩⟩
      | ok clauses =>
          obtain ⟨done, groups, hdone, hbuilder, hend⟩ :=
            ih { b with filters := b.filters ++ clauses }
          refine ⟨entry :: done, clauses :: groups, .cons (hadds clauses houtcome) hdone, ?_, ?_⟩
          · simpa using hbuilder
          · rcases hend with ⟨haccepted, rfl⟩ | ⟨other, later, failure, rfl, hother, hfailure⟩
            · exact .inl ⟨haccepted, rfl⟩
            · exact .inr ⟨other, later, failure, rfl, hother, hfailure⟩

/-- Conditions may be split over two calls, of which the second is made unless the first is refused:
builder and refusal come out the same.  Of any conditions that can be read, those of the columns
before the first at fault are added, each with all clauses that it adds by itself, and nothing else
of the builder changes; a column at fault is refused as it is by itself. -/
theorem addMapping_append
    (b : Builder) (connective : Connective) (first second : List (Value × Value)) :
    b.addMapping connective (first ++ second) =
        (b.addMapping connective first).andThen (addMapping connective second) ∧
      ∀ conditions named entries, Conditions.entries conditions named = .ok entries →
        ∃ done groups, List.Forall₂ (AddsAlone connective) done groups ∧
          (b.change (.filter connective conditions named)).builder =
            { b with filters := b.filters ++ groups.flatten } ∧
          ((b.change (.filter connective conditions named)).refusal = none ∧ entries = done ∨
            ∃ entry later failure, entries = done ++ entry :: later ∧
              RefusedAlone connective entry failure ∧
              (b.change (.filter connective conditions named)).refusal = some failure) := by
  constructor
  · exact addEntries_append connective first second b
  · intro conditions named entries hentries
    have hchange : b.change (.filter connective conditions named) =
        addEntries connective entries b := by
      unfold change
      simp only [hentries]
    rw [hchange]
    exact exists_course connective entries b

/-- The second of three columns is refused for one of its two keys: the first column is added, and
neither the other key nor the third column is. -/
theorem addMapping_append_partial :
    let b : Builder := { table := .text "t" }
    let operators : Value := .dict [(.text "in", .list [.int 1]), (.text "not_in", .int 5)]
    let entries : List (Value × Value) :=
      [(.text "a", .int 1), (.text "b", operators), (.text "c", .int 2)]
    Conditions.entries (.dict entries) [] = .ok entries ∧
      ∃ (groups : List (List Filter)) (entry : Value × Value) (failure : Failure),
        (b.addMapping .and entries).builder = { b with filters := groups.flatten } ∧
        groups.flatten = [⟨.and, "a", .eq, .int 1⟩] ∧ entry ∈ entries ∧
        RefusedAlone .and entry failure ∧ (b.addMapping .and entries).refusal = some failure := by
  intro b operators entries
  have hentries : Conditions.entries (.dict entries) [] = .ok entries := rfl
  have hrun : ∃ failure, b.addMapping .and entries =
      ⟨{ b with filters := [⟨.and, "a", .eq, .int 1⟩] }, some failure⟩ := by
    simp [b, entries, operators, addMapping, change, Conditions.entries, addEntries, unchanged,
      Conditions.ofEntry, Conditions.ofOperators, Conditions.given, Conditions.usualKey, putEntry,
      Conditions.known, FilterOperator.keys, lookup?, Value.equals, Conditions.comparison,
      Value.text?, Value.listed?, Outcome.reject, Filter.on, Validation.text, Checked.within, Checked.map,
      Checked.orInvalid, bind, Except.bind, Except.map]
  obtain ⟨failure, hrun⟩ := hrun
  obtain ⟨_, groups, _, hbuilder, hend⟩ :=
    (addMapping_append b .and [] entries).2 (.dict entries) [] entries hentries
  have hchange : b.change (.filter .and (.dict entries) []) = _ := hrun
  rw [hchange] at hbuilder hend
  have hadded : [⟨.and, "a", .eq, .int 1⟩] = groups.flatten := congrArg Builder.filters hbuilder
  rcases hend with ⟨haccepted, _⟩ | ⟨entry, _, _, hsplit, hrefused, hfailure⟩
  · exact absurd haccepted (by simp)
  · obtain rfl := Option.some.inj hfailure
    refine ⟨hentries, groups, entry, failure, ?_, hadded.symm, ?_, hrefused, ?_⟩
    · rw [hrun, ← hadded]
    · rw [hsplit]
      simp
    · rw [hrun]

end Builder

end SqlBuilder
