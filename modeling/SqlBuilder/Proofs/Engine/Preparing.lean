import SqlBuilder.Engine.Host
import SqlBuilder.Proofs.Binding.Agreement
import SqlBuilder.Proofs.Outcome
import SqlBuilder.Proofs.Value.Fields

/-!
# What is sent for compiled statements

A compiled statement with parameters is sent with a bind for each of its marks,
and each parameter is under the bind of its number.  Nothing can stand in the way
of that but a structured parameter without JSON text.
-/

namespace SqlBuilder

open Text

namespace Value

/-- A parameter as it is sent: structured ones are JSON text. -/
def bound (v : Value) : Value :=
  if v.isStructured then .text (v.jsonText?.getD "") else v

/-- Whether a parameter can be sent. -/
def IsBindable (v : Value) : Prop :=
  v.isStructured = true → v.jsonText? ≠ none

instance (v : Value) : Decidable v.IsBindable :=
  inferInstanceAs (Decidable (_ → _))

end Value

theorem Binding.numbered_map (f : Value → Value) (n : Nat) (vs : List Value) :
    numbered n (vs.map f) = (numbered n vs).map fun field => (field.1, f field.2) := by
  induction vs generalizing n with
  | nil => rfl
  | cons v vs ih => rw [List.map_cons, numbered, numbered, List.map_cons, ih]

theorem NamedStatement.arguments_eq_ok
    {n : NamedStatement} {parameters : List Value}
    (hbinds : n.binds = (List.range' 1 parameters.length).map Binding.bindName)
    (hvalues : n.values = Binding.numbered 1 parameters)
    (hbindable : ∀ v ∈ parameters, v.IsBindable) :
    n.arguments = .ok (Binding.numbered 1 (parameters.map Value.bound)) := by
  have hnames : n.binds = n.values.map (·.1) := by
    rw [hbinds, hvalues, Binding.names_numbered]
  have hnodup : (n.values.map (·.1)).Nodup := by
    rw [← hnames, hbinds]
    exact Binding.nodup_bindNames 1 _
  have hgiven : ∀ field ∈ n.values, field.2.IsBindable := by
    intro field hfield
    apply hbindable
    rw [← Binding.values_numbered 1 parameters, ← hvalues]
    exact List.mem_map_of_mem hfield
  unfold arguments
  rw [hnames, List.mapM_map, Binding.numbered_map, ← hvalues]
  apply Outcome.mapM_eq_ok_map
  rintro ⟨name, v⟩ hfield
  have hfound := field?_of_mem hnodup hfield
  by_cases hstructured : v.isStructured = true
  · cases htext : v.jsonText? with
    | none => exact absurd htext (hgiven _ hfield hstructured)
    | some text =>
        simp only [Function.comp_apply, Value.bound, hfound, if_pos hstructured, htext,
          Option.getD_some]
        rfl
  · simp only [Function.comp_apply, Value.bound, hfound, if_neg hstructured]

namespace Host

/-- What is sent for a statement: its text with a bind for every mark and each
parameter under the bind of its number, or the statement as it stands if it has
no parameters. -/
def sentFor : (sql : Value) → (parameters : List Value) →
    Value × Option (List (String × Value))
  | .text sql, v :: vs =>
    (.text (String.ofList (renamedMarks false sql.toList)),
      some (Binding.numbered 1 ((v :: vs).map Value.bound)))
  | sql, _ => (sql, none)

theorem prepared_verbatim (sql : Value) : prepared sql [] = .ok (sentFor sql []) := by
  cases sql <;> rfl

theorem prepared_compile
    {b : Builder} (hb : b.Reachable) (hnames : ∀ s, b.snapshot = .ok s → s.HasRegularNames)
    {c : Compiled} (hc : b.compile true = .ok c) (hbindable : ∀ v ∈ c.parameters, v.IsBindable) :
    prepared (.text c.sql) c.parameters = .ok (sentFor (.text c.sql) c.parameters) := by
  obtain ⟨s, hs, hwritten⟩ := Outcome.bind_eq_ok.mp hc
  obtain ⟨ts, hts, hsql, hmarks⟩ :=
    Statement.tokens_of_compile (hnames s hs) (hb.snapshot hs).isWritable hwritten
  obtain ⟨n, hn, hbinds, hvalues, htext⟩ := NamedStatement.ofMarks_tokens hts hsql hmarks
  have harguments := NamedStatement.arguments_eq_ok hbinds hvalues hbindable
  cases hparameters : c.parameters with
  | nil => exact prepared_verbatim _
  | cons v vs =>
      rw [hparameters] at hn harguments
      simp only [prepared, List.isEmpty_cons, Bool.false_eq_true, if_false, hn, htext,
        bind, Except.bind, harguments, sentFor]
      rfl

end Host

end SqlBuilder
