import SqlBuilder.Builder.Request
import SqlBuilder.Proofs.Outcome

/-!
# The words of requests

Every request has one word that asks for it.  Whatever arguments a word is
given, it is refused or stands for a request whose word it is.
-/

namespace SqlBuilder

def Change.word : Change → String
  | select _ => "select"
  | insert _ => "insert"
  | update _ => "update"
  | delete => "delete"
  | join .inner .. => "inner_join"
  | join .left .. => "left_join"
  | join .right .. => "right_join"
  | join .full .. => "full_join"
  | filter .and .. => "where"
  | filter .or .. => "or_where"
  | limit _ => "limit"
  | offset _ => "offset"

namespace Request

/-- The word that asks for a request. -/
def word : Request → String
  | change c => c.word
  | compiled => "to_sql"
  | snapshot => "state"
  | tableName => "table"
  | execute => "execute"
  | first => "first"
  | rows => "iter"

variable {args : List Value} {named : Fields} {r : Request}

theorem plain_eq_ok
    {asked : Request} :
    plain asked args named = .ok r ↔ r = asked ∧ args = [] ∧ named = [] := by
  constructor
  · intro hr
    unfold plain bind at hr
    obtain ⟨_, hbind, hr⟩ := Outcome.bind_eq_ok.mp hr
    split at hbind
    next => simp at hbind
    next hargs =>
      obtain ⟨_, hnamed, _⟩ := Outcome.bind_eq_ok.mp hbind
      unfold bindNamed at hnamed
      split at hnamed
      next hall =>
        have hempty : args = [] := by simpa using hargs
        have hunnamed : named = [] := by
          cases named with
          | nil => rfl
          | cons argument named => simp at hall
        exact ⟨(Outcome.pure_eq_ok.mp hr).symm, hempty, hunnamed⟩
      next => simp at hnamed
  · rintro ⟨rfl, rfl, rfl⟩
    rfl

theorem single_eq_ok
    {parameter : String} {make : Value → Change}
    (hr : single parameter make args named = .ok r) : ∃ v, r = .change (make v) := by
  unfold single at hr
  obtain ⟨vs, _, hr⟩ := Outcome.bind_eq_ok.mp hr
  split at hr
  next v _ => exact ⟨v, (Outcome.pure_eq_ok.mp hr).symm⟩
  next => simp at hr

theorem join_eq_ok
    {kind : JoinKind} (hr : join kind args named = .ok r) :
    ∃ table left operator right, r = .change (.join kind table left operator right) := by
  unfold join at hr
  obtain ⟨vs, _, hr⟩ := Outcome.bind_eq_ok.mp hr
  split at hr
  next table left operator right _ =>
    exact ⟨table, left, operator, right, (Outcome.pure_eq_ok.mp hr).symm⟩
  next => simp at hr

theorem filter_eq_ok
    {connective : Connective} (hr : filter connective args named = .ok r) :
    ∃ conditions, r = .change (.filter connective conditions named) := by
  unfold filter at hr
  split at hr
  next => exact ⟨.null, (Except.ok.inj hr).symm⟩
  next conditions => exact ⟨conditions, (Except.ok.inj hr).symm⟩
  next => simp at hr

theorem select_eq_ok
    (hr : select args named = .ok r) : r = .change (.select args) := by
  unfold select at hr
  split at hr
  next => exact (Except.ok.inj hr).symm
  next => simp at hr

/-- A word is the one of the request that it stands for. -/
theorem word_of_ofWord
    {asked : String} (hr : ofWord asked args named = .ok r) : r.word = asked := by
  unfold ofWord at hr
  split at hr
  case h_1 =>
    rw [select_eq_ok hr]
    rfl
  case h_2 | h_3 | h_11 | h_12 =>
    obtain ⟨v, rfl⟩ := single_eq_ok hr
    rfl
  case h_5 | h_6 | h_7 | h_8 =>
    obtain ⟨table, left, operator, right, rfl⟩ := join_eq_ok hr
    rfl
  case h_9 | h_10 =>
    obtain ⟨conditions, rfl⟩ := filter_eq_ok hr
    rfl
  case h_4 | h_13 | h_14 | h_15 =>
    rw [(plain_eq_ok.mp hr).1]
    rfl
  case h_16 | h_17 | h_18 =>
    rw [← Except.ok.inj hr]
    rfl
  case h_19 => simp at hr

end Request

end SqlBuilder
