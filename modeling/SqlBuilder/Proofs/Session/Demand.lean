import SqlBuilder.Proofs.Builder.Reachable
import SqlBuilder.Session.Program

/-!
# What programs ask of an adapter

A program asks for the statements of its queries, for those it sends as they
are, and for as many connections at once as the work through its outer handle
needs.  A limit says what an adapter is ready for, and a program that keeps
within it asks for nothing else.
-/

namespace SqlBuilder

namespace Step

mutual

/-- The tables that builders are asked for, each with the calls made on it. -/
def queries : Step → List (Value × List Call)
  | query table calls => [(table, calls)]
  | attempt step | outer step | enclosing _ step => step.queries
  | closing steps | transaction steps _ => queriesAll steps
  | createTableSql _ | createTables | send _ _ | tables | sameHandle | inTransaction | close
  | raise _ => []

def queriesAll : List Step → List (Value × List Call)
  | [] => []
  | step :: steps => step.queries ++ queriesAll steps

end

mutual

/-- The statements that are sent as they are, with their parameters. -/
def sends : Step → List (Value × Value)
  | send sql parameters => [(sql, parameters)]
  | attempt step | outer step | enclosing _ step => step.sends
  | closing steps | transaction steps _ => sendsAll steps
  | query _ _ | createTableSql _ | createTables | tables | sameHandle | inTransaction | close
  | raise _ => []

def sendsAll : List Step → List (Value × Value)
  | [] => []
  | step :: steps => step.sends ++ sendsAll steps

end

mutual

/-- How many connections a step takes at once, besides that of a transaction
around it: one for each statement and each transaction in a handle that is not
scoped, and those of the work in the transaction. -/
def demand (scopes : List Bool) (isScoped : Bool) : Step → Nat
  | query _ _ | createTables | send _ _ => if isScoped then 0 else 1
  | attempt step => step.demand scopes isScoped
  | outer step => step.demand scopes false
  | enclosing depth step => step.demand scopes (scopes.getD depth false)
  | closing steps => demandAll scopes isScoped steps
  | transaction steps _ =>
    (if isScoped then 0 else 1) + demandAll (true :: scopes) true steps
  | createTableSql _ | tables | sameHandle | inTransaction | close | raise _ => 0

def demandAll (scopes : List Bool) (isScoped : Bool) : List Step → Nat
  | [] => 0
  | step :: steps => max (step.demand scopes isScoped) (demandAll scopes isScoped steps)

end

end Step

/-- What adapters are ready for: the statements they can be sent, and how many
transactions may be open when work goes through the outer handle. -/
structure Limit where
  sends : Value → List Value → Prop
  opens : Nat → Prop

namespace Limit

/-- Anything may be asked for. -/
def unlimited : Limit := ⟨fun _ _ => True, fun _ => True⟩

/-- Whatever the queries of a program lead to can be sent, and so can what it
sends as it is and the statements that create its tables; and there is room for
its demand. -/
structure Admits (limit : Limit) (d : Database) (opened : Nat) (queries : List (Value × List Call))
    (sends : List (Value × Value)) (demand : Nat) : Prop where
  compiled : ∀ q ∈ queries, ∀ b ∈ ({ table := q.1 } : Builder).met q.2, ∀ c,
    b.compile d.quoting = .ok c → limit.sends (.text c.sql) c.parameters
  sent : ∀ s ∈ sends, ∀ parameters, Adapter.parameters s.2 = .ok parameters →
    limit.sends s.1 parameters
  created : ∀ sql, limit.sends (.text sql) []
  room : ∀ n, opened ≤ n → n < opened + demand → limit.opens n

variable {limit : Limit} {d : Database} {opened opened' demand demand' : Nat}
  {queries queries' : List (Value × List Call)} {sends sends' : List (Value × Value)}

theorem admits_unlimited : unlimited.Admits d opened queries sends demand :=
  ⟨fun _ _ _ _ _ _ => trivial, fun _ _ _ _ => trivial, fun _ => trivial, fun _ _ _ => trivial⟩

theorem Admits.mono
    (hlimit : limit.Admits d opened queries sends demand) (hqueries : queries' ⊆ queries)
    (hsends : sends' ⊆ sends) (hopened : opened ≤ opened')
    (hdemand : opened' + demand' ≤ opened + demand) :
    limit.Admits d opened' queries' sends' demand' where
  compiled q hq := hlimit.compiled q (hqueries hq)
  sent s hs := hlimit.sent s (hsends hs)
  created := hlimit.created
  room n hfrom hto := hlimit.room n (Nat.le_trans hopened hfrom) (Nat.lt_of_lt_of_le hto hdemand)

theorem Admits.head
    {step : Step} {steps : List Step} {scopes : List Bool} {isScoped : Bool}
    (hlimit : limit.Admits d opened (Step.queriesAll (step :: steps))
      (Step.sendsAll (step :: steps)) (Step.demandAll scopes isScoped (step :: steps))) :
    limit.Admits d opened step.queries step.sends (step.demand scopes isScoped) := by
  refine hlimit.mono ?_ ?_ (Nat.le_refl _) ?_
  · exact List.subset_append_left _ _
  · exact List.subset_append_left _ _
  · exact Nat.add_le_add_left (Nat.le_max_left _ _) opened

theorem Admits.tail
    {step : Step} {steps : List Step} {scopes : List Bool} {isScoped : Bool}
    (hlimit : limit.Admits d opened (Step.queriesAll (step :: steps))
      (Step.sendsAll (step :: steps)) (Step.demandAll scopes isScoped (step :: steps))) :
    limit.Admits d opened (Step.queriesAll steps) (Step.sendsAll steps)
      (Step.demandAll scopes isScoped steps) := by
  refine hlimit.mono ?_ ?_ (Nat.le_refl _) ?_
  · exact List.subset_append_right _ _
  · exact List.subset_append_right _ _
  · exact Nat.add_le_add_left (Nat.le_max_right _ _) opened

end Limit

end SqlBuilder
