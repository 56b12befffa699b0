import SqlBuilder.Proofs.Engine.Transaction

/-!
# What comes out of a transaction that fails

When the work in a transaction fails, its connection is rolled back and given
back.  The failure of the work comes out, unless the rollback fails as well: then
that failure comes out in its place.  The connection is given back either way.
-/

namespace SqlBuilder.EngineWorld

variable {w opened worked : EngineWorld} {leases scopes : List Lease} {l : Lease}
  {replies : List Reply} {failure : Failure}

/-- The failure that comes out when the rollback after `failure` goes as the drivers have it. -/
def surfacing (worked : EngineWorld) (failure : Failure) : Failure :=
  (Host.next worked.host.script.rollbacks).1.getD failure

theorem surfacing_eq_iff :
    worked.surfacing failure = failure ↔
      ∀ worse, (Host.next worked.host.script.rollbacks).1 = some worse → worse = failure := by
  unfold surfacing
  cases (Host.next worked.host.script.rollbacks).1 <;> simp

/-- Work that fails is rolled back once and its connection is given back.  What comes out is its
failure, if and only if the rollback has no failure of another kind. -/
theorem transaction_failed
    (hw : w.Reachable leases) (hscopes : scopes ⊆ leases) (d : Database) (steps : List Step)
    (hstart : engineAdapter.start .root w = (.ok (.lent l), opened))
    (hfailed : d.callback engineAdapter .root (scopes.map .lent) steps (.lent l) opened =
      ((replies, some failure), worked)) :
    ∃ sends ended,
      engineAdapter.transaction .root
        (d.callback engineAdapter .root (scopes.map .lent) steps) [] w =
          ((replies, some (worked.surfacing failure)), ended) ∧
      Course leases l sends (some failure) w opened ended ∧
      (worked.surfacing failure = failure ↔
        ∀ worse, (Host.next worked.host.script.rollbacks).1 = some worse → worse = failure) := by
  rcases start_spec hw.holds with ⟨_, _, hrefused, _⟩ | ⟨k, v, hstarted, hstarts⟩
  · cases hstart.symm.trans hrefused
  · cases hstart.symm.trans hstarted
    obtain ⟨replies', failure', worked', sends, _, hplain, hworked, hreached⟩ :=
      callback_spec (hw.started hstart) hscopes d steps
    cases hfailed.symm.trans hplain
    exact ⟨sends, _, Adapter.transaction_opened rfl hstart hfailed,
      course_of_stages (some failure) hw.holds hstarts hworked hreached, surfacing_eq_iff⟩

/-- An adapter whose driver loses the connection before the first rollback. -/
def losing : EngineWorld :=
  ofBlueprint ⟨"postgresql", false⟩ { statements := [], rollbacks := [some "lost"] }

theorem transaction_failed_losing :
    let d : Database := ⟨⟨[]⟩, true⟩
    let work := d.callback engineAdapter .root [] [.raise "stop"]
    losing.Reachable [] ∧ ([] : List Lease) ⊆ [] ∧
    ∃ l replies opened worked sends ended,
      engineAdapter.start .root losing = (.ok (.lent l), opened) ∧
      work (.lent l) opened = ((replies, some (.raised "stop")), worked) ∧
      engineAdapter.transaction .root work [] losing =
        ((replies, some (.driver "lost")), ended) ∧
      Course [] l sends (some (.raised "stop")) losing opened ended := by
  intro d work
  have hw : losing.Reachable [] := .ofBlueprint _ _
  have hscopes : ([] : List Lease) ⊆ [] := List.Subset.refl []
  have hstart : engineAdapter.start .root losing =
      (.ok (.lent ⟨0, 0, false⟩), (engineAdapter.start .root losing).2) := rfl
  obtain ⟨sends, ended, hended, hcourse, _⟩ :=
    transaction_failed hw hscopes d [.raise "stop"] hstart rfl
  exact ⟨hw, hscopes, _, _, _, _, sends, ended, hstart, rfl, hended, hcourse⟩

end SqlBuilder.EngineWorld
