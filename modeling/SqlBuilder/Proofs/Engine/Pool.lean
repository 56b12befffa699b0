import Mathlib.Data.List.Nodup
import Mathlib.Data.List.Perm.Basic
import SqlBuilder.Proofs.Engine.Trace

/-!
# Pools and the connections lent from them

Every connection that was made and not closed is idle in one pool or lent on
one lease, and a pool counts both.  Hence a connection that is lent anew is
none of those lent before, and work on other connections leaves it alone.
-/

namespace SqlBuilder.Host

variable {h h' : Host} {leases leases' : List Lease} {l : Lease} {pool : Nat}

/-- The connections that are idle in some pool. -/
def idle (h : Host) : List Nat :=
  h.pools.flatMap (·.idle)

/-- The connections that are idle, and those lent. -/
def held (h : Host) (leases : List Lease) : List Nat :=
  h.idle ++ leases.map (·.connection)

/-- How many connections of a pool are lent. -/
def lent (h : Host) (pool : Nat) : Nat :=
  (h.poolAt pool).made - (h.poolAt pool).idle.length

/-- The books of a host whose connections are lent on some leases. -/
structure Holds (h : Host) (leases : List Lease) : Prop where
  inUse : ∀ e ∈ h.engines, e.pool < h.pools.length
  counted : ∀ pool, (h.poolAt pool).made =
    (h.poolAt pool).idle.length + leases.countP (·.pool = pool)
  apart : (h.held leases).Nodup
  known : ∀ c ∈ h.held leases, c < h.connections

theorem Holds.lent_eq
    (hh : h.Holds leases) (pool : Nat) :
    h.lent pool = leases.countP (·.pool = pool) := by
  unfold lent
  rw [hh.counted pool]
  omega

/-- The books are kept in engines, pools and the count of connections. -/
theorem Holds.congr
    (hh : h.Holds leases) (hengines : h'.engines = h.engines) (hpools : h'.pools = h.pools)
    (hconnections : h'.connections = h.connections) :
    h'.Holds leases := by
  obtain ⟨inUse, counted, apart, known⟩ := hh
  constructor
  · rw [hengines, hpools]
    exact inUse
  · unfold poolAt
    rw [hpools]
    exact counted
  · unfold held idle
    rw [hpools]
    exact apart
  · unfold held idle
    rw [hpools, hconnections]
    exact known

theorem Holds.of_sends
    {noted : List Event} (hh : h.Holds leases) (hsends : Sends noted h h') :
    h'.Holds leases :=
  hh.congr hsends.engines hsends.pools hsends.connections

theorem Holds.perm
    (hh : h.Holds leases) (hperm : leases.Perm leases') :
    h.Holds leases' := by
  have hheld : (h.held leases).Perm (h.held leases') :=
    (hperm.map Lease.connection).append_left h.idle
  constructor
  · exact hh.inUse
  · intro pool
    rw [hh.counted pool, hperm.countP_eq]
  · exact hheld.nodup_iff.mp hh.apart
  · intro c hc
    exact hh.known c (hheld.mem_iff.mpr hc)

theorem Holds.pool_lt
    (hh : h.Holds leases) (hl : l ∈ leases) :
    l.pool < h.pools.length := by
  by_contra hge
  have hnone : h.poolAt l.pool = default := by
    unfold poolAt
    rw [List.getElem?_eq_none (Nat.le_of_not_lt hge), Option.getD_none]
  have hcounted := hh.counted l.pool
  rw [hnone] at hcounted
  have hlent : 0 < leases.countP (·.pool = l.pool) :=
    List.countP_pos_iff.mpr ⟨l, hl, by simp⟩
  have hzero : (default : Pool).made = 0 := rfl
  omega

theorem Holds.connection_not_mem
    (hh : h.Holds (l :: leases)) :
    l.connection ∉ leases.map (·.connection) := by
  have hleases : ((l :: leases).map (·.connection)).Nodup := hh.apart.of_append_right
  exact (List.nodup_cons.mp hleases).1

theorem Holds.not_lent_of_idle
    (hh : h.Holds leases) {c : Nat} (hc : c ∈ h.idle) (hl : l ∈ leases) :
    l.connection ≠ c := by
  intro hlent
  have hdisjoint := List.disjoint_of_nodup_append hh.apart
  exact hdisjoint hc (hlent ▸ List.mem_map_of_mem hl)

theorem mem_idle_of_poolAt
    {c : Nat} (pool : Nat) (hc : c ∈ (h.poolAt pool).idle) :
    c ∈ h.idle := by
  unfold poolAt at hc
  cases hp : h.pools[pool]? with
  | none =>
      rw [hp] at hc
      cases hc
  | some p =>
      rw [hp] at hc
      exact List.mem_flatMap.mpr ⟨p, List.mem_of_getElem? hp, hc⟩

/-! ## Changing one pool -/

theorem poolAt_setPool
    (hpool : pool < h.pools.length) (p : Pool) (q : Nat) :
    (h.setPool pool p).poolAt q = if q = pool then p else h.poolAt q := by
  unfold poolAt setPool
  by_cases hq : q = pool
  · rw [if_pos hq, hq, List.getElem?_set_self hpool, Option.getD_some]
  · rw [if_neg hq, List.getElem?_set_ne (Ne.symm hq)]

theorem idle_setPool_perm
    (hpool : pool < h.pools.length) (p : Pool) :
    ((h.poolAt pool).idle ++ (h.setPool pool p).idle).Perm (p.idle ++ h.idle) := by
  have hset := List.getD_set_perm_cons h.pools pool p
  have hfound : h.pools[pool]?.getD p = h.poolAt pool := by
    unfold poolAt
    rw [List.getElem?_eq_getElem hpool, Option.getD_some, Option.getD_some]
  rw [hfound] at hset
  exact hset.flatMap_right (·.idle)

/-- A pool may hand connections to leases, take them back, and lose some. -/
theorem Holds.setPool
    (hh : h.Holds leases) (hpool : pool < h.pools.length) {p : Pool}
    (lost : List Nat)
    (hmade : p.made = p.idle.length + leases'.countP (·.pool = pool))
    (hothers : ∀ q, q ≠ pool → leases'.countP (·.pool = q) = leases.countP (·.pool = q))
    (hmoved : (lost ++ (p.idle ++ leases'.map (·.connection))).Perm
      ((h.poolAt pool).idle ++ leases.map (·.connection))) :
    (h.setPool pool p).Holds leases' := by
  -- But for those lost, the change only moves connections about.
  have hheld : (lost ++ (h.setPool pool p).held leases').Perm (h.held leases) := by
    rw [List.perm_iff_count]
    intro c
    have hpools := (idle_setPool_perm hpool p).count_eq c
    have hleases := hmoved.count_eq c
    simp only [held, List.count_append] at hpools hleases ⊢
    omega
  constructor
  · intro e he
    have hlength : (h.setPool pool p).pools.length = h.pools.length := List.length_set
    rw [hlength]
    exact hh.inUse e he
  · intro q
    rw [poolAt_setPool hpool]
    by_cases hq : q = pool
    · rw [if_pos hq, hmade, hq]
    · rw [if_neg hq, hh.counted q, hothers q hq]
  · exact (hheld.nodup_iff.mpr hh.apart).of_append_right
  · intro c hc
    exact hh.known c (hheld.mem_iff.mp (List.mem_append_right lost hc))

theorem Holds.lend
    (hh : h.Holds leases) (hpool : pool < h.pools.length) {c : Nat} {idle : List Nat}
    (hidle : (h.poolAt pool).idle = c :: idle) (isLocal : Bool) :
    (h.setPool pool { h.poolAt pool with idle }).Holds (⟨pool, c, isLocal⟩ :: leases) := by
  refine hh.setPool hpool [] ?_ ?_ ?_
  · have hcounted := hh.counted pool
    rw [hidle, List.length_cons] at hcounted
    rw [List.countP_cons_of_pos (by simp)]
    simp only
    omega
  · intro q hq
    rw [List.countP_cons_of_neg (by simpa using Ne.symm hq)]
  · rw [hidle]
    exact List.perm_middle

/-- A new connection is lent at once. -/
theorem Holds.connected
    (hh : h.Holds leases) (hpool : pool < h.pools.length) {p : Pool}
    (hidle : p.idle = (h.poolAt pool).idle) (hmade : p.made = (h.poolAt pool).made + 1)
    (isLocal : Bool) :
    Holds { h.setPool pool p with connections := h.connections + 1 }
      (⟨pool, h.connections, isLocal⟩ :: leases) := by
  have hsame : (h.setPool pool p).idle.Perm h.idle := by
    have hperm := idle_setPool_perm hpool p
    rw [hidle] at hperm
    exact (List.perm_append_left_iff _).mp hperm
  have hheld : ((h.setPool pool p).idle ++ h.connections :: leases.map (·.connection)).Perm
      (h.connections :: h.held leases) :=
    List.perm_middle.trans ((hsame.append_right _).cons h.connections)
  -- Connections are numbered in the order in which they are made.
  have hnew : h.connections ∉ h.held leases := by
    intro hmem
    exact Nat.lt_irrefl _ (hh.known _ hmem)
  constructor
  · intro e he
    have hlength : (h.setPool pool p).pools.length = h.pools.length := List.length_set
    exact lt_of_lt_of_eq (hh.inUse e he) hlength.symm
  · intro q
    have hcounted := hh.counted q
    change ((h.setPool pool p).poolAt q).made = ((h.setPool pool p).poolAt q).idle.length + _
    rw [poolAt_setPool hpool]
    by_cases hq : q = pool
    · subst hq
      rw [if_pos rfl, hidle, hmade, List.countP_cons_of_pos (by simp)]
      omega
    · rw [if_neg hq, List.countP_cons_of_neg (by simpa using Ne.symm hq)]
      exact hcounted
  · exact hheld.nodup_iff.mpr (List.nodup_cons.mpr ⟨hnew, hh.apart⟩)
  · intro c hc
    rcases List.mem_cons.mp (hheld.mem_iff.mp hc) with rfl | hc
    · exact Nat.lt_succ_self _
    · exact Nat.lt_succ_of_lt (hh.known c hc)

/-- A connection given back to a pool that has room for it. -/
theorem Holds.keep
    (hh : h.Holds (l :: leases)) :
    (h.setPool l.pool
      { h.poolAt l.pool with idle := (h.poolAt l.pool).idle ++ [l.connection] }).Holds
        leases := by
  refine hh.setPool (hh.pool_lt (List.mem_cons_self ..)) [] ?_ ?_ ?_
  · have hcounted := hh.counted l.pool
    rw [List.countP_cons_of_pos (by simp)] at hcounted
    simp only [List.length_append, List.length_singleton]
    omega
  · intro q hq
    rw [List.countP_cons_of_neg (by simpa using Ne.symm hq)]
  · simp

/-- A connection given back to a pool that has no room for it. -/
theorem Holds.drop
    (hh : h.Holds (l :: leases)) :
    (h.setPool l.pool { h.poolAt l.pool with made := (h.poolAt l.pool).made - 1 }).Holds
      leases := by
  refine hh.setPool (hh.pool_lt (List.mem_cons_self ..)) [l.connection] ?_ ?_ ?_
  · have hcounted := hh.counted l.pool
    rw [List.countP_cons_of_pos (by simp)] at hcounted
    simp only
    omega
  · intro q hq
    rw [List.countP_cons_of_neg (by simpa using Ne.symm hq)]
  · simp only [List.map_cons, List.singleton_append]
    exact List.perm_middle.symm

/-- All idle connections of a pool let go of. -/
theorem Holds.emptied
    (hh : h.Holds leases) (hpool : pool < h.pools.length) :
    (h.setPool pool
      { idle := [], made := (h.poolAt pool).made - (h.poolAt pool).idle.length }).Holds
        leases := by
  refine hh.setPool hpool (h.poolAt pool).idle ?_ ?_ ?_
  · have hcounted := hh.counted pool
    simp only [List.length_nil]
    omega
  · intro q hq
    rfl
  · exact List.Perm.refl _

end SqlBuilder.Host
