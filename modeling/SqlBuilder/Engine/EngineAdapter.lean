import SqlBuilder.Engine.Owner
import SqlBuilder.Session.Adapter

/-!
# Adapters over engines

Work that is not part of a transaction takes a connection for each statement, in a transaction of
its own. A transaction takes one connection for all the work in it. The engine comes from an owner,
or is given and then has none.
-/

namespace SqlBuilder

structure EngineWorld where
  owner : Option Owner
  /-- The engine that the adapter uses; it is asked for when it is first needed. -/
  engine : Option Nat
  host : Host

/-- The adapter itself, or a connection lent to a transaction. -/
inductive EngineHandle
  | root
  | lent (l : Lease)
  deriving DecidableEq

namespace EngineWorld

/-- The engine that the adapter uses, from its owner if need be. -/
def toEngine (w : EngineWorld) : Outcome Nat × EngineWorld :=
  match w.engine, w.owner with
  | some engine, _ => (.ok engine, w)
  | none, none => (.error .lacking, w)
  | none, some o => match o.toEngine w.host with
    | (.error failure, o, h) => (.error failure, { w with owner := some o, host := h })
    | (.ok engine, o, h) => (.ok engine, { owner := some o, engine := some engine, host := h })

def send (w : EngineWorld) (sql : Value) (parameters : List Value) : EngineHandle →
    Outcome QueryResult × EngineWorld
  | .lent l =>
    let (result, h) := w.host.perform l sql parameters
    (result, { w with host := h })
  | .root => match w.toEngine with
    | (.error failure, w) => (.error failure, w)
    | (.ok engine, w) =>
      let (result, h) := w.host.performAlone engine sql parameters
      (result, { w with host := h })

def start (w : EngineWorld) : Outcome EngineHandle × EngineWorld :=
  match w.toEngine with
  | (.error failure, w) => (.error failure, w)
  | (.ok engine, w) => match w.host.acquire engine with
    | (.error failure, h) => (.error failure, { w with host := h })
    | (.ok l, h) => (.ok (.lent l), { w with host := h.start l })

def finish (w : EngineWorld) (failure : Option Failure) : EngineHandle →
    Option Failure × EngineWorld
  | .root => (failure, w)
  | .lent l =>
    let (failure, h) := w.host.finish l failure
    (failure, { w with host := h })

/-- Closing disposes of the engine; one that came from an owner is let go of. -/
def close (w : EngineWorld) : EngineWorld :=
  match w.owner, w.engine with
  | some o, _ =>
    let (o, h) := o.close w.host
    { owner := some o, engine := none, host := h }
  | none, some engine => { w with host := w.host.dispose engine }
  | none, none => w

/-- An adapter whose engine has an owner. -/
def ofOwner (o : Owner) (script : Script) : EngineWorld :=
  { owner := some o, engine := none, host := { script } }

/-- An adapter over a new engine without an owner. -/
def ofBlueprint (b : Blueprint) (script : Script) : EngineWorld :=
  let (engine, h) := Host.create { script } b
  { owner := none, engine := some engine, host := h }

end EngineWorld

def engineAdapter : Adapter EngineWorld EngineHandle where
  send handle sql parameters w := w.send sql parameters handle
  isScoped
    | .root => false
    | .lent _ => true
  start _ w := w.start
  finish handle failure w := w.finish failure handle
  close handle w := match handle with
    | .root => w.close
    | .lent _ => w

end SqlBuilder
