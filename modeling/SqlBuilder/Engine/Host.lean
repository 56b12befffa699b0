import SqlBuilder.Binding.Named
import SqlBuilder.Engine.Blueprint
import SqlBuilder.Statement.Basic
import SqlBuilder.Value.Json

/-!
# Engines and their connections

An engine keeps connections in a pool: a connection is lent for one piece of work and given back
when the work ends. Disposing of an engine closes the connections that are idle and starts a new
pool; those still lent go back to the old one. All engines share one host, which notes in order
what reaches their connections.
-/

namespace SqlBuilder

/-- What a driver answers to a statement. -/
inductive DriverReply
  | rows (columns : List String) (rows : List (List Value))
  | count (n : Int)
  | fail (message : String)

/-- What drivers answer, in order. When nothing is left, a statement touches no rows and everything
else succeeds. -/
structure Script where
  statements : List DriverReply
  connects : List (Option String) := []
  commits : List (Option String) := []
  rollbacks : List (Option String) := []

/-- What reached a connection. A statement sent as it stands has no arguments. -/
inductive Event
  | connect (connection : Nat)
  | start (connection : Nat)
  | statement (connection : Nat) (sql : Value) (arguments : Option (List (String × Value)))
  | commit (connection : Nat)
  | rollback (connection : Nat)
  | close (connection : Nat)

/-- The connection that an event reached. -/
def Event.connection : Event → Nat
  | connect c | start c | statement c _ _ | commit c | rollback c | close c => c

/-- An event, and whether the connection is one of a local driver. -/
structure Note where
  isLocal : Bool
  event : Event

/-- Connections that wait to be lent, the next one first, and how many there are with those lent. -/
structure Pool where
  idle : List Nat := []
  made : Nat := 0
  deriving Inhabited

structure Engine where
  dialect : String
  isLocal : Bool
  /-- The index of the pool in use. -/
  pool : Nat
  /-- Whether nothing was lent since the engine was disposed of. -/
  isDisposed : Bool
  deriving Inhabited

/-- A connection lent from a pool. -/
structure Lease where
  pool : Nat
  connection : Nat
  isLocal : Bool
  deriving DecidableEq

structure Host where
  engines : List Engine := []
  pools : List Pool := []
  /-- How many connections were ever made. -/
  connections : Nat := 0
  script : Script
  /-- What reached connections, the oldest first. -/
  trace : List Note := []

namespace Host

/-- How many connections a pool keeps idle. -/
def mostIdle : Nat := 5

/-- How many connections of a pool there are at most. -/
def mostConnections : Nat := 15

def engineAt (h : Host) (engine : Nat) : Engine := h.engines[engine]?.getD default

def poolAt (h : Host) (pool : Nat) : Pool := h.pools[pool]?.getD default

def setPool (h : Host) (pool : Nat) (p : Pool) : Host := { h with pools := h.pools.set pool p }

def note (h : Host) (isLocal : Bool) (e : Event) : Host :=
  { h with trace := h.trace ++ [⟨isLocal, e⟩] }

/-- What reached the connections of scripted drivers. -/
def log (h : Host) : List Event := (h.trace.filter fun n => !n.isLocal).map (·.event)

/-! ## Engines -/

/-- A new engine and its index. -/
def create (h : Host) (b : Blueprint) : Nat × Host :=
  (h.engines.length,
    { h with
      engines := h.engines ++ [⟨b.dialect, b.isLocal, h.pools.length, false⟩]
      pools := h.pools ++ [{}] })

def closeAll (isLocal : Bool) (h : Host) : List Nat → Host
  | [] => h
  | c :: cs => closeAll isLocal (h.note isLocal (.close c)) cs

def dispose (h : Host) (engine : Nat) : Host :=
  let e := h.engineAt engine
  let p := h.poolAt e.pool
  let h := closeAll e.isLocal h p.idle
  let h := h.setPool e.pool { idle := [], made := p.made - p.idle.length }
  { h with
    engines := h.engines.set engine { e with pool := h.pools.length, isDisposed := true }
    pools := h.pools ++ [{}] }

/-! ## Connections -/

/-- The next of the failures that are to come, and the others. -/
def next : List (Option String) → Option Failure × List (Option String)
  | [] => (none, [])
  | failure :: rest => (failure.map .driver, rest)

/-- A new connection of a pool. -/
def connect (h : Host) (pool : Nat) (isLocal : Bool) : Outcome Lease × Host :=
  match next h.script.connects with
  | (some failure, connects) => (.error failure, { h with script := { h.script with connects } })
  | (none, connects) =>
    let c := h.connections
    let p := h.poolAt pool
    let h := { h with connections := c + 1, script := { h.script with connects } }
    let h := (h.setPool pool { p with made := p.made + 1 }).note isLocal (.connect c)
    (.ok ⟨pool, c, isLocal⟩, h)

/-- An idle connection is lent before a new one is made. -/
def acquire (h : Host) (engine : Nat) : Outcome Lease × Host :=
  let e := h.engineAt engine
  let p := h.poolAt e.pool
  let h := { h with engines := h.engines.set engine { e with isDisposed := false } }
  match p.idle with
  | c :: idle => (.ok ⟨e.pool, c, e.isLocal⟩, h.setPool e.pool { p with idle })
  | [] =>
    if mostConnections ≤ p.made then (.error .exhausted, h) else h.connect e.pool e.isLocal

/-- A connection that a pool has no room for is closed. -/
def release (h : Host) (l : Lease) : Host :=
  let p := h.poolAt l.pool
  if p.idle.length < mostIdle then h.setPool l.pool { p with idle := p.idle ++ [l.connection] }
  else (h.setPool l.pool { p with made := p.made - 1 }).note l.isLocal (.close l.connection)

def start (h : Host) (l : Lease) : Host := h.note l.isLocal (.start l.connection)

def commit (h : Host) (l : Lease) : Option Failure × Host :=
  let (failure, commits) := next h.script.commits
  (failure, { h with script := { h.script with commits } }.note l.isLocal (.commit l.connection))

def rollback (h : Host) (l : Lease) : Option Failure × Host :=
  let (failure, rollbacks) := next h.script.rollbacks
  (failure, { h with script := { h.script with rollbacks } }.note l.isLocal (.rollback l.connection))

/-! ## Statements -/

/-- A row by columns; of a column that is repeated the last value counts. -/
def row (columns : List String) (values : List Value) : List (String × Value) :=
  (columns.zip values).foldl (fun done (column, v) => putField column v done) []

def result : DriverReply → Outcome QueryResult
  | .rows columns rows => .ok { rows := rows.map (row columns), rowCount := rows.length }
  | .count n => .ok { rows := [], rowCount := max n 0 }
  | .fail message => .error (.driver message)

/-- Sends a statement to a connection. -/
def execute (h : Host) (l : Lease) (sql : Value) (arguments : Option (List (String × Value))) :
    Outcome QueryResult × Host :=
  let h := h.note l.isLocal (.statement l.connection sql arguments)
  if l.isLocal then (result (.count 0), h)
  else match h.script.statements with
    | [] => (result (.count 0), h)
    | reply :: statements => (result reply, { h with script := { h.script with statements } })

end Host

/-- The values for the binds of a statement, structured ones as JSON text. -/
def NamedStatement.arguments (s : NamedStatement) : Outcome (List (String × Value)) :=
  s.binds.mapM fun name => match field? s.values name with
    | none => .error .unsendable
    | some v =>
      if v.isStructured then do
        return (name, .text (← Outcome.ofOption .unsendable v.jsonText?))
      else .ok (name, v)

namespace Host

/-- What is sent for a statement with its parameters; without any it is sent as it stands. -/
def prepared (sql : Value) (parameters : List Value) :
    Outcome (Value × Option (List (String × Value))) :=
  if parameters.isEmpty then .ok (sql, none)
  else do
    let s ← NamedStatement.ofMarks sql parameters
    return (.text s.text, some (← s.arguments))

/-- Sends a statement with its parameters, unless it cannot be prepared. -/
def perform (h : Host) (l : Lease) (sql : Value) (parameters : List Value) :
    Outcome QueryResult × Host :=
  match prepared sql parameters with
  | .error failure => (.error failure, h)
  | .ok (sql, arguments) => h.execute l sql arguments

/-- Ends the work on a lease by how it went, and tells how the whole ended. -/
def finish (h : Host) (l : Lease) : Option Failure → Option Failure × Host
  | none =>
    let (failure, h) := h.commit l
    (failure, h.release l)
  | some failure =>
    let (worse, h) := h.rollback l
    (some (worse.getD failure), h.release l)

/-- A statement in a transaction of its own. -/
def performAlone (h : Host) (engine : Nat) (sql : Value) (parameters : List Value) :
    Outcome QueryResult × Host :=
  match h.acquire engine with
  | (.error failure, h) => (.error failure, h)
  | (.ok l, h) => match (h.start l).perform l sql parameters with
    | (.error failure, h) =>
      let (worse, h) := h.rollback l
      (.error (worse.getD failure), h.release l)
    | (.ok result, h) => match h.commit l with
      | (none, h) => (.ok result, h.release l)
      | (some failure, h) =>
        let (worse, h) := h.rollback l
        (.error (worse.getD failure), h.release l)

end Host

end SqlBuilder
