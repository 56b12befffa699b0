import SqlBuilder.Engine.Host
import SqlBuilder.Url.Resolved

/-!
# Owners of engines

An owner makes the engine for its URL when it is first needed and keeps it until it is closed. An
engine whose dialect is not supported is disposed of at once. What is asked of an owner is first
given for any outcome `made` of an attempt to make an engine, and then for the one that the URL
asks for.
-/

namespace SqlBuilder

structure Owner where
  url : String
  /-- The index of the engine that is open. -/
  engine : Option Nat := none

namespace Owner

/-- The owner of an engine for a URL. -/
def ofUrl (url : String) : Owner := { url := Url.normalized url }

/-- The owner of an engine for a URL that is given as any value. -/
def ofValue (url : Value) : Owner := ofUrl url.plain

/-- The open engine; if there is none, the one that comes of `made`. -/
def openWith (made : Except BlueprintFault Blueprint) (o : Owner) (h : Host) :
    Outcome Nat × Owner × Host :=
  match o.engine with
  | some engine => (.ok engine, o, h)
  | none => match made with
    | .error fault => (Outcome.reject (.engineFailed fault.message), o, h)
    | .ok b =>
      let (engine, h) := h.create b
      if b.dialect ∈ Rejection.supportedDialects then
        (.ok engine, { o with engine := some engine }, h)
      else (Outcome.reject (.unsupportedDialect b.dialect), o, h.dispose engine)

/-- The open engine, or a new one for the URL. -/
def toEngine (o : Owner) (h : Host) : Outcome Nat × Owner × Host :=
  o.openWith (Blueprint.ofUrl o.url) h

def dialectWith (made : Except BlueprintFault Blueprint) (o : Owner) (h : Host) :
    Outcome String × Owner × Host :=
  match o.openWith made h with
  | (.error failure, o, h) => (.error failure, o, h)
  | (.ok engine, o, h) => (.ok (h.engineAt engine).dialect, o, h)

/-- What is said when no connection becomes free, without the address of the page about it. -/
def exhaustion : String :=
  "QueuePool limit of size " ++ toString Host.mostIdle ++ " overflow "
    ++ toString (Host.mostConnections - Host.mostIdle)
    ++ " reached, connection timed out, timeout 30.00"

/-- What a failure of a test says: it is the driver's, or no connection became free. -/
def testFailure : Failure → Failure
  | .driver message => .rejected (.connectionTestFailed message)
  | _ => .rejected (.connectionTestFailed exhaustion)

/-- Sends a statement that does nothing over an engine. -/
def probe (h : Host) (engine : Nat) : Option Failure × Host :=
  match h.acquire engine with
  | (.error failure, h) => (some failure, h)
  | (.ok l, h) =>
    let (result, h) := (h.start l).execute l (.text "SELECT 1") (some [])
    let (worse, h) := h.rollback l
    let failure := match worse, result with
      | some worse, _ => some worse
      | none, .error failure => some failure
      | none, .ok _ => none
    (failure, h.release l)

/-- Tests that the database can be reached. -/
def testWith (made : Except BlueprintFault Blueprint) (o : Owner) (h : Host) :
    Option Failure × Owner × Host :=
  match o.openWith made h with
  | (.error failure, o, h) => (some failure, o, h)
  | (.ok engine, o, h) =>
    let (failure, h) := probe h engine
    (failure.map testFailure, o, h)

def test (o : Owner) (h : Host) : Option Failure × Owner × Host :=
  o.testWith (Blueprint.ofUrl o.url) h

def close (o : Owner) (h : Host) : Owner × Host :=
  match o.engine with
  | none => (o, h)
  | some engine => ({ o with engine := none }, h.dispose engine)

/-- Work between a test and closing; if the test fails, nothing is closed. -/
def withinWith {α : Type} (made : Except BlueprintFault Blueprint) (o : Owner) (h : Host)
    (work : Owner → Host → α × Owner × Host) : Outcome α × Owner × Host :=
  match o.testWith made h with
  | (some failure, o, h) => (.error failure, o, h)
  | (none, o, h) =>
    let (a, o, h) := work o h
    let (o, h) := o.close h
    (.ok a, o, h)

/-! ## Calls by name -/

inductive Question
  | url
  | engine
  | dialect
  | isPostgres
  | test
  | isOpen
  | close
  | within

/-- The question that a word stands for. -/
def Question.ofWord? : String → Option Question
  | "url" => some url
  | "engine" => some engine
  | "dialect" => some dialect
  | "is_postgresql" => some isPostgres
  | "test_connection" => some test
  | "open" => some isOpen
  | "close" => some close
  | "with" => some within
  | _ => none

def answerWith (made : Except BlueprintFault Blueprint) (o : Owner) (h : Host) :
    Question → Outcome Value × Owner × Host
  | .url => (.ok (.text o.url), o, h)
  | .engine =>
    let (engine, o, h) := o.openWith made h
    (engine.map fun _ => .bool true, o, h)
  | .dialect =>
    let (dialect, o, h) := o.dialectWith made h
    (dialect.map .text, o, h)
  | .isPostgres =>
    let (dialect, o, h) := o.dialectWith made h
    (dialect.map fun s => .bool (s = "postgresql"), o, h)
  | .test => match o.testWith made h with
    | (none, o, h) => (.ok (.bool true), o, h)
    | (some failure, o, h) => (.error failure, o, h)
  | .isOpen => (.ok (.bool o.engine.isSome), o, h)
  | .close =>
    let (o, h) := o.close h
    (.ok .null, o, h)
  | .within => o.withinWith made h fun o h => (.bool true, o, h)

def answer (o : Owner) (h : Host) (q : Question) : Outcome Value × Owner × Host :=
  o.answerWith (Blueprint.ofUrl o.url) h q

/-- The answers to questions asked in turn, each with the host after it. -/
def converse (o : Owner) (h : Host) : List Question → List (Outcome Value × Host)
  | [] => []
  | q :: qs =>
    let (answer, o, h) := o.answer h q
    (answer, h) :: converse o h qs

end Owner

end SqlBuilder
