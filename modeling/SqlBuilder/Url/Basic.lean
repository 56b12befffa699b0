import SqlBuilder.Failure
import SqlBuilder.Statement.Identifier
import SqlBuilder.Text.Characters
import SqlBuilder.Url.Percent
import SqlBuilder.Validation.Scalar
import SqlBuilder.Value.Equality

/-!
# Database URLs

A URL names a driver and may say where the database is and how to log in. Reading stops where the
text no longer fits and never fails after the name of the driver, but for a port that is no
integer. A URL is printed without its password.
-/

namespace SqlBuilder

structure Url where
  driver : List Char
  username : Option (List Char)
  password : Option (List Char)
  host : Option (List Char)
  port : Option Int
  database : Option (List Char)
  /-- Names with their values, in the order of their first mention. -/
  query : List (String × List (List Char))

/-- Why a text is no URL. -/
inductive UrlFault
  | noUrl
  | portText (s : String)
  deriving DecidableEq, Repr

namespace UrlFault

/-- The most characters of a text that are shown when it is no integer. -/
def mostShown : Nat := 200

def message : UrlFault → String
  | noUrl => "Could not parse SQLAlchemy URL from given URL string"
  | portText s => "invalid literal for int() with base 10: "
    ++ String.ofList ((Text.shown s).toList.take mostShown)

/-- The failure of reading a URL on its own. -/
def failure : UrlFault → Failure
  | noUrl => .unreadableUrl
  | portText _ => .unlisted

end UrlFault

namespace Url

open Text

/-- The parts before and after the first `c`. -/
def cut? (c : Char) (cs : List Char) : Option (List Char × List Char) :=
  match cs.dropWhile (· != c) with
  | [] => none
  | _ :: rest => some (cs.takeWhile (· != c), rest)

/-- The parts before and after the last `c`. -/
def cutLast? (c : Char) (cs : List Char) : Option (List Char × List Char) :=
  (cut? c cs.reverse).map fun (after, before) => (before.reverse, after.reverse)

/-- The name of the driver and what follows `://`. -/
def driverName? (cs : List Char) : Option (List Char × List Char) :=
  let isName (c : Char) : Bool := isWord c || c == '+'
  match cs.takeWhile isName, cs.dropWhile isName with
  | [], _ => none
  | name, ':' :: '/' :: '/' :: rest => some (name, rest)
  | _, _ => none

/-- Where to log in, and the rest. A password goes on to the first `@`; a name without a password
to the last `@` before any colon or slash. -/
def login (cs : List Char) : Option (List Char) × Option (List Char) × List Char :=
  let isName (c : Char) : Bool := c != ':' && c != '/'
  let name := cs.takeWhile isName
  let rest := cs.dropWhile isName
  let withPassword := match rest with
    | ':' :: rest => cut? '@' rest
    | _ => none
  match withPassword with
  | some (password, rest) => (some name, some password, rest)
  | none => match cutLast? '@' name with
    | some (name, after) => (some name, none, after ++ rest)
    | none => (none, none, cs)

/-- The host, which may stand in brackets, and the rest. -/
def hostName (cs : List Char) : Option (List Char) × List Char :=
  let isInner (c : Char) : Bool := c != '/' && c != '?'
  let bracketed := match cs with
    | '[' :: inner => match cutLast? ']' (inner.takeWhile isInner) with
      | some ([], _) => none
      | some (host, after) => some (host, after ++ inner.dropWhile isInner)
      | none => none
    | _ => none
  match bracketed with
  | some (host, rest) => (some host, rest)
  | none =>
    let isHost (c : Char) : Bool := isInner c && c != ':'
    match cs.takeWhile isHost with
    | [] => (none, cs)
    | host => (some host, cs.dropWhile isHost)

/-- A part that starts with `mark` and goes on while `holds`, and the rest. -/
def part (mark : Char) (holds : Char → Bool) (cs : List Char) : Option (List Char) × List Char :=
  match cs with
  | c :: rest =>
    if c = mark then (some (rest.takeWhile holds), rest.dropWhile holds) else (none, cs)
  | [] => (none, [])

/-- The integer that a port is written as, in the digits of any script. -/
def integer? (cs : List Char) : Option Int :=
  let magnitude? (cs : List Char) : Option Int := do
    if cs.head? = some '_' then none
    else
      let digits ← (← Validation.withoutLowLines cs).mapM digitValue?
      if digits.isEmpty then none
      else some (digits.foldl (fun n d => 10 * n + d) 0 : Nat)
  match Validation.trimmed cs with
  | '-' :: cs => (magnitude? cs).map (- ·)
  | '+' :: cs => magnitude? cs
  | cs => magnitude? cs

def portNumber : Option (List Char) → Except UrlFault (Option Int)
  | none => .ok none
  | some cs => match integer? cs with
    | some n => .ok (some n)
    | none => .error (.portText (String.ofList cs))

/-- The parts of a text between the places of `c`. -/
def splitAt (c : Char) (cs : List Char) : List (List Char) :=
  cs.foldr (fun d parts => match parts with
    | [] => [[d]]
    | part :: rest => if d = c then [] :: part :: rest else (d :: part) :: rest) [[]]

/-- Names with their values; a name without a value is left out. -/
def queryPairs (cs : List Char) : List (String × List (List Char)) :=
  let pairs := (splitAt '&' cs).filterMap fun pair => match cut? '=' pair with
    | none | some (_, []) => none
    | some (name, v) => some (String.ofList (queryDecoded name), queryDecoded v)
  pairs.foldl (fun done (name, v) => putField name ((field? done name).getD [] ++ [v]) done) []

def ofText (s : String) : Except UrlFault Url :=
  match driverName? s.toList with
  | none => .error .noUrl
  | some (driver, rest) =>
    let (username, password, rest) := login rest
    let (host, rest) := hostName rest
    let (port, rest) := part ':' (fun c => c != '/' && c != '?') rest
    let (database, rest) := part '/' (· != '?') rest
    let (query, _) := part '?' (· != '\n') rest
    (portNumber port).map fun port =>
      { driver, username := username.map percentDecoded, password := password.map percentDecoded,
        host, port, database := database.map percentDecoded, query := queryPairs (query.getD []) }

/-- A part that is printed only if it is there. -/
def printed (mark : List Char) (write : List Char → List Char) : Option (List Char) → List Char
  | none => []
  | some cs => mark ++ write cs

/-- The text of a URL, with stars in place of a password. -/
def text (u : Url) : String :=
  let login := match u.username, u.password with
    | none, _ => []
    | some name, none => percentEncoded [' ', '+'] name ++ ['@']
    | some name, some _ => percentEncoded [' ', '+'] name ++ [':', '*', '*', '*', '@']
  let host (cs : List Char) : List Char := if ':' ∈ cs then '[' :: (cs ++ [']']) else cs
  let names := (u.query.map (·.1)).mergeSort (fun a b => a ≤ b)
  let pairs := names.flatMap fun name => ((field? u.query name).getD []).map fun v =>
    queryEncoded name.toList ++ '=' :: queryEncoded v
  String.ofList (u.driver ++ [':', '/', '/'] ++ login ++ printed [] host u.host
    ++ printed [':'] id (u.port.map fun n => (toString n).toList)
    ++ printed ['/'] (percentEncoded [' ', '+', '/']) u.database
    ++ (if pairs.isEmpty then [] else '?' :: ['&'].intercalate pairs))

end Url

end SqlBuilder
