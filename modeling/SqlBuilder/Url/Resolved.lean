import SqlBuilder.Value.Shown

/-!
# Which URL is used

A URL given explicitly comes before the one of the environment, and that before a local file. A
PostgreSQL URL that does not choose a driver gets one.
-/

namespace SqlBuilder.Url

/-- The database that is used when no other is named. -/
def localFile : String := "sqlite:///./pawql.db"

/-- The URL to use, of the one given and the one in the environment; what is empty is no URL. -/
def resolved (given : Value) (environment : Option String) : String :=
  if given.isTruthy then given.plain
  else match environment with
    | none | some "" => localFile
    | some url => url

/-- Whether `part` stands anywhere in a text. -/
def holds (part : List Char) : List Char → Bool
  | [] => part.isEmpty
  | c :: cs => part.isPrefixOf (c :: cs) || holds part cs

def plainScheme : List Char := "postgresql://".toList

def chosenScheme : List Char := "postgresql+".toList

/-- A URL in which no driver is chosen gets the driver `psycopg`. -/
def normalized (url : String) : String :=
  let cs := url.toList
  if plainScheme.isPrefixOf cs && !holds chosenScheme cs then
    "postgresql+psycopg://" ++ String.ofList (cs.drop plainScheme.length)
  else url

end SqlBuilder.Url
