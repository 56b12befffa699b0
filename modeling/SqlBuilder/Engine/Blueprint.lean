import SqlBuilder.Url.Basic

/-!
# Which engine a URL asks for

A driver is named by its dialect and its own name; without a name, or as `base`, it is the usual
driver of the dialect. Some drivers are scripted: what reaches them is noted, and what they answer
is given in advance. The others are local, and their work is not looked at.
-/

namespace SqlBuilder

structure Blueprint where
  dialect : String
  isLocal : Bool
  deriving DecidableEq, Repr

/-- Why no engine can be made for a URL. -/
inductive BlueprintFault
  | unreadable (fault : UrlFault)
  | unknownDriver (name : String)
  | unknownPlugin (name : String)
  | tooManyParts
  | fileExpected (shown : String)
  | missingModule (name : String)
  | noDriver (part : String)
  deriving DecidableEq, Repr

namespace BlueprintFault

def message : BlueprintFault → String
  | unreadable fault => fault.message
  | unknownDriver name => "Can't load plugin: sqlalchemy.dialects:" ++ name
  | unknownPlugin name => "Can't load plugin: sqlalchemy.plugins:" ++ name
  | tooManyParts => "too many values to unpack (expected 2)"
  | fileExpected shown => "Invalid SQLite URL: " ++ shown
    ++ "\nValid SQLite URL forms are sqlite:///:memory: or sqlite:////absolute/path/to/file.db"
  | missingModule name => "No module named " ++ Text.shown name
  | noDriver part => part ++ " has no attribute 'dialect'"

/-- The failure of making an engine on its own. -/
def failure : BlueprintFault → Failure
  | unreadable fault => fault.failure
  | unknownDriver _ | unknownPlugin _ => .unknownDriver
  | tooManyParts => .unlisted
  | fileExpected _ => .unreadableUrl
  | missingModule _ => .missingModule
  | noDriver _ => .lacking

end BlueprintFault

namespace Blueprint

/-- Whether a URL says more than which file to open. -/
def namesServer (u : Url) : Bool :=
  u.username.any (!·.isEmpty) || u.password.any (!·.isEmpty) || u.host.any (!·.isEmpty)
    || u.port.any (· != 0)

/-- A file on this machine. -/
def file (u : Url) : Except BlueprintFault Blueprint :=
  if namesServer u then .error (.fileExpected u.text) else .ok ⟨"sqlite", true⟩

/-- What stands behind the name of a driver. -/
inductive Driver
  | scripted
  | file
  | server
  | missing (module : String)
  | part (shown : String)

/-- The usual driver of each dialect. -/
def usualDrivers : List (String × String) :=
  [("sqlite", "pysqlite"), ("postgresql", "psycopg"), ("mysql", "mysqldb"),
    ("mariadb", "mysqldb"), ("mssql", "pyodbc"), ("oracle", "oracledb")]

/-- The drivers of the two kinds of server that share them, with the modules they need. -/
def sharedDrivers : List (String × Driver) :=
  [("mysqldb", .missing "MySQLdb"), ("pymysql", .missing "pymysql"),
    ("mysqlconnector", .missing "mysql"), ("mariadbconnector", .missing "mariadb"),
    ("cymysql", .missing "cymysql"), ("pyodbc", .missing "pyodbc"),
    ("aiomysql", .missing "aiomysql"), ("asyncmy", .missing "asyncmy")]

/-- Parts of a dialect that are found where its drivers are. -/
def parts (dialect driverType : String) (modules types : List String) : List (String × Driver) :=
  [("dialect", Driver.part ("type object '" ++ driverType ++ "'")),
      ("insert", Driver.part "'function' object")]
    ++ modules.map (fun name =>
      (name, Driver.part ("module 'sqlalchemy.dialects." ++ dialect ++ "." ++ name ++ "'")))
    ++ types.map fun name => (name, Driver.part ("type object '" ++ name ++ "'"))

/-- What goes by a name in each dialect. -/
def drivers : List (String × List (String × Driver)) :=
  [("sqlite", [("fake", Driver.scripted), ("pysqlite", Driver.file),
      ("aiosqlite", Driver.missing "aiosqlite"), ("pysqlcipher", Driver.missing "pysqlcipher3")]
      ++ parts "sqlite" "SQLiteDialect_pysqlite" ["dml", "json"]
        ["BLOB", "BOOLEAN", "CHAR", "DATE", "DATETIME", "DECIMAL", "FLOAT", "INTEGER", "Insert",
          "JSON", "NUMERIC", "REAL", "SMALLINT", "TEXT", "TIME", "TIMESTAMP", "VARCHAR"]),
    ("postgresql", [("fake", Driver.scripted), ("psycopg", Driver.server),
      ("psycopg_async", Driver.server), ("psycopg2", Driver.missing "psycopg2"),
      ("psycopg2cffi", Driver.missing "psycopg2cffi"),
      ("asyncpg", Driver.missing "asyncpg"), ("pg8000", Driver.missing "pg8000")]
      ++ parts "postgresql" "PGDialect_psycopg"
        ["dml", "ext", "json", "named_types", "operators", "pg_catalog", "ranges", "types"]
        ["Insert", "JSON", "JSONB", "ENUM", "UUID"]),
    ("mysql", [("fake", Driver.scripted)] ++ sharedDrivers
      ++ parts "mysql" "MySQLDialect_mysqldb"
        ["dml", "enumerated", "json", "reflection", "reserved_words", "types"] ["Insert", "JSON"]),
    ("mariadb", sharedDrivers),
    ("mssql", [("pyodbc", Driver.missing "pyodbc"), ("pymssql", Driver.missing "pymssql"),
      ("aioodbc", Driver.missing "aioodbc")]),
    ("oracle", [("oracledb", Driver.missing "oracledb"),
      ("oracledb_async", Driver.missing "oracledb"),
      ("cx_oracle", Driver.missing "cx_Oracle")])]

/-- The dialect and the name of its driver. -/
def driverName (driver : List Char) : String × String :=
  let (dialect, name) := (Url.cut? '+' driver).getD (driver, "base".toList)
  let dialect := String.ofList dialect
  match String.ofList name with
  | "base" => (dialect, (field? usualDrivers dialect).getD "base")
  | name => (dialect, name)

/-- An unknown driver goes by its dialect and its own name with a point between them. -/
def unknown (driver : List Char) : BlueprintFault :=
  if 1 < driver.count '+' then .tooManyParts
  else .unknownDriver (String.ofList (driver.map fun c => if c = '+' then '.' else c))

def ofDriver (u : Url) : Except BlueprintFault Blueprint :=
  let (dialect, name) := driverName u.driver
  match field? ((field? drivers dialect).getD []) name with
  | some .scripted => .ok ⟨dialect, false⟩
  | some .file => file u
  | some .server => .ok ⟨dialect, true⟩
  | some (.missing module) => .error (.missingModule module)
  | some (.part shown) => .error (.noDriver shown)
  | none => .error (unknown u.driver)

/-- Plugins that a URL asks for are looked for before its driver, and none is known. -/
def ofUrl (url : String) : Except BlueprintFault Blueprint :=
  match Url.ofText url with
  | .error fault => .error (.unreadable fault)
  | .ok u => match field? u.query "plugin" with
    | some (name :: _) => .error (.unknownPlugin (String.ofList name))
    | some [] | none => ofDriver u

end Blueprint

end SqlBuilder
