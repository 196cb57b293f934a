import DocQuery.Json.Parser
import DocQuery.Number.Numeral
import DocQuery.Text.Blank
import DocQuery.Text.Split

/-!
# Connection configurations

What a connection is opened with: a database, where it is (an address as it stands, or hosts and a port), who
asks, options, and where reads go when they go elsewhere.

    dsn { host := one "h", port := 1, … } = mongodb://h:1

A configuration is read from a JSON object, or from an array of its fields in order.  Reading checks shapes only;
`validate` checks that the configuration leads somewhere.
-/

namespace DocQuery

/-- Why there is no connection. -/
inductive ConfigError where
  | unreadable (path reason : String)
  | malformed (reason : String)
  | invalid (reason : String)
  | refused (reason : String)
  deriving DecidableEq, Repr

namespace ConfigError

def code : ConfigError → String
  | unreadable _ _ => "DOCBRIDGE_CONFIG_IO"
  | malformed _ => "DOCBRIDGE_CONFIG_PARSE"
  | invalid _ => "DOCBRIDGE_CONFIG_INVALID"
  | refused _ => "DOCBRIDGE_CONNECT"

def message : ConfigError → String
  | unreadable path reason => "Cannot read configuration " ++ path ++ ": " ++ reason
  | malformed reason => "Cannot parse configuration: " ++ reason
  | invalid reason => "Invalid configuration: " ++ reason
  | refused reason => "Cannot connect: " ++ reason

end ConfigError

inductive HostList where
  | one (host : String)
  | many (hosts : List String)
  deriving DecidableEq, Repr

namespace HostList

def toList : HostList → List String
  | one host => [host]
  | many hosts => hosts

def toJson : HostList → Json
  | one host => .string host
  | many hosts => .array (hosts.map .string)

end HostList

/-- Where reads go instead. -/
structure ReadOverride where
  host : Option HostList := none
  port : Option UInt16 := none
  deriving DecidableEq, Repr

structure Config where
  name : String := "mongodb"
  driver : String := "mongodb"
  /-- The address as it stands; an empty one counts as none. -/
  dsn : Option String := none
  host : HostList := .one "localhost"
  port : Option UInt16 := none
  database : String
  username : Option String := none
  password : Option String := none
  /-- Options of the client; `database` among them is the one that knows the user. -/
  options : List (String × Json) := []
  driverOptions : List (String × Json) := []
  read : Option ReadOverride := none

namespace Config

/-! ## Addresses -/

/-- The address, when there is one. -/
def ownDsn? (c : Config) : Option String :=
  match c.dsn with
  | some dsn => if dsn.isEmpty then none else some dsn
  | none => none

/-- A host with the port, unless it has one of its own. -/
def withPort (port : Option UInt16) (host : String) : String :=
  match port with
  | some port => if host.toList.contains ':' then host else host ++ ":" ++ Numeral.ofNat port.toNat
  | none => host

def hosts (c : Config) : List String := c.host.toList.map (withPort c.port)

/-- The database that knows the user. -/
def authDatabase? (c : Config) : Option String :=
  match c.options.lookup "database" with
  | some (.string name) => if name.isEmpty then none else some name
  | _ => none

/-- The address to connect to. -/
def address (c : Config) : String :=
  match c.ownDsn? with
  | some dsn => dsn
  | none =>
    let hosts := "mongodb://" ++ Split.intercalate "," c.hosts
    match c.authDatabase? with
    | some name => hosts ++ "/" ++ name
    | none => hosts

/-- Adds a credential that is given and not among the options yet. -/
def addCredential (options : List (String × Json)) (name : String) (value : Option String) :
    List (String × Json) :=
  match value with
  | some v =>
    if v.isEmpty || options.any fun o => o.1 == name then options else options ++ [(name, .string v)]
  | none => options

/-- The options of the client, with the credentials among them. -/
def clientOptions (c : Config) : List (String × Json) :=
  addCredential (addCredential c.options "username" c.username) "password" c.password

/-- The configuration that reads connect with, when they go elsewhere: never by an address as it stands. -/
def forReads? (c : Config) : Option Config :=
  c.read.map fun r =>
    { c with
      read := none, dsn := none
      host := r.host.getD c.host
      port := r.port.or c.port }

/-! ## Validation -/

/-- Checks that the configuration leads somewhere. -/
def validate (c : Config) : Except ConfigError Unit :=
  if c.driver ≠ "mongodb" then .error (.invalid ("unsupported driver '" ++ c.driver ++ "'"))
  else if Blank.isEmpty c.database then .error (.invalid "database must not be empty")
  else if c.ownDsn?.isSome then .ok ()
  else if c.hosts.isEmpty || c.hosts.any Blank.isEmpty then .error (.invalid "host must not be empty")
  else if c.port = some 0 then .error (.invalid "port must be non-zero")
  else .ok ()

/-! ## Reading -/

def readShape : Json.Shape := .record [("host", .any), ("port", .any)]

def shape : Json.Shape :=
  .record [("name", .any), ("driver", .any), ("dsn", .any), ("host", .any), ("port", .any), ("database", .any),
    ("username", .any), ("password", .any), ("options", .any), ("driver_options", .any), ("read", readShape)]

/-- The fields of a record, each at most once; an array gives the first ones in order. -/
def fieldsOf? (shape : Json.Shape) : Json → Option (List (String × Json))
  | .object fields => if (fields.map Prod.fst).Nodup then some fields else none
  | .array items =>
    let names := (shape.known?.getD []).map Prod.fst
    if items.length ≤ names.length then some (names.zip items) else none
  | _ => none

def text? : Json → Option String
  | .string s => some s
  | _ => none

/-- A text, or null for none. -/
def optionalText? : Json → Option (Option String)
  | .null => some none
  | .string s => some (some s)
  | _ => none

def hostList? : Json → Option HostList
  | .string s => some (.one s)
  | .array items => (items.mapM text?).map .many
  | _ => none

def optionalHostList? : Json → Option (Option HostList)
  | .null => some none
  | j => (hostList? j).map some

/-- A port, or null for none. -/
def optionalPort? : Json → Option (Option UInt16)
  | .null => some none
  | .int n => if 0 ≤ n ∧ n < 65536 then some (some (UInt16.ofNat n.toNat)) else none
  | _ => none

def object? : Json → Option (List (String × Json))
  | .object fields => some fields
  | _ => none

/-- The field as it is read, or what stands for a missing one. -/
def fieldOr {α : Type} (fields : List (String × Json)) (name : String) (missing : α) (read : Json → Option α) :
    Option α :=
  match fields.lookup name with
  | some j => read j
  | none => some missing

def readOverride? (j : Json) : Option ReadOverride := do
  let fields ← fieldsOf? readShape j
  let host ← fieldOr fields "host" none optionalHostList?
  let port ← fieldOr fields "port" none optionalPort?
  some ⟨host, port⟩

def optionalOverride? : Json → Option (Option ReadOverride)
  | .null => some none
  | j => (readOverride? j).map some

/-- The configuration that a JSON value writes; only the database has to be there. -/
def ofJson? (j : Json) : Option Config := do
  let fields ← fieldsOf? shape j
  let database ← (fields.lookup "database").bind text?
  let start : Config := { database := database }
  let name ← fieldOr fields "name" start.name text?
  let driver ← fieldOr fields "driver" start.driver text?
  let dsn ← fieldOr fields "dsn" none optionalText?
  let host ← fieldOr fields "host" start.host hostList?
  let port ← fieldOr fields "port" none optionalPort?
  let username ← fieldOr fields "username" none optionalText?
  let password ← fieldOr fields "password" none optionalText?
  let options ← fieldOr fields "options" [] object?
  let driverOptions ← fieldOr fields "driver_options" [] object?
  let read ← fieldOr fields "read" none optionalOverride?
  some { name, driver, dsn, host, port, database, username, password, options, driverOptions, read }

/-- The configuration that a text writes, not validated. -/
def decode (text : String) : Except ConfigError Config :=
  match (Json.parse? shape text).bind ofJson? with
  | some c => .ok c
  | none => .error (.malformed "not a configuration")

/-- The configuration that a text writes. -/
def parse (text : String) : Except ConfigError Config := do
  let c ← decode text
  c.validate
  pure c

/-- The configuration in a file whose text is given, when it could be read. -/
def load (path : String) : Except String String → Except ConfigError Config
  | .ok text => parse text
  | .error reason => .error (.unreadable path reason)

/-! ## Writing -/

/-- The fields of a configuration; missing ones are null. -/
def toJson (c : Config) : Json :=
  let text (t : Option String) : Json := (t.map Json.string).getD .null
  let port (p : Option UInt16) : Json := (p.map fun p => Json.int p.toNat).getD .null
  .object [("name", .string c.name), ("driver", .string c.driver), ("dsn", text c.dsn),
    ("host", c.host.toJson), ("port", port c.port), ("database", .string c.database),
    ("username", text c.username), ("password", text c.password),
    ("options", .object c.options), ("driver_options", .object c.driverOptions),
    ("read", match c.read with
      | some r => .object [("host", (r.host.map HostList.toJson).getD .null), ("port", port r.port)]
      | none => .null)]

end Config

end DocQuery
