import SqlGateway.Settings.Check
import SqlGateway.Toml.Quoted
import SqlGateway.Value.Text

/-!
Settings that have not been checked, and the file that is written for them. The file names the flag,
then the connection, of which host, user, password and database are left out where they are empty.
-/

namespace SqlGateway

inductive Settings.Problem
  /-- The fields whose values are refused. -/
  | refused (fields : List String)
  | notUtf8
  /-- An integer of more digits than are read or written. -/
  | tooManyDigits
  /-- A time that is beyond every floating-point number. -/
  | timeoutTooLarge
  | isDirectory
  /-- A document that is nested too deeply to be read. -/
  | tooDeep
  /-- A value where only text can be written. -/
  | notText
  deriving DecidableEq, Repr

/-- Settings with any value in any field. -/
structure Draft where
  host : Value
  user : Value
  password : Value
  database : Value
  port : Value
  driver : Value
  charset : Value
  connectTimeout : Value
  echoSql : Bool
  deriving Repr, Inhabited

namespace Draft

def ofConfig (config : Config) : Draft :=
  let connection := config.connection
  let textOrNull (text? : Option String) : Value := (text?.map Value.text).getD .null
  { host := textOrNull connection.host
    user := textOrNull connection.user
    password := textOrNull connection.password
    database := textOrNull connection.database
    port := .int connection.port
    driver := .text connection.driver
    charset := .text connection.charset
    connectTimeout := .float connection.connectTimeout
    echoSql := config.echoSql }

def fields (draft : Draft) : Entries String Value :=
  [("host", draft.host), ("user", draft.user), ("password", draft.password),
    ("database", draft.database), ("port", draft.port), ("driver", draft.driver),
    ("charset", draft.charset), ("connect_timeout", draft.connectTimeout)]

/-- One field takes a value as it is; a name that is none is let pass. -/
def withField (draft : Draft) (name : String) (value : Value) : Draft :=
  match name with
  | "host" => { draft with host := value }
  | "user" => { draft with user := value }
  | "password" => { draft with password := value }
  | "database" => { draft with database := value }
  | "port" => { draft with port := value }
  | "driver" => { draft with driver := value }
  | "charset" => { draft with charset := value }
  | "connect_timeout" => { draft with connectTimeout := value }
  | _ => draft

def withFields (draft : Draft) (updates : Entries String Value) : Draft :=
  updates.foldl (fun draft entry => draft.withField entry.1 entry.2) draft

/-- The members of a collection; octets are one only if there are none. -/
def parts? : Value → Option (List Value)
  | .list items | .tuple items => some items
  | .set members | .frozenSet members => some members
  | .mapping entries => some (Entries.keys entries)
  | .bytes [] => some []
  | _ => none

/-- A part is one character, or the one octet of a control. -/
def part? : Value → Option (List Char)
  | .text s =>
    match s.toList with
    | [c] => some (Toml.escapeChar c)
    | _ => none
  | .bytes [octet] =>
    if octet < 0x20 || octet = 0x7F then some (Toml.escapeNumber octet.toNat) else none
  | _ => none

/-- A collection is written as the text that its members make up. -/
def textLine (name : String) : Value → Except Settings.Problem String
  | .text s => .ok (name ++ " = " ++ Toml.quote s)
  | value =>
    match (parts? value).bind fun parts => parts.mapM part? with
    | some written => .ok (name ++ " = " ++ Toml.enclose written.flatten)
    | none => .error .notText

def optionalLine (name : String) (value : Value) : Except Settings.Problem (List String) :=
  if value.truthy then (textLine name value).map ([·]) else .ok []

def mostDigits : Nat := 4300

def tooLong : Value → Bool
  | .int n => (Nat.toDigits 10 n.natAbs).length > mostDigits
  | _ => false

def plainLine (name : String) (value : Value) : Except Settings.Problem String :=
  if tooLong value then .error .tooManyDigits else .ok (name ++ " = " ++ value.display)

def lines (draft : Draft) : Except Settings.Problem (List String) := do
  let echo := "echo_sql = " ++ if draft.echoSql then "true" else "false"
  let host ← optionalLine "host" draft.host
  let user ← optionalLine "user" draft.user
  let password ← optionalLine "password" draft.password
  let database ← optionalLine "database" draft.database
  let port ← plainLine "port" draft.port
  let driver ← textLine "driver" draft.driver
  let charset ← textLine "charset" draft.charset
  let timeout ← plainLine "connect_timeout" draft.connectTimeout
  return [echo, "", "[connection]"] ++ host ++ user ++ password ++ database ++
    [port, driver, charset, timeout]

def render (draft : Draft) : Except Settings.Problem String :=
  draft.lines.map fun lines => String.join (lines.map (· ++ "\n"))

end Draft

end SqlGateway
