import SqlGateway.Settings.Draft
import SqlGateway.Toml.Document

/-!
The settings file: what stands at its place, reading it and writing it. Whatever is no document reads
as the default settings, and an entry of another type as the default of its field.
-/

namespace SqlGateway

inductive Place
  | absent
  | directory
  | file (content : ByteArray)

namespace Settings

def textAt? (held : Toml.Table) (name : String) : Option String :=
  match Entries.get? name held with
  | some (.text s) => some s
  | _ => none

/-- What is given as the port. A flag counts as an integer. -/
def portAt? (held : Toml.Table) : Option Value :=
  match Entries.get? "port" held with
  | some (.integer n) => some (.int n)
  | some (.boolean flag) => some (.bool flag)
  | _ => none

def timeoutAt? (held : Toml.Table) : Except Problem (Option Binary64) :=
  match Entries.get? "connect_timeout" held with
  | some (.float x) => .ok (some x)
  | some (.integer n) =>
    match Binary64.ofInt? n with
    | some x => .ok (some x)
    | none => .error .timeoutTooLarge
  | _ => .ok none

def entry (name : String) (value? : Option Value) : Entries String Value :=
  (value?.map fun value => (name, value)).toList

/-- The entries that are of the type of their field. -/
def taken (held : Toml.Table) : Except Problem (Entries String Value) := do
  let text (name : String) : Entries String Value := entry name ((textAt? held name).map .text)
  let timeout ← timeoutAt? held
  return text "host" ++ text "user" ++ text "password" ++ text "database" ++ text "driver" ++ text "charset" ++
    entry "port" (portAt? held) ++ entry "connect_timeout" (timeout.map .float)

def ofTable [Validation] (held : Toml.Table) : Except Problem Settings := do
  (ofFields (← taken held)).mapError .refused

end Settings

namespace Config

def echoAt (root : Toml.Table) : Bool :=
  match Entries.get? "echo_sql" root with
  | some (.boolean flag) => flag
  | _ => false

variable [Validation]

def connectionAt (root : Toml.Table) : Except Settings.Problem Settings :=
  match Entries.get? "connection" root with
  | some (.table held) => Settings.ofTable held
  | _ => .ok {}

def ofTable (root : Toml.Table) : Except Settings.Problem Config := do
  (ofSettings (← connectionAt root) (some (.bool (echoAt root)))).mapError .refused

variable [Toml.Stack]

def ofText (text : String) : Except Settings.Problem Config :=
  match Toml.parse text with
  | .ok root => ofTable root
  | .error .malformed => .ok {}
  | .error .tooManyDigits => .error .tooManyDigits
  | .error .tooDeep => .error .tooDeep

def load : Place → Except Settings.Problem Config
  | .absent | .directory => .ok {}
  | .file content =>
    match String.fromUTF8? content with
    | some text => ofText text
    | none => .error .notUtf8

end Config

/-- The text that was written and the place after it. The text is made before the place is touched. -/
def Draft.save (draft : Draft) (place : Place) : Except Settings.Problem (String × Place) := do
  let text ← draft.render
  match place with
  | .directory => throw .isDirectory
  | _ => return (text, .file text.toUTF8)

end SqlGateway
