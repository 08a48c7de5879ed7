import SqlGateway.Session.Basic

/-!
The one connection of a session: where it goes, opening and probing it, running statements on it and
its explicit transaction. Outside an explicit transaction every statement is committed as soon as it
has run, or rolled back if it fails.
-/

namespace SqlGateway.Session

variable {σ : Type}

/-- A value that is missing or empty falls back to the default of its field. -/
def resolve (settings : Settings) (field : Field) (value : Option String) :
    Except Failure String :=
  let given (text? : Option String) := text?.filter fun text => !text.isEmpty
  match given value, given (settings.field field) with
  | some text, _ => .ok text
  | none, some text => .ok text
  | none, none => .error (.missingSetting (.text field.name))

structure Target where
  host : Option String := none
  user : Option String := none
  password : Option String := none
  database : Option String := none

def describe (settings : Settings) (target : Target) : Except Failure Descriptor := do
  let host ← resolve settings .host target.host
  let user ← resolve settings .user target.user
  let password ← resolve settings .password target.password
  let database ← resolve settings .database target.database
  return ⟨host, user, password, database, settings.port⟩

def replaceField (descriptor : Descriptor) (text : String) : Field → Descriptor
  | .host => { descriptor with host := text }
  | .user => { descriptor with user := text }
  | .password => { descriptor with password := text }
  | .database => { descriptor with database := text }

def create (settings : Settings) (echo : Bool) (target : Target) (server : σ) :
    Except Failure (Session σ) :=
  (describe settings target).map fun descriptor => { settings, echo, descriptor, server }

def engineOptions (session : Session σ) : EngineOptions :=
  let descriptor := session.descriptor
  { driver := session.settings.driver, user := descriptor.user, password := descriptor.password,
    host := descriptor.host, port := descriptor.port, database := descriptor.database,
    charset := session.settings.charset, echo := session.echo,
    connectTimeout := session.settings.connectTimeout }

variable [Server σ]

def held : Action σ Handle := do
  match (← get).handle? with
  | some handle => return handle
  | none => throw .notConnected

/-- Lets go of connection, transaction and engine before the server is asked to. -/
def close : Action σ Bool := do
  let session ← get
  set { session with handle? := none, engine := false }
  if let some handle := session.handle? then
    onFault (perform (.close handle.connection)) fun _ => pure ()
  if session.engine then perform .dispose
  return true

/-- Reads the counters before the rows. -/
def collect (reply : Reply) : Except Failure Outcome :=
  match reply.table? with
  | none => .ok ⟨[], [], reply.rowCount, reply.lastRowId⟩
  | some table =>
    match table.rows with
    | .ok rows => .ok ⟨table.columns, rows, reply.rowCount, reply.lastRowId⟩
    | .error fault => .error (.fault fault)

/-- Undoes what the connection began by itself, if it is still inside it. -/
def abandon (connection : Nat) : Action σ Unit := do
  let session ← get
  if !session.inTransaction && Server.inTransaction connection session.server then
    perform (.rollback connection)

def noteInsertId (outcome : Outcome) : Action σ Unit :=
  match outcome.lastRowId with
  | some id =>
    if id = 0 then pure () else modify fun session => { session with lastInsertId := toString id }
  | none => pure ()

def run (statement : Statement) : Action σ Outcome := do
  let handle ← held
  let execution : Action σ Outcome := do
    let reply ← perform (.execute handle.connection statement.sent)
    ofResult (collect reply)
  let outcome ← onFault execution fun failure => do
    abandon handle.connection
    throw failure
  unless (← get).inTransaction do perform (.commit handle.connection)
  noteInsertId outcome
  return outcome

def probe : Statement := .ofText "SELECT 1"

def firstValue (outcome : Outcome) : Value :=
  match outcome.rows with
  | ((_, value) :: _) :: _ => value
  | _ => .null

/-- Whether a value is the number one, which a signalling number cannot be asked. -/
def isOne : Value → Except Failure Bool
  | .decimal d =>
    if d.isSignalling then .error .invalidOperation else .ok (Value.decimal d == .int 1)
  | value => .ok (value == Value.int 1)

/-- A connection that does not answer the probe by one is dropped. -/
def checkConnection : Action σ Bool := do
  if (← get).handle?.isNone then return false
  let answered ← onFault (do ofResult (isOne (firstValue (← run probe)))) fun _ => return false
  unless answered do discard close
  return answered

def openConnection : Action σ Unit := do
  let options := engineOptions (← get)
  perform (.createEngine options)
  modify fun session => { session with engine := true }
  let connection := (← get).opened
  perform (.connect connection)
  modify fun session =>
    { session with handle? := some ⟨connection, false⟩, opened := connection + 1 }

def refusal (descriptor : Descriptor) : Failure → Failure
  | .fault cause => .refused descriptor.database descriptor.host cause
  | failure => failure

def connect : Action σ Bool := do
  if ← checkConnection then return true
  let descriptor := (← get).descriptor
  onFault openConnection fun failure => do
    discard close
    throw (refusal descriptor failure)
  return true

def setTransaction (isOpen : Bool) : Action σ Unit :=
  modify fun session =>
    { session with handle? := session.handle?.map fun handle => { handle with inTransaction := isOpen } }

def begin : Action σ Bool := do
  let handle ← held
  let isOpen ← perform (.begin handle.connection)
  setTransaction isOpen
  return isOpen

def bracketed? (session : Session σ) : Option Nat :=
  (session.handle?.filter Handle.inTransaction).map Handle.connection

/-- The transaction stays open if the server refuses. -/
def commit : Action σ Bool := do
  match bracketed? (← get) with
  | none => return false
  | some connection =>
    perform (.commitTransaction connection)
    setTransaction false
    return true

/-- The transaction counts as closed before the server is asked. -/
def rollback : Action σ Bool := do
  match bracketed? (← get) with
  | none => return false
  | some connection =>
    setTransaction false
    perform (.rollbackTransaction connection)
    return true

/-- All four fields at once; the old connection goes first. -/
def configure (target : Target) : Action σ Unit := do
  discard close
  let descriptor ← ofResult (describe (← get).settings target)
  modify fun session => { session with descriptor }

/-- One field; a value that is refused leaves the connection alone. -/
def setField (field : Field) (value : Option String) : Action σ Unit := do
  let text ← ofResult (resolve (← get).settings field value)
  discard close
  modify fun session => { session with descriptor := replaceField session.descriptor text field }

end SqlGateway.Session
