import SqlGateway.Server.Basic

/-!
The state of a session and the actions on it. An action ends with an answer or a failure and leaves
a state in either case; `perform` is the only action that reaches the server, and it records every
request with the answer to it.
-/

namespace SqlGateway

structure Descriptor where
  host : String
  user : String
  password : String
  database : String
  port : Int
  deriving DecidableEq, Repr

/-- The connection in use and whether its explicit transaction is open. -/
structure Handle where
  connection : Nat
  inTransaction : Bool
  deriving DecidableEq, Repr

structure Outcome where
  columns : List String
  rows : List Row
  rowCount : Int
  lastRowId : Option Int
  deriving Repr

def Outcome.none : Outcome := ⟨[], [], 0, Option.none⟩

structure Prepared where
  statement : Statement
  outcome? : Option Outcome
  deriving Repr

/-- Table, column and type, in the order in which the server lists them. -/
abbrev Catalog := Entries String (Entries String String)

structure Session (σ : Type) where
  settings : Settings
  echo : Bool
  descriptor : Descriptor
  /-- Whether an engine is held. -/
  engine : Bool := false
  handle? : Option Handle := none
  lastInsertId : String := "0"
  prepared? : Option Prepared := none
  catalog : Catalog := []
  server : σ
  /-- All requests so far and their answers. -/
  log : List Exchange := []
  /-- How many connections were opened so far. -/
  opened : Nat := 0

abbrev Action (σ : Type) := EStateM Failure (Session σ)

namespace Session

variable {σ : Type}

def perform [Server σ] (event : Event) : Action σ event.Answer := fun session =>
  let (answer, server) := Server.respond event session.server
  let session := { session with server, log := session.log ++ [⟨event, answer⟩] }
  match answer with
  | .ok answer => .ok answer session
  | .error fault => .error (.fault fault) session

def ofResult {α : Type} : Except Failure α → Action σ α
  | .ok answer => pure answer
  | .error failure => throw failure

/-- Runs the handler on a fault that the gateway knows; any other failure passes. -/
def onFault {α : Type} (action : Action σ α) (handler : Failure → Action σ α) : Action σ α :=
  tryCatch action fun failure => if failure.isRecognisedFault then handler failure else throw failure

def inTransaction (session : Session σ) : Bool := session.handle?.any Handle.inTransaction

end Session

end SqlGateway
