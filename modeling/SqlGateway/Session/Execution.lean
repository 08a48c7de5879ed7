import SqlGateway.Session.Connection
import SqlGateway.Text.Blank

/-!
The one prepared statement of a session: preparing, binding and running it, and reading its outcome.
Faults of the server become failures of the query.
-/

namespace SqlGateway.Session

variable {σ : Type}

def isCode : Value → Bool
  | .int _ | .bool _ => true
  | _ => false

/-- The code is the first argument of a fault, if that is a number, and the text the second. -/
def queryFailure : Failure → Failure
  | .fault (.server _ args sqlstate) =>
    let code := match args with
      | first :: _ => if isCode first then first else .null
      | [] => .null
    let text := match args with
      | _ :: second :: _ => second.display
      | [only] => only.display
      | [] => ""
    .queryFailed text sqlstate code
  | .fault cause => .queryFailed cause.message .null .null
  | failure => failure

def requirePrepared : Action σ Prepared := do
  match (← get).prepared? with
  | some prepared => return prepared
  | none => throw (.queryFailed "No statement has been prepared." .null .null)

def bind (name : String) (value : Value) : Action σ Bool := do
  let prepared ← requirePrepared
  let statement ← ofResult (prepared.statement.bind name value)
  modify fun session => { session with prepared? := some { prepared with statement } }
  return true

def bindAll : Params → Action σ Unit
  | [] => pure ()
  | (name, value) :: rest => do
    discard (bind name value)
    bindAll rest

/-- Replaces the statement held so far, also when a value cannot be bound. -/
def prepare (query : String) (params : Params) : Action σ Bool := do
  modify fun session => { session with prepared? := some ⟨.ofText query, none⟩ }
  bindAll params
  return true

def reset : Action σ Unit :=
  modify fun session => { session with prepared? := none }

def outcome (session : Session σ) : Outcome :=
  (session.prepared?.bind Prepared.outcome?).getD .none

def rows : Action σ (List Row) := return (outcome (← get)).rows

def rowCount : Action σ Int := return (outcome (← get)).rowCount

def insertId : Action σ String := return (← get).lastInsertId

def column (name : String) (row : Row) : Except Failure Value :=
  match row.get? name with
  | some value => .ok value
  | none => .error (.absentColumn name)

def keyPair : Action σ Record := do
  let found := outcome (← get)
  match found.columns with
  | first :: second :: _ =>
    let pairs ← ofResult (found.rows.mapM fun row => do
      return (← column first row, ← column second row))
    return Entries.ofList pairs
  | _ => throw (.queryFailed "key_pair() needs a result set with two columns." .null .null)

def isBlankText (text : String) : Bool := (Text.trim text).isEmpty

theorem isBlankText_of_mem {text : String} {c : Char} (member : c ∈ text.toList)
    (visible : Text.isBlank c = false) : isBlankText text = false := by
  rw [isBlankText, Bool.eq_false_iff, Ne, String.isEmpty_iff]
  intro none
  have kept := Text.mem_trim member visible
  rw [none] at kept
  exact List.not_mem_nil kept

variable [Server σ]

def execute : Action σ Bool := do
  let prepared ← requirePrepared
  let outcome ← onFault (run prepared.statement) fun failure => throw (queryFailure failure)
  modify fun session => { session with prepared? := some { prepared with outcome? := some outcome } }
  return true

/-- Runs a query with those parameters that it mentions; the connection is released on demand once
it has run, whatever became of it. -/
def queryExecute (query : String) (params : Params) (closing : Bool) : Action σ Bool := do
  if isBlankText query then throw .emptyQuery
  discard connect
  try
    discard (prepare query (Statement.mentioned query params))
    execute
  finally
    if closing then discard close

end SqlGateway.Session
