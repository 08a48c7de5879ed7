import SqlGateway.Session.Execution

/-!
Statements that stand or fall together: a whole batch in one call, or one statement at a time in a
transaction that stays open between calls. Whatever fails is followed by a rollback.
-/

namespace SqlGateway.Session

structure StatementResult where
  rows : List Row
  rowCount : Int
  lastInsertId : String
  deriving Repr

variable {σ : Type} [Server σ]

/-- A step that the server refuses or does not carry out. -/
def step (step : Step) (action : Action σ Bool) : Action σ Unit := do
  let done ← onFault action fun failure => throw (.stepFailed step failure)
  unless done do throw (.stepRefused step)

def runStatement (query : String) (params : Params) : Action σ StatementResult := do
  if isBlankText query then throw .emptyQuery
  discard (prepare query (Statement.mentioned query params))
  discard execute
  return ⟨← rows, ← rowCount, ← insertId⟩

def runStatements : List (String × Params) → Action σ (List StatementResult)
  | [] => return []
  | (query, params) :: rest => do
    let result ← runStatement query params
    return result :: (← runStatements rest)

def asTransactionFailure (failure : Failure) : Failure :=
  if failure.isTransaction then failure else .stepFailed .statement failure

def connectForBatch : Action σ Unit :=
  tryCatch (discard connect) fun failure =>
    throw (if failure.kind = .connection then .stepFailed .statement failure else failure)

def runBatch (queries : List (String × Params)) : Action σ (List StatementResult) := do
  step .begin begin
  let results ← runStatements queries
  step .commit commit
  return results

/-- A rollback that the server refuses is let pass. -/
def undoBatch (failure : Failure) : Action σ (List StatementResult) := do
  onFault (discard rollback) fun _ => pure ()
  throw (asTransactionFailure failure)

def transactionExecute (queries : List (String × Params)) : Action σ (List StatementResult) := do
  connectForBatch
  if (← get).inTransaction then throw .transactionInProgress
  tryCatch (runBatch queries) undoBatch

/-- Runs one statement in the open transaction, which is opened if there is none and ends only on
demand. A rollback that the server refuses is reported with the failure that asked for it. -/
def transaction (query : String) (params : Params) (committing closing : Bool) :
    Action σ StatementResult := do
  let whole : Action σ StatementResult := do
    unless (← get).inTransaction do
      discard connect
      step .begin begin
    let result ← runStatement query params
    if committing then step .commit commit
    return result
  let result ← tryCatch whole fun failure => do
    onFault (discard rollback) fun refused => throw (.rollbackFailed failure refused)
    throw (asTransactionFailure failure)
  if committing && closing then discard close
  return result

end SqlGateway.Session
