import SqlGateway.Session.Quick
import SqlGateway.Session.Transaction

/-!
The calls that a session takes, and what they answer. A call is data, so that a run of a session is a
list of calls; the calls on its parts reach the connection, the statement and the catalog directly.
-/

namespace SqlGateway.Session

inductive Answer
  | nothing
  | flag (isSo : Bool)
  | count (n : Int)
  | text (s : String)
  | textOrNone (s? : Option String)
  | names (names : List String)
  | row (row : Row)
  | rows (rows : List Row)
  | pairs (pairs : Record)
  | outcome (outcome : Outcome)
  | result (result : StatementResult)
  | results (results : List StatementResult)
  | descriptor (descriptor : Descriptor)
  | catalog (catalog : Catalog)

inductive Call
  | configure (target : Target)
  | setField (field : Field) (value : Option String)
  | connect
  | checkConnection
  | close
  | enter
  | leave
  | descriptor
  | queryExecute (query : String) (params : Params) (closing : Bool)
  | results (firstOnly : Bool)
  | rowCount
  | lastInsertId
  | keyPair
  | transactionExecute (queries : List (String × Params))
  | transaction (query : String) (params : Params) (committing closing : Bool)
  | rollback
  | insert (table input : Value) (upsert : Bool)
  | update (table : Value) (params record : Record) (conjunction : Query.Conjunction) (allRows : Bool)
  | delete (table : Value) (record : Record) (conjunction : Query.Conjunction) (allRows : Bool)
  | select (table : Value) (record : Record) (conjunction : Query.Conjunction)
  | loadCatalog
  | validSchema (table column : Value)
  | validTable (table : Value)
  | primaryKey (table : Value)

inductive ConnectionCall
  | connect
  | checkConnection
  | close
  | configure (target : Target)
  | setField (field : Field) (value : Option String)
  | begin
  | commit
  | rollback
  | inTransaction
  | connected
  | lastInsertId
  | descriptor
  | database
  | execute (query : String) (params : Params)

inductive StatementCall
  | prepare (query : String) (params : Params)
  | bind (name : String) (value : Value)
  | execute
  | results (firstOnly : Bool)
  | rowCount
  | keyPair
  | reset
  | queryExecute (query : String) (params : Params) (closing : Bool)
  | statement

inductive CatalogCall
  | load
  | require (table : Value) (columns : List Value)
  | tables
  | columns (table : Value)
  | columnType (table column : Value)
  | snapshot

variable {σ : Type}

/-- The rows of the last statement, or the first of them alone if it is asked for and there is one. -/
def readRows (firstOnly : Bool) : Action σ Answer := do
  match firstOnly, ← rows with
  | true, row :: _ => return .row row
  | _, found => return .rows found

variable [Server σ]

/-- The statement goes with the connection. -/
def release : Action σ Bool := do
  reset
  close

def Call.run : Call → Action σ Answer
  | .configure target => do
    reset
    Session.configure target
    return .nothing
  | .setField field value => do
    reset
    Session.setField field value
    return .nothing
  | .connect => return .flag (← Session.connect)
  | .checkConnection => return .flag (← Session.checkConnection)
  | .close => return .flag (← release)
  | .enter => return .flag true
  | .leave => do
    discard release
    return .nothing
  | .descriptor => return .descriptor (← get).descriptor
  | .queryExecute query params closing => return .flag (← Session.queryExecute query params closing)
  | .results firstOnly => readRows firstOnly
  | .rowCount => return .count (← Session.rowCount)
  | .lastInsertId => return .text (← insertId)
  | .keyPair => return .pairs (← Session.keyPair)
  | .transactionExecute queries => return .results (← Session.transactionExecute queries)
  | .transaction query params committing closing =>
    return .result (← Session.transaction query params committing closing)
  | .rollback => return .flag (← Session.rollback)
  | .insert table input upsert => return .count (← Session.insert table input upsert)
  | .update table params record conjunction allRows =>
    return .count (← Session.update table params record conjunction allRows)
  | .delete table record conjunction allRows =>
    return .count (← Session.delete table record conjunction allRows)
  | .select table record conjunction => return .rows (← Session.select table record conjunction)
  | .loadCatalog => return .flag (← Session.loadCatalog)
  | .validSchema table column => return .flag (← Session.validSchema table column)
  | .validTable table => return .flag (← Session.validTable table)
  | .primaryKey table => return .text (← Session.primaryKey table)

def runText (query : String) (params : Params) : Action σ Outcome := do
  let statement ← ofResult (params.foldlM (fun (statement : Statement) (name, value) =>
    statement.bind name value) (.ofText query))
  run statement

def ConnectionCall.run : ConnectionCall → Action σ Answer
  | .connect => return .flag (← Session.connect)
  | .checkConnection => return .flag (← Session.checkConnection)
  | .close => return .flag (← Session.close)
  | .configure target => do
    Session.configure target
    return .nothing
  | .setField field value => do
    Session.setField field value
    return .nothing
  | .begin => return .flag (← Session.begin)
  | .commit => return .flag (← Session.commit)
  | .rollback => return .flag (← Session.rollback)
  | .inTransaction => return .flag (← get).inTransaction
  | .connected => return .flag (← get).handle?.isSome
  | .lastInsertId => return .text (← insertId)
  | .descriptor => return .descriptor (← get).descriptor
  | .database => return .text (← get).descriptor.database
  | .execute query params => return .outcome (← runText query params)

def StatementCall.run : StatementCall → Action σ Answer
  | .prepare query params => return .flag (← Session.prepare query params)
  | .bind name value => return .flag (← Session.bind name value)
  | .execute => return .flag (← Session.execute)
  | .results firstOnly => readRows firstOnly
  | .rowCount => return .count (← Session.rowCount)
  | .keyPair => return .pairs (← Session.keyPair)
  | .reset => do
    Session.reset
    return .nothing
  | .queryExecute query params closing => return .flag (← Session.queryExecute query params closing)
  | .statement => return .textOrNone ((← get).prepared?.map fun prepared => prepared.statement.text)

def CatalogCall.run : CatalogCall → Action σ Answer
  | .load => return .flag (← Session.loadCatalog)
  | .require table wanted => do
    Session.require table wanted
    return .nothing
  | .tables => return .names (← get).catalog.keys
  | .columns table => return .names (← ofResult ((← get).catalog.listed table)).keys
  | .columnType table column => return .textOrNone (← ofResult ((← get).catalog.type? table column))
  | .snapshot => return .catalog (← get).catalog

inductive Request
  | call (call : Call)
  | connection (call : ConnectionCall)
  | statement (call : StatementCall)
  | catalog (call : CatalogCall)

def Request.run : Request → Action σ Answer
  | .call asked => asked.run
  | .connection asked => asked.run
  | .statement asked => asked.run
  | .catalog asked => asked.run

end SqlGateway.Session
