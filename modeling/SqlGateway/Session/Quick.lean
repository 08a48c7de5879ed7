import SqlGateway.Query.Insert
import SqlGateway.Query.Restricted
import SqlGateway.Session.Catalog

/-!
Quick queries: the four statements that a session writes itself. Every name is checked against a
fresh catalog before it is written into a statement.
-/

namespace SqlGateway.Session

variable {σ : Type} [Server σ]

def send (query : Query) : Action σ Unit := discard (queryExecute query.sql query.params false)

/-- The primary key is only asked for where a conflict is to update the row. -/
def writeInsert (table input : Value) (upsert : Bool) : Action σ Query := do
  let batch ← ofResult (Query.readRows input)
  require table batch.columns
  let key ← if upsert then primaryKey table else pure ""
  ofResult (Query.insert table input (.text key) upsert)

def writeUpdate (table : Value) (params record : Record) (conjunction : Query.Conjunction)
    (allRows : Bool) : Action σ Query := do
  require table (params.keys ++ record.keys)
  ofResult (Query.update table params record conjunction allRows)

def writeDelete (table : Value) (record : Record) (conjunction : Query.Conjunction)
    (allRows : Bool) : Action σ Query := do
  require table record.keys
  ofResult (Query.delete table record conjunction allRows)

def writeSelect (table : Value) (record : Record) (conjunction : Query.Conjunction) :
    Action σ Query := do
  require table record.keys
  ofResult (Query.select table record conjunction)

def insert (table input : Value) (upsert : Bool) : Action σ Int := do
  send (← writeInsert table input upsert)
  rowCount

def update (table : Value) (params record : Record) (conjunction : Query.Conjunction)
    (allRows : Bool) : Action σ Int := do
  send (← writeUpdate table params record conjunction allRows)
  rowCount

def delete (table : Value) (record : Record) (conjunction : Query.Conjunction) (allRows : Bool) :
    Action σ Int := do
  send (← writeDelete table record conjunction allRows)
  rowCount

def select (table : Value) (record : Record) (conjunction : Query.Conjunction) :
    Action σ (List Row) := do
  send (← writeSelect table record conjunction)
  rows

end SqlGateway.Session
