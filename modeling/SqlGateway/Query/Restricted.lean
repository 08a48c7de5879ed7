import SqlGateway.Query.Basic
import SqlGateway.Query.Restriction

/-!
Statements with a restriction: update, delete and select. The parameters of an assignment and of a
restriction begin differently, so that no column can make them collide.
-/

namespace SqlGateway.Query

def assignmentOpening : String := "set_"

def restrictionOpening : String := "where_"

def setClause (entry : Value × Value) : Except Failure String :=
  (quote entry.1).map fun column => column ++ " = :" ++ assignmentOpening ++ entry.1.display

def setParams (params : Record) : Params :=
  params.map fun entry => (assignmentOpening ++ entry.1.display, entry.2)

def update (table : Value) (params record : Record) (conjunction : Conjunction) (allRows : Bool) :
    Except Failure Query := do
  if params.isEmpty then throw (.invalidParameters (.nothingToUpdate table))
  let assignments ← params.mapM setClause
  let tableSql ← quote table
  let (text, restricting) ← restriction table record conjunction allRows restrictionOpening
  return ⟨"UPDATE " ++ tableSql ++ " SET " ++ ",".intercalate assignments ++ text,
    Entries.putAll (Entries.ofList (setParams params)) restricting⟩

def delete (table : Value) (record : Record) (conjunction : Conjunction) (allRows : Bool) :
    Except Failure Query := do
  let (text, params) ← restriction table record conjunction allRows ""
  let tableSql ← quote table
  return ⟨"DELETE FROM " ++ tableSql ++ text, params⟩

def select (table : Value) (record : Record) (conjunction : Conjunction) : Except Failure Query := do
  let (text, params) ← restriction table record conjunction true ""
  let tableSql ← quote table
  return ⟨"SELECT * FROM " ++ tableSql ++ text, params⟩

end SqlGateway.Query
