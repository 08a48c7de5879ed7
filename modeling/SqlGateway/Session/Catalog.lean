import SqlGateway.Session.Execution

/-!
The catalog of the database: tables with their columns and types as the server listed them last.
Names are looked up after trimming.
-/

namespace SqlGateway

namespace Catalog

def columnsOf (catalog : Catalog) (table : String) : Entries String String :=
  (Entries.get? table catalog).getD []

/-- A table keeps the place where it was first listed, and a column takes the last type listed. -/
def add (catalog : Catalog) (table column type : String) : Catalog :=
  Entries.put table (Entries.put column type (columnsOf catalog table)) catalog

def listing (row : Row) : Except Failure (String × String × String) := do
  let type ← Session.column "data_type" row
  let table ← Session.column "table_name" row
  let column ← Session.column "column_name" row
  return (table.display, column.display, type.display)

def ofRows (rows : List Row) : Except Failure Catalog := do
  let listed ← rows.mapM listing
  return listed.foldl (fun catalog (table, column, type) => add catalog table column type) []

/-- What is found under a value as it is, which is nothing for a key that is no text. -/
def under? {α : Type} (entries : Entries String α) : Value → Except Failure (Option α)
  | .text name => .ok (Entries.get? name entries)
  | key => if key.unhashable?.isSome then .error (.unhashable key) else .ok none

/-- What is found under a name without the spaces at its ends. Octets have ends too, but are no text. -/
def named? {α : Type} (entries : Entries String α) : Value → Except Failure (Option α)
  | .text name => .ok (Entries.get? (Text.trim name) entries)
  | .bytes _ => .ok none
  | value => .error (.untrimmable value)

def listed (catalog : Catalog) (table : Value) : Except Failure (Entries String String) :=
  (under? catalog table).map (·.getD [])

def type? (catalog : Catalog) (table column : Value) : Except Failure (Option String) := do
  under? (← catalog.listed table) column

/-- A table that is not true is not trimmed. -/
def table? (catalog : Catalog) (table : Value) : Except Failure (Option (Entries String String)) :=
  if table.truthy then named? catalog table else under? catalog table

/-- A column that is null stands for the table alone. -/
def contains (catalog : Catalog) (table column : Value) : Except Failure Bool := do
  match ← catalog.table? table, column with
  | none, _ => return false
  | some _, .null => return true
  | some columns, column => return (← named? columns column).isSome

def check (catalog : Catalog) (table column : Value) (missing : Failure) : Except Failure Unit := do
  unless ← catalog.contains table column do throw missing

def require (catalog : Catalog) (table : Value) (columns : List Value) : Except Failure Unit := do
  catalog.check table .null (.invalidTable table .named)
  columns.forM fun column => catalog.check table column (.invalidColumn table column none)

end Catalog

namespace Session

def listingQuery : String := "
        SELECT `TABLE_NAME` AS table_name, `COLUMN_NAME` AS column_name, `DATA_TYPE` AS data_type
        FROM `INFORMATION_SCHEMA`.`COLUMNS`
        WHERE `TABLE_SCHEMA` = :database_name
        ORDER BY `TABLE_NAME`, `ORDINAL_POSITION`
    "

def primaryKeyQuery : String := "
        SELECT `COLUMN_NAME` AS column_name
        FROM `INFORMATION_SCHEMA`.`KEY_COLUMN_USAGE`
        WHERE `TABLE_SCHEMA` = :database_name
          AND `TABLE_NAME` = :table_name
          AND `CONSTRAINT_NAME` = 'PRIMARY'
        ORDER BY `ORDINAL_POSITION`
    "

variable {σ : Type} [Server σ]

def databaseName : Action σ String := return (← get).descriptor.database

/-- Answers false, and keeps the catalog, if the server refuses to list it. -/
def loadCatalog : Action σ Bool := do
  let params := [("database_name", Value.text (← databaseName))]
  let listed ← tryCatch (queryExecute listingQuery params false) fun failure =>
    if failure.kind = .queryFailed then return false else throw failure
  if listed then
    let catalog ← ofResult (Catalog.ofRows (← rows))
    modify fun session => { session with catalog }
  return listed

def validSchema (table column : Value) : Action σ Bool := do
  discard loadCatalog
  ofResult ((← get).catalog.contains table column)

/-- Loads the catalog again if the table is not in the one at hand. -/
def validTable (table : Value) : Action σ Bool := do
  if (← get).catalog.isEmpty then discard loadCatalog
  if ← ofResult ((← get).catalog.contains table .null) then return true
  validSchema table .null

def require (table : Value) (columns : List Value) : Action σ Unit := do
  discard loadCatalog
  ofResult ((← get).catalog.require table columns)

/-- The column of the primary key, or the empty text if there is none. -/
def findKey (table : Value) : Action σ String := do
  let params := [("database_name", Value.text (← databaseName)),
    ("table_name", .text (Text.trim table.display))]
  discard (queryExecute primaryKeyQuery params false)
  match ← rows with
  | [] | [] :: _ => return ""
  | row :: _ => return (← ofResult (column "column_name" row)).display

def primaryKey (table : Value) : Action σ String := do
  unless ← validSchema table .null do throw (.invalidTable table .primaryKey)
  findKey table

end Session

end SqlGateway
