import SqlGateway.Query.Basic
import SqlGateway.Query.Identifier

/-!
Insertion of one row or of many. A single row's placeholders are its columns; those of many rows end
in the number of the row. On a key conflict an upsert assigns every column but the key.
-/

namespace SqlGateway.Query

structure Rows where
  first : Record
  more : List Record
  /-- Whether the rows were given as a sequence, even of one. -/
  many : Bool

namespace Rows

def all (rows : Rows) : List Record := rows.first :: rows.more

def columns (rows : Rows) : List Value := rows.first.keys

def sameColumns (a b : Record) : Bool :=
  a.keys.all b.keys.contains && b.keys.all a.keys.contains

def record? : Value → Option Record
  | .mapping entries => some entries
  | _ => none

/-- The number of the first row whose columns are not those of `first`. -/
def differing? (first : Record) : Nat → List Record → Option Nat
  | _, [] => none
  | row, record :: rest =>
    if sameColumns first record then differing? first (row + 1) rest else some row

def ofRecords : List Record → Except InputProblem Rows
  | [] => .error .noRows
  | first :: more =>
    if first.isEmpty then .error .noColumns
    else match differing? first 1 more with
      | some row => .error (.columnsDiffer row)
      | none => .ok ⟨first, more, true⟩

def ofItems (items : List Value) : Except InputProblem Rows :=
  if items.isEmpty then .error .noRows
  else match items.mapM record? with
    | none => .error .rowNotMapping
    | some records => ofRecords records

/-- A mapping is one row; a list or a tuple of mappings is a sequence of rows. -/
def ofValue : Value → Except InputProblem Rows
  | .mapping entries => if entries.isEmpty then .error .noColumns else .ok ⟨entries, [], false⟩
  | .list items | .tuple items => ofItems items
  | _ => .error .notRows

end Rows

def readRows (input : Value) : Except Failure Rows :=
  (Rows.ofValue input).mapError .invalidParameters

def slot (many : Bool) (row : Nat) (column : Value) : String :=
  if many then column.display ++ "_" ++ toString row else column.display

def rowParams (rows : Rows) (row : Nat) (record : Record) : Params :=
  rows.columns.map fun column => (slot rows.many row column, (record.get? column).getD .null)

def rowTuple (rows : Rows) (row : Nat) : String :=
  "(" ++ ",".intercalate (rows.columns.map fun column => ":" ++ slot rows.many row column) ++ ")"

/-- The alias under which an upsert of many rows reads the new values. -/
def newRow : String := "`new`"

def assignment (rows : Rows) (table : String) (column : Value × String) : String :=
  if rows.many then table ++ "." ++ column.2 ++ " = " ++ newRow ++ "." ++ column.2
  else column.2 ++ " = :" ++ slot false 0 column.1

/-- The part of an upsert that says what a conflict assigns. If only the key was given it is
assigned to itself, so that a conflict changes nothing. -/
def conflictClause (rows : Rows) (table : String) (columns : List (Value × String))
    (primaryKey : Value) : Except Failure String :=
  let assigned := columns.filter fun column => !(column.1 == primaryKey)
  if assigned.isEmpty then
    (quote primaryKey).map fun key => " ON DUPLICATE KEY UPDATE " ++ key ++ " = " ++ key
  else
    .ok ((if rows.many then " AS " ++ newRow else "") ++ " ON DUPLICATE KEY UPDATE " ++
      ",".intercalate (assigned.map (assignment rows table)))

def insert (table input primaryKey : Value) (upsert : Bool) : Except Failure Query := do
  let rows ← readRows input
  let tableSql ← quote table
  let columnSql ← rows.columns.mapM quote
  let numbered := rows.all.zipIdx
  let values := ",".intercalate (numbered.map fun (_, row) => rowTuple rows row)
  let params := Entries.ofList (numbered.flatMap fun (record, row) => rowParams rows row record)
  let sql := "INSERT INTO " ++ tableSql ++ " (" ++ ",".intercalate columnSql ++ ") VALUES " ++ values
  let clause ← if upsert then conflictClause rows tableSql (rows.columns.zip columnSql) primaryKey
    else pure ""
  return ⟨sql ++ clause, params⟩

end SqlGateway.Query
