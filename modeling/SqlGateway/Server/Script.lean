import SqlGateway.Server.Basic
import SqlGateway.Text.Blank

/-!
A server that answers from a script: the catalog, the keys and the responses are given beforehand,
and a fault can be set at every point where a server may refuse. Sessions are rehearsed against it.
-/

namespace SqlGateway

namespace Script

inductive Point
  | createEngine
  | connect
  | catalog
  | primaryKeys
  | begin
  | commitTransaction
  | rollbackTransaction
  | commit
  | rollback
  | close
  deriving DecidableEq, Repr

structure Response where
  fault? : Option Fault := none
  /-- None if the statement returns no rows. -/
  columns? : Option (List String) := none
  rows : List (List Value) := []
  /-- The number of rows if not given. -/
  rowCount? : Option Int := none
  lastRowId : Option Int := some 0
  /-- Raised when the rows are fetched. -/
  fetchFault? : Option Fault := none

/-- A response to every statement that holds the needle, for a number of times if one is given. -/
structure Rule where
  needle : String
  times? : Option Nat
  response : Response
  used : Nat := 0

structure Line where
  closed : Bool := false
  dead : Bool := false
  /-- Inside a transaction that the connection began by itself. -/
  begun : Bool := false
  explicit : Bool := false

def Line.inTransaction (line : Line) : Bool := line.begun || line.explicit

end Script

open Script in
structure Script where
  catalog : List (List Value) := []
  primaryKeys : Entries String (List Value) := []
  probe : Response := { columns? := some ["1"], rows := [[.int 1]] }
  rules : List Rule := []
  faults : Entries Point Fault := []
  /-- Whether a request to begin is answered without opening a transaction. -/
  beginsNothing : Bool := false
  /-- The connections opened so far. -/
  lines : List Line := []

namespace Script

inductive Change
  | catalog (rows : List (List Value))
  | primaryKeys (keys : Entries String (List Value))
  | probe (response : Response)
  | rules (rules : List Rule)
  | fault (point : Point) (fault? : Option Fault)
  | beginsNothing (flag : Bool)
  /-- The latest connection goes dead. -/
  | drop

def updateLine (script : Script) (connection : Nat) (update : Line → Line) : Script :=
  { script with lines := script.lines.modify connection update }

def change (script : Script) : Change → Script
  | .catalog rows => { script with catalog := rows }
  | .primaryKeys keys => { script with primaryKeys := keys }
  | .probe response => { script with probe := response }
  | .rules rules => { script with rules }
  | .fault point none =>
    { script with faults := script.faults.filter fun entry => entry.1 ≠ point }
  | .fault point (some fault) => { script with faults := Entries.put point fault script.faults }
  | .beginsNothing flag => { script with beginsNothing := flag }
  | .drop => script.updateLine (script.lines.length - 1) fun line => { line with dead := true }

def line (script : Script) (connection : Nat) : Line :=
  script.lines[connection]?.getD { closed := true }

def occursIn (needle : List Char) : List Char → Bool
  | [] => needle.isEmpty
  | c :: rest => needle.isPrefixOf (c :: rest) || occursIn needle rest

def holds (sql needle : String) : Bool := occursIn needle.toList sql.toList

def table (columns : List String) (rows : List (List Value)) : List Row :=
  rows.map fun row => Entries.ofList (columns.zip row)

def reply (response : Response) : Except Fault Reply :=
  match response.fault? with
  | some fault => .error fault
  | none => .ok
    { rowCount := response.rowCount?.getD response.rows.length
      lastRowId := response.lastRowId
      table? := response.columns?.map fun columns =>
        ⟨columns, match response.fetchFault? with
          | some fault => .error fault
          | none => .ok (table columns response.rows)⟩ }

def faultAt (script : Script) (point : Point) : Except Fault Unit :=
  match Entries.get? point script.faults with
  | some fault => .error fault
  | none => .ok ()

def useRule (sql : String) : List Rule → Response × List Rule
  | [] => ({ rowCount? := some 1 }, [])
  | rule :: rest =>
    if holds sql rule.needle && rule.times?.all (rule.used < ·) then
      (rule.response, { rule with used := rule.used + 1 } :: rest)
    else
      let (response, others) := useRule sql rest
      (response, rule :: others)

def keyColumns (script : Script) (statement : Sent) : List Value :=
  match statement.params.find? fun param => param.name = "table_name" with
  | some ⟨_, some ⟨_, .text table⟩⟩ => (Entries.get? table script.primaryKeys).getD []
  | _ => []

def answer (script : Script) (statement : Sent) : Except Fault Reply × Script :=
  if Text.trim statement.sql = "SELECT 1" then (reply script.probe, script)
  else if holds statement.sql "`INFORMATION_SCHEMA`.`COLUMNS`" then
    (script.faultAt .catalog >>= fun _ => reply
      { columns? := some ["table_name", "column_name", "data_type"], rows := script.catalog }, script)
  else if holds statement.sql "`KEY_COLUMN_USAGE`" then
    (script.faultAt .primaryKeys >>= fun _ => reply
      { columns? := some ["column_name"], rows := (script.keyColumns statement).map ([·]) }, script)
  else
    let (response, rules) := useRule statement.sql script.rules
    (reply response, { script with rules })

def goneAway : Fault :=
  .server "server has gone away" [.int 2006, .text "MySQL server has gone away"] .null

def unbound (name : String) : Fault :=
  .library ("A value is required for bind parameter '" ++ name ++ "'")

def alreadyBegun : Fault := .library "a transaction is already begun for this connection"

def execute (script : Script) (connection : Nat) (statement : Sent) : Except Fault Reply × Script :=
  let line := script.line connection
  if line.dead || line.closed then (.error goneAway, script)
  else
    let script := if line.explicit then script
      else script.updateLine connection fun line => { line with begun := true }
    match statement.params.find? fun param => param.bound?.isNone with
    | some param => (.error (unbound param.name), script)
    | none => script.answer statement

def begin (script : Script) (connection : Nat) : Except Fault Bool × Script :=
  match script.faultAt .begin with
  | .error fault => (.error fault, script)
  | .ok () =>
    if script.beginsNothing then (.ok false, script)
    else if (script.line connection).inTransaction then (.error alreadyBegun, script)
    else (.ok true, script.updateLine connection fun line => { line with explicit := true })

def settle (script : Script) (point : Point) (change : Script → Script) :
    Except Fault Unit × Script :=
  match script.faultAt point with
  | .error fault => (.error fault, script)
  | .ok () => (.ok (), change script)

def respond : (event : Event) → Script → Except Fault event.Answer × Script
  | .createEngine _, script => script.settle .createEngine id
  | .connect _, script => script.settle .connect fun script => { script with lines := script.lines ++ [{}] }
  | .execute connection statement, script => script.execute connection statement
  | .begin connection, script => script.begin connection
  | .commitTransaction connection, script =>
    script.settle .commitTransaction (·.updateLine connection fun line => { line with explicit := false })
  | .rollbackTransaction connection, script =>
    script.settle .rollbackTransaction (·.updateLine connection fun line => { line with explicit := false })
  | .commit connection, script =>
    script.settle .commit (·.updateLine connection fun line => { line with begun := false })
  | .rollback connection, script =>
    script.settle .rollback (·.updateLine connection fun line => { line with begun := false })
  | .close connection, script =>
    script.settle .close (·.updateLine connection fun line => { line with closed := true })
  | .dispose, script => (.ok (), script)

instance : Server Script where
  respond := respond
  inTransaction connection script := (script.line connection).inTransaction

end Script

end SqlGateway
