import SqlGateway.Value.Text

/-!
Faults and failures. A fault is raised by the server or on the way to it; a failure is what a call
ends with. Every failure is a cause, belongs to one kind, and has its wording in `Failure.message`.
-/

namespace SqlGateway

inductive Fault
  /-- The server refused, with the arguments and the state it gave; null if it gave no state. -/
  | server (text : String) (args : List Value) (sqlstate : Value)
  /-- The library that talks to the server refused. -/
  | library (text : String)
  /-- An error of any other origin. -/
  | foreign (text : String)
  deriving Repr

namespace Fault

/-- Whether the gateway knows the fault as one of the server or its library. -/
def recognised : Fault → Bool
  | .foreign _ => false
  | _ => true

def message : Fault → String
  | .server text _ _ | .library text | .foreign text => text

end Fault

inductive InputProblem
  | noColumns
  | notRows
  | noRows
  | rowNotMapping
  | columnsDiffer (row : Nat)
  | unquotable (name : Value)
  | nothingToUpdate (table : Value)
  deriving Repr

def InputProblem.message : InputProblem → String
  | .noColumns => "Cannot insert a row without columns."
  | .notRows => "Insert expects a mapping or a sequence of mappings."
  | .noRows => "Cannot insert an empty sequence of rows."
  | .rowNotMapping => "Every row of a multi-row insert must be a mapping."
  | .columnsDiffer row => s!"Row {row} does not have the same columns as row 0."
  | .unquotable name => "Refusing to quote identifier " ++ name.literal ++ "."
  | .nothingToUpdate table => "Nothing to update in " ++ table.display ++ "."

inductive TableUse
  | named
  | primaryKey
  | stated (text : String)
  deriving Repr

inductive Step
  | begin
  | statement
  | commit
  deriving DecidableEq, Repr

inductive Failure.Kind
  | general
  | missingSetting
  | connection
  | emptyQuery
  | invalidTable
  | invalidColumn
  | invalidParameters
  | unrestricted
  | collectionBound
  | bindFailed
  | queryFailed
  | transactionInProgress
  | transactionFailed
  | beginFailed
  | commitFailed
  | rollbackFailed
  | serverFault
  | libraryFault
  | foreignFault
  | absentColumn
  | invalidOperation
  | noSuchMethod
  | wrongType
  deriving DecidableEq, Repr

def Step.kind : Step → Failure.Kind
  | .begin => .beginFailed
  | .statement => .transactionFailed
  | .commit => .commitFailed

inductive Failure
  | missingSetting (field : Value)
  | refused (database host : String) (cause : Fault)
  | notConnected
  | emptyQuery
  | invalidTable (table : Value) (use : TableUse)
  | invalidColumn (table column : Value) (stated : Option String)
  | invalidParameters (problem : InputProblem)
  | unrestricted (table : Value)
  /-- A collection where a single value is wanted. -/
  | collection (kind : String)
  | collectionBound (name : String)
  | bindFailed (name value : Value) (reason : String)
  | queryFailed (text : String) (sqlstate code : Value)
  | transactionInProgress
  /-- The step ended with the failure given. -/
  | stepFailed (step : Step) (cause : Failure)
  /-- The step was answered, but not carried out. -/
  | stepRefused (step : Step)
  | rollbackFailed (cause rollback : Failure)
  | fault (cause : Fault)
  | absentColumn (name : String)
  /-- A signalling number was computed with. -/
  | invalidOperation
  /-- The ends of a value that has none were to be trimmed. -/
  | untrimmable (value : Value)
  /-- A value that is no key was looked up. -/
  | unhashable (value : Value)
  /-- A failure of a kind, in the words of whoever raised it. -/
  | stated (kind : Failure.Kind) (words : List Value)
  deriving Repr

namespace Failure

def kind : Failure → Kind
  | .missingSetting _ => .missingSetting
  | .refused _ _ _ | .notConnected => .connection
  | .emptyQuery => .emptyQuery
  | .invalidTable _ _ => .invalidTable
  | .invalidColumn _ _ _ => .invalidColumn
  | .invalidParameters _ => .invalidParameters
  | .unrestricted _ => .unrestricted
  | .collection _ | .collectionBound _ => .collectionBound
  | .bindFailed _ _ _ => .bindFailed
  | .queryFailed _ _ _ => .queryFailed
  | .transactionInProgress => .transactionInProgress
  | .stepFailed step _ | .stepRefused step => step.kind
  | .rollbackFailed _ _ => .rollbackFailed
  | .fault (.server _ _ _) => .serverFault
  | .fault (.library _) => .libraryFault
  | .fault (.foreign _) => .foreignFault
  | .absentColumn _ => .absentColumn
  | .invalidOperation => .invalidOperation
  | .untrimmable _ => .noSuchMethod
  | .unhashable _ => .wrongType
  | .stated kind _ => kind

def isTransaction (failure : Failure) : Bool :=
  match failure.kind with
  | .transactionFailed | .beginFailed | .commitFailed | .rollbackFailed => true
  | _ => false

/-- Whether the failure is a fault that the gateway knows and has not wrapped yet. -/
def isRecognisedFault : Failure → Bool
  | .fault cause => cause.recognised
  | _ => false

def cause? : Failure → Option Failure
  | .stepFailed _ cause => some cause
  | .rollbackFailed cause _ => some cause
  | _ => none

def orElse (text : Option String) (standing : String) : String :=
  match text with
  | some words => if words.isEmpty then standing else words
  | none => standing

def tableMessage (table : Value) : TableUse → String
  | .named => "Invalid table: " ++ table.display
  | .primaryKey => "Cannot get primary key of invalid table: " ++ table.display
  | .stated text => orElse (some text) ("Invalid table: " ++ table.display)

def bindMessage (name value : Value) (reason : String) : String :=
  "Failed to bind " ++ value.literal ++ " to :" ++ name.display ++
    if reason.isEmpty then "" else " (" ++ reason ++ ")"

def queryMessage (text : String) (sqlstate code : Value) : String :=
  (if code.isNull then "Query error" else "MySQL error " ++ code.display) ++ ": " ++ text ++
    if sqlstate.truthy then " (" ++ sqlstate.display ++ ")" else ""

/-- One word stands for itself; several stand as a tuple. -/
def statedMessage : List Value → String
  | [] => ""
  | [word] => word.display
  | words => (Value.tuple words).literal

def stepOpening : Step → String
  | .begin => "Failed to begin new transaction"
  | .statement => "Failed to run transaction"
  | .commit => "Failed to commit transaction"

def message : Failure → String
  | .missingSetting field => "Missing database " ++ field.display ++ "."
  | .refused database host cause =>
    "Failed to connect to '" ++ database ++ "' on '" ++ host ++ "': " ++ cause.message
  | .notConnected => "No open database connection; call connect() first."
  | .emptyQuery => "Empty query provided."
  | .invalidTable table use => tableMessage table use
  | .invalidColumn table column words =>
    orElse words ("Invalid column: " ++ table.display ++ "." ++ column.display)
  | .invalidParameters problem => problem.message
  | .unrestricted table =>
    "Refusing to touch every row of " ++ table.display ++ " without all_rows=True."
  | .collection kind => "Cannot bind " ++ kind ++ " value; flatten it first."
  | .collectionBound name => "Cannot bind array type to :" ++ name
  | .bindFailed name value reason => bindMessage name value reason
  | .queryFailed text sqlstate code => queryMessage text sqlstate code
  | .transactionInProgress => "Unable to start new transaction while one is already in progress."
  | .stepFailed .statement cause => cause.message
  | .stepFailed step cause => stepOpening step ++ ": " ++ cause.message
  | .stepRefused step => stepOpening step ++ "."
  | .rollbackFailed cause rollback =>
    cause.message ++ " -- AND -- Failed to rollback database transaction: " ++ rollback.message
  | .fault cause => cause.message
  | .absentColumn name => Text.quoted name
  | .invalidOperation => "[<class 'decimal.InvalidOperation'>]"
  | .untrimmable value => "'" ++ value.typeName ++ "' object has no attribute 'strip'"
  | .unhashable value => (value.unhashable?).getD ""
  | .stated _ words => statedMessage words

end Failure

end SqlGateway
