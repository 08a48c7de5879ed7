import SqlGateway.Settings.Basic
import SqlGateway.Statement.Binding

/-!
What a session can ask of a server. Every request is an event, answered according to its kind or
with a fault, and nothing is assumed about when a server answers and when it does not.
-/

namespace SqlGateway

structure EngineOptions where
  driver : String
  user : String
  password : String
  host : String
  port : Int
  database : String
  charset : String
  echo : Bool
  connectTimeout : Binary64
  deriving DecidableEq, Repr

/-- A request to the server; connections are numbered from zero in the order of their opening. -/
inductive Event
  | createEngine (options : EngineOptions)
  | connect (connection : Nat)
  | execute (connection : Nat) (statement : Sent)
  | begin (connection : Nat)
  /-- The end of the explicit transaction. -/
  | commitTransaction (connection : Nat)
  | rollbackTransaction (connection : Nat)
  /-- The end of the transaction that a connection begins by itself. -/
  | commit (connection : Nat)
  | rollback (connection : Nat)
  | close (connection : Nat)
  | dispose
  deriving Repr

/-- The columns of a result and its rows, which may fail to arrive. -/
structure Table where
  columns : List String
  rows : Except Fault (List Row)

structure Reply where
  rowCount : Int
  lastRowId : Option Int
  table? : Option Table

/-- A request to begin is answered by whether a transaction is open now. -/
@[reducible]
def Event.Answer : Event → Type
  | .execute _ _ => Reply
  | .begin _ => Bool
  | _ => Unit

structure Exchange where
  event : Event
  answer : Except Fault event.Answer

class Server (σ : Type) where
  respond : (event : Event) → σ → Except Fault event.Answer × σ
  /-- Whether a connection is inside a transaction of either kind. -/
  inTransaction : Nat → σ → Bool

end SqlGateway
