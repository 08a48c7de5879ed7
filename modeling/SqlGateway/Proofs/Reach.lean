import Mathlib.Logic.Relation
import SqlGateway.Proofs.Operating
import SqlGateway.Server.Script

/-!
Runs of a session: its creation and then calls in any order, between which the server may change by
itself. Every call moves the session by operations on the connection alone, a transaction is begun
only where none is open and the session has just connected, and another descriptor is taken only where
no connection is held.
-/

namespace SqlGateway.Session

variable {σ α : Type}

inductive Move (session : Session σ) : Session σ → Prop
  | closed {result : Except Failure Bool} {final : Session σ} :
      Closes session result final → Move session final
  | ran {statement : Statement} {result : Except Failure Outcome} {final : Session σ} :
      Runs statement session result final → Move session final
  | opened {result : Except Failure Unit} {final : Session σ} : session.handle? = none →
      Opens session result final → Move session final
  | begun {connection : Nat} {result : Except Failure Bool} {final : Session σ} :
      Fresh connection session → Begins session result final → Move session final
  | committed {result : Except Failure Bool} {final : Session σ} :
      Commits session result final → Move session final
  | rolledBack {result : Except Failure Bool} {final : Session σ} :
      RollsBack session result final → Move session final
  | remembered (prepared? : Option Prepared) (catalog : Catalog) :
      Move session { session with prepared?, catalog }
  | redirected (descriptor : Descriptor) : session.handle? = none → session.engine = false →
      Move session { session with descriptor }

abbrev Moves : Session σ → Session σ → Prop := Relation.ReflTransGen Move

theorem Moves.invariant {holds : Session σ → Prop} {session final : Session σ}
    (moves : Moves session final)
    (move : ∀ {session final}, Move session final → holds session → holds final)
    (here : holds session) : holds final := by
  induction moves with
  | refl => exact here
  | tail _ last ih => exact move last ih

theorem Move.grows {session final : Session σ} (move : Move session final) :
    session.log <+: final.log := by
  cases move with
  | closed closes => exact closes.outer.grows
  | ran runs => exact runs.within.adds.grows
  | opened absent opens => exact (opens.within probe.sent).adds.grows
  | begun fresh begins => cases begins <;> simp [withTransaction]
  | committed commits => cases commits <;> simp [withTransaction]
  | rolledBack rollsBack => cases rollsBack <;> simp [withTransaction]
  | remembered prepared? catalog => exact List.prefix_rfl
  | redirected descriptor absent engine => exact List.prefix_rfl

theorem Moves.grows {session final : Session σ} (moves : Moves session final) :
    session.log <+: final.log := by
  induction moves with
  | refl => exact List.prefix_rfl
  | tail _ move ih => exact ih.trans move.grows

theorem operating_moves : Operating (Moves (σ := σ)) where
  refl _ := .refl
  trans := .trans
  prepare session prepared? := .single (.remembered prepared? session.catalog)
  closed closes := .single (.closed closes)
  run runs := .single (.ran runs)
  opened absent opens := .single (.opened absent opens)
  begun fresh begins := .single (.begun fresh begins)
  committed commits := .single (.committed commits)
  rolledBack rollsBack := .single (.rolledBack rollsBack)

theorem steady_moves : Steady (Moves (σ := σ)) :=
  operating_moves.handling.steady fun session catalog => .single (.remembered session.prepared? catalog)

theorem redirecting_moves : Redirecting (Moves (σ := σ)) where
  toOperating := operating_moves
  redirect _ descriptor absent engineless := .single (.redirected descriptor absent engineless)

theorem create_eq {settings : Settings} {echo : Bool} {target : Target} {server : σ}
    {session : Session σ} (created : create settings echo target server = .ok session) :
    ∃ descriptor, session = { settings, echo, descriptor, server } := by
  unfold create at created
  cases described : describe settings target with
  | error failure => cases described ▸ created
  | ok descriptor =>
    rw [described] at created
    exact ⟨descriptor, (Except.ok.inj created).symm⟩

section

variable [Server σ]

theorem keeps_rollback : Keeps Moves (rollback : Action σ Bool) := operating_moves.handling.rollback

theorem keeps_commit : Keeps Moves (step .commit commit : Action σ Unit) := operating_moves.handling.stepCommit

theorem keeps_runStatement (query : String) (params : Params) :
    Keeps Moves (runStatement query params : Action σ StatementResult) :=
  operating_moves.handling.runStatement query params

theorem keeps_runStatements (queries : List (String × Params)) :
    Keeps Moves (runStatements queries : Action σ (List StatementResult)) :=
  operating_moves.handling.runStatements queries

theorem keeps_undo (failure : Failure) (handler : Failure → Action σ Unit)
    (keeps : ∀ refused, Keeps Moves (handler refused)) :
    Keeps Moves (do
      onFault (discard rollback) handler
      throw (asTransactionFailure failure) : Action σ α) :=
  operating_moves.handling.undo failure handler keeps

theorem keeps_call (call : Call) : Keeps Moves (call.run : Action σ Answer) := by
  by_cases redirects : call.Redirects
  · have called : (Request.call call).Redirects := redirects
    exact redirecting_moves.request called
  · by_cases consults : call.Consults
    · exact steady_moves.call consults
    · exact operating_moves.handling.call redirects consults

theorem keeps_catalogCall (call : CatalogCall) : Keeps Moves (call.run : Action σ Answer) :=
  steady_moves.catalogCall call

/-- The states of a session that has run calls, on itself or on its catalog, since it was created.
Between two calls the server may come to be in any state. -/
inductive Reachable : Session σ → Prop
  | created {settings : Settings} {echo : Bool} {target : Target} {server : σ} {session : Session σ} :
      create settings echo target server = .ok session → Reachable session
  | called (call : Call) {session : Session σ} : Reachable session → Reachable (after call.run session)
  | consulted (call : CatalogCall) {session : Session σ} : Reachable session →
      Reachable (after call.run session)
  | elsewhere (server : σ) {session : Session σ} : Reachable session →
      Reachable { session with server }

/-- What holds at first, is kept by every operation on the connection and says nothing of the server
holds in every reachable state. -/
theorem Reachable.invariant {holds : Session σ → Prop} {session : Session σ}
    (reachable : Reachable session)
    (fresh : ∀ settings echo descriptor server, holds { settings, echo, descriptor, server })
    (move : ∀ {session final}, Move session final → holds session → holds final)
    (elsewhere : ∀ {session} server, holds session → holds { session with server }) :
    holds session := by
  induction reachable with
  | created fromSettings =>
    obtain ⟨descriptor, rfl⟩ := create_eq fromSettings
    exact fresh _ _ descriptor _
  | called call _ ih => exact Moves.invariant ((keeps_call call).after _) move ih
  | consulted call _ ih => exact Moves.invariant ((keeps_catalogCall call).after _) move ih
  | elsewhere server _ ih => exact elsewhere server ih

inductive Later (start : Session σ) : Session σ → Prop
  | refl : Later start start
  | called (call : Call) {session : Session σ} : Later start session →
      Later start (after call.run session)
  | consulted (call : CatalogCall) {session : Session σ} : Later start session →
      Later start (after call.run session)
  | elsewhere (server : σ) {session : Session σ} : Later start session →
      Later start { session with server }

theorem Later.reachable {start session : Session σ} (later : Later start session)
    (reachable : Reachable start) : Reachable session := by
  induction later with
  | refl => exact reachable
  | called call _ ih => exact .called call ih
  | consulted call _ ih => exact .consulted call ih
  | elsewhere server _ ih => exact .elsewhere server ih

end

def rehearsed : Session Script where
  settings := {}
  echo := false
  descriptor := ⟨"host", "user", "secret", "shop", 3306⟩
  server := {}

theorem rehearsed_created :
    create {} false ⟨some "host", some "user", some "secret", some "shop"⟩ {} = .ok rehearsed := rfl

theorem rehearsed_reachable : Reachable rehearsed := .created rehearsed_created

def rehearsedInside : Session Script :=
  after (Call.transaction "SELECT 2" [] false false).run rehearsed

theorem rehearsedInside_reachable : Reachable rehearsedInside :=
  .called (.transaction "SELECT 2" [] false false) rehearsed_reachable

theorem rehearsedInside_bracketed : bracketed? rehearsedInside = some 0 := by decide +kernel

def unwell : Script := rehearsedInside.server.change
  (.probe { columns? := some ["1"], rows := [[.int 2]] })

end SqlGateway.Session
