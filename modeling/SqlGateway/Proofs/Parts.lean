import SqlGateway.Proofs.Reach

/-!
Runs in which the parts of a session are reached directly as well: its connection, its statement and its
catalog. Such a call moves the session as a call on the whole does, except that a transaction can be begun
while one is open.
-/

namespace SqlGateway.Session

variable {σ α : Type}

/-- What one call does, on the session or on a part of it. -/
def Turns (session final : Session σ) : Prop :=
  Moves session final ∨ ∃ result, Begins session result final

theorem Keeps.turns {action : Action σ α} (keeps : Keeps Moves action) : Keeps Turns action where
  ends session := ends_mono (keeps.ends session) (fun _ _ => .inl) fun _ _ => .inl

variable [Server σ]

theorem keeps_statementCall (call : StatementCall) : Keeps Moves (call.run : Action σ Answer) :=
  operating_moves.handling.statementCall call

theorem turns_connectionCall (call : ConnectionCall) : Keeps Turns (call.run : Action σ Answer) := by
  by_cases redirects : call.Redirects
  · have called : (Request.connection call).Redirects := redirects
    exact (redirecting_moves.request called).turns
  · by_cases begins : call = .begin
    · subst begins
      constructor
      intro session
      simp only [ConnectionCall.run, ends_bind, ends_pure]
      exact ends_mono (begin_meets session) (fun _ _ begins => .inr ⟨_, begins⟩)
        fun _ _ begins => .inr ⟨_, begins⟩
    · exact (operating_moves.handling.connectionCall redirects fun same => absurd same begins).turns

theorem turns_request (request : Request) : Keeps Turns (request.run : Action σ Answer) := by
  cases request with
  | call asked => exact (keeps_call asked).turns
  | connection asked => exact turns_connectionCall asked
  | statement asked => exact (keeps_statementCall asked).turns
  | catalog asked => exact (keeps_catalogCall asked).turns

/-- The states of a session that has taken requests of any kind since it was created. Between two
requests the server may come to be in any state. -/
inductive Driven : Session σ → Prop
  | created {settings : Settings} {echo : Bool} {target : Target} {server : σ} {session : Session σ} :
      create settings echo target server = .ok session → Driven session
  | asked (request : Request) {session : Session σ} : Driven session →
      Driven (after request.run session)
  | elsewhere (server : σ) {session : Session σ} : Driven session → Driven { session with server }

/-- What holds at first, is kept by every operation on the connection and says nothing of the server
holds all along. -/
theorem Driven.invariant {holds : Session σ → Prop} {session : Session σ} (driven : Driven session)
    (fresh : ∀ settings echo descriptor server, holds { settings, echo, descriptor, server })
    (move : ∀ {session final}, Move session final → holds session → holds final)
    (begins : ∀ {session final result}, Begins session result final → holds session → holds final)
    (elsewhere : ∀ {session} server, holds session → holds { session with server }) :
    holds session := by
  induction driven with
  | created fromSettings =>
    obtain ⟨descriptor, rfl⟩ := create_eq fromSettings
    exact fresh _ _ descriptor _
  | asked request _ ih =>
    have turns : Keeps Turns (request.run : Action σ Answer) := turns_request request
    rcases turns.after _ with along | ⟨result, begun⟩
    · exact Moves.invariant along move ih
    · exact begins begun ih
  | elsewhere server _ ih => exact elsewhere server ih

end SqlGateway.Session
