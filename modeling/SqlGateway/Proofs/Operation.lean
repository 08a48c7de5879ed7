import SqlGateway.Proofs.Ending
import SqlGateway.Session.Connection

/-!
Closing the connection and running a statement on it, whatever the server answers: the requests in
their order, the state that is left and how the operation ends.
-/

namespace SqlGateway.Session

variable {σ : Type}

def heard (session : Session σ) (exchanges : List Exchange) (server : σ) : Session σ :=
  { session with server, log := session.log ++ exchanges }

@[simp] theorem heard_handle (session : Session σ) (exchanges : List Exchange) (server : σ) :
    (session.heard exchanges server).handle? = session.handle? := rfl

@[simp] theorem heard_log (session : Session σ) (exchanges : List Exchange) (server : σ) :
    (session.heard exchanges server).log = session.log ++ exchanges := rfl

@[simp] theorem heard_heard (session : Session σ) (first second : List Exchange) (early late : σ) :
    (session.heard first early).heard second late = session.heard (first ++ second) late := by
  simp only [heard, List.append_assoc]

@[simp] theorem heard_nil (session : Session σ) : session.heard [] session.server = session := by
  simp only [heard, List.append_nil]

def letGo (session : Session σ) : Session σ := { session with handle? := none, engine := false }

/-- The requests of a close and how it ends. A fault that is not recognised cuts it short. -/
inductive Teardown (session : Session σ) : List Exchange → Except Failure Bool → Prop
  | nothing : session.handle? = none → session.engine = false → Teardown session [] (.ok true)
  | disposed (answer : Except Fault Unit) : session.handle? = none → session.engine = true →
      Teardown session [⟨.dispose, answer⟩] ((answer.mapError .fault).map fun _ => true)
  | closed (handle : Handle) (answer : Except Fault Unit) : session.handle? = some handle →
      session.engine = false → (∀ fault, answer = .error fault → fault.recognised) →
      Teardown session [⟨.close handle.connection, answer⟩] (.ok true)
  | both (handle : Handle) (answer disposal : Except Fault Unit) : session.handle? = some handle →
      session.engine = true → (∀ fault, answer = .error fault → fault.recognised) →
      Teardown session [⟨.close handle.connection, answer⟩, ⟨.dispose, disposal⟩]
        ((disposal.mapError .fault).map fun _ => true)
  | cut (handle : Handle) (fault : Fault) : session.handle? = some handle → ¬ fault.recognised →
      Teardown session [⟨.close handle.connection, .error fault⟩] (.error (.fault fault))

inductive Closes (session : Session σ) : Except Failure Bool → Session σ → Prop
  | mk {exchanges : List Exchange} {result : Except Failure Bool} (server : σ) :
      Teardown session exchanges result → Closes session result (session.letGo.heard exchanges server)

def fetched : Except Fault Reply → Except Failure Outcome
  | .ok reply => collect reply
  | .error fault => .error (.fault fault)

/-- The requests of a statement that is run on a connection, and its result. Inside an explicit
transaction there is only the statement itself. -/
inductive Ran (statement : Statement) (handle : Handle) :
    List Exchange → Except Failure Outcome → Prop
  | joined (answer : Except Fault Reply) : handle.inTransaction = true →
      Ran statement handle [⟨.execute handle.connection statement.sent, answer⟩] (fetched answer)
  | committed (answer : Except Fault Reply) {outcome : Outcome} : handle.inTransaction = false →
      fetched answer = .ok outcome →
      Ran statement handle [⟨.execute handle.connection statement.sent, answer⟩,
        ⟨.commit handle.connection, .ok ()⟩] (.ok outcome)
  | uncommitted (answer : Except Fault Reply) {outcome : Outcome} (fault : Fault) :
      handle.inTransaction = false → fetched answer = .ok outcome →
      Ran statement handle [⟨.execute handle.connection statement.sent, answer⟩,
        ⟨.commit handle.connection, .error fault⟩] (.error (.fault fault))
  | failed (answer : Except Fault Reply) {failure : Failure} : handle.inTransaction = false →
      fetched answer = .error failure →
      Ran statement handle [⟨.execute handle.connection statement.sent, answer⟩] (.error failure)
  | undone (answer : Except Fault Reply) {failure : Failure} : handle.inTransaction = false →
      fetched answer = .error failure → failure.isRecognisedFault →
      Ran statement handle [⟨.execute handle.connection statement.sent, answer⟩,
        ⟨.rollback handle.connection, .ok ()⟩] (.error failure)
  | stuck (answer : Except Fault Reply) {failure : Failure} (fault : Fault) :
      handle.inTransaction = false → fetched answer = .error failure → failure.isRecognisedFault →
      Ran statement handle [⟨.execute handle.connection statement.sent, answer⟩,
        ⟨.rollback handle.connection, .error fault⟩] (.error (.fault fault))

def notedId (previous : String) (outcome : Outcome) : String :=
  match outcome.lastRowId with
  | some id => if id = 0 then previous else toString id
  | none => previous

def noting (session : Session σ) : Except Failure Outcome → Session σ
  | .ok outcome => { session with lastInsertId := notedId session.lastInsertId outcome }
  | .error _ => session

inductive Runs (statement : Statement) (session : Session σ) :
    Except Failure Outcome → Session σ → Prop
  | unconnected : session.handle? = none → Runs statement session (.error .notConnected) session
  | mk (handle : Handle) {exchanges : List Exchange} {result : Except Failure Outcome} (server : σ) :
      session.handle? = some handle → Ran statement handle exchanges result →
      Runs statement session result ((session.noting result).heard exchanges server)

theorem fetched_recognised {answer : Except Fault Reply} {failure : Failure}
    (refused : fetched answer = .error failure) : ∃ fault, failure = .fault fault := by
  cases answer with
  | error fault => exact ⟨fault, by cases refused; rfl⟩
  | ok reply =>
    simp only [fetched, collect] at refused
    split at refused
    · cases refused
    · split at refused
      · cases refused
      · cases refused
        exact ⟨_, rfl⟩

theorem collect_of_fetched {answer : Except Fault Reply} {outcome : Outcome}
    (fetches : fetched answer = .ok outcome) : ∃ reply, answer = .ok reply ∧ collect reply = .ok outcome := by
  cases answer with
  | ok reply => exact ⟨reply, rfl, fetches⟩
  | error fault => cases fetches

theorem heard_noting (session : Session σ) (result : Except Failure Outcome)
    (exchanges : List Exchange) (server : σ) :
    (session.noting result).heard exchanges server = (session.heard exchanges server).noting result := by
  cases result <;> rfl

theorem ends_noteInsertId (outcome : Outcome) {session : Session σ} {done : PUnit → Session σ → Prop}
    {failed : Failure → Session σ → Prop} :
    Ends (noteInsertId outcome) session done failed ↔ done ⟨⟩ (session.noting (.ok outcome)) := by
  unfold noteInsertId noting notedId
  split
  · split
    · simp_all
    · simp_all
  · simp_all

section

variable [Server σ] {session : Session σ}

theorem ends_responded (event : Event) {done : event.Answer → Session σ → Prop}
    {failed : Failure → Session σ → Prop} :
    Ends (perform event) session done failed ↔
      match Server.respond event session.server with
      | (.ok answer, server) => done answer (session.heard [⟨event, .ok answer⟩] server)
      | (.error fault, server) =>
        failed (.fault fault) (session.heard [⟨event, .error fault⟩] server) := by
  simp only [Ends, perform]
  rcases Server.respond event session.server with ⟨answer, server⟩
  cases answer <;> rfl

theorem ends_perform (event : Event) {done : event.Answer → Session σ → Prop}
    {failed : Failure → Session σ → Prop}
    (answered : ∀ answer server, done answer (session.heard [⟨event, .ok answer⟩] server))
    (refused : ∀ fault server, failed (.fault fault) (session.heard [⟨event, .error fault⟩] server)) :
    Ends (perform event) session done failed := by
  rw [ends_responded]
  split
  · exact answered _ _
  · exact refused _ _

theorem disposal_meets (session : Session σ) {exchanges : List Exchange} (server : σ)
    (without : session.engine = false → Teardown session exchanges (.ok true))
    (torn : session.engine = true → ∀ disposal, Teardown session (exchanges ++ [⟨.dispose, disposal⟩])
      ((disposal.mapError .fault).map fun _ => true)) :
    Meets (if session.engine = true then do perform .dispose; return true else return true)
      (session.letGo.heard exchanges server) (Closes session) := by
  split
  · rename_i engine
    simp only [Meets, ends_bind, ends_pure]
    apply ends_perform
    · intro answer later
      rw [heard_heard]
      exact .mk later (torn engine (.ok answer))
    · intro fault later
      rw [heard_heard]
      exact .mk later (torn engine (.error fault))
  · rename_i engine
    exact (ends_pure true).mpr (.mk server (without (Bool.eq_false_iff.mpr engine)))

theorem close_meets (session : Session σ) : Meets close session (Closes session) := by
  simp only [Meets, close, ends_bind, ends_get, ends_set]
  cases held : session.handle? with
  | none =>
    have disposed := disposal_meets session session.letGo.server
      (fun engine => .nothing held engine) fun engine disposal => .disposed disposal held engine
    rwa [heard_nil] at disposed
  | some handle =>
    simp only [ends_bind, ends_onFault]
    have settled (answer : Except Fault Unit) (known : ∀ fault, answer = .error fault → fault.recognised)
        (server : σ) := disposal_meets session server
      (.closed handle answer held · known) fun engine disposal => .both handle answer disposal held engine known
    apply ends_perform
    · intro answer server
      exact settled (.ok answer) (by simp) server
    · intro fault server
      split
      · rename_i known
        rw [ends_pure]
        exact settled (.error fault) (fun other same => Except.error.inj same ▸ known) server
      · rename_i unknown
        exact .mk server (.cut handle fault held unknown)

theorem execution_meets (connection : Nat) (sent : Sent) (session : Session σ) :
    Meets (do ofResult (collect (← perform (.execute connection sent)))) session fun result final =>
      ∃ answer, fetched answer = result ∧ final = session.heard [⟨.execute connection sent, answer⟩]
        (Server.respond (.execute connection sent) session.server).2 := by
  simp only [Meets, ends_bind, ends_ofResult]
  rw [ends_responded]
  rcases Server.respond (.execute connection sent) session.server with ⟨answer, server⟩
  cases answer with
  | ok reply =>
    dsimp only
    split
    · rename_i collected
      exact ⟨.ok reply, collected, rfl⟩
    · rename_i collected
      exact ⟨.ok reply, collected, rfl⟩
  | error fault => exact ⟨.error fault, rfl, rfl⟩

theorem abandon_ends (statement : Statement) {handle : Handle} (held : session.handle? = some handle)
    {answer : Except Fault Reply} {failure : Failure} (refused : fetched answer = .error failure)
    (known : failure.isRecognisedFault) (server : σ) {done : Outcome → Session σ → Prop} :
    Ends (do abandon handle.connection; throw failure)
      (session.heard [⟨.execute handle.connection statement.sent, answer⟩] server) done
      fun failure final => Runs statement session (.error failure) final := by
  simp only [abandon, ends_bind, ends_get, ends_throw, inTransaction, heard_handle, held,
    Option.any_some]
  cases isOpen : handle.inTransaction with
  | true =>
    rw [Bool.not_true, Bool.false_and, if_neg Bool.false_ne_true, ends_pure]
    exact .mk handle server held (refused ▸ .joined answer isOpen)
  | false =>
    split
    · apply ends_perform
      · intro _ later
        rw [heard_heard]
        exact .mk handle later held (.undone answer isOpen refused known)
      · intro fault later
        rw [heard_heard]
        exact .mk handle later held (.stuck answer fault isOpen refused known)
    · rw [ends_pure]
      exact .mk handle server held (.failed answer isOpen refused)

theorem settle_meets (statement : Statement) {handle : Handle} (held : session.handle? = some handle)
    {answer : Except Fault Reply} {outcome : Outcome} (collected : fetched answer = .ok outcome)
    (server : σ) :
    Meets
      (if handle.inTransaction = true then do noteInsertId outcome; return outcome
        else do perform (.commit handle.connection); noteInsertId outcome; return outcome)
      (session.heard [⟨.execute handle.connection statement.sent, answer⟩] server)
      (Runs statement session) := by
  cases isOpen : handle.inTransaction with
  | true =>
    simp only [if_true, Meets, ends_bind, ends_noteInsertId, ends_pure, ← heard_noting]
    exact .mk handle server held (collected ▸ .joined answer isOpen)
  | false =>
    simp only [Bool.false_eq_true, if_false, Meets, ends_bind, ends_noteInsertId, ends_pure]
    apply ends_perform
    · intro _ later
      rw [heard_heard, ← heard_noting]
      exact .mk handle later held (.committed answer isOpen collected)
    · intro fault later
      rw [heard_heard]
      exact .mk handle later held (.uncommitted answer fault isOpen collected)

theorem run_meets (statement : Statement) (session : Session σ) :
    Meets (run statement) session (Runs statement session) := by
  simp only [Meets, run, ends_bind, held, ends_get]
  cases held : session.handle? with
  | none =>
    rw [ends_throw]
    exact .unconnected held
  | some handle =>
    simp only [ends_pure, ends_onFault]
    apply ends_mono (execution_meets handle.connection statement.sent session)
    · intro outcome _ ended
      obtain ⟨answer, collected, rfl⟩ := ended
      simp only [inTransaction, heard_handle, held, Option.any_some]
      exact settle_meets statement held collected _
    · intro failure _ ended
      obtain ⟨answer, refused, rfl⟩ := ended
      split
      · rename_i known
        exact abandon_ends statement held refused known _
      · cases isOpen : handle.inTransaction with
        | true => exact .mk handle _ held (refused ▸ .joined answer isOpen)
        | false => exact .mk handle _ held (.failed answer isOpen refused)

end

end SqlGateway.Session

namespace SqlGateway

def Exchange.fault? : Exchange → Option Fault
  | ⟨.execute _ _, answer⟩ =>
    match Session.fetched answer with
    | .error (.fault fault) => some fault
    | _ => none
  | ⟨_, .error fault⟩ => some fault
  | ⟨_, .ok _⟩ => none

theorem Session.Ran.fault {statement : Statement} {handle : Handle} {exchanges : List Exchange}
    {failure : Failure} (ran : Ran statement handle exchanges (.error failure)) :
    ∃ fault, failure = .fault fault ∧ ∃ exchange ∈ exchanges, exchange.fault? = some fault := by
  have fetching {answer : Except Fault Reply} (refused : fetched answer = .error failure) : ∃ fault,
      failure = .fault fault ∧
        Exchange.fault? ⟨.execute handle.connection statement.sent, answer⟩ = some fault := by
    obtain ⟨fault, rfl⟩ := fetched_recognised refused
    exact ⟨fault, rfl, by simp [Exchange.fault?, refused]⟩
  generalize same : Except.error failure = result at ran
  cases ran with
  | joined answer _ =>
    obtain ⟨fault, bare, raised⟩ := fetching same.symm
    exact ⟨fault, bare, _, List.mem_cons_self, raised⟩
  | committed _ _ _ => cases same
  | uncommitted _ fault _ _ | stuck _ fault _ _ _ =>
    cases same
    exact ⟨fault, rfl, _, List.mem_cons_of_mem _ List.mem_cons_self, rfl⟩
  | failed answer _ refused | undone answer _ refused _ =>
    cases same
    obtain ⟨fault, bare, raised⟩ := fetching refused
    exact ⟨fault, bare, _, List.mem_cons_self, raised⟩

end SqlGateway
