import SqlGateway.Proofs.Operation

/-!
Probing and opening the connection and the requests on its explicit transaction, whatever the server
answers.
-/

namespace SqlGateway.Session

variable {σ : Type}

/-- What the result of a probe says of the connection: whether it answers by one. -/
def verdict : Except Failure Outcome → Except Failure Bool
  | .ok outcome => isOne (firstValue outcome)
  | .error failure => if failure.isRecognisedFault then .ok false else .error failure

inductive Checks (session : Session σ) : Except Failure Bool → Session σ → Prop
  | absent : session.handle? = none → Checks session (.ok false) session
  | answered (handle : Handle) {result : Except Failure Outcome} {final : Session σ} :
      session.handle? = some handle → Runs probe session result final → verdict result = .ok true →
      Checks session (.ok true) final
  | dropped (handle : Handle) {result : Except Failure Outcome} {closing : Except Failure Bool}
      {middle final : Session σ} : session.handle? = some handle →
      Runs probe session result middle → verdict result = .ok false → Closes middle closing final →
      Checks session (closing.map fun _ => false) final
  | unclear (handle : Handle) {result : Except Failure Outcome} {failure : Failure}
      {final : Session σ} : session.handle? = some handle → Runs probe session result final →
      verdict result = .error failure → Checks session (.error failure) final

/-- What is done about a verdict on a probe: a connection that does not answer by one is closed. -/
inductive Judges (middle : Session σ) : Except Failure Bool → Except Failure Bool → Session σ → Prop
  | answered : Judges middle (.ok true) (.ok true) middle
  | dropped {closing : Except Failure Bool} {final : Session σ} : Closes middle closing final →
      Judges middle (.ok false) (closing.map fun _ => false) final
  | unclear {failure : Failure} : Judges middle (.error failure) (.error failure) middle

inductive Opens (session : Session σ) : Except Failure Unit → Session σ → Prop
  | engineless (fault : Fault) (server : σ) : Opens session (.error (.fault fault))
      (session.heard [⟨.createEngine (engineOptions session), .error fault⟩] server)
  | refused (fault : Fault) (server : σ) : Opens session (.error (.fault fault))
      (({ session with engine := true } : Session σ).heard
        [⟨.createEngine (engineOptions session), .ok ()⟩,
          ⟨.connect session.opened, .error fault⟩] server)
  | opened (server : σ) : Opens session (.ok ())
      (({ session with
          engine := true, handle? := some ⟨session.opened, false⟩, opened := session.opened + 1 } :
        Session σ).heard
        [⟨.createEngine (engineOptions session), .ok ()⟩, ⟨.connect session.opened, .ok ()⟩] server)

inductive Connects (session : Session σ) : Except Failure Bool → Session σ → Prop
  | healthy {final : Session σ} : Checks session (.ok true) final → Connects session (.ok true) final
  | unclear {failure : Failure} {final : Session σ} : Checks session (.error failure) final →
      Connects session (.error failure) final
  | opened {middle final : Session σ} : Checks session (.ok false) middle →
      Opens middle (.ok ()) final → Connects session (.ok true) final
  | unopened {failure : Failure} {middle final : Session σ} : Checks session (.ok false) middle →
      Opens middle (.error failure) final → ¬ failure.isRecognisedFault →
      Connects session (.error failure) final
  | refused {failure : Failure} {closing : Except Failure Bool} {middle last final : Session σ} :
      Checks session (.ok false) middle → Opens middle (.error failure) last →
      failure.isRecognisedFault → Closes last closing final →
      Connects session (closing.bind fun _ => .error (refusal middle.descriptor failure)) final

theorem connects_answer {session final : Session σ} {answer : Bool}
    (connects : Connects session (.ok answer) final) : answer = true := by
  generalize same : Except.ok answer = result at connects
  cases connects with
  | healthy _ | opened _ _ => exact Except.ok.inj same
  | unclear _ | unopened _ _ _ => cases same
  | @refused _ closing _ _ _ _ _ _ _ => cases closing <;> cases same

def withTransaction (session : Session σ) (isOpen : Bool) : Session σ :=
  { session with
    handle? := session.handle?.map fun handle => { handle with inTransaction := isOpen } }

inductive Begins (session : Session σ) : Except Failure Bool → Session σ → Prop
  | unconnected : session.handle? = none → Begins session (.error .notConnected) session
  | answered (handle : Handle) (isOpen : Bool) (server : σ) : session.handle? = some handle →
      Begins session (.ok isOpen)
        ((session.withTransaction isOpen).heard [⟨.begin handle.connection, .ok isOpen⟩] server)
  | refused (handle : Handle) (fault : Fault) (server : σ) : session.handle? = some handle →
      Begins session (.error (.fault fault))
        (session.heard [⟨.begin handle.connection, .error fault⟩] server)

inductive Commits (session : Session σ) : Except Failure Bool → Session σ → Prop
  | nothing : bracketed? session = none → Commits session (.ok false) session
  | done (connection : Nat) (server : σ) : bracketed? session = some connection →
      Commits session (.ok true)
        ((session.withTransaction false).heard [⟨.commitTransaction connection, .ok ()⟩] server)
  | refused (connection : Nat) (fault : Fault) (server : σ) : bracketed? session = some connection →
      Commits session (.error (.fault fault))
        (session.heard [⟨.commitTransaction connection, .error fault⟩] server)

inductive RollsBack (session : Session σ) : Except Failure Bool → Session σ → Prop
  | nothing : bracketed? session = none → RollsBack session (.ok false) session
  | asked (connection : Nat) (answer : Except Fault Unit) (server : σ) :
      bracketed? session = some connection →
      RollsBack session ((answer.mapError .fault).map fun _ => true)
        ((session.withTransaction false).heard [⟨.rollbackTransaction connection, answer⟩] server)

theorem Closes.handle {session final : Session σ} {result : Except Failure Bool}
    (closes : Closes session result final) : final.handle? = none := by
  cases closes with
  | mk server teardown => rfl

theorem Closes.engine {session final : Session σ} {result : Except Failure Bool}
    (closes : Closes session result final) : final.engine = false := by
  cases closes with
  | mk server teardown => rfl

theorem Runs.handle {statement : Statement} {session final : Session σ}
    {result : Except Failure Outcome} (runs : Runs statement session result final) :
    final.handle? = session.handle? := by
  cases runs with
  | unconnected held => rfl
  | mk handle server held ran => cases result <;> rfl

theorem Checks.handle_of_false {session final : Session σ} (checks : Checks session (.ok false) final) :
    final.handle? = none := by
  generalize same : Except.ok false = result at checks
  cases checks with
  | absent held => exact held
  | answered _ _ _ _ => cases same
  | dropped _ _ _ _ closes => exact closes.handle
  | unclear _ _ _ _ => cases same

theorem bracketed_iff (session : Session σ) (connection : Nat) :
    bracketed? session = some connection ↔ session.handle? = some ⟨connection, true⟩ := by
  unfold bracketed?
  cases held : session.handle? with
  | none => simp
  | some handle =>
    rcases handle with ⟨number, isOpen⟩
    cases isOpen <;> simp [Option.filter]

theorem inTransaction_eq (session : Session σ) :
    session.inTransaction = (bracketed? session).isSome := by
  unfold inTransaction bracketed?
  cases held : session.handle? with
  | none => rfl
  | some handle =>
    rcases handle with ⟨number, isOpen⟩
    cases isOpen <;> rfl

theorem inTransaction_eq_false {session : Session σ} :
    session.inTransaction = false ↔ bracketed? session = none := by
  rw [inTransaction_eq, Option.isSome_eq_false_iff, Option.isNone_iff_eq_none]

theorem inTransaction_iff {session : Session σ} :
    session.inTransaction = true ↔ ∃ connection, session.handle? = some ⟨connection, true⟩ := by
  rw [inTransaction_eq, Option.isSome_iff_exists]
  exact exists_congr fun connection => bracketed_iff session connection

@[simp] theorem heard_bracketed (session : Session σ) (exchanges : List Exchange) (server : σ) :
    bracketed? (session.heard exchanges server) = bracketed? session := rfl

theorem bracketed_congr {session final : Session σ} (same : final.handle? = session.handle?) :
    bracketed? final = bracketed? session := by
  unfold bracketed?
  rw [same]

theorem Closes.idle {session final : Session σ} {result : Except Failure Bool}
    (closes : Closes session result final) : bracketed? final = none := by
  unfold bracketed?
  rw [closes.handle]
  rfl

theorem Opens.idle {session final : Session σ} {result : Except Failure Unit}
    (opens : Opens session result final) (idle : bracketed? session = none) :
    bracketed? final = none := by
  cases opens with
  | engineless fault server => exact idle
  | refused fault server => exact idle
  | opened server => rfl

theorem Checks.idle {session final : Session σ} {result : Except Failure Bool}
    (checks : Checks session result final) (idle : bracketed? session = none) :
    bracketed? final = none := by
  cases checks with
  | absent held => exact idle
  | answered handle held runs judged => exact bracketed_congr runs.handle ▸ idle
  | dropped handle held runs judged closes => exact closes.idle
  | unclear handle held runs judged => exact bracketed_congr runs.handle ▸ idle

theorem Connects.idle {session final : Session σ} {result : Except Failure Bool}
    (connects : Connects session result final) (idle : bracketed? session = none) :
    bracketed? final = none := by
  cases connects with
  | healthy checks => exact checks.idle idle
  | unclear checks => exact checks.idle idle
  | opened checks opens => exact opens.idle (checks.idle idle)
  | unopened checks opens known => exact opens.idle (checks.idle idle)
  | refused checks opens known closes => exact closes.idle

variable [Server σ]

theorem isOne_error {value : Value} {failure : Failure} (refused : isOne value = .error failure) :
    failure = .invalidOperation ∧ ∃ d, value = .decimal d ∧ d.isSignalling = true := by
  unfold isOne at refused
  split at refused
  · next d =>
    split at refused
    · next signalling =>
      cases refused
      exact ⟨rfl, d, rfl, signalling⟩
    · cases refused
  · cases refused

theorem probe_meets {ran : Except Failure Outcome → Session σ → Prop} (session : Session σ)
    (runs : Meets (run probe) session ran) :
    Meets (onFault (do ofResult (isOne (firstValue (← run probe)))) fun _ => return false) session
      fun answered final => ∃ result, ran result final ∧ verdict result = answered := by
  simp only [Meets, ends_onFault, ends_bind, ends_ofResult, ends_pure]
  apply ends_mono runs
  · intro outcome final ran
    split
    · rename_i one
      exact ⟨_, ran, one⟩
    · rename_i failure refused
      have unknown : ¬ failure.isRecognisedFault := by
        rw [(isOne_error refused).1]
        decide
      rw [if_neg unknown]
      exact ⟨_, ran, refused⟩
  · intro failure final ran
    split
    · rename_i known
      exact ⟨_, ran, if_pos known⟩
    · rename_i unknown
      exact ⟨_, ran, if_neg unknown⟩

theorem judges_meets {ran : Except Failure Outcome → Session σ → Prop} {session : Session σ}
    {handle : Handle} (held : session.handle? = some handle) (runs : Meets (run probe) session ran) :
    Meets checkConnection session fun answered final =>
      ∃ result middle, ran result middle ∧ Judges middle (verdict result) answered final := by
  simp only [Meets, checkConnection, ends_bind, ends_get, held, Option.isNone_some, Bool.false_eq_true,
    if_false]
  apply ends_mono (probe_meets session runs)
  · intro answered middle ended
    obtain ⟨result, ran, judged⟩ := ended
    cases answered with
    | true =>
      rw [if_pos rfl, ends_pure]
      exact ⟨result, middle, ran, by rw [judged]; exact .answered⟩
    | false =>
      simp only [Bool.false_eq_true, if_false, ends_bind, ends_discard, ends_pure]
      exact ends_mono (close_meets middle)
        (fun _ _ closed => ⟨result, middle, ran, by rw [judged]; exact .dropped closed⟩)
        fun _ _ closed => ⟨result, middle, ran, by rw [judged]; exact .dropped closed⟩
  · intro failure final ended
    obtain ⟨result, ran, judged⟩ := ended
    exact ⟨result, final, ran, by rw [judged]; exact .unclear⟩

theorem checkConnection_meets (session : Session σ) :
    Meets checkConnection session (Checks session) := by
  cases held : session.handle? with
  | none =>
    simp only [Meets, checkConnection, ends_bind, ends_get, held, Option.isNone_none, if_true, ends_pure]
    exact .absent held
  | some handle =>
    have checks {answered : Except Failure Bool} {final : Session σ} (ended : ∃ result middle,
        Runs probe session result middle ∧ Judges middle (verdict result) answered final) :
        Checks session answered final := by
      obtain ⟨result, middle, ran, judges⟩ := ended
      generalize judged : verdict result = verdict at judges
      cases judges with
      | answered => exact .answered handle held ran judged
      | dropped closed => exact .dropped handle held ran judged closed
      | unclear => exact .unclear handle held ran judged
    exact ends_mono (judges_meets held (run_meets probe session)) (fun _ _ => checks) fun _ _ => checks

theorem openConnection_meets (session : Session σ) :
    Meets openConnection session (Opens session) := by
  simp only [Meets, openConnection, ends_bind, ends_get, ends_modify]
  refine ends_perform _ (fun _ server => ?_) fun fault server => .engineless fault server
  apply ends_perform
  · intro _ later
    have opened : Opens session _ _ := .opened later
    simpa [heard] using opened
  · intro fault later
    have refused : Opens session _ _ := .refused fault later
    simpa [heard] using refused

theorem connect_meets (session : Session σ) : Meets connect session (Connects session) := by
  simp only [Meets, connect, ends_bind]
  refine ends_mono (checkConnection_meets session) ?_ fun failure final failed => .unclear failed
  intro healthy middle checked
  cases healthy with
  | true =>
    rw [if_pos rfl, ends_pure]
    exact .healthy checked
  | false =>
    simp only [Bool.false_eq_true, if_false, ends_bind, ends_get, ends_onFault, ends_discard,
      ends_throw, ends_pure]
    refine ends_mono (openConnection_meets middle) (fun _ final opens => .opened checked opens) ?_
    intro failure last opens
    split
    · rename_i known
      exact ends_mono (close_meets last) (fun _ _ closed => .refused checked opens known closed)
        fun _ _ closed => .refused checked opens known closed
    · rename_i unknown
      exact .unopened checked opens unknown

theorem begin_meets (session : Session σ) : Meets begin session (Begins session) := by
  simp only [Meets, begin, ends_bind, held, ends_get, setTransaction, ends_modify, ends_pure]
  cases held : session.handle? with
  | none =>
    rw [ends_throw]
    exact .unconnected held
  | some handle =>
    simp only [ends_pure]
    exact ends_perform _ (fun isOpen server => .answered handle isOpen server held)
      fun fault server => .refused handle fault server held

theorem commit_meets (session : Session σ) : Meets commit session (Commits session) := by
  simp only [Meets, commit, ends_bind, ends_get, setTransaction]
  cases inside : bracketed? session with
  | none =>
    rw [ends_pure]
    exact .nothing inside
  | some connection =>
    simp only [ends_bind, ends_modify, ends_pure]
    exact ends_perform _ (fun _ server => .done connection server inside)
      fun fault server => .refused connection fault server inside

theorem rollback_meets (session : Session σ) : Meets rollback session (RollsBack session) := by
  simp only [Meets, rollback, ends_bind, ends_get, setTransaction]
  cases inside : bracketed? session with
  | none =>
    rw [ends_pure]
    exact .nothing inside
  | some connection =>
    simp only [ends_bind, ends_modify, ends_pure]
    exact ends_perform _ (fun _ server => .asked connection (.ok ()) server inside)
      fun fault server => .asked connection (.error fault) server inside
end SqlGateway.Session
