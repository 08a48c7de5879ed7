import SqlGateway.Proofs.Connecting
import SqlGateway.Session.Transaction

/-!
Preparing a statement for a query and running it: which statement is sent, and how a query ends that
connects first and may release the connection afterwards.
-/

namespace SqlGateway

namespace Statement

def bindEach : Statement → Params → Except Failure Statement
  | statement, [] => .ok statement
  | statement, (name, value) :: rest => (statement.bind name value).bind (bindEach · rest)

def forQuery (query : String) (params : Params) : Except Failure Statement :=
  bindEach (.ofText query) (mentioned query params)

end Statement

namespace Session

variable {σ : Type}

def holding (session : Session σ) (prepared : Prepared) : Session σ :=
  { session with prepared? := some prepared }

theorem bindAll_ends (params : Params) (session : Session σ) (statement : Statement) :
    Ends (bindAll params) (session.holding ⟨statement, none⟩)
      (fun _ final => ∃ bound, statement.bindEach params = .ok bound ∧
        final = session.holding ⟨bound, none⟩)
      (fun failure final => statement.bindEach params = .error failure ∧
        ∃ prepared, final = session.holding prepared) := by
  induction params generalizing statement with
  | nil =>
    rw [bindAll, ends_pure]
    exact ⟨statement, rfl, rfl⟩
  | cons head tail ih =>
    rcases head with ⟨name, value⟩
    simp only [bindAll, bind, requirePrepared, ends_bind, ends_discard, ends_get, ends_modify,
      ends_pure, ends_ofResult, holding]
    simp only [Statement.bindEach]
    cases bound : statement.bind name value with
    | ok next => exact ih next
    | error failure => exact ⟨rfl, _, rfl⟩

theorem prepare_ends (query : String) (params : Params) (session : Session σ) :
    Ends (prepare query params) session
      (fun _ final => ∃ statement, (Statement.ofText query).bindEach params = .ok statement ∧
        final = session.holding ⟨statement, none⟩)
      (fun failure final => (Statement.ofText query).bindEach params = .error failure ∧
        ∃ prepared, final = session.holding prepared) := by
  simp only [prepare, ends_bind, ends_modify, ends_pure]
  exact bindAll_ends params session (.ofText query)

def reported (failure : Failure) : Failure :=
  if failure.isRecognisedFault then queryFailure failure else failure

inductive Asks (query : String) (params : Params) (session : Session σ) :
    Except Failure Bool → Session σ → Prop
  | unbound {failure : Failure} (prepared : Prepared) :
      Statement.forQuery query params = .error failure →
      Asks query params session (.error failure) (session.holding prepared)
  | failed {statement : Statement} {failure : Failure} {final : Session σ} :
      Statement.forQuery query params = .ok statement →
      Runs statement (session.holding ⟨statement, none⟩) (.error failure) final →
      Asks query params session (.error (reported failure)) final
  | done {statement : Statement} {outcome : Outcome} {middle : Session σ} :
      Statement.forQuery query params = .ok statement →
      Runs statement (session.holding ⟨statement, none⟩) (.ok outcome) middle →
      Asks query params session (.ok true) (middle.holding ⟨statement, some outcome⟩)

inductive Queries (query : String) (params : Params) (closing : Bool) (session : Session σ) :
    Except Failure Bool → Session σ → Prop
  | blank : isBlankText query = true →
      Queries query params closing session (.error .emptyQuery) session
  | unconnected {failure : Failure} {final : Session σ} : isBlankText query = false →
      Connects session (.error failure) final →
      Queries query params closing session (.error failure) final
  | kept {result : Except Failure Bool} {ready final : Session σ} : isBlankText query = false →
      Connects session (.ok true) ready → Asks query params ready result final → closing = false →
      Queries query params closing session result final
  | released {result closed : Except Failure Bool} {ready last final : Session σ} :
      isBlankText query = false → Connects session (.ok true) ready →
      Asks query params ready result last → closing = true → Closes last closed final →
      Queries query params closing session (closed.bind fun _ => result) final

theorem ends_step (place : Step) (action : Action σ Bool) {session : Session σ}
    {done : PUnit → Session σ → Prop} {failed : Failure → Session σ → Prop} :
    Ends (step place action) session done failed ↔
      Ends action session
        (fun answer final =>
          if answer = true then done ⟨⟩ final else failed (.stepRefused place) final)
        fun failure final =>
          failed (if failure.isRecognisedFault then .stepFailed place failure else failure) final := by
  simp only [step, ends_bind, ends_onFault, ends_throw]
  refine ends_congr (fun answer final => ?_) fun failure final => ?_
  · cases answer with
    | true => rw [if_pos rfl, if_pos rfl, ends_pure]
    | false => rw [if_neg Bool.false_ne_true, if_neg Bool.false_ne_true, ends_throw]
  · by_cases known : failure.isRecognisedFault = true
    · rw [if_pos known, if_pos known]
    · rw [if_neg known, if_neg known]

variable [Server σ]

theorem ask_meets (query : String) (params : Params) (session : Session σ) :
    Meets (do discard (prepare query (Statement.mentioned query params)); execute) session
      (Asks query params session) := by
  simp only [Meets, ends_bind, ends_discard]
  apply ends_mono (prepare_ends query _ session)
  · intro _ _ ended
    obtain ⟨statement, bound, rfl⟩ := ended
    simp only [execute, requirePrepared, ends_bind, ends_get, holding, ends_pure, ends_onFault,
      ends_throw, ends_modify]
    refine ends_mono (run_meets statement _) (fun outcome final ran => .done bound ran) ?_
    intro failure final ran
    have failed := Asks.failed bound ran
    unfold reported at failed
    split <;> simp_all
  · intro failure _ ended
    obtain ⟨refused, prepared, rfl⟩ := ended
    exact .unbound prepared refused

theorem ends_ask {query : String} {params : Params} {statement : Statement} {session : Session σ}
    {done : Bool → Session σ → Prop} {failed : Failure → Session σ → Prop}
    (bound : Statement.forQuery query params = .ok statement)
    (executed : Ends execute (session.holding ⟨statement, none⟩) done failed) :
    Ends (do discard (prepare query (Statement.mentioned query params)); execute) session done failed := by
  rw [ends_bind, ends_discard]
  refine ends_mono (prepare_ends query _ session) ?_ ?_
  · rintro _ _ ⟨other, same, rfl⟩
    obtain rfl := Except.ok.inj (same.symm.trans bound)
    exact executed
  · rintro _ _ ⟨refused, -⟩
    cases bound.symm.trans refused

theorem queryExecute_meets (query : String) (params : Params) (closing : Bool)
    (session : Session σ) :
    Meets (queryExecute query params closing) session (Queries query params closing session) := by
  simp only [Meets, queryExecute]
  cases blank : isBlankText query with
  | true =>
    rw [if_pos rfl, ends_bind, ends_throw]
    exact .blank blank
  | false =>
    simp only [Bool.false_eq_true, if_false]
    rw [ends_bind, ends_discard]
    refine ends_mono (connect_meets session) ?_ fun failure final connects =>
      .unconnected blank connects
    intro answer ready connects
    rw [connects_answer connects] at connects
    rw [ends_finally]
    cases isClosing : closing with
    | false =>
      simp only [Bool.false_eq_true, if_false, ends_pure]
      exact ends_mono (ask_meets query params ready)
        (fun _ _ asked => .kept blank connects asked rfl)
        fun _ _ asked => .kept blank connects asked rfl
    | true =>
      simp only [if_true, ends_discard]
      exact ends_mono (ask_meets query params ready)
        (fun _ last asked => ends_mono (close_meets last)
          (fun _ _ closed => .released blank connects asked rfl closed)
          fun _ _ closed => .released blank connects asked rfl closed)
        fun _ last asked => ends_mono (close_meets last)
          (fun _ _ closed => .released blank connects asked rfl closed)
          fun _ _ closed => .released blank connects asked rfl closed

theorem ends_queryExecute {query : String} {params : Params} {statement : Statement}
    {session ready : Session σ} {done : Bool → Session σ → Prop} {failed : Failure → Session σ → Prop}
    (given : isBlankText query = false) (connected : connect session = .ok true ready)
    (bound : Statement.forQuery query params = .ok statement)
    (executed : Ends execute (ready.holding ⟨statement, none⟩) done failed) :
    Ends (queryExecute query params false) session done failed := by
  rw [queryExecute, given, if_neg Bool.false_ne_true, ends_bind, ends_discard, ends_iff_of_ok connected,
    ends_finally]
  refine ends_mono (ends_ask bound executed) (fun _ _ => ?_) fun _ _ => ?_
  all_goals
    rw [if_neg Bool.false_ne_true, ends_pure]
    exact id

def lastResult (session : Session σ) : StatementResult :=
  ⟨(outcome session).rows, (outcome session).rowCount, session.lastInsertId⟩

theorem runStatement_ends (query : String) (params : Params) (session : Session σ) :
    Ends (runStatement query params) session
      (fun result final => isBlankText query = false ∧
        Asks query params session (.ok true) final ∧ result = lastResult final)
      (fun failure final => isBlankText query = true ∧ failure = .emptyQuery ∧ final = session ∨
        isBlankText query = false ∧ Asks query params session (.error failure) final) := by
  unfold runStatement
  cases blank : isBlankText query with
  | true =>
    simp only [if_true, ends_bind, ends_throw]
    exact .inl ⟨trivial, trivial, trivial⟩
  | false =>
    have asks := ask_meets query params session
    simp only [Meets, ends_bind, ends_discard] at asks
    simp only [Bool.false_eq_true, if_false, ends_bind, ends_discard, rows, rowCount, insertId,
      ends_get, ends_pure]
    refine ends_mono asks (fun _ middle prepared => ?_) fun failure final refused => .inr ⟨trivial, refused⟩
    refine ends_mono prepared (fun answer final asked => ?_) fun failure final failed => .inr ⟨trivial, failed⟩
    cases answer with
    | true => exact ⟨trivial, asked, rfl⟩
    | false => cases asked

end Session

end SqlGateway
