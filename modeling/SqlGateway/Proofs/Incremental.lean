import SqlGateway.Proofs.Batch

/-!
A batch against its statements one at a time. Both ways connect, begin, run the statements and commit
under handlers of their own; where no request to roll back is refused, they come to the same answer or
failure and leave the same state.
-/

namespace SqlGateway

/-- Anything but a request to roll an explicit transaction back that is refused. -/
def Exchange.unrefused : Exchange → Bool
  | ⟨.rollbackTransaction _, .error _⟩ => false
  | _ => true

namespace Session

variable {σ : Type} [Server σ] {session middle final : Session σ}

/-- The statements one at a time, in a transaction that the last of them commits. -/
def oneByOne : List (String × Params) → Action σ (List StatementResult)
  | [] => return []
  | (query, params) :: rest => do
    let result ← transaction query params rest.isEmpty false
    return result :: (← oneByOne rest)

/-- What is left of a batch once its transaction is open. -/
def finish (queries : List (String × Params)) : Action σ (List StatementResult) := do
  let results ← runStatements queries
  step .commit commit
  return results

def attempt (query : String) (params : Params) (committing : Bool) : Action σ StatementResult := do
  let result ← runStatement query params
  if committing then step .commit commit
  return result

def ensureOpen : Action σ Unit := do
  unless (← get).inTransaction do
    discard connect
    step .begin begin

def undoStatement (failure : Failure) : Action σ StatementResult := do
  onFault (discard rollback) fun refused => throw (.rollbackFailed failure refused)
  throw (asTransactionFailure failure)

theorem ensureOpen_then (next : Action σ StatementResult) :
    (do
      unless (← get).inTransaction do
        discard connect
        step .begin begin
      next) = ensureOpen >>= fun _ => next := by
  rw [ensureOpen, bind_assoc]
  congr 1
  funext current
  cases current.inTransaction with
  | true => exact (pure_bind () fun _ => next).symm
  | false => simp only [Bool.false_eq_true, if_false, bind_assoc]

theorem transaction_eq (query : String) (params : Params) (committing closing : Bool) :
    (transaction query params committing closing : Action σ StatementResult) = do
      let result ← tryCatch (ensureOpen >>= fun _ => attempt query params committing) undoStatement
      if committing && closing then discard close
      return result := by
  rw [transaction, ← ensureOpen_then]
  rfl

theorem transaction_kept (query : String) (params : Params) (committing : Bool) :
    (transaction query params committing false : Action σ StatementResult) =
      tryCatch (ensureOpen >>= fun _ => attempt query params committing) undoStatement := by
  rw [transaction_eq]
  simp only [Bool.and_false, Bool.false_eq_true, if_false, bind_pure]

theorem transaction_ends {query : String} {params : Params} {committing closing : Bool}
    {kept done : StatementResult → Session σ → Prop} {broken failed : Failure → Session σ → Prop}
    (guarded : Ends (transaction query params committing false) session kept broken)
    (stays : ¬ (committing = true ∧ closing = true) → ∀ result final, kept result final → done result final)
    (closes : committing = true → closing = true → ∀ result middle, kept result middle →
      Ends close middle (fun _ final => done result final) failed)
    (breaks : ∀ failure final, broken failure final → failed failure final) :
    Ends (transaction query params committing closing) session done failed := by
  rw [transaction_eq, ← transaction_kept, ends_bind]
  refine ends_mono guarded (fun result middle ran => ?_) breaks
  by_cases releases : (committing && closing) = true
  · obtain ⟨commits, last⟩ := Bool.and_eq_true_iff.mp releases
    rw [if_pos releases, ends_bind, ends_discard]
    exact ends_mono (closes commits last result middle ran) (fun _ _ ended => (ends_pure _).mpr ended)
      fun _ _ => id
  · rw [if_neg releases, ends_pure]
    exact stays (fun both => releases (Bool.and_eq_true_iff.mpr both)) result middle ran

theorem ensureOpen_inside (inside : session.inTransaction = true) :
    ensureOpen session = .ok () session := by
  change (if session.inTransaction = true then _ else _ : Action σ Unit) session = _
  rw [if_pos inside]
  rfl

theorem ensureOpen_outside (outside : session.inTransaction = false) :
    ensureOpen session = (do discard connect; step .begin begin : Action σ Unit) session := by
  change (if session.inTransaction = true then _ else _ : Action σ Unit) session = _
  rw [if_neg (Bool.eq_false_iff.mp outside)]

theorem transaction_inside (query : String) (params : Params) (committing : Bool)
    (inside : session.inTransaction = true) :
    transaction query params committing false session =
      tryCatch (attempt query params committing) undoStatement session := by
  rw [transaction_kept]
  exact tryCatch_of_eq (bind_of_ok (ensureOpen_inside inside) _) undoStatement

theorem keeps_finish (queries : List (String × Params)) :
    Keeps Moves (tryCatch (finish queries) undoBatch : Action σ (List StatementResult)) := by
  refine steady_moves.tryCatch ?_ fun failure => ?_
  · refine steady_moves.bind (keeps_runStatements queries) fun results => ?_
    exact steady_moves.bind keeps_commit fun _ => steady_moves.pure results
  · exact keeps_undo failure (fun _ => pure ()) fun _ => steady_moves.pure ()

theorem undo_eq (failure : Failure) (unrefused : Adds (·.unrefused) session (after rollback session)) :
    undoBatch failure session = .error (asTransactionFailure failure) (after rollback session) ∧
      undoStatement failure session =
        .error (asTransactionFailure failure) (after rollback session) := by
  cases rolled : rollback session with
  | ok answer final =>
    have discarded := discard_of_ok rolled
    rw [after_of_ok rolled, undoBatch, undoStatement, bind_of_ok (onFault_of_ok discarded _),
      bind_of_ok (onFault_of_ok discarded _)]
    exact ⟨rfl, rfl⟩
  | error refused final =>
    have rollsBack := (ends_iff_of_error rolled).mp (rollback_meets session)
    rw [after_of_error rolled] at unrefused
    obtain ⟨exchanges, split, every⟩ := unrefused
    generalize same : Except.error refused = result at rollsBack
    cases rollsBack with
    | nothing _ => cases same
    | asked connection answer server bracket =>
      obtain rfl := List.append_cancel_left split
      cases answer with
      | ok _ => cases same
      | error fault => exact absurd (every _ (List.mem_singleton_self _)) Bool.false_ne_true

theorem undoBatch_fails (failure : Failure) (session : Session σ) :
    ∃ left, undoBatch failure session = .error left (after rollback session) := by
  cases rolled : rollback session with
  | ok answer final =>
    refine ⟨asTransactionFailure failure, ?_⟩
    rw [after_of_ok rolled, undoBatch, bind_of_ok (onFault_of_ok (discard_of_ok rolled) _)]
    rfl
  | error refused final =>
    have caught := onFault_of_error (discard_of_error rolled) fun _ => pure ()
    rw [after_of_error rolled]
    by_cases known : refused.isRecognisedFault = true
    · rw [if_pos known] at caught
      exact ⟨_, bind_of_ok (caught.trans rfl) _⟩
    · rw [if_neg known] at caught
      exact ⟨_, bind_of_error (caught.trans rfl) _⟩

theorem undone_alike {batch : Action σ (List StatementResult)} {single : Action σ StatementResult}
    {failure : Failure} {origin start : Session σ} (batchFails : batch session = .error failure middle)
    (singleFails : single start = .error failure middle) (grows : origin.log <+: middle.log)
    (unrefused : Adds (·.unrefused) origin (after (tryCatch batch undoBatch) session)) :
    ∃ left final, tryCatch batch undoBatch session = .error left final ∧
      tryCatch single undoStatement start = .error left final := by
  have caught := tryCatch_of_error batchFails undoBatch
  obtain ⟨left, undone⟩ := undoBatch_fails failure middle
  rw [after_of_error (caught.trans undone)] at unrefused
  have rest := unrefused.later grows (keeps_rollback.after middle).grows
  obtain ⟨batchUndone, singleUndone⟩ := undo_eq failure rest
  exact ⟨_, _, caught.trans batchUndone, (tryCatch_of_error singleFails undoStatement).trans singleUndone⟩

theorem finish_cons (query : String) (params : Params) (rest : List (String × Params)) :
    (finish ((query, params) :: rest) : Action σ (List StatementResult)) = do
      let result ← runStatement query params
      let results ← finish rest
      return result :: results := by
  simp only [finish, runStatements, bind_assoc, pure_bind]

theorem finish_last (query : String) (params : Params) :
    (finish [(query, params)] : Action σ (List StatementResult)) = do
      let result ← runStatement query params
      step .commit commit
      return [result] := by
  simp only [finish, runStatements, bind_assoc, pure_bind]

theorem last_agrees {query : String} {params : Params} {result : StatementResult}
    (inside : session.inTransaction = true)
    (ran : runStatement query params session = .ok result middle)
    (unrefused : Adds (·.unrefused) session
      (after (tryCatch (finish [(query, params)]) undoBatch) session)) :
    tryCatch (finish [(query, params)]) undoBatch session = oneByOne [(query, params)] session := by
  have single := transaction_inside query params true inside
  have batchRan : finish [(query, params)] session =
      (do step .commit commit; return [result] : Action σ (List StatementResult)) middle := by
    rw [finish_last]
    exact bind_of_ok ran _
  have singleRan : attempt query params true session =
      (do step .commit commit; return result : Action σ StatementResult) middle := bind_of_ok ran _
  cases committed : (step .commit commit : Action σ Unit) middle with
  | ok answer final =>
    have batch := tryCatch_of_ok (batchRan.trans (bind_of_ok committed _)) undoBatch
    have alone := tryCatch_of_ok (singleRan.trans (bind_of_ok committed _)) undoStatement
    exact batch.trans (bind_of_ok (single.trans alone) fun result => do
      return result :: (← oneByOne [])).symm
  | error failure final =>
    have ranGrows := ((keeps_runStatement query params).after session).grows
    have commitGrows := (keeps_commit.after middle).grows
    rw [after_of_ok ran] at ranGrows
    rw [after_of_error committed] at commitGrows
    obtain ⟨left, last, batch, alone⟩ := undone_alike (batchRan.trans (bind_of_error committed _))
      (singleRan.trans (bind_of_error committed _)) (ranGrows.trans commitGrows) unrefused
    exact batch.trans (bind_of_error (single.trans alone) _).symm

theorem caught_cons {query : String} {params : Params} {result : StatementResult}
    (ran : runStatement query params session = .ok result middle) (rest : List (String × Params)) :
    tryCatch (finish ((query, params) :: rest)) undoBatch session =
      (do return result :: (← tryCatch (finish rest) undoBatch)) middle := by
  have batchRan : finish ((query, params) :: rest) session =
      (do return result :: (← finish rest) : Action σ (List StatementResult)) middle := by
    rw [finish_cons]
    exact bind_of_ok ran _
  cases finished : finish rest middle with
  | ok results final =>
    have others := tryCatch_of_ok finished undoBatch
    rw [tryCatch_of_ok (batchRan.trans (bind_of_ok finished _)) undoBatch]
    exact (bind_of_ok others fun results => pure (result :: results)).symm
  | error failure last =>
    obtain ⟨left, undone⟩ := undoBatch_fails failure last
    have others := (tryCatch_of_error finished undoBatch).trans undone
    rw [tryCatch_of_error (batchRan.trans (bind_of_error finished _)) undoBatch, undone]
    exact (bind_of_error others _).symm

theorem oneByOne_cons {query : String} {params : Params} {result : StatementResult}
    {rest : List (String × Params)} (given : rest ≠ []) (inside : session.inTransaction = true)
    (ran : runStatement query params session = .ok result middle) :
    oneByOne ((query, params) :: rest) session = (do return result :: (← oneByOne rest)) middle := by
  have alone := (transaction_inside query params false inside).trans
    (tryCatch_of_ok (bind_of_ok ran _) undoStatement)
  rw [oneByOne, List.isEmpty_eq_false_iff.mpr given]
  exact bind_of_ok alone _

/-- In an open transaction what is left of a batch is its statements one at a time: the first runs in
either way, and the rest finds the transaction open as well. -/
theorem finish_eq_oneByOne (queries : List (String × Params)) (given : queries ≠ [])
    (inside : session.inTransaction = true)
    (unrefused : Adds (·.unrefused) session (after (tryCatch (finish queries) undoBatch) session)) :
    tryCatch (finish queries) undoBatch session = oneByOne queries session := by
  induction queries generalizing session with
  | nil => exact absurd rfl given
  | cons head tail ih =>
    obtain ⟨query, params⟩ := head
    have single := transaction_inside query params tail.isEmpty inside
    have grows := ((keeps_runStatement query params).after session).grows
    cases ran : runStatement query params session with
    | error failure middle =>
      rw [after_of_error ran] at grows
      have batchFails := (congrFun (finish_cons query params tail) session).trans (bind_of_error ran _)
      obtain ⟨left, final, batchLeft, singleLeft⟩ :=
        undone_alike batchFails (bind_of_error ran _) grows unrefused
      exact batchLeft.trans (bind_of_error (single.trans singleLeft) _).symm
    | ok result middle =>
      rw [after_of_ok ran] at grows
      by_cases last : tail = []
      · subst last
        exact last_agrees inside ran unrefused
      · have still : middle.inTransaction = true := by
          obtain ⟨connection, held⟩ := inTransaction_iff.mp inside
          obtain ⟨_, _, _, _, _, kept, _⟩ :=
            (ends_iff_of_ok ran).mp (runStatement_inside query params held)
          exact inTransaction_iff.mpr ⟨connection, kept⟩
        rw [after_of_eq (caught_cons ran tail), after_answer] at unrefused
        have later := unrefused.later grows ((keeps_finish tail).after middle).grows
        rw [caught_cons ran, oneByOne_cons last inside ran]
        exact bind_of_eq (ih last still later) _

theorem rollback_idle (idle : bracketed? session = none) : rollback session = .ok false session := by
  refine eq_ok_of_ends ?_
  simp only [rollback, ends_bind, ends_get, idle, ends_pure, and_self]

theorem unconnected_agrees {query : String} {params : Params} (rest : List (String × Params))
    {failure : Failure} (outside : session.inTransaction = false)
    (failed : connect session = .error failure middle) (reported : failure.kind = .connection) :
    transactionExecute ((query, params) :: rest) session = oneByOne ((query, params) :: rest) session := by
  have connects := (ends_iff_of_error failed).mp (connect_meets session)
  have idle := connects.idle (inTransaction_eq_false.mp outside)
  have unready : connectForBatch session = .error (.stepFailed .statement failure) middle := by
    rw [connectForBatch, tryCatch_of_error (discard_of_error failed), if_pos reported]
    rfl
  have unopened : ensureOpen session = .error failure middle :=
    (ensureOpen_outside outside).trans (bind_of_error (discard_of_error failed) _)
  have single : transaction query params rest.isEmpty false session =
      .error (.stepFailed .statement failure) middle := by
    rw [transaction_kept, tryCatch_of_error (bind_of_error unopened _), undoStatement,
      bind_of_ok (onFault_of_ok (discard_of_ok (rollback_idle idle)) _), asTransactionFailure,
      Failure.isTransaction, reported]
    rfl
  exact (bind_of_error unready _).trans (bind_of_error single _).symm

/-- A batch and its statements one at a time, from the same state of a session that is in no transaction:
they come to the same results or the same failure and leave the same state, with the same requests in its
log, unless connecting fails otherwise than with a failure of the connection or a rollback is refused. -/
theorem transactionExecute_eq_oneByOne (queries : List (String × Params)) (session : Session σ)
    (given : queries ≠ []) (outside : session.inTransaction = false)
    (reported : ∀ failure ready, connect session = .error failure ready → failure.kind = .connection)
    (unrefused : Adds (·.unrefused) session (after (transactionExecute queries) session)) :
    transactionExecute queries session = oneByOne queries session := by
  obtain ⟨⟨query, params⟩, rest, rfl⟩ := List.exists_cons_of_ne_nil given
  cases connected : connect session with
  | error failure ready => exact unconnected_agrees rest outside connected (reported _ _ connected)
  | ok answer ready =>
    have connects := (ends_iff_of_ok connected).mp (connect_meets session)
    obtain rfl := connects_answer connects
    have idle := inTransaction_eq_false.mpr (connects.idle (inTransaction_eq_false.mp outside))
    have isReady : connectForBatch session = .ok () ready := tryCatch_of_ok (discard_of_ok connected) _
    have whole : transactionExecute ((query, params) :: rest) session =
        tryCatch (runBatch ((query, params) :: rest)) undoBatch ready := by
      rw [transactionExecute, bind_of_ok isReady]
      change (if ready.inTransaction = true then _ else _ : Action σ (List StatementResult)) ready = _
      rw [if_neg (Bool.eq_false_iff.mp idle)]
    rw [after_of_eq whole] at unrefused
    rw [whole]
    have opening : ensureOpen session = (step .begin begin : Action σ Unit) ready :=
      (ensureOpen_outside outside).trans (bind_of_ok (discard_of_ok connected) _)
    obtain ⟨connection, held⟩ := connects.held_outside idle
    have begins := begin_outside held
    cases begun : (step .begin begin : Action σ Unit) ready with
    | error failure opened =>
      obtain ⟨begin, _, split, _⟩ := (ends_iff_of_error begun).mp begins
      have grows := connects.outer.grows.trans ⟨_, split.symm⟩
      obtain ⟨left, final, batch, single⟩ := undone_alike (bind_of_error begun _)
        (bind_of_error (opening.trans begun) fun _ => attempt query params rest.isEmpty) grows unrefused
      rw [← transaction_kept] at single
      exact batch.trans (bind_of_error single _).symm
    | ok _ opened =>
      obtain ⟨inside, split, _⟩ := (ends_iff_of_ok begun).mp begins
      have isOpen := inTransaction_iff.mpr ⟨connection, inside⟩
      have batch := tryCatch_of_eq (bind_of_ok begun fun _ => finish ((query, params) :: rest)) undoBatch
      have single := transaction_inside query params rest.isEmpty isOpen
      have first : transaction query params rest.isEmpty false session =
          transaction query params rest.isEmpty false opened := by
        rw [single, transaction_kept]
        exact tryCatch_of_eq (bind_of_ok (opening.trans begun) _) undoStatement
      have grows := connects.outer.grows.trans ⟨_, split.symm⟩
      have runBatch_eq := after_of_eq batch
      have later := (runBatch_eq ▸ unrefused).later grows ((keeps_finish _).after opened).grows
      have remaining := finish_eq_oneByOne _ given isOpen later
      calc
        tryCatch (runBatch ((query, params) :: rest)) undoBatch ready =
            tryCatch (finish ((query, params) :: rest)) undoBatch opened := batch
        _ = oneByOne ((query, params) :: rest) opened := remaining
        _ = oneByOne ((query, params) :: rest) session := (bind_of_eq first _).symm

def interrupted : List (String × Params) := [("UPDATE t SET a = 1", []), ("", [])]

theorem interrupted_oneByOne :
    returns (transactionExecute interrupted) rehearsed = false ∧
      transactionExecute interrupted rehearsed = oneByOne interrupted rehearsed := by
  have fails : returns (transactionExecute interrupted) rehearsed = false := by decide +kernel
  have connects : returns connect rehearsed = true := by decide +kernel
  have answered : (after (transactionExecute interrupted) rehearsed).log.all Exchange.unrefused = true := by
    decide +kernel
  refine ⟨fails, transactionExecute_eq_oneByOne interrupted rehearsed (List.cons_ne_nil _ _) rfl ?_ ?_⟩
  · intro failure ready failed
    rw [returns, failed] at connects
    cases connects
  · exact ⟨_, rfl, List.all_eq_true.mp answered⟩

end Session

end SqlGateway
