import SqlGateway.Proofs.Bracket
import SqlGateway.Proofs.Sending

/-!
A batch is all or nothing. It returns after one begin, each query once and in order, and one commit; it
fails without a commit and, if its transaction was open, after one attempt to roll that back.
-/

namespace SqlGateway

def Exchange.Trying (connection : Nat) : Exchange → Prop
  | ⟨.execute number _, _⟩ => number = connection
  | ⟨.commitTransaction number, answer⟩ => number = connection ∧ answer ≠ .ok ()
  | _ => False

/-- Nothing was committed, and of a transaction that was open one rollback was attempted, after all
else. -/
structure Undone (exchanges : List Exchange) : Prop where
  uncommitted (connection : Nat) : ⟨.commitTransaction connection, .ok ()⟩ ∉ exchanges
  rolledBack (connection : Nat) : .opening connection ∈ exchanges → ∃ before answer,
    exchanges = before ++ [⟨.rollbackTransaction connection, answer⟩] ∧ .opening connection ∈ before ∧
      ∀ number other, ⟨.rollbackTransaction number, other⟩ ∉ before

theorem Undone.outer {exchanges : List Exchange}
    (outer : ∀ exchange ∈ exchanges, exchange.event.Outer) : Undone exchanges where
  uncommitted _ member := outer _ member
  rolledBack _ member := (outer _ member).elim

theorem Undone.unbegun {connecting : List Exchange} {connection : Nat} {answer : Except Fault Bool}
    (outer : ∀ exchange ∈ connecting, exchange.event.Outer) (refused : answer ≠ .ok true) :
    Undone (connecting ++ [⟨.begin connection, answer⟩]) where
  uncommitted number member := by
    rcases List.mem_append.mp member with member | member
    · exact outer _ member
    · cases List.mem_singleton.mp member
  rolledBack number member := by
    rcases List.mem_append.mp member with member | member
    · exact (outer _ member).elim
    · cases List.mem_singleton.mp member
      exact absurd rfl refused

theorem Undone.undone {connecting tried : List Exchange} {connection : Nat}
    (outer : ∀ exchange ∈ connecting, exchange.event.Outer)
    (trying : ∀ exchange ∈ tried, exchange.Trying connection) (answer : Except Fault Unit) :
    Undone (connecting ++ .opening connection :: tried ++
      [⟨.rollbackTransaction connection, answer⟩]) where
  uncommitted number member := by
    simp only [List.append_assoc, List.mem_append, List.cons_append, List.mem_cons] at member
    rcases member with member | member | member | member | member
    · exact outer _ member
    · cases member
    · exact (trying _ member).2 rfl
    · cases member
    · exact List.not_mem_nil member
  rolledBack number member := by
    have same : number = connection := by
      simp only [List.append_assoc, List.mem_append, List.cons_append, List.mem_cons] at member
      rcases member with member | member | member | member | member
      · exact (outer _ member).elim
      · cases member
        rfl
      · exact (trying _ member).elim
      · cases member
      · exact absurd member List.not_mem_nil
    subst same
    refine ⟨_, answer, rfl, by simp, fun other refusal member => ?_⟩
    simp only [List.mem_append, List.mem_cons] at member
    rcases member with member | member | member
    · exact outer _ member
    · cases member
    · exact trying _ member

namespace Session

/-- The queries of a batch on one connection. Each result holds what came back for its own query and the
last insert identifier as it stood after it, given the one before the batch. -/
inductive Executed (connection : Nat) :
    String → List (String × Params) → List Exchange → List StatementResult → Prop
  | nil (id : String) : Executed connection id [] [] []
  | cons {id query : String} {params : Params} {sent : Sent} {reply : Reply} {outcome : Outcome}
      {rest : List (String × Params)} {exchanges : List Exchange} {results : List StatementResult} :
      Sends query params sent → collect reply = .ok outcome →
      Executed connection (notedId id outcome) rest exchanges results →
      Executed connection id ((query, params) :: rest)
        (⟨.execute connection sent, .ok reply⟩ :: exchanges)
        (⟨outcome.rows, outcome.rowCount, notedId id outcome⟩ :: results)

theorem Executed.trying {connection : Nat} {id : String} {queries : List (String × Params)}
    {exchanges : List Exchange} {results : List StatementResult}
    (executed : Executed connection id queries exchanges results) :
    ∀ exchange ∈ exchanges, exchange.Trying connection := by
  induction executed with
  | nil _ => simp
  | cons _ _ _ ih => exact List.forall_mem_cons.mpr ⟨rfl, ih⟩

variable {σ : Type} {session final : Session σ}

inductive Tried (query : String) (params : Params) (connection : Nat) : List Exchange → Prop
  | unsent : Tried query params connection []
  | sent {sent : Sent} (answer : Except Fault Reply) : Sends query params sent →
      Tried query params connection [⟨.execute connection sent, answer⟩]

theorem Tried.trying {query : String} {params : Params} {connection : Nat} {exchanges : List Exchange}
    (tried : Tried query params connection exchanges) : ∀ exchange ∈ exchanges, exchange.Trying connection := by
  cases tried with
  | unsent => simp
  | sent answer _ => exact List.forall_mem_singleton.mpr rfl

inductive Fails (connection : Nat) (session final : Session σ) : Prop
  | unbegun (answer : Except Fault Bool) : answer ≠ .ok true →
      final.log = session.log ++ [⟨.begin connection, answer⟩] → bracketed? final = none →
      Fails connection session final
  | begun (tried : List Exchange) : final.log = session.log ++ .opening connection :: tried →
      (∀ exchange ∈ tried, exchange.Trying connection) → bracketed? final = some connection →
      Fails connection session final

/-- What leaves after a rollback: a failure of the transaction, unless the rollback has failed with a fault
that is not recognised, which leaves in its place. -/
inductive Leaves : Except Failure Bool → Failure → Prop
  | reported {result : Except Failure Bool} {left : Failure} :
      (∀ refused, result = .error refused → refused.isRecognisedFault = true) →
      left.isTransaction = true → Leaves result left
  | replaced {refused : Failure} : ¬ refused.isRecognisedFault = true → Leaves (.error refused) refused

theorem isTransaction_asTransactionFailure (failure : Failure) :
    (asTransactionFailure failure).isTransaction = true := by
  unfold asTransactionFailure
  split
  · assumption
  · rfl

theorem Fails.undone {connection : Nat} {last : Session σ} {result : Except Failure Bool}
    (fails : Fails connection session last) (rollsBack : RollsBack last result final) :
    ∃ exchanges, final.log = session.log ++ exchanges ∧
      (∀ connecting : List Exchange, (∀ exchange ∈ connecting, exchange.event.Outer) →
        Undone (connecting ++ exchanges)) ∧ bracketed? final = none := by
  cases fails with
  | unbegun answer refused split idle =>
    cases rollsBack with
    | nothing _ => exact ⟨_, split, fun _ outer => .unbegun outer refused, idle⟩
    | asked _ _ _ bracket => cases bracket.symm.trans idle
  | begun tried split trying bracket =>
    cases rollsBack with
    | nothing idle => cases bracket.symm.trans idle
    | asked number answer server known =>
      obtain rfl := Option.some.inj (known.symm.trans bracket)
      refine ⟨.opening number :: tried ++ [⟨.rollbackTransaction number, answer⟩], ?_, ?_, ?_⟩
      · rw [heard_log, withTransaction, split, List.append_assoc]
      · intro connecting outer
        rw [← List.append_assoc]
        exact .undone outer trying answer
      · rw [heard_bracketed, bracketed_ended bracket]

variable [Server σ]

theorem runStatement_tries (query : String) (params : Params) {connection : Nat}
    (held : session.handle? = some ⟨connection, true⟩) :
    Ends (runStatement query params) session
      (fun result final => ∃ sent reply outcome, Sends query params sent ∧
        collect reply = .ok outcome ∧ final.handle? = some ⟨connection, true⟩ ∧
        final.log = session.log ++ [⟨.execute connection sent, .ok reply⟩] ∧
        final.lastInsertId = notedId session.lastInsertId outcome ∧
        result = ⟨outcome.rows, outcome.rowCount, final.lastInsertId⟩)
      fun _ final => final.handle? = some ⟨connection, true⟩ ∧ ∃ exchanges,
        Tried query params connection exchanges ∧ final.log = session.log ++ exchanges := by
  apply ends_mono (runStatement_ends query params session)
  · intro result final ended
    obtain ⟨given, asks, rfl⟩ := ended
    generalize same : Except.ok true = answer at asks
    cases asks with
    | unbound _ _ | failed _ _ => cases same
    | done bound runs =>
      obtain ⟨answer, fetches, kept, split, id⟩ := runs.inside held
      obtain ⟨reply, rfl, collected⟩ := collect_of_fetched fetches
      exact ⟨_, reply, _, sends_of_forQuery given bound, collected, kept, split, id, rfl⟩
  · intro failure final failed
    rcases failed with ⟨_, _, rfl⟩ | ⟨given, asks⟩
    · exact ⟨held, [], .unsent, (List.append_nil _).symm⟩
    · generalize same : Except.error failure = answer at asks
      cases asks with
      | unbound prepared _ => exact ⟨held, [], .unsent, (List.append_nil _).symm⟩
      | done _ _ => cases same
      | failed bound runs =>
        obtain ⟨answer, fetches, kept, split, id⟩ := runs.inside held
        exact ⟨kept, _, .sent answer (sends_of_forQuery given bound), split⟩

theorem runStatement_inside (query : String) (params : Params) {connection : Nat}
    (held : session.handle? = some ⟨connection, true⟩) :
    Ends (runStatement query params) session
      (fun result final => ∃ sent reply outcome, Sends query params sent ∧
        collect reply = .ok outcome ∧ final.handle? = some ⟨connection, true⟩ ∧
        final.log = session.log ++ [⟨.execute connection sent, .ok reply⟩] ∧
        final.lastInsertId = notedId session.lastInsertId outcome ∧
        result = ⟨outcome.rows, outcome.rowCount, final.lastInsertId⟩)
      fun _ final => Adds (·.Trying connection) session final ∧
        final.handle? = some ⟨connection, true⟩ := by
  refine ends_mono (runStatement_tries query params held) (fun _ _ => id) ?_
  rintro _ final ⟨kept, exchanges, tried, split⟩
  exact ⟨⟨exchanges, split, tried.trying⟩, kept⟩

theorem runStatements_inside (queries : List (String × Params)) {connection : Nat}
    (held : session.handle? = some ⟨connection, true⟩) :
    Ends (runStatements queries) session
      (fun results final => ∃ exchanges,
        Executed connection session.lastInsertId queries exchanges results ∧
        final.handle? = some ⟨connection, true⟩ ∧ final.log = session.log ++ exchanges)
      fun _ final => Adds (·.Trying connection) session final ∧
        final.handle? = some ⟨connection, true⟩ := by
  induction queries generalizing session with
  | nil =>
    rw [runStatements, ends_pure]
    exact ⟨[], .nil _, held, (List.append_nil _).symm⟩
  | cons head tail ih =>
    simp only [runStatements, ends_bind, ends_pure]
    refine ends_mono (runStatement_inside head.1 head.2 held) ?_ fun _ _ => id
    intro result middle ended
    obtain ⟨sent, reply, outcome, sends, collected, kept, split, id, rfl⟩ := ended
    apply ends_mono (ih kept)
    · intro results final ended
      obtain ⟨exchanges, executed, keptLater, splitLater⟩ := ended
      rw [id] at executed ⊢
      refine ⟨_, .cons sends collected executed, keptLater, ?_⟩
      calc
        final.log = middle.log ++ exchanges := splitLater
        _ = session.log ++ ⟨.execute connection sent, .ok reply⟩ :: exchanges := by
          rw [split, List.append_assoc, List.singleton_append]
    · intro failure final ended
      obtain ⟨tried, keptLater⟩ := ended
      have first : Adds (·.Trying connection) session middle := .one split rfl
      exact ⟨first.trans tried, keptLater⟩

theorem begin_outside {connection : Nat} (held : session.handle? = some ⟨connection, false⟩) :
    Ends (step .begin begin) session
      (fun _ final => final.handle? = some ⟨connection, true⟩ ∧
        final.log = session.log ++ [.opening connection] ∧
        final.lastInsertId = session.lastInsertId)
      fun _ final => ∃ answer, answer ≠ .ok true ∧
        final.log = session.log ++ [⟨.begin connection, answer⟩] ∧ bracketed? final = none := by
  have idle : bracketed? session = none := by
    rw [bracketed?, held]
    rfl
  rw [ends_step]
  apply ends_mono (begin_meets session)
  · intro isOpen final begins
    generalize same : Except.ok isOpen = answer at begins
    cases begins with
    | unconnected _ | refused _ _ _ _ => cases same
    | answered handle _ server known =>
      obtain rfl := Except.ok.inj same
      obtain rfl := Option.some.inj (known.symm.trans held)
      cases isOpen with
      | true =>
        rw [if_pos rfl, heard_handle, withTransaction, held]
        exact ⟨rfl, rfl, rfl⟩
      | false =>
        refine ⟨.ok false, by simp, rfl, ?_⟩
        rw [heard_bracketed, bracketed_withTransaction held rfl]
        rfl
  · intro failure final begins
    generalize same : Except.error failure = answer at begins
    cases begins with
    | answered _ _ _ _ => cases same
    | unconnected absent => cases held.symm.trans absent
    | refused handle fault server known =>
      obtain rfl := Option.some.inj (known.symm.trans held)
      refine ⟨.error fault, by simp, rfl, ?_⟩
      rw [heard_bracketed, idle]

theorem commit_leaves {connection : Nat} (held : session.handle? = some ⟨connection, true⟩) :
    Ends (step .commit commit) session
      (fun _ final => final.handle? = some ⟨connection, false⟩ ∧
        final.log = session.log ++ [⟨.commitTransaction connection, .ok ()⟩])
      fun _ final => final.handle? = some ⟨connection, true⟩ ∧ ∃ fault,
        final.log = session.log ++ [⟨.commitTransaction connection, .error fault⟩] := by
  have bracket := (bracketed_iff session connection).mpr held
  rw [ends_step]
  apply ends_mono (commit_meets session)
  · intro done final commits
    generalize same : Except.ok done = answer at commits
    cases commits with
    | refused _ _ _ _ => cases same
    | nothing idle => cases bracket.symm.trans idle
    | done number server known =>
      obtain rfl := Option.some.inj (known.symm.trans bracket)
      obtain rfl := Except.ok.inj same
      refine ⟨?_, rfl⟩
      rw [heard_handle, withTransaction, held]
      rfl
  · intro failure final commits
    generalize same : Except.error failure = answer at commits
    cases commits with
    | nothing _ | done _ _ _ => cases same
    | refused number fault server known =>
      obtain rfl := Option.some.inj (known.symm.trans bracket)
      exact ⟨held, fault, rfl⟩

theorem commit_inside {connection : Nat} (held : session.handle? = some ⟨connection, true⟩) :
    Ends (step .commit commit) session
      (fun _ final => final.log = session.log ++ [⟨.commitTransaction connection, .ok ()⟩] ∧
        bracketed? final = none)
      fun _ final => Adds (·.Trying connection) session final ∧
        bracketed? final = some connection := by
  refine ends_mono (commit_leaves held) ?_ ?_
  · rintro _ final ⟨kept, split⟩
    refine ⟨split, ?_⟩
    rw [bracketed?, kept]
    rfl
  · rintro _ final ⟨kept, fault, split⟩
    exact ⟨.one split ⟨rfl, by simp⟩, (bracketed_iff final connection).mpr kept⟩

theorem runBatch_ends (queries : List (String × Params)) {connection : Nat}
    (held : session.handle? = some ⟨connection, false⟩) :
    Ends (runBatch queries) session
      (fun results final => ∃ exchanges,
        Executed connection session.lastInsertId queries exchanges results ∧
        final.log = session.log ++ .opening connection :: exchanges ++
          [⟨.commitTransaction connection, .ok ()⟩] ∧ bracketed? final = none)
      fun _ final => Fails connection session final := by
  rw [runBatch, ends_bind]
  apply ends_mono (begin_outside held)
  · intro _ inside ended
    obtain ⟨heldInside, opened, id⟩ := ended
    rw [ends_bind]
    apply ends_mono (runStatements_inside queries heldInside)
    · intro results last ended
      obtain ⟨exchanges, executed, heldLast, split⟩ := ended
      rw [opened, List.append_assoc, List.singleton_append] at split
      simp only [ends_bind, ends_pure]
      apply ends_mono (commit_inside heldLast)
      · intro _ final ended
        obtain ⟨committed, idle⟩ := ended
        refine ⟨exchanges, id ▸ executed, ?_, idle⟩
        rw [committed, split]
      · intro _ final ended
        obtain ⟨⟨tried, refused, trying⟩, bracket⟩ := ended
        rw [split, List.append_assoc, List.cons_append] at refused
        apply Fails.begun _ refused _ bracket
        intro exchange member
        rcases List.mem_append.mp member with member | member
        · exact executed.trying exchange member
        · exact trying exchange member
    · intro _ final ended
      obtain ⟨⟨tried, split, trying⟩, heldLast⟩ := ended
      rw [opened, List.append_assoc, List.singleton_append] at split
      exact .begun tried split trying ((bracketed_iff final connection).mpr heldLast)
  · intro _ final ended
    obtain ⟨answer, refused, split, idle⟩ := ended
    exact .unbegun answer refused split idle

/-- A failed transaction is rolled back, whatever is made of a server that refuses to. -/
theorem undo_leaves (failure : Failure) {handler : Failure → Action σ Unit} (session : Session σ)
    (handled : ∀ refused middle, Ends (handler refused) middle (fun _ final => final = middle)
      fun left final => left.isTransaction = true ∧ final = middle) {done : α → Session σ → Prop} :
    Ends (do onFault (discard rollback) handler; throw (asTransactionFailure failure) : Action σ α) session
      done fun left final => ∃ result, RollsBack session result final ∧ Leaves result left := by
  have reported := isTransaction_asTransactionFailure failure
  simp only [ends_bind, ends_onFault, ends_discard, ends_throw]
  refine ends_mono (rollback_meets session) (fun answer final rollsBack => ?_) fun refused final rollsBack => ?_
  · exact ⟨.ok answer, rollsBack, .reported (by rintro _ ⟨⟩) reported⟩
  · split
    · next known =>
      have only (other : Failure) (same : (.error refused : Except Failure Bool) = .error other) :
          other.isRecognisedFault = true := Except.error.inj same ▸ known
      refine ends_mono (handled refused final) ?_ ?_
      · rintro _ _ rfl
        exact ⟨.error refused, rollsBack, .reported only reported⟩
      · rintro left _ ⟨transactional, rfl⟩
        exact ⟨.error refused, rollsBack, .reported only transactional⟩
    · next unknown => exact ⟨.error refused, rollsBack, .replaced unknown⟩

theorem undoBatch_leaves (failure : Failure) {done : List StatementResult → Session σ → Prop} :
    Ends (undoBatch failure) session done fun left final =>
      ∃ result, RollsBack session result final ∧ Leaves result left :=
  undo_leaves failure session fun _ _ => (ends_pure _).mpr rfl

/-- Whatever is to hold of a batch holds of a session that could not connect, of one that is found in a
transaction and of the batch on a connection that is in none. -/
theorem transactionExecute_ends {queries : List (String × Params)}
    {done : List StatementResult → Session σ → Prop} {failed : Failure → Session σ → Prop}
    (unconnected : ∀ failure ready, Connects session (.error failure) ready →
      failed (if failure.kind = .connection then .stepFailed .statement failure else failure) ready)
    (inside : ∀ ready, Connects session (.ok true) ready → ready.inTransaction = true →
      failed .transactionInProgress ready)
    (outside : ∀ ready connection, Connects session (.ok true) ready →
      ready.handle? = some ⟨connection, false⟩ →
      Ends (tryCatch (runBatch queries) undoBatch) ready done failed) :
    Ends (transactionExecute queries) session done failed := by
  rw [transactionExecute, connectForBatch, ends_bind, ends_tryCatch, ends_discard]
  refine ends_mono (connect_meets session) (fun answer ready connects => ?_) fun failure ready connects => ?_
  · obtain rfl := connects_answer connects
    rw [ends_bind, ends_get]
    by_cases isOpen : ready.inTransaction = true
    · rw [if_pos isOpen, ends_bind, ends_throw]
      exact inside ready connects isOpen
    · rw [if_neg isOpen]
      obtain ⟨connection, held⟩ := connects.held_outside (Bool.eq_false_iff.mpr isOpen)
      exact outside ready connection connects held
  · rw [ends_throw]
    exact unconnected failure ready connects

theorem batch_ends (queries : List (String × Params)) {connection : Nat}
    (held : session.handle? = some ⟨connection, false⟩) :
    Ends (tryCatch (runBatch queries) undoBatch) session
      (fun results final => ∃ exchanges,
        Executed connection session.lastInsertId queries exchanges results ∧
        final.log = session.log ++ .opening connection :: exchanges ++
          [⟨.commitTransaction connection, .ok ()⟩] ∧ bracketed? final = none)
      fun _ final => ∃ exchanges, final.log = session.log ++ exchanges ∧
        (∀ connecting : List Exchange, (∀ exchange ∈ connecting, exchange.event.Outer) →
          Undone (connecting ++ exchanges)) ∧ bracketed? final = none := by
  rw [ends_tryCatch]
  refine ends_mono (runBatch_ends queries held) (fun _ _ => id) fun failure last fails => ?_
  refine ends_mono (undoBatch_leaves failure) (fun _ _ => id) ?_
  rintro _ final ⟨result, rollsBack, -⟩
  exact fails.undone rollsBack

/-- A batch on a session that is in no transaction. If it returns, it has connected and then begun a
transaction, sent each query once and in order, and committed, with nothing between; if it fails, nothing
was committed and a transaction that it had begun is rolled back. Neither leaves one open. -/
theorem transactionExecute_all_or_nothing (queries : List (String × Params)) (session : Session σ)
    (outside : session.inTransaction = false) :
    Ends (transactionExecute queries) session
      (fun results final => ∃ ready connection exchanges, connect session = .ok true ready ∧
        Adds (·.event.Outer) session ready ∧ ready.handle? = some ⟨connection, false⟩ ∧
        Executed connection ready.lastInsertId queries exchanges results ∧
        final.log = ready.log ++ .opening connection :: exchanges ++
          [⟨.commitTransaction connection, .ok ()⟩] ∧
        final.inTransaction = false)
      fun _ final => ∃ exchanges, final.log = session.log ++ exchanges ∧ Undone exchanges ∧
        final.inTransaction = false := by
  have idle := inTransaction_eq_false.mp outside
  rw [transactionExecute, connectForBatch, ends_bind, ends_tryCatch, ends_discard]
  cases connected : connect session with
  | error failure ready =>
    have connects := (ends_iff_of_error connected).mp (connect_meets session)
    obtain ⟨exchanges, split, outer⟩ := connects.outer
    rw [ends_iff_of_error connected, ends_throw]
    exact ⟨exchanges, split, .outer outer, inTransaction_eq_false.mpr (connects.idle idle)⟩
  | ok answer ready =>
    have connects := (ends_iff_of_ok connected).mp (connect_meets session)
    obtain rfl := connects_answer connects
    have idleReady := inTransaction_eq_false.mpr (connects.idle idle)
    obtain ⟨⟨connection, inside⟩, held⟩ := connects.held
    obtain rfl : inside = false := by
      simpa only [inTransaction, held, Option.any_some] using idleReady
    rw [ends_iff_of_ok connected, ends_bind, ends_get, idleReady, if_neg Bool.false_ne_true]
    apply ends_mono (batch_ends queries held)
    · intro results final ended
      obtain ⟨exchanges, executed, split, idleFinal⟩ := ended
      exact ⟨ready, connection, exchanges, rfl, connects.outer, held, executed, split,
        inTransaction_eq_false.mpr idleFinal⟩
    · intro _ final ended
      obtain ⟨exchanges, split, undone, idleFinal⟩ := ended
      obtain ⟨connecting, splitReady, outer⟩ := connects.outer
      have closed := inTransaction_eq_false.mpr idleFinal
      refine ⟨connecting ++ exchanges, ?_, undone connecting outer, closed⟩
      calc
        final.log = ready.log ++ exchanges := split
        _ = session.log ++ (connecting ++ exchanges) := by rw [splitReady, List.append_assoc]

theorem transactionExecute_rehearsed :
    ∃ results final ready connection exchanges,
      transactionExecute [("SELECT 2", []), ("SELECT :id", [("id", .int 3)])] rehearsed =
        .ok results final ∧
      connect rehearsed = .ok true ready ∧
      Executed connection ready.lastInsertId [("SELECT 2", []), ("SELECT :id", [("id", .int 3)])]
        exchanges results ∧
      final.log = ready.log ++ .opening connection :: exchanges ++
        [⟨.commitTransaction connection, .ok ()⟩] := by
  have whole := transactionExecute_all_or_nothing
    [("SELECT 2", []), ("SELECT :id", [("id", .int 3)])] rehearsed rfl
  have finishes : returns (transactionExecute [("SELECT 2", []), ("SELECT :id", [("id", .int 3)])])
      rehearsed = true := by
    decide +kernel
  obtain ⟨results, returned⟩ := eq_ok_of_returns finishes
  obtain ⟨ready, connection, exchanges, connected, _, _, executed, split, _⟩ :=
    (ends_iff_of_ok returned).mp whole
  exact ⟨results, _, ready, connection, exchanges, returned, connected, executed, split⟩

end Session

end SqlGateway
