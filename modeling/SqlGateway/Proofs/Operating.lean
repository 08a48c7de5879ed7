import SqlGateway.Proofs.Adding
import SqlGateway.Proofs.Steady
import SqlGateway.Session.Call

/-!
Relations between states that every operation on the connection keeps to. Calls are made of these
operations, so a relation that holds across each of them holds across every call that asks for nothing
else: neither for the catalog nor for another place to connect to.
-/

namespace SqlGateway.Session

variable {σ α : Type}

/-- The session has just connected: outside a transaction, its last request opened the connection or
committed the answer to a probe. -/
structure Fresh (connection : Nat) (session : Session σ) : Prop where
  held : session.handle? = some ⟨connection, false⟩
  last : ∃ before last, session.log = before ++ [last] ∧
    (last = ⟨.connect connection, .ok ()⟩ ∨ last = ⟨.commit connection, .ok ()⟩)

theorem Fresh.idle {connection : Nat} {session : Session σ} (fresh : Fresh connection session) :
    bracketed? session = none := by
  rw [bracketed?, fresh.held]
  rfl

theorem Runs.fresh {statement : Statement} {outcome : Outcome} {connection : Nat}
    {session final : Session σ} (runs : Runs statement session (.ok outcome) final)
    (held : session.handle? = some ⟨connection, false⟩) : Fresh connection final := by
  refine ⟨runs.handle.trans held, ?_⟩
  generalize same : Except.ok outcome = result at runs
  cases runs with
  | unconnected absent => cases same
  | mk handle server known ran =>
    obtain rfl := Option.some.inj (known.symm.trans held)
    cases ran with
    | joined _ inside => cases inside
    | uncommitted _ _ _ _ | failed _ _ _ | undone _ _ _ _ | stuck _ _ _ _ _ => cases same
    | committed answer _ _ =>
      refine ⟨session.log ++ [⟨.execute connection statement.sent, answer⟩], _, ?_, .inr rfl⟩
      rw [heard_log, noting_log, List.append_assoc, List.singleton_append]

theorem Checks.fresh {session final : Session σ} (checks : Checks session (.ok true) final)
    (idle : bracketed? final = none) : ∃ connection, Fresh connection final := by
  generalize same : Except.ok true = result at checks
  cases checks with
  | absent _ => cases same
  | @dropped _ _ closing _ _ _ _ _ _ => cases closing <;> cases same
  | unclear _ _ _ _ => cases same
  | @answered handle result _ held runs judged =>
    obtain ⟨connection, inside⟩ := handle
    cases inside with
    | true =>
      rw [(bracketed_iff final connection).mpr (runs.handle.trans held)] at idle
      cases idle
    | false =>
      cases result with
      | ok outcome => exact ⟨connection, runs.fresh held⟩
      | error failure =>
        rw [verdict] at judged
        split at judged <;> cases judged

theorem Connects.fresh {session final : Session σ} (connects : Connects session (.ok true) final)
    (idle : bracketed? final = none) : ∃ connection, Fresh connection final := by
  generalize same : Except.ok true = result at connects
  cases connects with
  | healthy checks => exact checks.fresh idle
  | unclear _ | unopened _ _ _ => cases same
  | @refused _ closing _ _ _ _ _ _ _ => cases closing <;> cases same
  | @opened middle _ checks opens =>
    generalize opened : Except.ok () = answer at opens
    cases opens with
    | engineless _ _ | refused _ _ => cases opened
    | opened server =>
      refine ⟨middle.opened, rfl, middle.log ++ [⟨.createEngine (engineOptions middle), .ok ()⟩], _, ?_,
        .inl rfl⟩
      rw [heard_log, List.append_assoc, List.singleton_append]

/-- It holds across every operation on the connection and across preparing a statement. A transaction is
begun only by a session that has just connected. -/
structure Operating (Related : Session σ → Session σ → Prop) : Prop extends Chaining Related where
  prepare (session : Session σ) (prepared? : Option Prepared) : Related session { session with prepared? }
  closed {result : Except Failure Bool} {session final : Session σ} :
    Closes session result final → Related session final
  run {statement : Statement} {result : Except Failure Outcome} {session final : Session σ} :
    Runs statement session result final → Related session final
  opened {result : Except Failure Unit} {session final : Session σ} : session.handle? = none →
    Opens session result final → Related session final
  begun {connection : Nat} {result : Except Failure Bool} {session final : Session σ} :
    Fresh connection session → Begins session result final → Related session final
  committed {result : Except Failure Bool} {session final : Session σ} :
    Commits session result final → Related session final
  rolledBack {result : Except Failure Bool} {session final : Session σ} :
    RollsBack session result final → Related session final

structure Handling (Related : Session σ → Session σ → Prop) : Prop extends Querying Related where
  closed {result : Except Failure Bool} {session final : Session σ} :
    Closes session result final → Related session final
  begun {connection : Nat} {result : Except Failure Bool} {session final : Session σ} :
    Fresh connection session → Begins session result final → Related session final
  committed {result : Except Failure Bool} {session final : Session σ} :
    Commits session result final → Related session final
  rolledBack {result : Except Failure Bool} {session final : Session σ} :
    RollsBack session result final → Related session final

theorem keeps_of_meets {Related : Session σ → Session σ → Prop} {action : Action σ α}
    {result : Session σ → Except Failure α → Session σ → Prop}
    (meets : ∀ session, Meets action session (result session))
    (related : ∀ {session answer final}, result session answer final → Related session final) :
    Keeps Related action where
  ends session := ends_mono (meets session) (fun _ _ => related) fun _ _ => related

theorem related_step {Related : Session σ → Session σ → Prop} (place : Step) {action : Action σ Bool}
    {session : Session σ} (ends : Ends action session (fun _ final => Related session final)
      fun _ final => Related session final) :
    Ends (step place action) session (fun _ final => Related session final)
      fun _ final => Related session final := by
  rw [ends_step]
  refine ends_mono ends (fun done final here => ?_) fun failure final here => here
  split
  · exact here
  · exact here

namespace Chaining

variable {Related : Session σ → Session σ → Prop} (chaining : Chaining Related)

include chaining

theorem view (look : Session σ → α) : Keeps Related (do return look (← MonadState.get) : Action σ α) :=
  chaining.bind chaining.get fun _ => chaining.pure _

theorem answer {action : Action σ α} (keeps : Keeps Related action) (answer : α → Answer) :
    Keeps Related (do return answer (← action)) :=
  chaining.bind keeps fun _ => chaining.pure _

theorem readRows (firstOnly : Bool) : Keeps Related (readRows firstOnly : Action σ Answer) := by
  unfold Session.readRows
  refine chaining.bind chaining.rows fun found => ?_
  split <;> exact chaining.pure _

theorem keyPair : Keeps Related (keyPair : Action σ Record) := by
  unfold Session.keyPair
  refine chaining.bind chaining.get fun session => ?_
  dsimp only
  split
  · exact chaining.bind (chaining.ofResult _) fun pairs => chaining.pure _
  · exact chaining.throw _

theorem requirePrepared : Keeps Related (requirePrepared : Action σ Prepared) := by
  unfold Session.requirePrepared
  refine chaining.bind chaining.get fun session => ?_
  split
  · exact chaining.pure _
  · exact chaining.throw _

end Chaining

theorem Chaining.checked {Related : Session σ → Session σ → Prop} (chaining : Chaining Related)
    (run : ∀ {session result final}, Runs probe session result final → Related session final)
    (closed : ∀ {session result final}, Closes session result final → Related session final)
    {session final : Session σ} {result : Except Failure Bool} (checks : Checks session result final) :
    Related session final := by
  cases checks with
  | absent held => exact chaining.refl session
  | answered handle held runs judged => exact run runs
  | dropped handle held runs judged closes => exact chaining.trans (run runs) (closed closes)
  | unclear handle held runs judged => exact run runs

theorem Operating.connected {Related : Session σ → Session σ → Prop} (operating : Operating Related)
    {session final : Session σ} {result : Except Failure Bool} (connects : Connects session result final) :
    Related session final := by
  have checked {answer : Except Failure Bool} {middle : Session σ} (checks : Checks session answer middle) :
      Related session middle := operating.toChaining.checked operating.run operating.closed checks
  have opened {middle last : Session σ} {answer : Except Failure Unit}
      (checks : Checks session (.ok false) middle) (opens : Opens middle answer last) :
      Related session last :=
    operating.trans (checked checks) (operating.opened checks.handle_of_false opens)
  cases connects with
  | healthy checks | unclear checks => exact checked checks
  | opened checks opens => exact opened checks opens
  | unopened checks opens known => exact opened checks opens
  | refused checks opens known closes =>
    exact operating.trans (opened checks opens) (operating.closed closes)

/-- Connecting is made of a check, an opening and a close. -/
theorem Operating.handling {Related : Session σ → Session σ → Prop} (operating : Operating Related) :
    Handling Related where
  toChaining := operating.toChaining
  prepare := operating.prepare
  connect := operating.connected
  run := operating.run
  closed := operating.closed
  begun := operating.begun
  committed := operating.committed
  rolledBack := operating.rolledBack

namespace Handling

variable {Related : Session σ → Session σ → Prop} (handling : Handling Related)

include handling

theorem steady (recast : ∀ (session : Session σ) catalog, Related session { session with catalog }) :
    Steady Related where
  toChaining := handling.toChaining
  remember session prepared? catalog :=
    handling.trans (handling.prepare session prepared?) (recast _ catalog)
  connect := handling.connect
  run := handling.run

theorem remember (change : Session σ → Option Prepared) :
    Keeps Related (modify fun session => { session with prepared? := change session } : Action σ PUnit) where
  ends session := (ends_modify _).mpr (handling.prepare session (change session))

theorem reset : Keeps Related (reset : Action σ Unit) := handling.remember fun _ => none

theorem bindValue (name : String) (value : Value) : Keeps Related (bind name value : Action σ Bool) := by
  unfold Session.bind
  refine handling.bind handling.requirePrepared fun prepared => ?_
  refine handling.bind (handling.ofResult _) fun statement => ?_
  exact handling.bind (handling.remember _) fun _ => handling.pure true

theorem bindAll (params : Params) : Keeps Related (bindAll params : Action σ Unit) := by
  induction params with
  | nil => exact handling.pure ()
  | cons head tail ih =>
    exact handling.bind (keeps_discard (handling.bindValue head.1 head.2)) fun _ => ih

theorem prepareQuery (query : String) (params : Params) :
    Keeps Related (Session.prepare query params : Action σ Bool) :=
  handling.bind (handling.remember _) fun _ =>
    handling.bind (handling.bindAll params) fun _ => handling.pure true

variable [Server σ]

theorem close : Keeps Related (close : Action σ Bool) := keeps_of_meets close_meets handling.closed

theorem release : Keeps Related (release : Action σ Bool) :=
  handling.bind handling.reset fun _ => handling.close

theorem connecting : Keeps Related (Session.connect : Action σ Bool) :=
  keeps_of_meets connect_meets handling.connect

theorem checkConnection : Keeps Related (checkConnection : Action σ Bool) :=
  keeps_of_meets checkConnection_meets (handling.toChaining.checked handling.run handling.closed)

theorem commit : Keeps Related (commit : Action σ Bool) := keeps_of_meets commit_meets handling.committed

theorem rollback : Keeps Related (rollback : Action σ Bool) :=
  keeps_of_meets rollback_meets handling.rolledBack

theorem runs (statement : Statement) : Keeps Related (Session.run statement : Action σ Outcome) :=
  keeps_of_meets (run_meets statement) handling.run

theorem execute : Keeps Related (execute : Action σ Bool) := by
  unfold Session.execute
  refine handling.bind handling.requirePrepared fun prepared => ?_
  refine handling.bind (handling.onFault (handling.runs _) fun _ => handling.throw _) ?_
  exact fun outcome => handling.bind (handling.remember _) fun _ => handling.pure true

theorem queryExecute (query : String) (params : Params) (closing : Bool) :
    Keeps Related (queryExecute query params closing : Action σ Bool) :=
  keeps_of_meets (queryExecute_meets query params closing) fun queries =>
    handling.toQuerying.queries queries fun _ => handling.closed

theorem begin {connection : Nat} {session : Session σ} (fresh : Fresh connection session) :
    Ends (step .begin begin) session (fun _ final => Related session final)
      fun _ final => Related session final :=
  related_step .begin (ends_mono (begin_meets session) (fun _ _ => handling.begun fresh)
    fun _ _ => handling.begun fresh)

theorem stepCommit : Keeps Related (step .commit Session.commit : Action σ Unit) where
  ends session := related_step .commit (handling.commit.ends session)

theorem runStatement (query : String) (params : Params) :
    Keeps Related (runStatement query params : Action σ StatementResult) where
  ends session := by
    apply ends_mono (runStatement_ends query params session)
    · intro result final ended
      obtain ⟨_, asks, _⟩ := ended
      exact handling.toQuerying.ask asks
    · intro failure final failed
      rcases failed with ⟨_, _, rfl⟩ | ⟨_, asks⟩
      · exact handling.refl _
      · exact handling.toQuerying.ask asks

theorem runStatements (queries : List (String × Params)) :
    Keeps Related (runStatements queries : Action σ (List StatementResult)) := by
  induction queries with
  | nil => exact handling.pure []
  | cons head tail ih =>
    refine handling.bind (handling.runStatement head.1 head.2) fun result => ?_
    exact handling.bind ih fun results => handling.pure (result :: results)

theorem undo (failure : Failure) (handler : Failure → Action σ Unit)
    (keeps : ∀ refused, Keeps Related (handler refused)) :
    Keeps Related (do
      onFault (discard Session.rollback) handler
      throw (asTransactionFailure failure) : Action σ α) :=
  handling.bind (handling.onFault (keeps_discard handling.rollback) keeps)
    fun _ => handling.throw _

theorem transactionExecute (queries : List (String × Params)) :
    Keeps Related (transactionExecute queries : Action σ (List StatementResult)) where
  ends session := by
    simp only [Session.transactionExecute, connectForBatch]
    rw [ends_bind, ends_tryCatch, ends_discard]
    refine ends_mono (connect_meets session) (fun _ ready connects => ?_)
      fun _ _ connects => (ends_throw _).mpr (handling.connect connects)
    rw [ends_bind, ends_get]
    split
    · rw [ends_bind, ends_throw]
      exact handling.connect connects
    · rename_i outside
      have idle := inTransaction_eq_false.mp (Bool.eq_false_iff.mpr outside)
      obtain rfl := connects_answer connects
      obtain ⟨connection, fresh⟩ := connects.fresh idle
      have whole := handling.ends_then (handling.begin fresh)
        fun _ => handling.bind (handling.runStatements queries) fun results =>
          handling.bind handling.stepCommit fun _ => handling.pure results
      have undone := handling.ends_caught whole fun failure =>
        handling.undo failure (fun _ => pure ()) fun _ => handling.pure ()
      exact ends_mono undone (fun _ _ => handling.trans (handling.connect connects))
        fun _ _ => handling.trans (handling.connect connects)

theorem transaction (query : String) (params : Params) (committing closing : Bool) :
    Keeps Related (transaction query params committing closing : Action σ StatementResult) := by
  unfold Session.transaction
  refine handling.bind (handling.tryCatch ?_ fun failure => ?_) fun result => ?_
  · have rest : Keeps Related (do
        let result ← Session.runStatement query params
        if committing = true then step .commit Session.commit
        return result : Action σ StatementResult) := by
      refine handling.bind (handling.runStatement query params) fun result => ?_
      split
      · exact handling.bind handling.stepCommit fun _ => handling.pure result
      · exact handling.pure result
    constructor
    intro session
    rw [ends_bind, ends_get]
    dsimp only
    by_cases inside : session.inTransaction = true
    · rw [if_pos inside]
      exact rest.ends session
    · rw [if_neg inside, ends_bind, ends_discard]
      refine ends_mono (connect_meets session) (fun _ ready connects => ?_)
        fun _ _ connects => handling.connect connects
      have idle := connects.idle (inTransaction_eq_false.mp (Bool.eq_false_iff.mpr inside))
      obtain rfl := connects_answer connects
      obtain ⟨connection, fresh⟩ := connects.fresh idle
      exact ends_mono (handling.ends_then (handling.begin fresh) fun _ => rest)
        (fun _ _ => handling.trans (handling.connect connects))
        fun _ _ => handling.trans (handling.connect connects)
  · exact handling.undo failure _ fun refused => handling.throw _
  · dsimp only
    split
    · exact handling.bind (keeps_discard handling.close) fun _ => handling.pure result
    · exact handling.pure result

end Handling

structure Redirecting (Related : Session σ → Session σ → Prop) : Prop extends Operating Related where
  redirect (session : Session σ) (descriptor : Descriptor) : session.handle? = none →
    session.engine = false → Related session { session with descriptor }

namespace Handling

variable {Related : Session σ → Session σ → Prop} (handling : Handling Related)
  (redirect : ∀ (session : Session σ) descriptor, session.handle? = none → session.engine = false →
    Related session { session with descriptor })

include handling redirect

theorem redirected {result : Except Failure Bool} {session middle : Session σ}
    (closes : Closes session result middle) (descriptor : Descriptor) :
    Related session { middle with descriptor } :=
  handling.trans (handling.closed closes)
    (redirect middle descriptor closes.handle closes.engine)

variable [Server σ]

theorem configure (target : Target) : Keeps Related (configure target : Action σ Unit) where
  ends session := by
    simp only [Session.configure, ends_bind, ends_discard, ends_get, ends_ofResult, ends_modify]
    refine ends_mono (close_meets session) (fun _ middle closes => ?_)
      fun _ _ closes => handling.closed closes
    split
    · exact handling.redirected redirect closes _
    · exact handling.closed closes

theorem setField (field : Field) (value : Option String) :
    Keeps Related (setField field value : Action σ Unit) where
  ends session := by
    simp only [Session.setField, ends_bind, ends_discard, ends_get, ends_ofResult, ends_modify]
    split
    · exact ends_mono (close_meets session) (fun _ middle closes => handling.redirected redirect closes _)
        fun _ _ closes => handling.closed closes
    · exact handling.refl session

end Handling

def Call.Redirects : Call → Prop
  | .configure _ | .setField _ _ => True
  | _ => False

def Call.Consults : Call → Prop
  | .insert _ _ _ | .update _ _ _ _ _ | .delete _ _ _ _ | .select _ _ _ | .loadCatalog | .validSchema _ _
  | .validTable _ | .primaryKey _ => True
  | _ => False

def ConnectionCall.Redirects : ConnectionCall → Prop
  | .configure _ | .setField _ _ => True
  | _ => False

def CatalogCall.Consults : CatalogCall → Prop
  | .load | .require _ _ => True
  | _ => False

def Request.Redirects : Request → Prop
  | .call asked => asked.Redirects
  | .connection asked => asked.Redirects
  | .statement _ | .catalog _ => False

def Request.Consults : Request → Prop
  | .call asked => asked.Consults
  | .catalog asked => asked.Consults
  | .connection _ | .statement _ => False

section

variable {Related : Session σ → Session σ → Prop} [Server σ]

theorem Handling.call (handling : Handling Related) {call : Call} (stays : ¬ call.Redirects)
    (plain : ¬ call.Consults) : Keeps Related (call.run : Action σ Answer) := by
  cases call with
  | configure _ | setField _ _ => exact absurd trivial stays
  | insert _ _ _ | update _ _ _ _ _ | delete _ _ _ _ | select _ _ _ | loadCatalog | validSchema _ _
  | validTable _ | primaryKey _ => exact absurd trivial plain
  | connect => exact handling.answer handling.connecting .flag
  | checkConnection => exact handling.answer handling.checkConnection .flag
  | close => exact handling.answer handling.release .flag
  | enter => exact handling.pure _
  | leave => exact handling.answer (keeps_discard handling.release) fun _ => .nothing
  | descriptor => exact handling.view _
  | queryExecute query params closing =>
    exact handling.answer (handling.queryExecute query params closing) .flag
  | results firstOnly => exact handling.readRows firstOnly
  | rowCount => exact handling.answer (handling.view _) .count
  | lastInsertId => exact handling.answer (handling.view _) .text
  | keyPair => exact handling.answer handling.keyPair .pairs
  | transactionExecute queries => exact handling.answer (handling.transactionExecute queries) .results
  | transaction query params committing closing =>
    exact handling.answer (handling.transaction query params committing closing) .result
  | rollback => exact handling.answer handling.rollback .flag

theorem Steady.call (steady : Steady Related) {call : Call} (consults : call.Consults) :
    Keeps Related (call.run : Action σ Answer) := by
  have counted {write : Action σ Query} (writes : Keeps Related write) :
      Keeps Related (do Session.send (← write); Session.rowCount : Action σ Int) :=
    steady.bind writes fun query => steady.bind (steady.querying.send query) fun _ => steady.view _
  cases call with
  | configure _ | setField _ _ | connect | checkConnection | close | enter | leave | descriptor
  | queryExecute _ _ _ | results _ | rowCount | lastInsertId | keyPair | transactionExecute _
  | transaction _ _ _ _ | rollback => exact consults.elim
  | insert table input upsert =>
    exact steady.answer (counted (steady.attends.writeInsert table input upsert)) .count
  | update table params record conjunction allRows =>
    exact steady.answer
      (counted (steady.attends.writeUpdate table params record conjunction allRows)) .count
  | delete table record conjunction allRows =>
    exact steady.answer (counted (steady.attends.writeDelete table record conjunction allRows)) .count
  | select table record conjunction =>
    refine steady.answer ?_ .rows
    exact steady.bind (steady.attends.writeSelect table record conjunction) fun query =>
      steady.bind (steady.querying.send query) fun _ => steady.rows
  | loadCatalog => exact steady.answer steady.attends.loadCatalog .flag
  | validSchema table column => exact steady.answer (steady.attends.validSchema table column) .flag
  | validTable table => exact steady.answer (steady.attends.validTable table) .flag
  | primaryKey table => exact steady.answer (steady.attends.primaryKey table) .text

theorem Chaining.catalogView (chaining : Chaining Related) {call : CatalogCall} (plain : ¬ call.Consults) :
    Keeps Related (call.run : Action σ Answer) := by
  cases call with
  | load | require _ _ => exact absurd trivial plain
  | tables | snapshot => exact chaining.view _
  | columns _ | columnType _ _ =>
    exact chaining.bind chaining.get fun _ => chaining.bind (chaining.ofResult _) fun _ => chaining.pure _

theorem Steady.catalogCall (steady : Steady Related) (call : CatalogCall) :
    Keeps Related (call.run : Action σ Answer) := by
  by_cases consults : call.Consults
  · cases call with
    | load => exact steady.answer steady.attends.loadCatalog .flag
    | require table columns => exact steady.answer (steady.attends.require table columns) fun _ => .nothing
    | tables | columns _ | columnType _ _ | snapshot => exact consults.elim
  · exact steady.toChaining.catalogView consults

theorem Handling.statementCall (handling : Handling Related) (call : StatementCall) :
    Keeps Related (call.run : Action σ Answer) := by
  cases call with
  | prepare query params => exact handling.answer (handling.prepareQuery query params) .flag
  | bind name value => exact handling.answer (handling.bindValue name value) .flag
  | execute => exact handling.answer handling.execute .flag
  | results firstOnly => exact handling.readRows firstOnly
  | rowCount => exact handling.answer (handling.view _) .count
  | keyPair => exact handling.answer handling.keyPair .pairs
  | reset => exact handling.answer handling.reset fun _ => .nothing
  | queryExecute query params closing =>
    exact handling.answer (handling.queryExecute query params closing) .flag
  | statement => exact handling.view _

theorem Handling.connectionCall (handling : Handling Related) {call : ConnectionCall}
    (stays : ¬ call.Redirects) (begins : call = .begin → Keeps Related (Session.begin : Action σ Bool)) :
    Keeps Related (call.run : Action σ Answer) := by
  cases call with
  | configure _ | setField _ _ => exact absurd trivial stays
  | connect => exact handling.answer handling.connecting .flag
  | checkConnection => exact handling.answer handling.checkConnection .flag
  | close => exact handling.answer handling.close .flag
  | begin => exact handling.answer (begins rfl) .flag
  | commit => exact handling.answer handling.commit .flag
  | rollback => exact handling.answer handling.rollback .flag
  | inTransaction | connected | descriptor | database => exact handling.view _
  | lastInsertId => exact handling.answer (handling.view _) .text
  | execute query params =>
    refine handling.answer ?_ .outcome
    exact handling.bind (handling.ofResult _) fun statement => handling.runs statement

theorem Handling.request (handling : Handling Related)
    (begins : Keeps Related (Session.begin : Action σ Bool)) {request : Request}
    (stays : ¬ request.Redirects) (plain : ¬ request.Consults) :
    Keeps Related (request.run : Action σ Answer) := by
  cases request with
  | call asked => exact handling.call stays plain
  | connection asked => exact handling.connectionCall stays fun _ => begins
  | statement asked => exact handling.statementCall asked
  | catalog asked => exact handling.catalogView plain

theorem Handling.redirects (handling : Handling Related)
    (redirect : ∀ (session : Session σ) descriptor, session.handle? = none → session.engine = false →
      Related session { session with descriptor }) {request : Request} (redirects : request.Redirects) :
    Keeps Related (request.run : Action σ Answer) := by
  rcases request with call | call | _ | _
  · cases call with
    | configure target =>
      exact handling.bind handling.reset fun _ =>
        handling.answer (handling.configure redirect target) fun _ => .nothing
    | setField field value =>
      exact handling.bind handling.reset fun _ =>
        handling.answer (handling.setField redirect field value) fun _ => .nothing
    | _ => exact redirects.elim
  · cases call with
    | configure target => exact handling.answer (handling.configure redirect target) fun _ => .nothing
    | setField field value => exact handling.answer (handling.setField redirect field value) fun _ => .nothing
    | _ => exact redirects.elim
  · exact redirects.elim
  · exact redirects.elim

theorem Redirecting.request (redirecting : Redirecting Related) {request : Request}
    (redirects : request.Redirects) : Keeps Related (request.run : Action σ Answer) :=
  redirecting.handling.redirects redirecting.redirect redirects

theorem Steady.request (steady : Steady Related) {request : Request} (consults : request.Consults) :
    Keeps Related (request.run : Action σ Answer) := by
  cases request with
  | call asked => exact steady.call consults
  | connection _ | statement _ => exact consults.elim
  | catalog asked => exact steady.catalogCall asked

end

end SqlGateway.Session
