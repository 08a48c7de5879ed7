import SqlGateway.Proofs.Wrapping

/-!
Faults that leave a call bare. Where every fault is one that the gateway knows, a call fails with a bare fault
exactly if a disposal that is refused ends it, or the rollback that it asks for is refused; what else it fails
with is a failure of the gateway, but for a signalling number, for a row that lacks a column and for a name that is
none.
-/

namespace SqlGateway

theorem own_of_unwritten {failure : Failure} (unwritten : Query.Unwritten failure) : failure.own = true := by
  rcases unwritten with kind | kind <;> rw [Failure.own, kind]

theorem Exchange.Trying.undisposing {connection : Nat} {exchange : Exchange}
    (trying : exchange.Trying connection) : exchange.refusesDispose = false := by
  rcases exchange with ⟨event, answer⟩
  cases event with
  | dispose => exact trying.elim
  | createEngine _ | connect _ | execute _ _ | begin _ | commitTransaction _ | rollbackTransaction _ | commit _
  | rollback _ | close _ => rfl

namespace Session

variable {σ α : Type} {session middle final : Session σ} {given : Value → Prop}

/-- What a failure is where every fault is known: bare exactly if a fault escapes, and else one of the gateway,
unless a signalling number, a column that is missing or a given value that is no name is to blame. -/
structure Explained (given : Value → Prop) (escapes : Prop) (exchanges : List Exchange)
    (failure : Failure) (final : Session σ) : Prop where
  bare : (∃ fault, failure = .fault fault) ↔ escapes
  rest : failure.own = true ∨ (∃ fault, failure = .fault fault) ∨
    failure = .invalidOperation ∧ Signals exchanges ∨ Lacks (outcome final).rows failure ∨ Misnames given failure

def Call.names : Call → List Value
  | .insert table input _ => table :: ((Query.readRows input).toOption.map Query.Rows.columns).getD []
  | .update table params record _ _ => table :: (params.keys ++ record.keys)
  | .delete table record _ _ | .select table record _ => table :: record.keys
  | .validSchema table column => [table, column]
  | .validTable table | .primaryKey table => [table]
  | _ => []

/-- The requests of the call after which a fault leaves it bare. -/
def Call.Escapes (exchanges : List Exchange) : Call → Prop
  | .rollback => exchanges.getLast?.any Exchange.refusesRollback = true
  | .transaction _ _ _ _ => Undisposed exchanges ∧ CommittedIn exchanges
  | _ => Undisposed exchanges

theorem not_bare_of_own {failure : Failure} (own : failure.own = true) :
    ¬ ∃ fault, failure = .fault fault := by
  rintro ⟨fault, rfl⟩
  cases (Failure.own_fault fault).symm.trans own

theorem Accounts.explained {exchanges : List Exchange} {failure : Failure}
    (accounts : Accounts given exchanges final (some failure)) :
    Explained given (Undisposed exchanges) exchanges failure final := by
  cases accounts with
  | own own others => exact ⟨iff_of_false (not_bare_of_own own) others, .inl own⟩
  | undisposed fault last => exact ⟨iff_of_true ⟨fault, rfl⟩ last, .inr (.inl ⟨fault, rfl⟩)⟩
  | signalled signals others => exact ⟨iff_of_false nofun others, .inr (.inr (.inl ⟨rfl, signals⟩))⟩
  | absent lacks others =>
    refine ⟨iff_of_false ?_ others, .inr (.inr (.inr (.inl lacks)))⟩
    obtain ⟨name, row, -, -, rfl⟩ := lacks
    exact nofun
  | misnamed misnames others =>
    refine ⟨iff_of_false ?_ others, .inr (.inr (.inr (.inr misnames)))⟩
    cases misnames <;> exact nofun

theorem fails_resolve (settings : Settings) (field : Field) (value : Option String) :
    FailsWith (·.own = true) (resolve settings field value) := by
  unfold resolve
  dsimp only
  split
  · exact fails_ok _
  · exact fails_ok _
  · exact fails_error rfl

theorem fails_describe (settings : Settings) (target : Target) :
    FailsWith (·.own = true) (describe settings target) := by
  unfold describe
  refine (fails_resolve settings _ _).bind fun host => (fails_resolve settings _ _).bind fun user => ?_
  exact (fails_resolve settings _ _).bind fun password =>
    (fails_resolve settings _ _).bind fun database => fails_ok _

theorem own_of_transaction {failure : Failure} (transactional : failure.isTransaction = true) :
    failure.own = true := by
  unfold Failure.isTransaction at transactional
  unfold Failure.own
  split at transactional
  all_goals simp_all

theorem RollsBack.worded {result : Except Failure Bool} {left : Failure}
    (rollsBack : RollsBack session result final) (leaves : Leaves result left) :
    Worded given session left final := by
  cases leaves with
  | reported _ transactional => exact ⟨rollsBack.undisposing, .inl (own_of_transaction transactional)⟩
  | replaced unknown => exact ⟨rollsBack.undisposing, .inr (rollsBack.strange unknown)⟩

theorem Worded.since {failure : Failure} (worded : Worded given middle failure final)
    (grows : session.log <+: middle.log) : ∃ exchanges, final.log = session.log ++ exchanges ∧
      (Familiar exchanges → failure.own = true) := by
  rcases worded with ⟨⟨exchanges, split, -⟩, own | strange⟩
  · obtain ⟨before, same⟩ := grows
    exact ⟨before ++ exchanges, by rw [split, ← same, List.append_assoc], fun _ => own⟩
  · obtain ⟨exchanges, split, unknown⟩ := strange.late grows
    exact ⟨exchanges, split, fun known => absurd known unknown⟩

theorem Fails.undisposing {connection : Nat} (fails : Fails connection session final) :
    Told given session none final := by
  cases fails with
  | unbegun answer _ split _ => exact told_undisposing (.one split rfl)
  | begun tried split trying _ =>
    refine told_undisposing ⟨_, split, List.forall_mem_cons.mpr ⟨rfl, fun exchange member => ?_⟩⟩
    exact (trying exchange member).undisposing

theorem yields_modify {change : Session σ → Session σ} (log : ∀ session, (change session).log = session.log) :
    Yields (Told given) (modify change : Action σ PUnit) where
  ends session := (ends_modify change).mpr (told_silent (log session))

theorem Told.explained {failure : Failure} (told : Told given session (some failure) final) :
    ∃ exchanges, final.log = session.log ++ exchanges ∧
      (Familiar exchanges → Explained given (Undisposed exchanges) exchanges failure final) := by
  obtain ⟨exchanges, split, accounts⟩ := told
  exact ⟨exchanges, split, fun known => (accounts known).explained⟩

section

variable [Server σ]

theorem transactionExecute_told (queries : List (String × Params)) (session : Session σ) :
    Ends (transactionExecute queries) session (fun _ _ => True)
      fun failure final => Told given session (some failure) final := by
  refine transactionExecute_ends ?_ (fun ready connects _ => ?_) fun ready connection connects held => ?_
  · intro failure ready connects
    have told : Told given session (some failure) ready := connects.reported
    split
    · next kind => exact (told.caught (by rw [Failure.own, kind])).own rfl
    · exact told
  · have connected : Told given session none ready := connects.reported
    exact connected.own rfl
  · have connected : Told given session none ready := connects.reported
    rw [ends_tryCatch]
    refine ends_mono (runBatch_ends queries held) (fun _ _ _ => trivial) fun failure last fails => ?_
    refine ends_mono (undoBatch_leaves failure) (fun _ _ => id) ?_
    rintro left final ⟨_, rollsBack, leaves⟩
    exact connected.trans (fails.undisposing.trans (rollsBack.worded leaves).told)

theorem transaction_kept_own (query : String) (params : Params) (committing : Bool) (session : Session σ) :
    Ends (transaction query params committing false) session (fun _ _ => True)
      fun failure final => ∃ exchanges, final.log = session.log ++ exchanges ∧
        (Familiar exchanges → failure.own = true) := by
  have undone (failure : Failure) {last : Session σ} (grows : session.log <+: last.log) :
      Ends (undoStatement failure) last (fun _ _ => True) fun left final =>
        ∃ exchanges, final.log = session.log ++ exchanges ∧ (Familiar exchanges → left.own = true) := by
    refine ends_mono (undoStatement_leaves failure) (fun _ _ => id) ?_
    rintro left final ⟨_, rollsBack, leaves⟩
    have worded : Worded (fun _ => False) last left final := rollsBack.worded leaves
    exact worded.since grows
  rw [transaction_kept, ends_tryCatch, ends_bind]
  refine ends_mono (ensureOpen_uncommitting session) ?_ fun failure _ adds => undone failure adds.grows
  rintro _ opened ⟨opening, connection, held⟩
  exact ends_mono (attempt_commits query params committing held) (fun _ _ _ => trivial)
    fun failure _ tried => undone failure (opening.trans tried).grows

/-- A fault that leaves an incremental call bare is that of the disposal after its commit. -/
theorem transaction_explained (query : String) (params : Params) (committing closing : Bool)
    (session : Session σ) :
    Ends (transaction query params committing closing) session (fun _ _ => True)
      fun failure final => ∃ exchanges, final.log = session.log ++ exchanges ∧ (Familiar exchanges →
        Explained given (Undisposed exchanges ∧ CommittedIn exchanges) exchanges failure final) := by
  have kept := transaction_kept_ends query params committing session
  refine transaction_ends (kept.and (transaction_kept_own query params committing session))
    (fun _ _ _ _ => trivial) ?_ ?_
  · rintro commits - result middle ⟨⟨exchanges, split, committed⟩, -⟩
    refine ends_mono (close_meets middle) (fun _ _ _ => trivial) fun failure final closes => ?_
    obtain ⟨rest, splitFinal, cut⟩ := closes.cutShort
    rw [split, List.append_assoc] at splitFinal
    refine ⟨_, splitFinal, fun known => ?_⟩
    obtain ⟨exchange, member, here⟩ := committed.mpr commits
    have committed : CommittedIn (exchanges ++ rest) := ⟨exchange, List.mem_append_left rest member, here⟩
    have cut := cut exchanges
    generalize exchanges ++ rest = whole at known committed cut
    cases cut with
    | closing before connection unknown =>
      exact absurd (known _ (List.mem_append_right before List.mem_cons_self) _ rfl) unknown
    | disposing before fault =>
      have last : Undisposed (before ++ [⟨.dispose, .error fault⟩]) := by
        rw [Undisposed, List.getLast?_concat]
        rfl
      exact ⟨iff_of_true ⟨fault, rfl⟩ ⟨last, committed⟩, .inr (.inl ⟨fault, rfl⟩)⟩
  · rintro failure final ⟨⟨exchanges, split, uncommitted, -⟩, others, same, own⟩
    obtain rfl := List.append_cancel_left (same.symm.trans split)
    exact ⟨others, split, fun known =>
      ⟨iff_of_false (not_bare_of_own (own known)) fun both => uncommitted both.2, .inl (own known)⟩⟩

theorem yields_queryExecute (query : String) (params : Params) (closing : Bool) :
    Yields (Told given) (queryExecute query params closing : Action σ Bool) where
  ends session := ends_mono (queryExecute_meets query params closing session)
    (fun _ _ queries => queries.reported) fun _ _ queries => queries.reported

theorem yields_close : Yields (Told given) (close : Action σ Bool) where
  ends session := ends_mono (close_meets session) (fun _ _ closes => closes.reported)
    fun _ _ closes => closes.reported

theorem consulting_told : Consulting given (Told given (σ := σ)) where
  refl _ := told_silent rfl
  trans := Told.trans
  lacks := told_lacks
  rejects _ refused := by
    rcases refused with kind | kind | misnames
    · exact told_own (by rw [Failure.own, kind])
    · exact told_own (by rw [Failure.own, kind])
    · exact told_misnames misnames
  recast _ _ := told_silent rfl
  recovers kind told := told.caught (by rw [Failure.own, kind])
  listing := by
    refine ⟨fun session => ?_⟩
    rw [askListing, Meets, ends_bind, ends_databaseName]
    exact (yields_queryExecute _ _ false).ends session
  keyed table := by
    refine ⟨fun session => ?_⟩
    rw [askPrimaryKey, Meets, ends_bind, ends_databaseName]
    exact (yields_queryExecute _ _ false).ends session

theorem yields_own {result : Except Failure α} (fails : FailsWith (·.own = true) result) :
    Yields (Told given) (ofResult result : Action σ α) :=
  consulting_told.ofResult fails fun _ _ => told_own

theorem yields_keyPair : Yields (Told given) (keyPair : Action σ Record) where
  ends session := by
    rw [Meets, keyPair, ends_bind, ends_get]
    dsimp only
    split
    · refine consulting_told.ends_then (consulting_told.ends_ofResult ?_) fun _ => consulting_told.pure _
      refine FailsWith.mono (fails_mapM fun row member => ?_) fun _ => told_lacks
      exact (fails_column _ member).bind fun _ => (fails_column _ member).bind fun _ => fails_ok _
    · exact (ends_throw _).mpr (told_own rfl)

theorem yields_configure (target : Target) : Yields (Told given) (configure target : Action σ Unit) := by
  refine consulting_told.bind yields_close.discard fun _ => consulting_told.bind consulting_told.get fun _ => ?_
  exact consulting_told.bind (yields_own (fails_describe _ _)) fun _ => yields_modify fun _ => rfl

theorem yields_setField (field : Field) (value : Option String) :
    Yields (Told given) (setField field value : Action σ Unit) := by
  refine consulting_told.bind consulting_told.get fun _ => ?_
  refine consulting_told.bind (yields_own (fails_resolve _ _ _)) fun _ => ?_
  exact consulting_told.bind yields_close.discard fun _ => yields_modify fun _ => rfl

theorem yields_quick {write : Action σ Query} (writes : Yields (Told given) write) {next : Action σ α}
    (answers : Yields (Told given) next) : Yields (Told given) (do send (← write); next) :=
  consulting_told.bind writes fun query =>
    consulting_told.bind (yields_queryExecute query.sql query.params false).discard fun _ => answers

theorem yields_release : Yields (Told given) (release : Action σ Bool) :=
  consulting_told.bind (yields_modify fun _ => rfl) fun _ => yields_close

theorem yields_rowCount : Yields (Told given) (rowCount : Action σ Int) :=
  consulting_told.bind consulting_told.get fun _ => consulting_told.pure _

theorem yields_insert (table input : Value) (upsert : Bool)
    (named : ∀ value ∈ (Call.insert table input upsert).names, given value) :
    Yields (Told given) (insert table input upsert : Action σ Int) := by
  have columned (batch : Query.Rows) (read : Query.readRows input = .ok batch) :
      ∀ column ∈ batch.columns, given column := by
    refine fun column member => named column (List.mem_cons_of_mem table ?_)
    rw [read]
    exact member
  have shaped := (Query.fails_readRows input).mono fun _ kind => own_of_unwritten (.inl kind)
  have written : Yields (Told given) (writeInsert table input upsert : Action σ Query) :=
    consulting_told.writeInsert (named table List.mem_cons_self) columned (yields_own shaped) fun key => yields_own
      ((Query.fails_insert table input (.text key) upsert).mono fun _ kind => own_of_unwritten (.inl kind))
  exact yields_quick written yields_rowCount

theorem yields_update (table : Value) (params record : Record) (conjunction : Query.Conjunction) (allRows : Bool)
    (named : ∀ value ∈ (Call.update table params record conjunction allRows).names, given value) :
    Yields (Told given) (update table params record conjunction allRows : Action σ Int) := by
  have own := (Query.fails_update table params record conjunction allRows).mono fun _ => own_of_unwritten
  have written : Yields (Told given) (writeUpdate table params record conjunction allRows : Action σ Query) :=
    consulting_told.writeUpdate (named table List.mem_cons_self)
      (fun column member => named column (List.mem_cons_of_mem _ member)) (yields_own own)
  exact yields_quick written yields_rowCount

theorem yields_delete (table : Value) (record : Record) (conjunction : Query.Conjunction) (allRows : Bool)
    (named : ∀ value ∈ (Call.delete table record conjunction allRows).names, given value) :
    Yields (Told given) (delete table record conjunction allRows : Action σ Int) := by
  have own := (Query.Command.fails_write (.delete table record conjunction allRows)).mono fun _ => own_of_unwritten
  have written : Yields (Told given) (writeDelete table record conjunction allRows : Action σ Query) :=
    consulting_told.writeDelete (named table List.mem_cons_self)
      (fun column member => named column (List.mem_cons_of_mem _ member)) (yields_own own)
  exact yields_quick written yields_rowCount

theorem yields_select (table : Value) (record : Record) (conjunction : Query.Conjunction)
    (named : ∀ value ∈ (Call.select table record conjunction).names, given value) :
    Yields (Told given) (select table record conjunction : Action σ (List Row)) := by
  have own := (Query.Command.fails_write (.select table record conjunction)).mono fun _ => own_of_unwritten
  have written : Yields (Told given) (writeSelect table record conjunction : Action σ Query) :=
    consulting_told.writeSelect (named table List.mem_cons_self)
      (fun column member => named column (List.mem_cons_of_mem _ member)) (yields_own own)
  exact yields_quick written (consulting_told.bind consulting_told.get fun _ => consulting_told.pure _)

/-- A refused rollback of the explicit transaction is all that a call of `rollback` can fail with. -/
theorem rollback_explained (given : Value → Prop) (session : Session σ) :
    Ends (rollback : Action σ Bool) session (fun _ _ => True) fun failure final => ∃ exchanges,
      final.log = session.log ++ exchanges ∧
        Explained given (exchanges.getLast?.any Exchange.refusesRollback = true) exchanges failure final := by
  refine ends_mono (rollback_meets session) (fun _ _ _ => trivial) fun failure final rollsBack => ?_
  generalize same : Except.error failure = result at rollsBack
  cases rollsBack with
  | nothing _ => cases same
  | asked connection answer server _ =>
    cases answer with
    | ok _ => cases same
    | error fault =>
      cases same
      exact ⟨_, rfl, iff_of_true ⟨fault, rfl⟩ rfl, .inr (.inl ⟨fault, rfl⟩)⟩

theorem call_explained (call : Call) (named : ∀ value ∈ call.names, given value) (session : Session σ) :
    Ends call.run session (fun _ _ => True) fun failure final => ∃ exchanges,
      final.log = session.log ++ exchanges ∧
        (Familiar exchanges → Explained given (call.Escapes exchanges) exchanges failure final) := by
  have plain {action : Action σ Answer} (yields : Yields (Told given) action) :
      Ends action session (fun _ _ => True) fun failure final => ∃ exchanges,
        final.log = session.log ++ exchanges ∧
          (Familiar exchanges → Explained given (Undisposed exchanges) exchanges failure final) :=
    ends_mono (yields.ends session) (fun _ _ _ => trivial) fun _ _ told => Told.explained told
  have consulting : Consulting given (Told given (σ := σ)) := consulting_told
  have telling := consulting.toYielding
  have reset : Yields (Told given) (reset : Action σ Unit) := yields_modify fun _ => rfl
  cases call with
  | transactionExecute queries =>
    rw [Call.run, ends_bind]
    exact ends_mono (transactionExecute_told queries session) (fun _ _ _ => (ends_pure _).mpr trivial)
      fun _ _ told => told.explained
  | transaction query params committing closing =>
    rw [Call.run, ends_bind]
    exact ends_mono (transaction_explained query params committing closing session)
      (fun _ _ _ => (ends_pure _).mpr trivial) fun _ _ => id
  | rollback =>
    rw [Call.run, ends_bind]
    refine ends_mono (rollback_explained given session) (fun _ _ _ => (ends_pure _).mpr trivial) ?_
    rintro failure final ⟨exchanges, split, explained⟩
    exact ⟨exchanges, split, fun _ => explained⟩
  | configure target =>
    exact plain (telling.bind reset fun _ => telling.answered (yields_configure target) fun _ => .nothing)
  | setField field value =>
    exact plain (telling.bind reset fun _ => telling.answered (yields_setField field value) fun _ => .nothing)
  | connect =>
    exact plain (telling.answered ⟨fun session => ends_mono (connect_meets session)
      (fun _ _ connects => connects.reported) fun _ _ connects => connects.reported⟩ .flag)
  | checkConnection =>
    exact plain (telling.answered ⟨fun session => ends_mono (checkConnection_meets session)
      (fun _ _ checks => checks.reported) fun _ _ checks => checks.reported⟩ .flag)
  | close => exact plain (telling.answered yields_release .flag)
  | enter => exact plain (telling.pure _)
  | leave => exact plain (telling.answered yields_release.discard fun _ => .nothing)
  | descriptor => exact plain (telling.bind telling.get fun _ => telling.pure _)
  | queryExecute query params closing =>
    exact plain (telling.answered (yields_queryExecute query params closing) .flag)
  | results firstOnly =>
    refine plain (yields_rows fun session => ?_)
    split <;> exact (telling.pure _).ends session
  | rowCount => exact plain (telling.answered yields_rowCount .count)
  | lastInsertId =>
    exact plain (telling.answered (telling.bind telling.get fun _ => telling.pure _) .text)
  | keyPair => exact plain (telling.answered yields_keyPair .pairs)
  | loadCatalog => exact plain (telling.answered consulting.loadCatalog .flag)
  | validSchema table column =>
    have tabled := named table List.mem_cons_self
    have columned := named column (List.mem_cons_of_mem _ List.mem_cons_self)
    exact plain (telling.answered (consulting.validSchema tabled fun _ => columned) .flag)
  | validTable table => exact plain (telling.answered (consulting.validTable (named table List.mem_cons_self)) .flag)
  | primaryKey table => exact plain (telling.answered (consulting.primaryKey (named table List.mem_cons_self)) .text)
  | insert table input upsert => exact plain (telling.answered (yields_insert table input upsert named) .count)
  | update table params record conjunction allRows =>
    exact plain (telling.answered (yields_update table params record conjunction allRows named) .count)
  | delete table record conjunction allRows =>
    exact plain (telling.answered (yields_delete table record conjunction allRows named) .count)
  | select table record conjunction =>
    exact plain (telling.answered (yields_select table record conjunction named) .rows)

/-- A call that fails where every fault is known to the gateway leaves a fault bare exactly if one escapes: if
it ends with a disposal that is refused, which a transaction leaves bare only after its commit, or if it asks
for a rollback that is refused. What else it fails with is a failure of the gateway, unless a probe was answered
by a signalling number, a row has no column of a name that was asked for, or a name that the call gives is none. -/
theorem fault_escapes_iff (call : Call) {session final : Session σ} {failure : Failure}
    {exchanges : List Exchange} (fails : call.run session = .error failure final)
    (split : final.log = session.log ++ exchanges) (known : Familiar exchanges) :
    ((∃ fault, failure = .fault fault) ↔ call.Escapes exchanges) ∧
      (failure.own = true ∨ (∃ fault, failure = .fault fault) ∨
        failure = .invalidOperation ∧ Signals exchanges ∨ Lacks (outcome final).rows failure ∨
        Misnames (· ∈ call.names) failure) := by
  obtain ⟨others, same, explained⟩ := (ends_iff_of_error fails).mp (call_explained call (fun _ => id) session)
  obtain rfl := List.append_cancel_left (same.symm.trans split)
  exact ⟨(explained known).bare, (explained known).rest⟩

end

def unreached : Session Script :=
  { rehearsed with server := rehearsed.server.change (.fault .connect (some (.library "lost"))) }

/-- The fault of the server is wrapped. -/
theorem unreached_wraps : ∃ failure exchanges,
    Call.connect.run unreached = .error failure (after Call.connect.run unreached) ∧
      (after Call.connect.run unreached).log = unreached.log ++ exchanges ∧ Familiar exchanges ∧
      (∃ exchange ∈ exchanges, exchange.fault? = some (.library "lost")) ∧
      ¬ ∃ fault, failure = .fault fault := by
  have split : (after Call.connect.run unreached).log = unreached.log ++
      [⟨.createEngine (engineOptions unreached), .ok ()⟩, ⟨.connect 0, .error (.library "lost")⟩,
        ⟨.dispose, .ok ()⟩] := by
    rfl
  have known : Familiar [⟨.createEngine (engineOptions unreached), .ok ()⟩,
      ⟨.connect 0, .error (.library "lost")⟩, ⟨.dispose, .ok ()⟩] := by
    simp [Familiar, Exchange.fault?, Fault.recognised]
  have refused : returns Call.connect.run unreached = false := by decide +kernel
  obtain ⟨failure, fails⟩ := eq_error_of_returns refused
  refine ⟨failure, _, fails, split, known, ?_, fun bare => ?_⟩
  · exact ⟨_, List.mem_cons_of_mem _ List.mem_cons_self, rfl⟩
  · exact absurd ((fault_escapes_iff .connect fails split known).1.mp bare) Bool.false_ne_true

def forsaken : Session Script :=
  { rehearsedInside with
    server := rehearsedInside.server.change (.fault .rollbackTransaction (some (.library "lost"))) }

/-- The fault that refuses the rollback leaves the call as it is. -/
theorem forsaken_escapes : Reachable forsaken ∧
    Call.rollback.run forsaken = .error (.fault (.library "lost")) (after Call.rollback.run forsaken) ∧
      (after Call.rollback.run forsaken).log = forsaken.log ++
        [⟨.rollbackTransaction 0, .error (.library "lost")⟩] ∧
      Familiar [⟨.rollbackTransaction 0, .error (.library "lost")⟩] := by
  refine ⟨.elsewhere _ rehearsedInside_reachable, rfl, rfl, ?_⟩
  simp [Familiar, Exchange.fault?, Fault.recognised]

end Session

end SqlGateway
