import SqlGateway.Proofs.Bindable
import SqlGateway.Proofs.Filtering
import SqlGateway.Proofs.Incremental

/-!
Parameters that are kept although the query has no place for them. What is mentioned need not be a placeholder:
of the surroundings of a name only the border behind it is looked at. A call fails for it exactly if such a
parameter is reached when the kept ones are bound in their order.
-/

namespace SqlGateway

def Failure.Unbinds (failure : Failure) : Prop :=
  failure.kind = .bindFailed ∨ ∃ cause, failure.cause? = some cause ∧ cause.kind = .bindFailed

namespace Failure

variable {failure cause : Failure}

theorem not_unbinds_of_bare (other : failure.kind ≠ .bindFailed) (bare : failure.cause? = none) :
    ¬ failure.Unbinds := by
  intro unbinds
  rcases unbinds with here | ⟨cause, back, -⟩
  · exact other here
  · cases bare.symm.trans back

theorem not_unbinds_of_cause (other : failure.kind ≠ .bindFailed) (back : failure.cause? = some cause)
    (sound : ¬ cause.Unbinds) : ¬ failure.Unbinds := by
  intro unbinds
  rcases unbinds with here | ⟨same, backToo, kind⟩
  · exact other here
  · obtain rfl := Option.some.inj (back.symm.trans backToo)
    exact sound (.inl kind)

theorem Ordinary.not_unbinds (ordinary : failure.Ordinary) : ¬ failure.Unbinds :=
  not_unbinds_of_bare ordinary.unbinding (by cases ordinary <;> rfl)

theorem unbinding_step (place : Step) : place.kind ≠ .bindFailed := by cases place <;> decide

theorem not_unbinds_stepFailed (place : Step) (sound : ¬ failure.Unbinds) :
    ¬ (Failure.stepFailed place failure).Unbinds :=
  not_unbinds_of_cause (unbinding_step place) rfl sound

end Failure

namespace Statement

/-- Bound one after the other, the parameters come to one that has a type but no place in the query. -/
inductive Strays (query : String) : Params → Prop
  | here {name : String} {value : Value} {bound : Bound} {more : Params} : Infers value bound →
      place (bareName name) ∉ placeholders query → Strays query ((name, value) :: more)
  | later {name : String} {value : Value} {bound : Bound} {more : Params} : Infers value bound →
      place (bareName name) ∈ placeholders query → Strays query more → Strays query ((name, value) :: more)

theorem mem_keys_mentioned_iff (query name : String) (params : Params) :
    name ∈ (mentioned query params).keys ↔
      (∃ key ∈ params.keys, bareName key = name) ∧ Mentions query name := by
  rw [Mentions, ← mentions_iff]
  constructor
  · exact mem_keys_mentioned
  · intro both
    obtain ⟨⟨key, given, bare⟩, present⟩ := both
    obtain ⟨entry, among, rfl⟩ := List.mem_map.mp given
    rw [mentioned, Entries.mem_keys_ofList, ← bare]
    refine List.mem_map.mpr ⟨(bareName entry.1, entry.2), List.mem_filter.mpr ⟨?_, ?_⟩, rfl⟩
    · exact List.mem_map_of_mem among
    · rw [bare]
      exact present

theorem bind_eq_error {statement : Statement} {name : String} {value : Value} {failure : Failure}
    (refused : statement.bind name value = .error failure) :
    failure = .collectionBound (bareName name) ∧ (∃ cause, Bound.infer value = .error cause) ∨
      ∃ bound, Infers value bound ∧ place (bareName name) ∉ placeholders statement.text ∧
        failure = .bindFailed (.text (bareName name)) bound.value bound.wire.name := by
  rcases SqlGateway.bind_eq_error refused with untyped | ⟨bound, inferred, unplaced⟩
  · exact .inl (inferFor_error untyped)
  · refine .inr ⟨bound, inferFor_ok inferred, ?_⟩
    split at unplaced
    · cases unplaced
    · next absent =>
      cases unplaced
      exact ⟨mt List.contains_iff_mem.mpr absent, rfl⟩

theorem unbound_iff_strays (statement : Statement) (params : Params) :
    (∃ failure, statement.bindEach params = .error failure ∧ failure.kind = .bindFailed) ↔
      Strays statement.text params := by
  induction params generalizing statement with
  | nil => exact ⟨nofun, nofun⟩
  | cons entry more ih =>
    rcases entry with ⟨name, value⟩
    rw [bindEach]
    cases bound : statement.bind name value with
    | error failure =>
      rcases bind_eq_error bound with ⟨rfl, cause, untyped⟩ | ⟨sent, inferred, absent, rfl⟩
      · constructor
        · rintro ⟨_, ⟨⟩, ⟨⟩⟩
        · intro strays
          cases strays with
          | here inferred _ | later inferred _ _ => cases inferred.symm.trans untyped
      · exact ⟨fun _ => .here inferred absent, fun _ => ⟨_, rfl, rfl⟩⟩
    | ok next =>
      obtain ⟨placed, sent, inferred, rfl⟩ := bind_eq_ok bound
      refine (ih _).trans ⟨.later inferred placed, fun strays => ?_⟩
      cases strays with
      | here _ absent => exact absurd placed absent
      | later _ _ strays => exact strays

theorem causeless_bindEach (statement : Statement) (params : Params) :
    FailsWith (·.cause? = none) (statement.bindEach params) := by
  refine fails_bindEach (fun statement name value failure refused => ?_) statement params
  rcases bind_eq_error refused with ⟨rfl, -⟩ | ⟨_, -, -, rfl⟩ <;> rfl

theorem Strays.exists_unplaced {query : String} {params : Params} (strays : Strays query params) :
    ∃ name ∈ params.keys, place (bareName name) ∉ placeholders query := by
  induction strays with
  | here _ absent => exact ⟨_, List.mem_cons_self, absent⟩
  | later _ _ _ ih =>
    obtain ⟨name, among, absent⟩ := ih
    exact ⟨name, List.mem_cons_of_mem _ among, absent⟩

def Stray (query : String) (params : Params) : Prop := Strays query (mentioned query params)

theorem stray_iff (query : String) (params : Params) : Stray query params ↔
    ∃ failure, forQuery query params = .error failure ∧ failure.kind = .bindFailed :=
  (unbound_iff_strays (ofText query) (mentioned query params)).symm

theorem not_stray_of_placed {query : String} {params : Params}
    (placed : ∀ name ∈ (mentioned query params).keys, name ∈ placeholders query) : ¬ Stray query params := by
  intro stray
  obtain ⟨name, kept, absent⟩ := Strays.exists_unplaced stray
  have stands : Stands query name := (mem_placeholders_iff query name).mp (placed name kept)
  have own : place name = name := (place_eq_iff stands.ne_empty).mpr (.inl rfl)
  rw [stands.spelled.bareName, own] at absent
  exact absent (placed name kept)

end Statement

namespace Session

open Statement

variable {σ α : Type}

def Unstuck (_ : Session σ) (failure? : Option Failure) (_ : Session σ) : Prop :=
  ∀ failure, failure? = some failure → ¬ failure.Unbinds

theorem unstuck_none (session final : Session σ) : Unstuck session none final := nofun

theorem unstuck_some_iff {session final : Session σ} {failure : Failure} :
    Unstuck session (some failure) final ↔ ¬ failure.Unbinds :=
  ⟨fun unstuck => unstuck failure rfl, fun sound _ same => Option.some.inj same ▸ sound⟩

theorem yields_failed {failure : Failure} (sound : ¬ failure.Unbinds) :
    Yields Unstuck (throw failure : Action σ α) :=
  yields_throw fun _ => unstuck_some_iff.mpr sound

theorem yielding_unstuck : Yielding (Unstuck (σ := σ)) where
  refl session := unstuck_none session session
  trans _ later := later
  lacks lacks := by
    obtain ⟨name, row, -, -, rfl⟩ := lacks
    exact unstuck_some_iff.mpr (Failure.not_unbinds_of_bare nofun rfl)

theorem Failing.not_unbinds {query : String} {params : Params} {failure : Failure}
    (failing : Failing query params failure) (fits : ¬ Stray query params) : ¬ failure.Unbinds := by
  rcases failing with ordinary | refused
  · exact ordinary.not_unbinds
  · refine Failure.not_unbinds_of_bare (fun here => ?_) (causeless_bindEach _ _ failure refused)
    exact fits ((stray_iff query params).mpr ⟨failure, refused, here⟩)

theorem yields_unstuck_of_meets {action : Action σ α} {related : Session σ → Except Failure α → Session σ → Prop}
    (meets : ∀ session, Meets action session (related session))
    (fails : ∀ {session result final}, related session result final → FailsWith (¬ ·.Unbinds) result) :
    Yields Unstuck action where
  ends session := by
    refine ends_mono (meets session) (fun _ final _ => unstuck_none session final) fun failure final here => ?_
    exact unstuck_some_iff.mpr (fails here failure rfl)

theorem Yields.tryCatch {action : Action σ α} {handler : Failure → Action σ α} (first : Yields Unstuck action)
    (handled : ∀ failure, ¬ failure.Unbinds → Yields Unstuck (handler failure)) :
    Yields Unstuck (tryCatch action handler) where
  ends session := by
    rw [Meets, ends_tryCatch]
    refine ends_mono (first.ends session) (fun _ _ => id) fun failure middle here => ?_
    exact (handled failure (unstuck_some_iff.mp here)).ends middle

theorem not_unbinds_asTransactionFailure {failure : Failure} (sound : ¬ failure.Unbinds) :
    ¬ (asTransactionFailure failure).Unbinds := by
  unfold asTransactionFailure
  split
  · exact sound
  · exact Failure.not_unbinds_stepFailed .statement sound

theorem Begins.ordinary {session final : Session σ} {result : Except Failure Bool}
    (begins : Begins session result final) : FailsWith Failure.Ordinary result := by
  cases begins with
  | unconnected _ => exact fails_error .notConnected
  | answered _ isOpen _ _ => exact fails_ok isOpen
  | refused _ fault _ _ => exact fails_error (.fault fault)

theorem Commits.ordinary {session final : Session σ} {result : Except Failure Bool}
    (commits : Commits session result final) : FailsWith Failure.Ordinary result := by
  cases commits with
  | nothing _ => exact fails_ok false
  | done _ _ _ => exact fails_ok true
  | refused _ fault _ _ => exact fails_error (.fault fault)

theorem RollsBack.ordinary {session final : Session σ} {result : Except Failure Bool}
    (rollsBack : RollsBack session result final) : FailsWith Failure.Ordinary result := by
  cases rollsBack with
  | nothing _ => exact fails_ok false
  | asked _ answer _ _ => exact (ordinary_answered answer).map _

theorem yields_ordinary {action : Action σ α} {related : Session σ → Except Failure α → Session σ → Prop}
    (meets : ∀ session, Meets action session (related session))
    (ordinary : ∀ {session result final}, related session result final → FailsWith Failure.Ordinary result) :
    Yields Unstuck action :=
  yields_unstuck_of_meets meets fun here => (ordinary here).mono fun _ => (·.not_unbinds)

theorem yields_step (place : Step) {action : Action σ Bool} (yields : Yields Unstuck action) :
    Yields Unstuck (step place action) where
  ends session := by
    rw [Meets, ends_step]
    refine ends_mono (yields.ends session) (fun answer final _ => ?_) fun failure final here => ?_
    · split
      · exact unstuck_none session final
      · exact unstuck_some_iff.mpr (Failure.not_unbinds_of_bare (Failure.unbinding_step place) rfl)
    · refine unstuck_some_iff.mpr ?_
      split
      · exact Failure.not_unbinds_stepFailed place (unstuck_some_iff.mp here)
      · exact unstuck_some_iff.mp here

section

variable [Server σ]

theorem yields_connect : Yields Unstuck (connect : Action σ Bool) := yields_ordinary connect_meets (·.ordinary)

theorem yields_begin : Yields Unstuck (step .begin begin : Action σ Unit) :=
  yields_step .begin (yields_ordinary begin_meets (·.ordinary))

theorem yields_commit : Yields Unstuck (step .commit commit : Action σ Unit) :=
  yields_step .commit (yields_ordinary commit_meets (·.ordinary))

theorem yields_undo {failure : Failure} (sound : ¬ failure.Unbinds) {handler : Failure → Action σ Unit}
    (handled : ∀ refused, Yields Unstuck (handler refused)) :
    Yields Unstuck (do onFault (discard rollback) handler; throw (asTransactionFailure failure) : Action σ α) := by
  have rolled : Yields Unstuck (rollback : Action σ Bool) := yields_ordinary rollback_meets (·.ordinary)
  refine yielding_unstuck.bind (rolled.discard.tryCatch fun refused unstuck => ?_) fun _ => ?_
  · split
    · exact handled refused
    · exact yields_failed unstuck
  · exact yields_failed (not_unbinds_asTransactionFailure sound)

theorem yields_runStatement {query : String} {params : Params} (fits : ¬ Stray query params) :
    Yields Unstuck (runStatement query params : Action σ StatementResult) where
  ends session := by
    refine ends_mono (runStatement_ends query params session) (fun _ final _ => unstuck_none session final)
      fun failure _ ended => unstuck_some_iff.mpr ?_
    rcases ended with ⟨-, rfl, -⟩ | ⟨-, asks⟩
    · exact Failure.Ordinary.emptyQuery.not_unbinds
    · exact Failing.not_unbinds (asks.fails failure rfl) fits

theorem yields_runStatements {queries : List (String × Params)} (fits : ∀ entry ∈ queries, ¬ Stray entry.1 entry.2) :
    Yields Unstuck (runStatements queries : Action σ (List StatementResult)) := by
  induction queries with
  | nil => exact yielding_unstuck.pure []
  | cons entry more ih =>
    obtain ⟨first, later⟩ := List.forall_mem_cons.mp fits
    refine yielding_unstuck.bind (yields_runStatement first) fun result => ?_
    exact yielding_unstuck.bind (ih later) fun results => yielding_unstuck.pure _

theorem yields_transactionExecute {queries : List (String × Params)}
    (fits : ∀ entry ∈ queries, ¬ Stray entry.1 entry.2) :
    Yields Unstuck (transactionExecute queries : Action σ (List StatementResult)) := by
  have connecting : Yields Unstuck (connectForBatch : Action σ Unit) := by
    refine yields_connect.discard.tryCatch fun failure unstuck => yields_failed ?_
    split
    · exact Failure.not_unbinds_stepFailed .statement unstuck
    · exact unstuck
  have batch : Yields Unstuck (runBatch queries : Action σ (List StatementResult)) := by
    refine yielding_unstuck.bind yields_begin fun _ => ?_
    refine yielding_unstuck.bind (yields_runStatements fits) fun results => ?_
    exact yielding_unstuck.bind yields_commit fun _ => yielding_unstuck.pure results
  have caught : Yields Unstuck (tryCatch (runBatch queries) undoBatch : Action σ (List StatementResult)) :=
    batch.tryCatch fun failure unstuck => yields_undo unstuck fun _ => yielding_unstuck.pure _
  refine yielding_unstuck.bind connecting fun _ => yielding_unstuck.bind yielding_unstuck.get fun session => ?_
  split
  · exact yielding_unstuck.bind (yields_failed (Failure.not_unbinds_of_bare nofun rfl)) fun _ => caught
  · exact caught

theorem yields_transaction {query : String} {params : Params} (fits : ¬ Stray query params)
    (committing closing : Bool) :
    Yields Unstuck (transaction query params committing closing : Action σ StatementResult) := by
  have opening : Yields Unstuck (ensureOpen : Action σ Unit) := by
    refine yielding_unstuck.bind yielding_unstuck.get fun session => ?_
    split
    · exact yielding_unstuck.pure _
    · exact yielding_unstuck.bind yields_connect.discard fun _ => yields_begin
  have attempted : Yields Unstuck (attempt query params committing : Action σ StatementResult) := by
    refine yielding_unstuck.bind (yields_runStatement fits) fun result => ?_
    split
    · exact yielding_unstuck.bind yields_commit fun _ => yielding_unstuck.pure result
    · exact yielding_unstuck.pure result
  have released : Yields Unstuck (close : Action σ Bool) := yields_ordinary close_meets (·.ordinary)
  rw [transaction_eq]
  refine yielding_unstuck.bind ?_ fun result => ?_
  · refine (yielding_unstuck.bind opening fun _ => attempted).tryCatch fun failure unstuck => ?_
    exact yields_undo unstuck fun refused => yields_failed (Failure.not_unbinds_of_cause nofun rfl unstuck)
  · split
    · exact yielding_unstuck.bind released.discard fun _ => yielding_unstuck.pure result
    · exact yielding_unstuck.pure result

theorem ends_ask_refused {query : String} {params : Params} {failure : Failure}
    (refused : forQuery query params = .error failure) (session : Session σ) :
    Ends (do discard (prepare query (mentioned query params)); execute) session (fun _ _ => False)
      fun left final => left = failure ∧ ∃ prepared, final = session.holding prepared := by
  rw [ends_bind, ends_discard]
  refine ends_mono (prepare_ends query _ session) ?_ ?_
  · intro _ _ ended
    obtain ⟨statement, bound, -⟩ := ended
    cases bound.symm.trans refused
  · intro left final ended
    exact ⟨Except.error.inj (ended.1.symm.trans refused), ended.2⟩

theorem runStatement_refused {query : String} {params : Params} {failure : Failure}
    (given : isBlankText query = false) (refused : forQuery query params = .error failure)
    (session : Session σ) :
    Ends (runStatement query params) session (fun _ _ => False)
      fun left final => left = failure ∧ ∃ prepared, final = session.holding prepared := by
  have asked := ends_ask_refused refused session
  rw [ends_bind, ends_discard] at asked
  rw [runStatement, given, if_neg Bool.false_ne_true, ends_bind, ends_discard]
  refine ends_mono asked (fun _ middle asks => ?_) fun _ _ => id
  rw [ends_bind, ends_discard]
  exact ends_mono asks (fun _ _ => False.elim) fun _ _ => id

end

inductive Requests (query : String) (params : Params) : Call → Prop
  | query (closing : Bool) : Requests query params (.queryExecute query params closing)
  | batch : Requests query params (.transactionExecute [(query, params)])
  | transaction (committing closing : Bool) : Requests query params (.transaction query params committing closing)

/-- On no server and in no state does the call fail for a value that cannot be bound. -/
def Call.Fits (call : Call) : Prop :=
  ∀ {σ : Type} [Server σ] (session final : Session σ) (failure : Failure),
    call.run session = .error failure final → ¬ failure.Unbinds

theorem unbinds_asTransactionFailure {failure : Failure} (kind : failure.kind = .bindFailed) :
    (asTransactionFailure failure).Unbinds := by
  have other : failure.isTransaction = false := by rw [Failure.isTransaction, kind]
  rw [asTransactionFailure, other, if_neg Bool.false_ne_true]
  exact .inr ⟨failure, rfl, kind⟩

theorem undo_unbinds {failure : Failure} (kind : failure.kind = .bindFailed) (prepared : Prepared)
    (handler : Failure → Action Script Unit) {done : α → Session Script → Prop} :
    Ends (do onFault (discard rollback) handler; throw (asTransactionFailure failure))
      ((after ensureOpen rehearsed).holding prepared) done fun left _ => left.Unbinds := by
  obtain ⟨last, rolled⟩ : ∃ last, rollback ((after ensureOpen rehearsed).holding prepared) = .ok true last :=
    ⟨_, rfl⟩
  rw [ends_bind, ends_onFault, ends_discard, ends_iff_of_ok rolled, ends_throw]
  exact unbinds_asTransactionFailure kind

section

variable {query : String} {params : Params} {failure : Failure} (given : isBlankText query = false)
  (refused : forQuery query params = .error failure) (kind : failure.kind = .bindFailed)

include given refused kind

theorem rehearsed_query_unbinds (closing : Bool) :
    Ends (queryExecute query params closing) rehearsed (fun _ _ => False) fun left _ => left.Unbinds := by
  have connected : connect rehearsed = .ok true (after connect rehearsed) := rfl
  rw [queryExecute, given, if_neg Bool.false_ne_true, ends_bind, ends_discard, ends_iff_of_ok connected,
    ends_finally]
  refine ends_mono (ends_ask_refused refused _) (fun _ _ => False.elim) fun left _ ended => ?_
  obtain ⟨rfl, prepared, rfl⟩ := ended
  cases closing with
  | false => exact (ends_pure _).mpr (.inl kind)
  | true =>
    obtain ⟨last, closed⟩ : ∃ last, close ((after connect rehearsed).holding prepared) = .ok true last :=
      ⟨_, rfl⟩
    rw [if_pos rfl, ends_discard, ends_iff_of_ok closed]
    exact .inl kind

theorem rehearsed_transaction_unbinds (committing closing : Bool) :
    Ends (transaction query params committing closing) rehearsed (fun _ _ => False)
      fun left _ => left.Unbinds := by
  have opened : ensureOpen rehearsed = .ok () (after ensureOpen rehearsed) := rfl
  rw [transaction_eq, ends_bind, ends_tryCatch, ends_bind, ends_iff_of_ok opened, attempt, ends_bind]
  refine ends_mono (runStatement_refused given refused _) (fun _ _ => False.elim) fun left _ ended => ?_
  obtain ⟨rfl, prepared, rfl⟩ := ended
  rw [undoStatement]
  exact undo_unbinds kind prepared _

theorem rehearsed_batch_unbinds :
    Ends (transactionExecute [(query, params)]) rehearsed (fun _ _ => False) fun left _ => left.Unbinds := by
  have connected : connectForBatch rehearsed = .ok () (after connect rehearsed) := rfl
  have begun : step .begin begin (after connect rehearsed) = .ok () (after ensureOpen rehearsed) := rfl
  rw [transactionExecute, ends_bind, ends_iff_of_ok connected, ends_bind, ends_get]
  change Ends (tryCatch (runBatch [(query, params)]) undoBatch) (after connect rehearsed) _ _
  rw [ends_tryCatch, runBatch, ends_bind, ends_iff_of_ok begun, ends_bind, runStatements, ends_bind]
  refine ends_mono (runStatement_refused given refused _) (fun _ _ => False.elim) fun left _ ended => ?_
  obtain ⟨rfl, prepared, rfl⟩ := ended
  rw [undoBatch]
  exact undo_unbinds kind prepared _

theorem rehearsed_unbinds {call : Call} (requests : Requests query params call) :
    ∃ left final, call.run rehearsed = .error left final ∧ left.Unbinds := by
  have ends : Ends call.run rehearsed (fun _ _ => False) fun left _ => left.Unbinds := by
    cases requests with
    | query closing =>
      rw [Call.run, ends_bind]
      exact ends_mono (rehearsed_query_unbinds given refused kind closing) (fun _ _ => False.elim) fun _ _ => id
    | batch =>
      rw [Call.run, ends_bind]
      exact ends_mono (rehearsed_batch_unbinds given refused kind) (fun _ _ => False.elim) fun _ _ => id
    | transaction committing closing =>
      rw [Call.run, ends_bind]
      exact ends_mono (rehearsed_transaction_unbinds given refused kind committing closing)
        (fun _ _ => False.elim) fun _ _ => id
  cases ended : call.run rehearsed with
  | ok answer final => exact ((ends_iff_of_ok ended).mp ends).elim
  | error left final => exact ⟨left, final, rfl, (ends_iff_of_error ended).mp ends⟩

end

theorem fits_of_yields {call : Call} (yields : ∀ {σ : Type} [Server σ], Yields Unstuck (call.run : Action σ Answer)) :
    call.Fits :=
  fun session _ _ fails => unstuck_some_iff.mp ((ends_iff_of_error fails).mp (yields.ends session))

theorem Requests.fits {query : String} {params : Params} {call : Call} (requests : Requests query params call)
    (fits : ¬ Stray query params) : call.Fits := by
  refine fits_of_yields ?_
  intro σ server
  cases requests with
  | query closing =>
    refine yielding_unstuck.answered (yields_unstuck_of_meets (queryExecute_meets query params closing) ?_) _
    exact fun queries => queries.fails.mono fun _ failing => Failing.not_unbinds failing fits
  | batch => exact yielding_unstuck.answered (yields_transactionExecute (List.forall_mem_singleton.mpr fits)) _
  | transaction committing closing => exact yielding_unstuck.answered (yields_transaction fits committing closing) _

/-- What is kept is what is mentioned, and what has a place is what stands in the query by itself; where all that is
kept has one, nothing strays. A call that sends one query is safe from failures to bind exactly if none of the
parameters that are kept strays, and a batch if none of them does in any of its queries. -/
theorem kept_fits_iff (query : String) (params : Params) :
    (∀ name, name ∈ (mentioned query params).keys ↔
      (∃ key ∈ params.keys, bareName key = name) ∧ Mentions query name) ∧
    (∀ name, name ∈ placeholders query ↔ Stands query name) ∧
    ((∀ name ∈ (mentioned query params).keys, name ∈ placeholders query) → ¬ Stray query params) ∧
    (isBlankText query = false → ∀ call, Requests query params call → (call.Fits ↔ ¬ Stray query params)) ∧
    ∀ queries : List (String × Params), (∀ entry ∈ queries, ¬ Stray entry.1 entry.2) →
      (Call.transactionExecute queries).Fits := by
  refine ⟨fun name => mem_keys_mentioned_iff query name params, mem_placeholders_iff query,
    not_stray_of_placed, ?_, ?_⟩
  · intro given call requests
    refine ⟨fun fits stray => ?_, requests.fits⟩
    obtain ⟨failure, refused, kind⟩ := (stray_iff query params).mp stray
    obtain ⟨left, final, fails, unbinds⟩ := rehearsed_unbinds given refused kind requests
    exact fits rehearsed final left fails unbinds
  · intro queries fits
    exact fits_of_yields (yielding_unstuck.answered (yields_transactionExecute fits) _)

/-- One name stands by itself, the other behind a word in a literal. -/
theorem literal_unfit :
    (Call.transactionExecute [("SELECT :id", [("id", .int 1)])]).Fits ∧
    ¬ (Call.queryExecute "SELECT 'host:port'" [("port", .int 1)] false).Fits := by
  have placed : ∀ name ∈ (mentioned "SELECT :id" [("id", .int 1)]).keys, name ∈ placeholders "SELECT :id" := by
    decide
  have stray : Stray "SELECT 'host:port'" [("port", .int 1)] := .here rfl (by decide)
  constructor
  · refine (kept_fits_iff "SELECT :id" [("id", .int 1)]).2.2.2.2 _ ?_
    exact List.forall_mem_singleton.mpr ((kept_fits_iff "SELECT :id" [("id", .int 1)]).2.2.1 placed)
  · intro fits
    exact ((kept_fits_iff "SELECT 'host:port'" _).2.2.2.1 (by decide) _ (.query false)).mp fits stray

/-- A name in a literal is kept, though the statement has no place for it, and is then refused. -/
theorem literal_refused :
    "port" ∈ (mentioned "SELECT 'host:port'" [("port", .int 1)]).keys ∧
    "port" ∉ placeholders "SELECT 'host:port'" ∧
    ∃ final, (Call.queryExecute "SELECT 'host:port'" [("port", .int 1)] false).run rehearsed =
      .error (.bindFailed (.text "port") (.int 1) "int") final := by
  exact ⟨by decide, by decide, _, rfl⟩

end Session

end SqlGateway
