import SqlGateway.Proofs.Healthy
import SqlGateway.Proofs.Refusal

/-!
Failures that the transaction calls pass on as they are. Whatever fails between the request to begin and the
commit is reported as a failure of the transaction. A batch connects outside of that, and passes on what else
goes wrong there than the refusal of a connection; both calls pass on the fault of a rollback if it is not
recognised, and a single statement the fault of the close that follows its commit.
-/

namespace SqlGateway

def Exchange.undoes : Exchange → Bool
  | ⟨.rollbackTransaction _, _⟩ => true
  | _ => false

def Rebuffed (exchanges : List Exchange) : Prop :=
  ∃ before connection fault, exchanges = before ++ [⟨.rollbackTransaction connection, .error fault⟩] ∧
    ¬ fault.recognised = true

def Failure.Expected (failure : Failure) : Prop :=
  failure = .transactionInProgress ∨ failure.isTransaction = true

theorem not_rebuffed_of_forall {exchanges : List Exchange}
    (others : ∀ exchange ∈ exchanges, exchange.undoes = false) : ¬ Rebuffed exchanges := by
  rintro ⟨before, connection, fault, rfl, -⟩
  cases others _ (List.mem_append_right before List.mem_cons_self)

theorem rebuffed_concat {before : List Exchange} {connection : Nat} {answer : Except Fault Unit} :
    Rebuffed (before ++ [⟨.rollbackTransaction connection, answer⟩]) ↔
      ∃ fault, answer = .error fault ∧ ¬ fault.recognised = true := by
  constructor
  · rintro ⟨front, number, fault, same, unknown⟩
    cases List.singleton_inj.mp (List.append_inj' same rfl).2
    exact ⟨fault, rfl, unknown⟩
  · rintro ⟨fault, rfl, unknown⟩
    exact ⟨before, connection, fault, rfl, unknown⟩

theorem Event.Outer.undoes {exchange : Exchange} (outer : exchange.event.Outer) :
    exchange.undoes = false := by
  rcases exchange with ⟨event, answer⟩
  cases event with
  | rollbackTransaction _ => exact outer.elim
  | createEngine _ | connect _ | execute _ _ | begin _ | commitTransaction _ | commit _ | rollback _
  | close _ | dispose => rfl

theorem Exchange.Trying.undoes {connection : Nat} {exchange : Exchange}
    (trying : exchange.Trying connection) : exchange.undoes = false := by
  rcases exchange with ⟨event, answer⟩
  cases event with
  | rollbackTransaction _ => exact trying.elim
  | createEngine _ | connect _ | execute _ _ | begin _ | commitTransaction _ | commit _ | rollback _
  | close _ | dispose => rfl

namespace Session

variable {σ : Type} {session ready last final : Session σ}

def Slipped (exchanges : List Exchange) : Prop := ∃ failure, Slips exchanges failure

/-- How a transaction that failed is left: there was none, or it was asked to be rolled back, and only a fault
that is not recognised then replaces the failure that is reported. -/
inductive Undoes (last final : Session σ) (left : Failure) : Prop
  | idle : bracketed? last = none → final = last → left.isTransaction = true → Undoes last final left
  | asked (connection : Nat) (answer : Except Fault Unit) : bracketed? last = some connection →
      final.log = last.log ++ [⟨.rollbackTransaction connection, answer⟩] →
      (∀ fault, answer = .error fault → fault.recognised = true) → left.isTransaction = true →
      Undoes last final left
  | lost (connection : Nat) (fault : Fault) : bracketed? last = some connection →
      final.log = last.log ++ [⟨.rollbackTransaction connection, .error fault⟩] →
      ¬ fault.recognised = true → left = .fault fault → Undoes last final left

theorem RollsBack.undoes {result : Except Failure Bool} {left : Failure}
    (rollsBack : RollsBack last result final) (leaves : Leaves result left) : Undoes last final left := by
  cases rollsBack with
  | nothing idle =>
    cases leaves with
    | reported _ transactional => exact .idle idle rfl transactional
  | asked connection answer server bracket =>
    cases answer with
    | ok _ =>
      cases leaves with
      | reported _ transactional =>
        refine .asked connection (.ok ()) bracket rfl (fun fault same => ?_) transactional
        cases same
    | error fault =>
      cases leaves with
      | reported known transactional =>
        refine .asked connection (.error fault) bracket rfl (fun other same => ?_) transactional
        exact Except.error.inj same ▸ known (.fault fault) rfl
      | replaced unknown => exact .lost connection fault bracket rfl unknown rfl

theorem Slips.unexpected {exchanges : List Exchange} {failure : Failure}
    (slips : Slips exchanges failure) : ¬ failure.Expected := by
  cases slips with
  | @raised _ _ fault _ _ => cases fault <;> rintro (same | transactional) <;> contradiction
  | signalled _ _ _ _ => rintro (same | transactional) <;> contradiction

theorem not_slipped_of_quiet {exchanges : List Exchange} (quiet : Quiet exchanges) : ¬ Slipped exchanges :=
  fun ⟨failure, slips⟩ => not_slips_of_quiet quiet failure slips

theorem Fails.passes {connection : Nat} {left : Failure} (fails : Fails connection ready last)
    (undoes : Undoes last final left) : ∃ exchanges, final.log = ready.log ++ exchanges ∧
      (left.isTransaction = true ∧ Quiet exchanges ∨ Slips exchanges left) := by
  cases fails with
  | unbegun begin _ split idle =>
    cases undoes with
    | idle _ same reported =>
      exact ⟨_, same ▸ split, .inl ⟨reported, [], _, rfl, rfl, rfl⟩⟩
    | asked _ _ bracket _ _ _ | lost _ _ bracket _ _ _ => cases bracket.symm.trans idle
  | begun tried split _ bracket =>
    cases undoes with
    | idle idle _ _ => cases bracket.symm.trans idle
    | asked number answer _ splitFinal known reported =>
      refine ⟨.opening connection :: tried ++ [⟨.rollbackTransaction number, answer⟩], ?_,
        .inl ⟨reported, _, _, rfl, ?_, rfl⟩⟩
      · rw [splitFinal, split, List.append_assoc]
      · cases answer with
        | ok _ => rfl
        | error fault => exact congrArg not (known fault rfl)
    | lost number fault _ splitFinal unknown same =>
      refine ⟨.opening connection :: tried ++ [⟨.rollbackTransaction number, .error fault⟩], ?_, .inr ?_⟩
      · rw [splitFinal, split, List.append_assoc]
      · rw [same]
        exact .raised _ (by simp [Exchange.slips, Exchange.fault?, unknown]) rfl

theorem Healthy.not_slipped {exchanges : List Exchange} (healthy : Healthy session final exchanges)
    (inside : final.inTransaction = true) : ¬ Slipped exchanges := by
  obtain ⟨handle, reply, outcome, held, rfl, collected, one⟩ := healthy.answered
  have joined : handle.inTransaction = true := by
    simpa only [inTransaction, healthy.handle, held, Option.any_some] using inside
  rw [probed, joined, if_pos rfl]
  rintro ⟨failure, slips⟩
  have alone : Slips ([] ++ [⟨.execute handle.connection probe.sent, .ok reply⟩]) failure := slips
  rcases slips_concat alone with ⟨-, raised⟩ | ⟨_, _, _, collectedToo, signals, same | same⟩
  · simp [Exchange.fault?, fetched, collected] at raised
  · cases same
    obtain rfl := Except.ok.inj (collected.symm.trans collectedToo)
    cases one.symm.trans signals
  · cases same

variable [Server σ]

theorem transactionExecute_passes (queries : List (String × Params)) (session : Session σ) :
    Ends (transactionExecute queries) session (fun _ _ => True) fun failure final => ∃ exchanges,
      final.log = session.log ++ exchanges ∧
        (failure.Expected ∧ ¬ Slipped exchanges ∨ Slips exchanges failure) := by
  refine transactionExecute_ends ?_ ?_ fun ready connection connects held => ?_
  · intro failure ready connects
    obtain ⟨exchanges, split, slips | ⟨unconnected, -, -, quiet⟩⟩ := connects.slips_or_reclaims
    · rw [if_neg slips.kind_ne]
      exact ⟨exchanges, split, .inr slips⟩
    · rw [if_pos unconnected]
      exact ⟨exchanges, split, .inl ⟨.inr rfl, not_slipped_of_quiet quiet⟩⟩
  · intro ready connects inside
    obtain ⟨exchanges, split, healthy | renewed⟩ := connects.healthy_or_renewed
    · exact ⟨exchanges, split, .inl ⟨.inl rfl, healthy.not_slipped inside⟩⟩
    · rw [inTransaction, renewed.handle] at inside
      cases inside
  · rw [ends_tryCatch]
    obtain ⟨connecting, splitReady, -⟩ := connects.outer
    refine ends_mono (runBatch_ends queries held) (fun _ _ _ => trivial) fun failure last fails => ?_
    refine ends_mono (undoBatch_leaves failure) (fun _ _ => id) ?_
    rintro left final ⟨_, rollsBack, leaves⟩
    obtain ⟨exchanges, split, passes⟩ := fails.passes (rollsBack.undoes leaves)
    refine ⟨connecting ++ exchanges, by rw [split, splitReady, List.append_assoc], ?_⟩
    rcases passes with ⟨reported, quiet⟩ | slips
    · exact .inl ⟨.inr reported, not_slipped_of_quiet (quiet.append_left connecting)⟩
    · exact .inr (slips.append connecting)

theorem undoStatement_passes (failure : Failure) {done : StatementResult → Session σ → Prop}
    (adds : Adds (·.undoes = false) session last) :
    Ends (undoStatement failure) last done fun left final => ∃ exchanges,
      final.log = session.log ++ exchanges ∧ (left.isTransaction = true ↔ ¬ Rebuffed exchanges) := by
  obtain ⟨exchanges, split, others⟩ := adds
  refine ends_mono (undoStatement_leaves failure) (fun _ _ => id) ?_
  rintro left final ⟨_, rollsBack, leaves⟩
  cases rollsBack.undoes leaves with
  | idle _ same reported =>
    exact ⟨exchanges, same ▸ split, iff_of_true reported (not_rebuffed_of_forall others)⟩
  | asked connection answer _ splitFinal known reported =>
    refine ⟨_, by rw [splitFinal, split, List.append_assoc], iff_of_true reported fun rebuffed => ?_⟩
    obtain ⟨fault, same, unknown⟩ := rebuffed_concat.mp rebuffed
    exact unknown (known fault same)
  | lost connection fault _ splitFinal unknown same =>
    refine ⟨_, by rw [splitFinal, split, List.append_assoc], iff_of_false ?_ fun unrebuffed => ?_⟩
    · rw [same]
      cases fault <;> nofun
    · exact unrebuffed (rebuffed_concat.mpr ⟨fault, rfl, unknown⟩)

theorem transaction_kept_passes (query : String) (params : Params) (committing : Bool)
    (session : Session σ) :
    Ends (transaction query params committing false) session (fun _ _ => True) fun failure final =>
      ∃ exchanges, final.log = session.log ++ exchanges ∧
        (failure.isTransaction = true ↔ ¬ Rebuffed exchanges) := by
  have opening := ensureOpen_adds (fun _ outer => Event.Outer.undoes outer) (fun _ _ => rfl) session
  rw [transaction_kept, ends_tryCatch, ends_bind]
  refine ends_mono opening ?_ fun failure _ opened => undoStatement_passes failure opened.1
  rintro _ opened ⟨adds, connection, held⟩
  refine ends_mono (attempt_ends query params committing held) (fun _ _ _ => trivial) ?_
  rintro failure last ⟨tried, -⟩
  exact undoStatement_passes failure (adds.trans (tried.mono fun _ => Exchange.Trying.undoes))

theorem transaction_passes (query : String) (params : Params) (committing closing : Bool)
    (session : Session σ) :
    Ends (transaction query params committing closing) session (fun _ _ => True) fun failure final =>
      ∃ exchanges, final.log = session.log ++ exchanges ∧
        (failure.isTransaction = true ↔ ¬ (CommittedIn exchanges ∨ Rebuffed exchanges)) := by
  have kept := transaction_kept_ends query params committing session
  refine transaction_ends (kept.and (transaction_kept_passes query params committing session))
    (fun _ _ _ _ => trivial) ?_ ?_
  · rintro commits - result middle ⟨⟨exchanges, split, committed⟩, -⟩
    refine ends_mono (close_meets middle) (fun _ _ _ => trivial) fun failure final closes => ?_
    obtain ⟨rest, splitFinal, -⟩ := closes.outer
    obtain ⟨fault, rfl⟩ := closes.bare
    obtain ⟨exchange, member, here⟩ := committed.mpr commits
    refine ⟨exchanges ++ rest, by rw [splitFinal, split, List.append_assoc], iff_of_false ?_ fun none => ?_⟩
    · cases fault <;> nofun
    · exact none (.inl ⟨exchange, List.mem_append_left rest member, here⟩)
  · rintro failure final ⟨⟨exchanges, split, uncommitted, -⟩, others, same, passed⟩
    obtain rfl := List.append_cancel_left (same.symm.trans split)
    exact ⟨others, split, by rw [or_iff_right uncommitted, passed]⟩

/-- For any session on any server: a batch fails because a transaction is in progress or with a failure of the
transaction, exactly if it has not slipped. It slips on the way to the connection, or by the fault of its
rollback, and passes that on as it is. A single statement fails with a failure of the transaction, exactly if
neither the transaction was committed, so that it is the close that failed, nor the rollback was answered by a
fault that is not recognised. -/
theorem coordinated_iff (queries : List (String × Params)) (query : String) (params : Params)
    (committing closing : Bool) (session : Session σ) :
    Ends (transactionExecute queries) session (fun _ _ => True)
      (fun failure final => ∃ exchanges, final.log = session.log ++ exchanges ∧
        (failure.Expected ↔ ¬ Slipped exchanges) ∧ (Slipped exchanges → Slips exchanges failure)) ∧
    Ends (transaction query params committing closing) session (fun _ _ => True)
      fun failure final => ∃ exchanges, final.log = session.log ++ exchanges ∧
        (failure.isTransaction = true ↔ ¬ (CommittedIn exchanges ∨ Rebuffed exchanges)) := by
  refine ⟨?_, transaction_passes query params committing closing session⟩
  refine ends_mono (transactionExecute_passes queries session) (fun _ _ => id) ?_
  rintro failure final ⟨exchanges, split, ⟨expected, unslipped⟩ | slips⟩
  · exact ⟨exchanges, split, iff_of_true expected unslipped, fun slipped => absurd slipped unslipped⟩
  · exact ⟨exchanges, split, iff_of_false slips.unexpected fun none => none ⟨failure, slips⟩, fun _ => slips⟩

def severed : Session Script :=
  { rehearsed with server := rehearsed.server.change (.fault .connect (some (.foreign "severed"))) }

/-- The batch passes the fault on; the single statement reports it. -/
theorem severed_slips : Reachable severed ∧
    (∃ final, transactionExecute [("SELECT 2", [])] severed = .error (.fault (.foreign "severed")) final) ∧
    ¬ (Failure.fault (.foreign "severed")).Expected ∧
    ∃ final, transaction "SELECT 2" [] false false severed =
      .error (.stepFailed .statement (.fault (.foreign "severed"))) final := by
  refine ⟨.elsewhere _ rehearsed_reachable, ⟨_, rfl⟩, ?_, _, rfl⟩
  rintro (same | transactional)
  · cases same
  · cases transactional

end Session

end SqlGateway
