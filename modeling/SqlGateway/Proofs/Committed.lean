import SqlGateway.Proofs.Aborted

/-!
What a failure of an incremental call says of its transaction. Whatever fails up to the commit is undone and
reported as a failure of the transaction, and nothing was committed. The close that may follow the commit
lies outside: a fault that cuts it short leaves the call as it is, in place of the result.
-/

namespace SqlGateway

def Exchange.commits : Exchange → Bool
  | ⟨.commitTransaction _, .ok _⟩ => true
  | _ => false

def CommittedIn (exchanges : List Exchange) : Prop := ∃ exchange ∈ exchanges, exchange.commits = true

/-- The failure is the fault that cut a close short: one of the connection that is not recognised, or any
of the engine. -/
inductive CutShort : List Exchange → Failure → Prop
  | closing (before : List Exchange) (connection : Nat) {fault : Fault} : ¬ fault.recognised →
      CutShort (before ++ [⟨.close connection, .error fault⟩]) (.fault fault)
  | disposing (before : List Exchange) (fault : Fault) :
      CutShort (before ++ [⟨.dispose, .error fault⟩]) (.fault fault)

theorem not_committedIn {exchanges : List Exchange}
    (uncommitting : ∀ exchange ∈ exchanges, exchange.commits = false) : ¬ CommittedIn exchanges := by
  rintro ⟨exchange, member, commits⟩
  cases (uncommitting exchange member).symm.trans commits

theorem Event.Outer.uncommitting {exchange : Exchange} (outer : exchange.event.Outer) :
    exchange.commits = false := by
  rcases exchange with ⟨event, answer⟩
  cases event with
  | commitTransaction _ => exact outer.elim
  | createEngine _ | connect _ | execute _ _ | begin _ | rollbackTransaction _ | commit _ | rollback _
  | close _ | dispose => rfl

theorem Exchange.Trying.uncommitting {connection : Nat} {exchange : Exchange}
    (trying : exchange.Trying connection) : exchange.commits = false := by
  rcases exchange with ⟨event, answer⟩
  cases event with
  | commitTransaction _ =>
    cases answer with
    | ok _ => exact absurd rfl trying.2
    | error _ => rfl
  | createEngine _ | connect _ | execute _ _ | begin _ | rollbackTransaction _ | commit _ | rollback _
  | close _ | dispose => rfl

theorem not_cutShort_of_rollback {before : List Exchange} {connection : Nat}
    {answer : Except Fault Unit} {failure : Failure} :
    ¬ CutShort (before ++ [⟨.rollbackTransaction connection, answer⟩]) failure := by
  intro cut
  generalize same : before ++ [⟨.rollbackTransaction connection, answer⟩] = exchanges at cut
  cases cut with
  | closing _ _ _ | disposing _ _ => cases (List.append_inj' same rfl).2

namespace Session

variable {σ : Type} {session final : Session σ}

theorem not_cutShort_of_transaction {exchanges : List Exchange} {failure : Failure}
    (transactional : failure.isTransaction = true) : ¬ CutShort exchanges failure := by
  intro cut
  cases cut with
  | @closing _ _ fault _ | disposing _ fault => cases fault <;> cases transactional

/-- A close that fails ends with the fault that it leaves to its caller. -/
theorem Closes.cutShort {failure : Failure} (closes : Closes session (.error failure) final) :
    ∃ exchanges, final.log = session.log ++ exchanges ∧
      ∀ before, CutShort (before ++ exchanges) failure := by
  generalize same : Except.error failure = result at closes
  cases closes with
  | @mk exchanges _ server torn =>
    refine ⟨exchanges, rfl, fun before => ?_⟩
    cases torn with
    | nothing _ _ | closed _ _ _ _ _ => cases same
    | disposed answer _ _ =>
      cases answer with
      | ok _ => cases same
      | error fault =>
        cases same
        exact .disposing before fault
    | both handle answer disposal _ _ _ =>
      cases disposal with
      | ok _ => cases same
      | error fault =>
        cases same
        rw [← List.singleton_append, ← List.append_assoc]
        exact .disposing _ fault
    | cut handle fault _ unknown =>
      cases same
      exact .closing before handle.connection unknown

theorem Closes.bare {failure : Failure} (closes : Closes session (.error failure) final) :
    ∃ fault, failure = .fault fault := by
  obtain ⟨exchanges, -, cut⟩ := closes.cutShort
  cases cut [] with
  | closing _ _ _ | disposing _ _ => exact ⟨_, rfl⟩

theorem RollsBack.uncommitting {result : Except Failure Bool}
    (rollsBack : RollsBack session result final) : Adds (·.commits = false) session final := by
  cases rollsBack with
  | nothing _ => exact .refl session
  | asked connection answer server _ => exact .one rfl rfl

section

variable [Server σ]

theorem ensureOpen_adds {kind : Exchange → Prop} (outer : ∀ exchange, exchange.event.Outer → kind exchange)
    (begins : ∀ connection answer, kind ⟨.begin connection, answer⟩) (session : Session σ) :
    Ends ensureOpen session
      (fun _ opened => Adds kind session opened ∧ ∃ connection, opened.handle? = some ⟨connection, true⟩)
      fun _ last => Adds kind session last ∧ bracketed? last = none := by
  by_cases inside : session.inTransaction = true
  · rw [ends_iff_of_ok (ensureOpen_inside inside)]
    exact ⟨.refl session, inTransaction_iff.mp inside⟩
  · have outside := Bool.eq_false_iff.mpr inside
    have idle := inTransaction_eq_false.mp outside
    rw [ends_iff_of_eq (ensureOpen_outside outside), ends_bind, ends_discard]
    refine ends_mono (connect_meets session) (fun answer ready connects => ?_)
      fun _ _ connects => ⟨connects.outer.mono outer, connects.idle idle⟩
    obtain rfl := connects_answer connects
    have connecting := connects.outer.mono outer
    obtain ⟨connection, held⟩ := connects.held_outside (inTransaction_eq_false.mpr (connects.idle idle))
    refine ends_mono (begin_outside held) ?_ ?_
    · rintro _ opened ⟨inside, split, _⟩
      exact ⟨connecting.trans (.one split (begins connection (.ok true))), connection, inside⟩
    · rintro _ last ⟨answer, _, split, idleLast⟩
      exact ⟨connecting.trans (.one split (begins connection answer)), idleLast⟩

theorem ensureOpen_uncommitting (session : Session σ) :
    Ends ensureOpen session
      (fun _ opened => Adds (·.commits = false) session opened ∧
        ∃ connection, opened.handle? = some ⟨connection, true⟩)
      fun _ last => Adds (·.commits = false) session last :=
  ends_mono (ensureOpen_adds (fun _ => Event.Outer.uncommitting) (fun _ _ => rfl) session) (fun _ _ => id)
    fun _ _ => And.left

theorem attempt_commits (query : String) (params : Params) (committing : Bool) {connection : Nat}
    (held : session.handle? = some ⟨connection, true⟩) :
    Ends (attempt query params committing) session
      (fun _ final => ∃ exchanges, final.log = session.log ++ exchanges ∧
        (CommittedIn exchanges ↔ committing = true))
      fun _ last => Adds (·.commits = false) session last := by
  rw [attempt, ends_bind]
  refine ends_mono (runStatement_inside query params held) ?_ ?_
  · rintro result middle ⟨sent, reply, _, _, _, heldStill, split, _⟩
    have ran : Adds (·.commits = false) session middle := .one split rfl
    by_cases commits : committing = true
    · rw [if_pos commits, ends_bind]
      refine ends_mono (commit_inside heldStill) ?_ ?_
      · rintro _ final ⟨committed, _⟩
        rw [ends_pure]
        refine ⟨[⟨.execute connection sent, .ok reply⟩, ⟨.commitTransaction connection, .ok ()⟩], ?_,
          iff_of_true ⟨_, List.mem_cons_of_mem _ List.mem_cons_self, rfl⟩ commits⟩
        rw [committed, split, List.append_assoc, List.singleton_append]
      · rintro _ last ⟨refused, _⟩
        exact ran.trans (refused.mono fun _ => Exchange.Trying.uncommitting)
    · rw [if_neg commits, ends_pure]
      obtain ⟨exchanges, splitMiddle, uncommitting⟩ := ran
      exact ⟨exchanges, splitMiddle, iff_of_false (not_committedIn uncommitting) commits⟩
  · rintro _ last ⟨tried, _⟩
    exact tried.mono fun _ => Exchange.Trying.uncommitting

theorem undoStatement_uncommitted (failure : Failure) {last : Session σ}
    (adds : Adds (·.commits = false) session last) {done : StatementResult → Session σ → Prop} :
    Ends (undoStatement failure) last done fun left final =>
      ∃ exchanges, final.log = session.log ++ exchanges ∧ ¬ CommittedIn exchanges ∧
        ¬ CutShort exchanges left := by
  refine ends_mono (undoStatement_leaves failure) (fun _ _ => id) ?_
  rintro left final ⟨result, rollsBack, leaves⟩
  cases leaves with
  | reported _ transactional =>
    obtain ⟨exchanges, split, uncommitting⟩ := adds.trans rollsBack.uncommitting
    exact ⟨exchanges, split, not_committedIn uncommitting, not_cutShort_of_transaction transactional⟩
  | replaced _ =>
    generalize same : Except.error left = result at rollsBack
    cases rollsBack with
    | nothing _ => cases same
    | asked connection answer server _ =>
      obtain ⟨exchanges, split, uncommitting⟩ := adds
      refine ⟨exchanges ++ [⟨.rollbackTransaction connection, answer⟩], ?_, not_committedIn ?_,
        not_cutShort_of_rollback⟩
      · rw [heard_log, withTransaction, split, List.append_assoc]
      · intro exchange member
        rcases List.mem_append.mp member with earlier | last
        · exact uncommitting exchange earlier
        · rw [List.mem_singleton.mp last]
          rfl

theorem transaction_kept_ends (query : String) (params : Params) (committing : Bool)
    (session : Session σ) :
    Ends (transaction query params committing false) session
      (fun _ final => ∃ exchanges, final.log = session.log ++ exchanges ∧
        (CommittedIn exchanges ↔ committing = true))
      fun failure final => ∃ exchanges, final.log = session.log ++ exchanges ∧
        ¬ CommittedIn exchanges ∧ ¬ CutShort exchanges failure := by
  rw [transaction_kept, ends_tryCatch, ends_bind]
  refine ends_mono (ensureOpen_uncommitting session) ?_ fun failure _ adds =>
    undoStatement_uncommitted failure adds
  rintro _ opened ⟨opening, connection, held⟩
  refine ends_mono (attempt_commits query params committing held) ?_ fun failure _ tried =>
    undoStatement_uncommitted failure (opening.trans tried)
  rintro result final ⟨exchanges, split, commits⟩
  obtain ⟨before, splitOpened, uncommitting⟩ := opening
  refine ⟨before ++ exchanges, by rw [split, splitOpened, List.append_assoc], ?_⟩
  rw [← commits]
  constructor
  · rintro ⟨exchange, member, here⟩
    rcases List.mem_append.mp member with earlier | later
    · cases (uncommitting exchange earlier).symm.trans here
    · exact ⟨exchange, later, here⟩
  · rintro ⟨exchange, member, here⟩
    exact ⟨exchange, List.mem_append_right before member, here⟩

/-- An incremental call that returns has committed if it was asked to. One that fails has committed exactly
if its failure is the fault that cut short the close at its end; the result of the statement is lost then,
and the session holds nothing any longer. -/
theorem transaction_committed_iff (query : String) (params : Params) (committing closing : Bool)
    (session : Session σ) :
    Ends (transaction query params committing closing) session
      (fun result final => ∃ exchanges, final.log = session.log ++ exchanges ∧
        (CommittedIn exchanges ↔ committing = true) ∧
        ∃ kept, transaction query params committing false session = .ok result kept)
      fun failure final => ∃ exchanges, final.log = session.log ++ exchanges ∧
        (CommittedIn exchanges ↔ CutShort exchanges failure) ∧
        (CutShort exchanges failure → committing = true ∧ closing = true ∧ Released final ∧
          ∃ result kept, transaction query params true false session = .ok result kept) := by
  have kept := transaction_kept_ends query params committing session
  rw [transaction_eq, ← transaction_kept]
  cases guarded : transaction query params committing false session with
  | error failure final =>
    rw [ends_bind, ends_iff_of_error guarded]
    obtain ⟨exchanges, split, uncommitted, whole⟩ := (ends_iff_of_error guarded).mp kept
    exact ⟨exchanges, split, iff_of_false uncommitted whole, fun cut => absurd cut whole⟩
  | ok result middle =>
    rw [ends_bind, ends_iff_of_ok guarded]
    obtain ⟨exchanges, split, commits⟩ := (ends_iff_of_ok guarded).mp kept
    by_cases releases : (committing && closing) = true
    · obtain ⟨rfl, rfl⟩ := Bool.and_eq_true_iff.mp releases
      rw [if_pos releases, ends_bind, ends_discard]
      have committed {rest : List Exchange} : CommittedIn (exchanges ++ rest) := by
        obtain ⟨exchange, member, here⟩ := commits.mpr rfl
        exact ⟨exchange, List.mem_append_left rest member, here⟩
      refine ends_mono (close_meets middle) (fun _ final closes => ?_) fun failure final closes => ?_
      · obtain ⟨rest, splitFinal, _⟩ := closes.outer
        rw [split, List.append_assoc] at splitFinal
        exact (ends_pure _).mpr ⟨_, splitFinal, iff_of_true committed rfl, middle, rfl⟩
      · obtain ⟨rest, splitFinal, cut⟩ := closes.cutShort
        rw [split, List.append_assoc] at splitFinal
        exact ⟨_, splitFinal, iff_of_true committed (cut exchanges),
          fun _ => ⟨rfl, rfl, closes.released, result, middle, guarded⟩⟩
    · rw [if_neg releases, ends_pure]
      exact ⟨exchanges, split, commits, middle, rfl⟩

end

def slamming : Session Script :=
  { rehearsed with server := rehearsed.server.change (.fault .close (some (.foreign "slammed"))) }

/-- The transaction is committed, and the call fails all the same. -/
theorem slamming_committed :
    Reachable slamming ∧ returns (transaction "SELECT 2" [] true true) slamming = false ∧
      CommittedIn (after (transaction "SELECT 2" [] true true) slamming).log := by
  refine ⟨.elsewhere _ rehearsed_reachable, ?_, ?_⟩
  · decide +kernel
  · unfold CommittedIn
    decide +kernel

end Session

end SqlGateway
