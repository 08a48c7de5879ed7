import SqlGateway.Proofs.Incremental
import SqlGateway.Proofs.Order

/-!
What becomes of a transaction whose call failed. The call ends with one request to roll it back, and it is
out of that transaction whatever the answer; if the server refuses, what the transaction did is still
pending on a connection that the session goes on to use.
-/

namespace SqlGateway

namespace Session

variable {σ : Type} {session last final : Session σ}

/-- The transaction is that of a call: it was open before, or the call opened it. -/
def Concerns (connection : Nat) (session : Session σ) (exchanges : List Exchange) : Prop :=
  bracketed? session = some connection ∨ .opening connection ∈ exchanges

/-- Of the transactions that a call could have to do with, this is the only one. -/
def Sole (connection : Nat) (session : Session σ) (exchanges : List Exchange) : Prop :=
  ∀ number, Concerns number session exchanges → number = connection

inductive Breaks (session last : Session σ) : Prop
  | unbegun (exchanges : List Exchange) : last.log = session.log ++ exchanges →
      (∀ connection, ¬ Concerns connection session exchanges) → bracketed? last = none →
      Breaks session last
  | inside (connection : Nat) (exchanges : List Exchange) : last.log = session.log ++ exchanges →
      Sole connection session exchanges → bracketed? last = some connection → Breaks session last

/-- A call that did not commit its transaction ends with the request to roll it back. -/
def Aborts (session final : Session σ) : Prop :=
  ∃ exchanges, final.log = session.log ++ exchanges ∧
    ∀ connection, Concerns connection session exchanges →
      ⟨.commitTransaction connection, .ok ()⟩ ∉ exchanges →
      ∃ before answer, exchanges = before ++ [⟨.rollbackTransaction connection, answer⟩]

theorem Concerns.of_append {connection : Nat} {exchanges more : List Exchange}
    (concerns : Concerns connection session (exchanges ++ more))
    (unopening : .opening connection ∉ more) : Concerns connection session exchanges := by
  rcases concerns with bracket | opened
  · exact .inl bracket
  · rcases List.mem_append.mp opened with opened | opened
    · exact .inr opened
    · exact absurd opened unopening

theorem Sole.append {connection : Nat} {exchanges more : List Exchange}
    (sole : Sole connection session exchanges) (unopening : ∀ number, .opening number ∉ more) :
    Sole connection session (exchanges ++ more) :=
  fun number concerns => sole number (concerns.of_append (unopening number))

theorem Breaks.aborts {result : Except Failure Bool} (breaks : Breaks session last)
    (rollsBack : RollsBack last result final) : Aborts session final := by
  cases breaks with
  | unbegun exchanges split unconcerned idle =>
    cases rollsBack with
    | nothing _ => exact ⟨exchanges, split, fun connection concerns => absurd concerns (unconcerned _)⟩
    | asked _ _ _ bracket => cases bracket.symm.trans idle
  | inside connection exchanges split sole bracket =>
    cases rollsBack with
    | nothing idle => cases bracket.symm.trans idle
    | asked number answer server known =>
      obtain rfl := Option.some.inj (known.symm.trans bracket)
      refine ⟨exchanges ++ [⟨.rollbackTransaction number, answer⟩], ?_, fun other concerns _ => ?_⟩
      · rw [heard_log, withTransaction, split, List.append_assoc]
      · obtain rfl := sole other (concerns.of_append (by simp [Exchange.opening]))
        exact ⟨exchanges, answer, rfl⟩

theorem not_opening_of_outer {exchanges : List Exchange}
    (outer : ∀ exchange ∈ exchanges, exchange.event.Outer) (connection : Nat) :
    .opening connection ∉ exchanges := fun member => outer _ member

theorem not_opening_of_trying {exchanges : List Exchange} {connection : Nat}
    (trying : ∀ exchange ∈ exchanges, exchange.Trying connection) (number : Nat) :
    .opening number ∉ exchanges := fun member => trying _ member

variable [Server σ]

theorem ensureOpen_ends (session : Session σ) :
    Ends ensureOpen session
      (fun _ opened => ∃ exchanges connection, opened.log = session.log ++ exchanges ∧
        Sole connection session exchanges ∧ opened.handle? = some ⟨connection, true⟩)
      fun _ last => Breaks session last := by
  by_cases inside : session.inTransaction = true
  · obtain ⟨connection, held⟩ := inTransaction_iff.mp inside
    rw [ends_iff_of_ok (ensureOpen_inside inside)]
    refine ⟨[], connection, (List.append_nil _).symm, fun number concerns => ?_, held⟩
    rcases concerns with bracket | opened
    · exact Option.some.inj (bracket.symm.trans ((bracketed_iff session connection).mpr held))
    · exact absurd opened List.not_mem_nil
  · have outside := Bool.eq_false_iff.mpr inside
    have idle := inTransaction_eq_false.mp outside
    rw [ends_iff_of_eq (ensureOpen_outside outside), ends_bind, ends_discard]
    have unconcerned {exchanges : List Exchange}
        (outer : ∀ exchange ∈ exchanges, exchange.event.Outer) (connection : Nat) :
        ¬ Concerns connection session exchanges := by
      rintro (bracket | opened)
      · cases bracket.symm.trans idle
      · exact not_opening_of_outer outer connection opened
    refine ends_mono (connect_meets session) (fun answer ready connects => ?_) ?_
    · obtain rfl := connects_answer connects
      obtain ⟨connecting, splitReady, outer⟩ := connects.outer
      obtain ⟨connection, held⟩ := connects.held_outside (inTransaction_eq_false.mpr (connects.idle idle))
      refine ends_mono (begin_outside held) ?_ ?_
      · rintro _ opened ⟨inside, split, _⟩
        refine ⟨connecting ++ [.opening connection], connection, ?_, ?_, inside⟩
        · rw [split, splitReady, List.append_assoc]
        · intro number concerns
          by_contra other
          refine unconcerned outer number (concerns.of_append ?_)
          simp [Exchange.opening, other]
      · rintro _ last ⟨answer, refused, split, idleLast⟩
        refine .unbegun (connecting ++ [⟨.begin connection, answer⟩]) ?_ ?_ idleLast
        · rw [split, splitReady, List.append_assoc]
        · intro number concerns
          refine unconcerned outer number (concerns.of_append ?_)
          intro member
          cases List.mem_singleton.mp member
          exact refused rfl
    · intro failure last connects
      obtain ⟨connecting, split, outer⟩ := connects.outer
      exact .unbegun connecting split (unconcerned outer) (connects.idle idle)

theorem attempt_ends (query : String) (params : Params) (committing : Bool) {connection : Nat}
    (held : session.handle? = some ⟨connection, true⟩) :
    Ends (attempt query params committing) session
      (fun _ final => ∃ exchanges, final.log = session.log ++ exchanges ∧
        (∀ number, .opening number ∉ exchanges) ∧
        (committing = true → ⟨.commitTransaction connection, .ok ()⟩ ∈ exchanges))
      fun _ last => Adds (·.Trying connection) session last ∧ bracketed? last = some connection := by
  rw [attempt, ends_bind]
  refine ends_mono (runStatement_inside query params held) ?_ ?_
  · rintro result middle ⟨sent, reply, _, _, _, heldStill, split, _⟩
    by_cases commits : committing = true
    · rw [if_pos commits, ends_bind]
      refine ends_mono (commit_inside heldStill) ?_ ?_
      · rintro _ final ⟨committed, _⟩
        rw [ends_pure]
        refine ⟨[⟨.execute connection sent, .ok reply⟩, ⟨.commitTransaction connection, .ok ()⟩], ?_,
          by simp [Exchange.opening], fun _ => by simp⟩
        rw [committed, split, List.append_assoc, List.singleton_append]
      · rintro _ last ⟨refused, bracket⟩
        have ran : Adds (·.Trying connection) session middle := .one split rfl
        exact ⟨ran.trans refused, bracket⟩
    · rw [if_neg commits, ends_pure]
      exact ⟨_, split, by simp [Exchange.opening], fun committing => absurd committing commits⟩
  · rintro _ last ⟨tried, heldStill⟩
    exact ⟨tried, (bracketed_iff last connection).mpr heldStill⟩

theorem whole_ends (query : String) (params : Params) (committing : Bool) (session : Session σ) :
    Ends (ensureOpen >>= fun _ => attempt query params committing) session
      (fun _ final => ∃ exchanges connection, final.log = session.log ++ exchanges ∧
        Sole connection session exchanges ∧
        (committing = true → ⟨.commitTransaction connection, .ok ()⟩ ∈ exchanges))
      fun _ last => Breaks session last := by
  rw [ends_bind]
  refine ends_mono (ensureOpen_ends session) ?_ fun _ _ breaks => breaks
  rintro _ opened ⟨opening, connection, splitOpened, sole, held⟩
  refine ends_mono (attempt_ends query params committing held) ?_ ?_
  · rintro _ final ⟨exchanges, split, unopening, commits⟩
    refine ⟨opening ++ exchanges, connection, ?_, sole.append unopening, fun committing => ?_⟩
    · rw [split, splitOpened, List.append_assoc]
    · exact List.mem_append_right opening (commits committing)
  · rintro _ last ⟨⟨tried, split, trying⟩, bracket⟩
    refine .inside connection (opening ++ tried) ?_ (sole.append (not_opening_of_trying trying)) bracket
    rw [split, splitOpened, List.append_assoc]

theorem undoStatement_leaves (failure : Failure) {done : StatementResult → Session σ → Prop} :
    Ends (undoStatement failure) session done fun left final =>
      ∃ result, RollsBack session result final ∧ Leaves result left :=
  undo_leaves failure session fun _ _ => (ends_throw _).mpr ⟨rfl, rfl⟩

theorem transaction_kept_aborts (query : String) (params : Params) (committing : Bool)
    (session : Session σ) :
    Ends (transaction query params committing false) session
      (fun _ final => ∃ exchanges connection, final.log = session.log ++ exchanges ∧
        Sole connection session exchanges ∧
        (committing = true → ⟨.commitTransaction connection, .ok ()⟩ ∈ exchanges))
      fun _ final => Aborts session final := by
  rw [transaction_kept, ends_tryCatch]
  refine ends_mono (whole_ends query params committing session) (fun _ _ => id) fun failure last breaks => ?_
  refine ends_mono (undoStatement_leaves failure) (fun _ _ => id) ?_
  rintro _ final ⟨result, rollsBack, -⟩
  exact breaks.aborts rollsBack

theorem transaction_aborts (query : String) (params : Params) (committing closing : Bool)
    (session : Session σ) :
    Ends (transaction query params committing closing) session (fun _ _ => True)
      fun _ final => Aborts session final := by
  refine transaction_ends (transaction_kept_aborts query params committing session) (fun _ _ _ _ => trivial) ?_
    fun _ _ => id
  rintro commits - result done ⟨exchanges, connection, split, sole, committed⟩
  refine ends_mono (close_meets done) (fun _ _ _ => trivial) fun failure final closes => ?_
  obtain ⟨rest, splitFinal, outer⟩ := closes.outer
  refine ⟨exchanges ++ rest, ?_, fun number concerns uncommitted => ?_⟩
  · rw [splitFinal, split, List.append_assoc]
  · obtain rfl := sole number (concerns.of_append (not_opening_of_outer outer number))
    exact absurd (List.mem_append_left rest (committed commits)) uncommitted

theorem transactionExecute_undone (queries : List (String × Params)) (session : Session σ) :
    Ends (transactionExecute queries) session (fun _ _ => True)
      fun _ final => ∃ exchanges, final.log = session.log ++ exchanges ∧ Undone exchanges := by
  have outside {answer : Except Failure Bool} {ready : Session σ} (connects : Connects session answer ready) :
      ∃ exchanges, ready.log = session.log ++ exchanges ∧ Undone exchanges := by
    obtain ⟨connecting, split, outer⟩ := connects.outer
    exact ⟨connecting, split, .outer outer⟩
  refine transactionExecute_ends (fun _ _ => outside) (fun _ connects _ => outside connects) ?_
  intro ready connection connects held
  obtain ⟨connecting, splitReady, outer⟩ := connects.outer
  refine ends_mono (batch_ends queries held) (fun _ _ _ => trivial) ?_
  rintro _ final ⟨exchanges, split, undone, _⟩
  refine ⟨connecting ++ exchanges, ?_, undone connecting outer⟩
  rw [split, splitReady, List.append_assoc]

/-- The explicit transaction that a call works in: a batch opens its own, and a single statement may join
the one that is open. -/
def Call.WorksIn (connection : Nat) (session : Session σ) (exchanges : List Exchange) : Call → Prop
  | .transactionExecute _ => .opening connection ∈ exchanges
  | .transaction _ _ _ _ => Concerns connection session exchanges
  | _ => False

theorem Call.rollsBack {call : Call} {failure : Failure} {exchanges : List Exchange}
    {connection : Nat} (fails : call.run session = .error failure final)
    (split : final.log = session.log ++ exchanges) (works : call.WorksIn connection session exchanges)
    (uncommitted : ⟨.commitTransaction connection, .ok ()⟩ ∉ exchanges) :
    ∃ before answer, exchanges = before ++ [⟨.rollbackTransaction connection, answer⟩] := by
  cases call with
  | transactionExecute queries =>
    have ends : Ends (Call.transactionExecute queries).run session (fun _ _ => True)
        fun _ final => ∃ exchanges, final.log = session.log ++ exchanges ∧ Undone exchanges := by
      rw [Call.run, ends_bind]
      exact ends_mono (transactionExecute_undone queries session)
        (fun _ _ _ => (ends_pure _).mpr trivial) fun _ _ => id
    obtain ⟨others, same, undone⟩ := (ends_iff_of_error fails).mp ends
    obtain rfl := List.append_cancel_left (same.symm.trans split)
    obtain ⟨before, answer, here, _⟩ := undone.rolledBack connection works
    exact ⟨before, answer, here⟩
  | transaction query params committing closing =>
    have ends : Ends (Call.transaction query params committing closing).run session (fun _ _ => True)
        fun _ final => Aborts session final := by
      rw [Call.run, ends_bind]
      exact ends_mono (transaction_aborts query params committing closing session)
        (fun _ _ _ => (ends_pure _).mpr trivial) fun _ _ => id
    obtain ⟨others, same, aborts⟩ := (ends_iff_of_error fails).mp ends
    obtain rfl := List.append_cancel_left (same.symm.trans split)
    exact aborts connection works uncommitted
  | _ => exact works.elim

/-- After the request to roll a transaction back its connection is at rest. -/
theorem Reachable.atRest (reachable : Reachable session) {connection : Nat} {before : List Exchange}
    {answer : Except Fault Unit}
    (split : session.log = before ++ [⟨.rollbackTransaction connection, answer⟩]) :
    AtRest connection session.log := by
  have lives : LivesIn connection before := reachable.timely _ _ [] split
  rw [split]
  exact atRest_snoc lives.1 (fun _ => rfl) nofun ⟨id, nofun, nofun⟩

/-- A call that fails in its transaction without committing it ends with the request to roll it back. From
then on nothing is committed on that connection before a rollback is carried out, exactly if the request
was not refused or no statement is answered there before. -/
theorem aborted_withheld_iff (call : Call) {session failed : Session σ} (reachable : Reachable session)
    {failure : Failure} (fails : call.run session = .error failure failed) {exchanges : List Exchange}
    (split : failed.log = session.log ++ exchanges) {connection : Nat}
    (works : call.WorksIn connection session exchanges)
    (uncommitted : ⟨.commitTransaction connection, .ok ()⟩ ∉ exchanges) :
    ∃ before answer, exchanges = before ++ [⟨.rollbackTransaction connection, answer⟩] ∧
      ∀ final later, Later failed final → final.log = failed.log ++ later →
        (Withheld connection (·.Committing connection)
            (⟨.rollbackTransaction connection, answer⟩ :: later) ↔
          answer = .ok () ∨ Withheld connection (·.Answered connection) later) := by
  obtain ⟨before, answer, rfl⟩ := call.rollsBack fails split works uncommitted
  refine ⟨before, answer, rfl, fun final later on splitFinal => ?_⟩
  have reachableFailed : Reachable failed := after_of_error fails ▸ .called call reachable
  have reachableFinal := on.reachable reachableFailed
  rw [← List.append_assoc] at split
  have rest := reachableFailed.atRest split
  have ordered := reachableFinal.wellOrdered.ordered
  have timely := reachableFinal.timely
  rw [splitFinal] at ordered timely
  have apart : ¬ Exchange.Committing connection ⟨.rollbackTransaction connection, answer⟩ := id
  rw [withheld_cons, and_iff_right apart, rest.withheld_iff ordered timely]
  refine or_congr_left ?_
  cases answer with
  | ok _ => exact iff_of_true rfl rfl
  | error fault => exact iff_of_false id nofun

def refusing : Session Script :=
  { rehearsedInside with
    server := (rehearsedInside.server.change (.rules [⟨"bad", none, { fault? := some Script.goneAway }, 0⟩])).change
      (.fault .rollbackTransaction (some Script.goneAway)) }

def aborting : Call := .transaction "bad" [] false false

theorem refusing_reachable : Reachable refusing := .elsewhere _ rehearsedInside_reachable

theorem refusing_split : (after aborting.run refusing).log =
    refusing.log ++ (after aborting.run refusing).log.drop refusing.log.length :=
  (List.prefix_iff_eq_append.mp (Moves.grows ((keeps_call aborting).after refusing))).symm

theorem refusing_uncommitted : ⟨.commitTransaction 0, .ok ()⟩ ∉
    (after aborting.run refusing).log.drop refusing.log.length := by
  have uncommitting : ∀ exchange ∈ (after aborting.run refusing).log.drop refusing.log.length,
      ¬ exchange.Committing 0 := by
    decide +kernel
  exact fun member => uncommitting _ member rfl

theorem refusing_aborted : ∃ before answer,
    (after aborting.run refusing).log.drop refusing.log.length =
      before ++ [⟨.rollbackTransaction 0, answer⟩] ∧
    ∀ final later, Later (after aborting.run refusing) final →
      final.log = (after aborting.run refusing).log ++ later →
      (Withheld 0 (·.Committing 0) (⟨.rollbackTransaction 0, answer⟩ :: later) ↔
        answer = .ok () ∨ Withheld 0 (·.Answered 0) later) := by
  have fails : returns aborting.run refusing = false := by decide +kernel
  obtain ⟨failure, failed⟩ := eq_error_of_returns fails
  exact aborted_withheld_iff aborting refusing_reachable failed refusing_split
    (.inl rehearsedInside_bracketed) refusing_uncommitted

/-- The probe of the next call commits on the connection what was not rolled back. -/
theorem refusing_committed :
    Reachable refusing ∧ returns aborting.run refusing = false ∧
      aborting.WorksIn 0 refusing ((after aborting.run refusing).log.drop refusing.log.length) ∧
      ⟨.commitTransaction 0, .ok ()⟩ ∉ (after aborting.run refusing).log.drop refusing.log.length ∧
      ¬ Withheld 0 (·.Committing 0)
        ((after Call.connect.run (after aborting.run refusing)).log.drop refusing.log.length) :=
  ⟨refusing_reachable, by decide +kernel, .inl rehearsedInside_bracketed, refusing_uncommitted,
    by decide +kernel⟩

end Session

end SqlGateway
