import SqlGateway.Proofs.Committed
import SqlGateway.Proofs.Parts

/-!
A transaction from one call to the next. A single statement joins the transaction that is open on the
connection that began it, and asks for nothing else there but the end of the transaction; whatever fails ends
the transaction, and what returns leaves one open exactly if it was not to commit.
-/

namespace SqlGateway

/-- A request by which a transaction ends and its connection is let go of. -/
def Event.Concludes (connection : Nat) : Event → Prop
  | .commitTransaction number | .rollbackTransaction number | .close number => number = connection
  | .dispose => True
  | _ => False

theorem openIn_append {connection : Nat} {log exchanges : List Exchange} (isOpen : OpenIn connection log)
    (unended : ∀ exchange ∈ exchanges, ¬ exchange.Ending connection) :
    OpenIn connection (log ++ exchanges) := by
  obtain ⟨before, inside, rfl, quiet⟩ := isOpen
  refine ⟨before, inside ++ exchanges, by rw [List.append_assoc, List.cons_append], fun exchange member => ?_⟩
  exact (List.mem_append.mp member).elim (quiet exchange) (unended exchange)

namespace Session

variable {σ : Type} {session middle last final : Session σ}

def Anchored (session : Session σ) : Prop :=
  ∀ connection, bracketed? session = some connection → OpenIn connection session.log

theorem anchored_of_idle (idle : bracketed? session = none) : Anchored session := by
  intro connection bracket
  cases bracket.symm.trans idle

theorem Anchored.kept (anchored : Anchored session) {exchanges : List Exchange}
    (same : bracketed? final = bracketed? session) (split : final.log = session.log ++ exchanges)
    (unended : ∀ exchange ∈ exchanges, ∀ connection, ¬ exchange.Ending connection) : Anchored final := by
  intro connection bracket
  rw [split]
  exact openIn_append (anchored connection (same ▸ bracket)) fun exchange member =>
    unended exchange member connection

theorem Runs.anchored {statement : Statement} {result : Except Failure Outcome}
    (runs : Runs statement session result final) (anchored : Anchored session) : Anchored final := by
  have same := bracketed_congr runs.handle
  cases runs with
  | unconnected _ => exact anchored
  | mk handle server held ran =>
    refine anchored.kept same (by rw [heard_log, noting_log]) ?_
    cases ran <;> simp [Exchange.Ending]

theorem Begins.anchored {result : Except Failure Bool} (begins : Begins session result final)
    (anchored : Anchored session) : Anchored final := by
  cases begins with
  | unconnected _ => exact anchored
  | refused handle fault server held => exact anchored.kept rfl rfl (by simp [Exchange.Ending])
  | answered handle isOpen server held =>
    intro connection bracket
    rw [heard_bracketed, bracketed_withTransaction held rfl] at bracket
    cases isOpen with
    | false => cases bracket
    | true =>
      obtain rfl := Option.some.inj bracket
      exact ⟨session.log, [], rfl, List.forall_mem_nil _⟩

theorem Commits.anchored {result : Except Failure Bool} (commits : Commits session result final)
    (anchored : Anchored session) : Anchored final := by
  cases commits with
  | nothing _ => exact anchored
  | done connection server bracket => exact anchored_of_idle (bracketed_ended bracket)
  | refused connection fault server _ => exact anchored.kept rfl rfl (by simp [Exchange.Ending])

theorem RollsBack.idle {result : Except Failure Bool} (rollsBack : RollsBack session result final) :
    bracketed? final = none := by
  cases rollsBack with
  | nothing idle => exact idle
  | asked connection answer server bracket => exact bracketed_ended bracket

theorem RollsBack.asks {connection : Nat} {result : Except Failure Bool}
    (rollsBack : RollsBack session result final) (bracket : bracketed? session = some connection) :
    ∃ answer, final.log = session.log ++ [⟨.rollbackTransaction connection, answer⟩] := by
  cases rollsBack with
  | nothing idle => cases bracket.symm.trans idle
  | asked number answer server known =>
    obtain rfl := Option.some.inj (known.symm.trans bracket)
    exact ⟨answer, rfl⟩

theorem Move.anchored (move : Move session final) (anchored : Anchored session) : Anchored final := by
  cases move with
  | closed closes => exact anchored_of_idle closes.idle
  | ran runs => exact runs.anchored anchored
  | opened absent opens =>
    refine anchored_of_idle (opens.idle ?_)
    rw [bracketed?, absent]
    rfl
  | begun _ begins => exact begins.anchored anchored
  | committed commits => exact commits.anchored anchored
  | rolledBack rollsBack => exact anchored_of_idle rollsBack.idle
  | remembered _ _ | redirected _ _ _ => exact anchored

/-- The call asks for its own statement, if it comes to that, and then for nothing but the end of the
transaction. -/
def Continues (query : String) (params : Params) (connection : Nat) (exchanges : List Exchange) : Prop :=
  ∃ tried ending, Tried query params connection tried ∧ exchanges = tried ++ ending ∧
    ∀ exchange ∈ ending, exchange.event.Concludes connection

/-- The call's own statement is answered, and then nothing is asked for but the end of the transaction. -/
def Completes (query : String) (params : Params) (connection : Nat) (exchanges : List Exchange) : Prop :=
  ∃ sent reply outcome ending, Sends query params sent ∧ collect reply = .ok outcome ∧
    exchanges = ⟨.execute connection sent, .ok reply⟩ :: ending ∧
    ∀ exchange ∈ ending, exchange.event.Concludes connection

section

variable {query : String} {params : Params} {connection : Nat} {exchanges more : List Exchange}

theorem Completes.continues (completes : Completes query params connection exchanges) :
    Continues query params connection exchanges := by
  obtain ⟨sent, reply, outcome, ending, sends, -, rfl, concludes⟩ := completes
  exact ⟨[_], ending, .sent (.ok reply) sends, rfl, concludes⟩

theorem Completes.append (completes : Completes query params connection exchanges)
    (concludes : ∀ exchange ∈ more, exchange.event.Concludes connection) :
    Completes query params connection (exchanges ++ more) := by
  obtain ⟨sent, reply, outcome, ending, sends, collected, rfl, early⟩ := completes
  exact ⟨sent, reply, outcome, ending ++ more, sends, collected, rfl,
    List.forall_mem_append.mpr ⟨early, concludes⟩⟩

theorem Continues.append (continues : Continues query params connection exchanges)
    (concludes : ∀ exchange ∈ more, exchange.event.Concludes connection) :
    Continues query params connection (exchanges ++ more) := by
  obtain ⟨tried, ending, tries, rfl, early⟩ := continues
  exact ⟨tried, ending ++ more, tries, List.append_assoc _ _ _,
    List.forall_mem_append.mpr ⟨early, concludes⟩⟩

end

theorem Teardown.concludes {handle : Handle} {exchanges : List Exchange} {result : Except Failure Bool}
    (torn : Teardown session exchanges result) (held : session.handle? = some handle) :
    ∀ exchange ∈ exchanges, exchange.event.Concludes handle.connection := by
  cases torn with
  | nothing absent _ | disposed _ absent _ => cases held.symm.trans absent
  | closed other _ same _ _ | both other _ _ same _ _ | cut other _ same _ =>
    obtain rfl := Option.some.inj (same.symm.trans held)
    simp [Event.Concludes]

variable [Server σ]

theorem Driven.anchored (driven : Driven session) : Anchored session :=
  driven.invariant (fun _ _ _ _ => anchored_of_idle rfl) Move.anchored Begins.anchored fun _ here => here

theorem ensureOpen_joins (session : Session σ) :
    Ends ensureOpen session
      (fun _ opened => (∃ connection, opened.handle? = some ⟨connection, true⟩) ∧
        (session.inTransaction = true → opened = session))
      fun _ last => session.inTransaction = false ∧ bracketed? last = none := by
  by_cases inside : session.inTransaction = true
  · rw [ends_iff_of_ok (ensureOpen_inside inside)]
    exact ⟨inTransaction_iff.mp inside, fun _ => rfl⟩
  · have opening := ensureOpen_adds (fun _ _ => True.intro) (fun _ _ => True.intro) session
    refine ends_mono opening (fun _ _ opened => ⟨opened.2, fun same => absurd same inside⟩) ?_
    exact fun _ _ failed => ⟨Bool.eq_false_iff.mpr inside, failed.2⟩

theorem attempt_leaves (query : String) (params : Params) (committing : Bool) {connection : Nat}
    (held : session.handle? = some ⟨connection, true⟩) :
    Ends (attempt query params committing) session
      (fun _ final => final.handle? = some ⟨connection, !committing⟩ ∧ ∃ exchanges,
        final.log = session.log ++ exchanges ∧ Completes query params connection exchanges)
      fun _ last => last.handle? = some ⟨connection, true⟩ ∧ ∃ exchanges,
        last.log = session.log ++ exchanges ∧ Continues query params connection exchanges := by
  rw [attempt, ends_bind]
  refine ends_mono (runStatement_tries query params held) ?_ ?_
  · rintro result middle ⟨sent, reply, outcome, sends, collected, kept, split, -⟩
    have ran : Completes query params connection [⟨.execute connection sent, .ok reply⟩] :=
      ⟨sent, reply, outcome, [], sends, collected, rfl, List.forall_mem_nil _⟩
    cases committing with
    | false =>
      rw [if_neg Bool.false_ne_true, ends_pure]
      exact ⟨kept, _, split, ran⟩
    | true =>
      rw [if_pos rfl, ends_bind]
      refine ends_mono (commit_leaves kept) ?_ ?_
      · rintro _ final ⟨closed, splitFinal⟩
        rw [split, List.append_assoc] at splitFinal
        exact (ends_pure _).mpr ⟨closed, _, splitFinal, ran.append (by simp [Event.Concludes])⟩
      · rintro _ last ⟨still, fault, splitLast⟩
        rw [split, List.append_assoc] at splitLast
        exact ⟨still, _, splitLast, ran.continues.append (by simp [Event.Concludes])⟩
  · rintro _ last ⟨kept, exchanges, tried, split⟩
    exact ⟨kept, exchanges, split, exchanges, [], tried, (List.append_nil _).symm, List.forall_mem_nil _⟩

theorem transaction_kept_leaves (query : String) (params : Params) (committing : Bool)
    (session : Session σ) :
    Ends (transaction query params committing false) session
      (fun _ final => (∃ number, final.handle? = some ⟨number, !committing⟩) ∧
        ∀ connection, bracketed? session = some connection →
          final.handle? = some ⟨connection, !committing⟩ ∧ ∃ exchanges,
            final.log = session.log ++ exchanges ∧ Completes query params connection exchanges)
      fun _ final => bracketed? final = none ∧ ∀ connection, bracketed? session = some connection →
        ∃ exchanges, final.log = session.log ++ exchanges ∧ Continues query params connection exchanges := by
  rw [transaction_kept, ends_tryCatch, ends_bind]
  refine ends_mono (ensureOpen_joins session) ?_ ?_
  · rintro _ opened ⟨⟨number, held⟩, joined⟩
    have same {connection : Nat} (bracket : bracketed? session = some connection) :
        opened = session ∧ number = connection := by
      have inside := inTransaction_iff.mpr ⟨connection, (bracketed_iff session connection).mp bracket⟩
      obtain rfl := joined inside
      exact ⟨rfl, Option.some.inj (((bracketed_iff opened number).mpr held).symm.trans bracket)⟩
    refine ends_mono (attempt_leaves query params committing held) ?_ ?_
    · rintro result final ⟨kept, exchanges, split, completes⟩
      refine ⟨⟨number, kept⟩, fun connection bracket => ?_⟩
      obtain ⟨rfl, rfl⟩ := same bracket
      exact ⟨kept, exchanges, split, completes⟩
    · rintro failure last ⟨still, exchanges, split, continues⟩
      refine ends_mono (undoStatement_leaves failure) (fun _ _ => id) ?_
      rintro left final ⟨_, rollsBack, -⟩
      refine ⟨rollsBack.idle, fun connection bracket => ?_⟩
      obtain ⟨rfl, rfl⟩ := same bracket
      obtain ⟨answer, splitFinal⟩ := rollsBack.asks ((bracketed_iff last number).mpr still)
      rw [split, List.append_assoc] at splitFinal
      exact ⟨_, splitFinal, continues.append (by simp [Event.Concludes])⟩
  · rintro failure last ⟨outside, idle⟩
    refine ends_mono (undoStatement_leaves failure) (fun _ _ => id) ?_
    rintro left final ⟨_, rollsBack, -⟩
    refine ⟨rollsBack.idle, fun connection bracket => ?_⟩
    cases bracket.symm.trans (inTransaction_eq_false.mp outside)

theorem transaction_leaves (query : String) (params : Params) (committing closing : Bool)
    (session : Session σ) :
    Ends (transaction query params committing closing) session
      (fun _ final => (final.inTransaction = true ↔ committing = false) ∧
        (committing = true → closing = true → final.handle? = none) ∧
        ∀ connection, bracketed? session = some connection → ∃ exchanges,
          final.log = session.log ++ exchanges ∧ Completes query params connection exchanges)
      fun _ final => final.inTransaction = false ∧ ∀ connection, bracketed? session = some connection →
        ∃ exchanges, final.log = session.log ++ exchanges ∧ Continues query params connection exchanges := by
  refine transaction_ends (transaction_kept_leaves query params committing session) ?_ ?_ ?_
  · rintro unreleased result final ⟨⟨number, held⟩, completes⟩
    refine ⟨?_, fun commits closes => absurd ⟨commits, closes⟩ unreleased, fun connection bracket =>
      (completes connection bracket).2⟩
    rw [inTransaction, held, Option.any_some, Bool.not_eq_true']
  · rintro rfl rfl result middle ⟨-, completes⟩
    have closed {answer : Except Failure Bool} {final : Session σ} (closes : Closes middle answer final)
        (connection : Nat) (bracket : bracketed? session = some connection) : ∃ exchanges,
        final.log = session.log ++ exchanges ∧ Completes query params connection exchanges := by
      obtain ⟨here, exchanges, split, done⟩ := completes connection bracket
      cases closes with
      | @mk torn _ server tears =>
        refine ⟨exchanges ++ torn, ?_, done.append (tears.concludes here)⟩
        rw [heard_log, letGo, split, List.append_assoc]
    have gone {answer : Except Failure Bool} {final : Session σ} (closes : Closes middle answer final) :=
      inTransaction_eq_false.mpr closes.idle
    refine ends_mono (close_meets middle) (fun _ final closes => ?_) fun _ _ closes => ?_
    · exact ⟨by simp [gone closes], fun _ _ => closes.handle, closed closes⟩
    · refine ⟨gone closes, fun connection bracket => ?_⟩
      obtain ⟨exchanges, split, done⟩ := closed closes connection bracket
      exact ⟨exchanges, split, done.continues⟩
  · rintro failure final ⟨idle, continues⟩
    exact ⟨inTransaction_eq_false.mpr idle, continues⟩

/-- In a session that has taken any requests, on any server: a single statement that fails leaves no
transaction open, one that returns leaves one open exactly if it was not to commit, and to commit and close
leaves no connection. One that finds a transaction open joins it on the connection on which it was begun:
nothing is connected, probed or begun, the one statement that may be executed is its own, and where that is
not answered the call fails. -/
theorem transaction_continues (query : String) (params : Params) (committing closing : Bool)
    {session : Session σ} (driven : Driven session) :
    (∀ connection, bracketed? session = some connection → OpenIn connection session.log) ∧
    Ends (transaction query params committing closing) session
      (fun _ final => (final.inTransaction = true ↔ committing = false) ∧
        (committing = true → closing = true → final.handle? = none) ∧
        ∀ connection, bracketed? session = some connection → ∃ exchanges,
          final.log = session.log ++ exchanges ∧ Completes query params connection exchanges)
      fun _ final => final.inTransaction = false ∧ ∀ connection, bracketed? session = some connection →
        ∃ exchanges, final.log = session.log ++ exchanges ∧ Continues query params connection exchanges :=
  ⟨driven.anchored, transaction_leaves query params committing closing session⟩

def orphaned : Session Script :=
  { rehearsedInside with server := rehearsedInside.server.change .drop }

/-- The dead connection ends the transaction; no other takes its place. -/
theorem orphaned_ends : OpenIn 0 orphaned.log ∧ ∃ failure final,
    transaction "SELECT 3" [] true false orphaned = .error failure final ∧ final.inTransaction = false ∧
      ∃ exchanges, final.log = orphaned.log ++ exchanges ∧ Continues "SELECT 3" [] 0 exchanges := by
  have driven : Driven orphaned := .elsewhere _
    (.asked (.call (.transaction "SELECT 2" [] false false)) (.created rehearsed_created))
  have bracket : bracketed? orphaned = some 0 := (bracketed_congr rfl).trans rehearsedInside_bracketed
  have fails : returns (transaction "SELECT 3" [] true false) orphaned = false := by decide +kernel
  obtain ⟨anchored, ends⟩ := transaction_continues "SELECT 3" [] true false driven
  obtain ⟨failure, failed⟩ := eq_error_of_returns fails
  obtain ⟨ended, continues⟩ := (ends_iff_of_error failed).mp ends
  exact ⟨anchored 0 bracket, failure, _, failed, ended, continues 0 bracket⟩

end Session

end SqlGateway
