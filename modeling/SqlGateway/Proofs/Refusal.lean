import SqlGateway.Proofs.Batch
import SqlGateway.Proofs.Dropping

/-!
A batch that is asked for inside a transaction. The session connects before it looks for the open
transaction, so the batch is refused exactly if the probe is answered by one; otherwise the transaction is
lost with its connection and the batch runs on another.
-/

namespace SqlGateway.Session

variable {σ : Type} [Server σ] {session : Session σ} {connection : Nat}

/-- The batch is refused after a probe alone, and the transaction is still open. -/
def Refuses (queries : List (String × Params)) (connection : Nat) (session : Session σ) : Prop :=
  ∃ reply final, transactionExecute queries session = .error .transactionInProgress final ∧
    final.log = session.log ++ [⟨.execute connection probe.sent, reply⟩] ∧
    final.handle? = some ⟨connection, true⟩

def Decides (queries : List (String × Params)) (connection : Nat) (session : Session σ)
    (reply : Except Fault Reply) : Prop :=
  ∃ later, (after (transactionExecute queries) session).log =
      session.log ++ ⟨.execute connection probe.sent, reply⟩ :: later ∧
    (Refuses queries connection session ↔ verdict (fetched reply) = .ok true) ∧
    (verdict (fetched reply) = .ok false → ∃ answer rest, later = ⟨.close connection, answer⟩ :: rest ∧
      (after (transactionExecute queries) session).inTransaction = false)

theorem verdict_failure {reply : Except Fault Reply} {failure : Failure}
    (unclear : verdict (fetched reply) = .error failure) :
    failure = .invalidOperation ∨ ∃ fault, failure = .fault fault := by
  cases fetches : fetched reply with
  | ok outcome =>
    rw [fetches] at unclear
    exact .inl (isOne_error unclear).1
  | error refused =>
    obtain ⟨fault, rfl⟩ := fetched_recognised fetches
    rw [fetches, verdict] at unclear
    split at unclear
    · cases unclear
    · exact .inr ⟨fault, (Except.error.inj unclear).symm⟩

theorem Refuses.held {queries : List (String × Params)} (refuses : Refuses queries connection session) :
    (after (transactionExecute queries) session).handle? = some ⟨connection, true⟩ := by
  obtain ⟨reply, final, refused, split, held⟩ := refuses
  rw [after_of_error refused]
  exact held

theorem transactionExecute_unconnected (queries : List (String × Params)) {failure : Failure}
    {ready : Session σ} (unconnected : connect session = .error failure ready) :
    transactionExecute queries session =
      .error (if failure.kind = .connection then .stepFailed .statement failure else failure) ready := by
  apply eq_error_of_ends
  rw [transactionExecute, connectForBatch, ends_bind, ends_tryCatch, ends_discard,
    ends_iff_of_error unconnected, ends_throw]
  exact ⟨rfl, rfl⟩

theorem transactionExecute_in_progress (queries : List (String × Params)) {ready : Session σ}
    (connected : connect session = .ok true ready) (inside : ready.inTransaction = true) :
    transactionExecute queries session = .error .transactionInProgress ready := by
  apply eq_error_of_ends
  rw [transactionExecute, connectForBatch, ends_bind, ends_tryCatch, ends_discard,
    ends_iff_of_ok connected, ends_bind, ends_get, if_pos inside, ends_bind, ends_throw]
  exact ⟨rfl, rfl⟩

theorem transactionExecute_leaves (queries : List (String × Params)) {ready : Session σ}
    (connected : connect session = .ok true ready) {number : Nat}
    (held : ready.handle? = some ⟨number, false⟩) :
    ready.log <+: (after (transactionExecute queries) session).log ∧
      bracketed? (after (transactionExecute queries) session) = none := by
  have outside : ready.inTransaction = false := by
    rw [inTransaction, held]
    rfl
  suffices leaves : Ends (transactionExecute queries) session
      (fun _ final => ready.log <+: final.log ∧ bracketed? final = none)
      (fun _ final => ready.log <+: final.log ∧ bracketed? final = none) from ends_after leaves
  rw [transactionExecute, connectForBatch, ends_bind, ends_tryCatch, ends_discard,
    ends_iff_of_ok connected, ends_bind, ends_get, outside, if_neg Bool.false_ne_true]
  apply ends_mono (batch_ends queries held)
  · intro _ final done
    obtain ⟨exchanges, _, split, idle⟩ := done
    rw [List.append_assoc] at split
    exact ⟨⟨_, split.symm⟩, idle⟩
  · intro _ final failed
    obtain ⟨exchanges, split, _, idle⟩ := failed
    exact ⟨⟨exchanges, split.symm⟩, idle⟩

theorem decides_of_dropped (queries : List (String × Params)) {reply : Except Fault Reply}
    {answer : Except Fault Unit} {later : List Exchange} {ready : Session σ}
    (judged : verdict (fetched reply) = .ok false)
    (split : ready.log = session.log ++
      ⟨.execute connection probe.sent, reply⟩ :: ⟨.close connection, answer⟩ :: later)
    (grows : ready.log <+: (after (transactionExecute queries) session).log)
    (idle : bracketed? (after (transactionExecute queries) session) = none) :
    Decides queries connection session reply := by
  obtain ⟨more, splitLater⟩ := exists_split_of_prefix split grows
  refine ⟨⟨.close connection, answer⟩ :: (later ++ more), splitLater, ?_, fun _ => ?_⟩
  · constructor
    · intro refuses
      have bracket := (bracketed_iff _ connection).mpr refuses.held
      cases bracket.symm.trans idle
    · intro answered
      cases judged.symm.trans answered
  · exact ⟨answer, _, rfl, inTransaction_eq_false.mpr idle⟩

theorem decides_of_connect_error (queries : List (String × Params)) {failure : Failure}
    {ready : Session σ} (unconnected : connect session = .error failure ready)
    (probes : Probes connection session ready (.error failure)) :
    ∃ reply, Decides queries connection session reply := by
  have failed := transactionExecute_unconnected queries unconnected
  have left := after_of_error failed
  generalize same : Except.error failure = result at probes
  cases probes with
  | answered _ _ _ _ => cases same
  | dropped reply answer later judged split away =>
    refine ⟨reply, decides_of_dropped queries judged split ?_ ?_⟩
    · exact ⟨[], by rw [left, List.append_nil]⟩
    · rw [left]
      exact away.idle
  | unclear reply judged split inside =>
    obtain rfl := Except.error.inj same
    refine ⟨reply, [], by rw [left, split], ?_, fun dropped => ?_⟩
    · constructor
      · intro ⟨_, _, refused, _, _⟩
        have kind := (EStateM.Result.error.inj (failed.symm.trans refused)).1
        split at kind
        · cases kind
        · rcases verdict_failure judged with rfl | ⟨fault, rfl⟩
          · cases kind
          · cases kind
      · intro answered
        cases judged.symm.trans answered
    · cases judged.symm.trans dropped

/-- The probe decides over a batch that is asked for inside a transaction. If it is answered by one, the
batch is refused and nothing else was requested; if it is refused or answered otherwise, the connection
was closed over it and the transaction is gone. -/
theorem transactionExecute_decided (queries : List (String × Params)) (session : Session σ)
    (reachable : Reachable session) (connection : Nat) (bracket : bracketed? session = some connection) :
    ∃ reply, Decides queries connection session reply := by
  have inside := reachable.inside bracket
  cases connected : connect session with
  | error failure ready =>
    have connects := (ends_iff_of_error connected).mp (connect_meets session)
    exact decides_of_connect_error queries connected (connects.probes inside)
  | ok answer ready =>
    have connects := (ends_iff_of_ok connected).mp (connect_meets session)
    obtain rfl := connects_answer connects
    cases connects.probes inside with
    | answered reply judged split insideReady =>
      have isOpen : ready.inTransaction = true := by
        rw [inTransaction, insideReady.held]
        rfl
      have refused := transactionExecute_in_progress queries connected isOpen
      refine ⟨reply, [], by rw [after_of_error refused, split], ?_, fun dropped => ?_⟩
      · exact ⟨fun _ => judged, fun _ => ⟨reply, ready, refused, split, insideReady.held⟩⟩
      · cases judged.symm.trans dropped
    | dropped reply closing later judged split away =>
      obtain ⟨⟨number, isOpen⟩, held⟩ := connects.held
      obtain rfl : isOpen = false := (away.held _ held).2
      obtain ⟨grows, idle⟩ := transactionExecute_leaves queries connected held
      exact ⟨reply, decides_of_dropped queries judged split grows idle⟩

theorem transactionExecute_decided_rehearsed :
    bracketed? rehearsedInside = some 0 ∧
      ∃ reply, Decides [("SELECT 3", [])] 0 rehearsedInside reply :=
  ⟨rehearsedInside_bracketed, transactionExecute_decided [("SELECT 3", [])] rehearsedInside
    rehearsedInside_reachable 0 rehearsedInside_bracketed⟩

/-- With a probe that is answered by two the batch runs on another connection. -/
theorem transactionExecute_not_refused :
    Reachable { rehearsedInside with server := unwell } ∧
      bracketed? { rehearsedInside with server := unwell } = some 0 ∧
      ¬ Refuses [("SELECT 3", [])] 0 { rehearsedInside with server := unwell } ∧
      returns (transactionExecute [("SELECT 3", [])]) { rehearsedInside with server := unwell } = true ∧
      (after (transactionExecute [("SELECT 3", [])])
        { rehearsedInside with server := unwell }).handle? = some ⟨1, false⟩ := by
  have moved : (after (transactionExecute [("SELECT 3", [])])
      { rehearsedInside with server := unwell }).handle? = some ⟨1, false⟩ := by
    decide +kernel
  refine ⟨.elsewhere unwell rehearsedInside_reachable, rehearsedInside_bracketed, ?_, ?_, moved⟩
  · intro refuses
    cases refuses.held.symm.trans moved
  · decide +kernel

end SqlGateway.Session
