import SqlGateway.Proofs.Bracket
import SqlGateway.Proofs.Dropping
import SqlGateway.Proofs.Sending

/-!
Queries inside a transaction. A query that its caller sends, or has written for it, connects before it is
sent; it joins the open transaction unless that was lost to a probe on the way, and then it runs on
another connection and is committed there by itself.
-/

namespace SqlGateway.Session

variable {σ : Type} [Server σ]

inductive Writes : Call → Action σ Query → Bool → Prop
  | queryExecute (query : String) (params : Params) (closing : Bool) :
      Writes (.queryExecute query params closing) (pure ⟨query, params⟩) closing
  | insert (table input : Value) (upsert : Bool) :
      Writes (.insert table input upsert) (writeInsert table input upsert) false
  | update (table : Value) (params record : Record) (conjunction : Query.Conjunction)
      (allRows : Bool) : Writes (.update table params record conjunction allRows)
        (writeUpdate table params record conjunction allRows) false
  | delete (table : Value) (record : Record) (conjunction : Query.Conjunction) (allRows : Bool) :
      Writes (.delete table record conjunction allRows)
        (writeDelete table record conjunction allRows) false
  | select (table : Value) (record : Record) (conjunction : Query.Conjunction) :
      Writes (.select table record conjunction) (writeSelect table record conjunction) false

/-- The call has written its query, has connected and sends the statement next. -/
def Poised (write : Action σ Query) (session ready : Session σ) (statement : Statement) : Prop :=
  ∃ query middle, write session = .ok query middle ∧ isBlankText query.sql = false ∧
    connect middle = .ok true ready ∧ Statement.forQuery query.sql query.params = .ok statement

/-- Whatever the call runs as its own statement it runs on the connection and in its transaction, and
commits nothing; unless it fails it does run it. -/
structure Joins (connection : Nat) (call : Call) (write : Action σ Query) (session : Session σ) :
    Prop where
  ran : returns call.run session = true → ∃ ready statement, Poised write session ready statement
  inside : ∀ ready statement, Poised write session ready statement →
    OpenIn connection ready.log ∧ ∃ answer rest,
      (after call.run session).log =
        ready.log ++ ⟨.execute connection statement.sent, answer⟩ :: rest ∧
      ∀ exchange ∈ rest, ∀ number, exchange.event ≠ .commit number

/-- On the way to its statement the call loses the transaction: a probe on the connection is not answered
by one, and the connection is closed. -/
def Loses (connection : Nat) (write : Action σ Query) (session ready : Session σ) : Prop :=
  (∃ statement, Poised write session ready statement) ∧ ∃ before reply answer later,
    ready.log = session.log ++ before ++
      ⟨.execute connection probe.sent, reply⟩ :: ⟨.close connection, answer⟩ :: later ∧
    verdict (fetched reply) = .ok false

variable {session final : Session σ} {call : Call} {write : Action σ Query} {closing : Bool}

theorem keeps_write {Related : Session σ → Session σ → Prop} (attends : Attends Related)
    (writes : Writes call write closing) : Keeps Related write := by
  cases writes with
  | queryExecute query params closing => exact attends.pure _
  | insert table input upsert => exact attends.writeInsert table input upsert
  | update table params record conjunction allRows =>
    exact attends.writeUpdate table params record conjunction allRows
  | delete table record conjunction allRows =>
    exact attends.writeDelete table record conjunction allRows
  | select table record conjunction => exact attends.writeSelect table record conjunction

theorem ends_query (writes : Writes call write closing) :
    ∃ answer : Bool → Session σ → Answer, ∀ (session : Session σ) (done : Answer → Session σ → Prop)
      (failed : Failure → Session σ → Prop),
      Ends call.run session done failed ↔
        Ends write session (fun query middle =>
          Ends (queryExecute query.sql query.params closing) middle
            (fun flag final => done (answer flag final) final) failed) failed := by
  cases writes with
  | queryExecute query params closing =>
    refine ⟨fun flag _ => .flag flag, fun session done failed => ?_⟩
    simp only [Call.run, ends_bind, ends_pure]
  | insert table input upsert =>
    refine ⟨fun _ final => .count (outcome final).rowCount, fun session done failed => ?_⟩
    simp only [Call.run, insert, send, rowCount, ends_bind, ends_discard, ends_get, ends_pure]
  | update table params record conjunction allRows =>
    refine ⟨fun _ final => .count (outcome final).rowCount, fun session done failed => ?_⟩
    simp only [Call.run, update, send, rowCount, ends_bind, ends_discard, ends_get, ends_pure]
  | delete table record conjunction allRows =>
    refine ⟨fun _ final => .count (outcome final).rowCount, fun session done failed => ?_⟩
    simp only [Call.run, delete, send, rowCount, ends_bind, ends_discard, ends_get, ends_pure]
  | select table record conjunction =>
    refine ⟨fun _ final => .rows (outcome final).rows, fun session done failed => ?_⟩
    simp only [Call.run, select, send, rows, ends_bind, ends_discard, ends_get, ends_pure]

theorem poised_of_returns (writes : Writes call write closing)
    (returned : returns call.run session = true) :
    ∃ ready statement, Poised write session ready statement := by
  obtain ⟨answer, equation⟩ := eq_ok_of_returns returned
  obtain ⟨_, ends⟩ := ends_query writes
  suffices sent : Ends call.run session
      (fun _ _ => ∃ ready statement, Poised write session ready statement) fun _ _ => True from
    (ends_iff_of_ok equation).mp sent
  rw [ends]
  cases written : write session with
  | error failure middle =>
    rw [ends_iff_of_error written]
    trivial
  | ok query middle =>
    rw [ends_iff_of_ok written]
    cases sent : queryExecute query.sql query.params closing middle with
    | error failure last =>
      rw [ends_iff_of_error sent]
      trivial
    | ok flag last =>
      rw [ends_iff_of_ok sent]
      obtain ⟨given, ready, statement, connected, bound⟩ := queryExecute_returns sent
      exact ⟨ready, statement, query, middle, written, given, connected, bound⟩

namespace Poised

variable {ready : Session σ} {statement : Statement}

theorem executes (poised : Poised write session ready statement)
    (writes : Writes call write closing) {handle : Handle} (held : ready.handle? = some handle) :
    Ends call.run session (fun _ final => Executes handle statement.sent true ready final)
      fun _ final => Executes handle statement.sent false ready final := by
  obtain ⟨query, middle, written, given, connected, bound⟩ := poised
  obtain ⟨_, ends⟩ := ends_query writes
  rw [ends, ends_iff_of_ok written]
  exact queryExecute_executes closing given bound connected held

theorem connects (poised : Poised write session ready statement) :
    ∃ query middle, write session = .ok query middle ∧ Connects middle (.ok true) ready := by
  obtain ⟨query, middle, written, _, connected, _⟩ := poised
  exact ⟨query, middle, written, (ends_iff_of_ok connected).mp (connect_meets middle)⟩

theorem held (poised : Poised write session ready statement) :
    ∃ handle, ready.handle? = some handle := by
  obtain ⟨_, _, _, connects⟩ := poised.connects
  exact connects.held

theorem related {Related : Session σ → Session σ → Prop} (steady : Steady Related)
    (poised : Poised write session ready statement) (writes : Writes call write closing) :
    Related session ready := by
  obtain ⟨query, middle, written, connects⟩ := poised.connects
  have wrote := (ends_iff_of_ok written).mp ((keeps_write steady.attends writes).ends session)
  exact steady.trans wrote (steady.connect connects)

theorem bracketing (poised : Poised write session ready statement)
    (writes : Writes call write closing) (reachable : Reachable session) : WellBracketed ready := by
  have moves := poised.related steady_moves writes
  exact moves.bracketing reachable.bracketing

end Poised

theorem Loses.away {connection : Nat} {ready : Session σ}
    (loses : Loses connection write session ready) (writes : Writes call write closing)
    (inside : Inside connection session) : Away connection ready := by
  obtain ⟨⟨statement, poised⟩, before, reply, answer, later, split, _⟩ := loses
  have follows := poised.related (steady_follows connection) writes
  rcases follows.inside inside with stays | drops
  · rw [← List.singleton_append, ← List.append_assoc, List.append_assoc session.log] at split
    exact (stays.not_closed split).elim
  · cases drops with
    | mk _ _ _ _ _ _ _ away => exact away

theorem stays_of_not_loses {connection : Nat} {ready : Session σ} {statement : Statement}
    (poised : Poised write session ready statement) (writes : Writes call write closing)
    (inside : Inside connection session) (keeps : ¬ Loses connection write session ready) :
    Stays connection session ready := by
  have follows := poised.related (steady_follows connection) writes
  rcases follows.inside inside with stays | drops
  · exact stays
  · cases drops with
    | mk before reply answer later executing judged split away =>
      have loses : Loses connection write session ready :=
        ⟨⟨statement, poised⟩, before, reply, answer, later, split, judged⟩
      exact absurd loses keeps

/-- A query in an open transaction joins it exactly if no probe loses the transaction before the
statement is sent. If one does, the statement runs on another connection, and where the call returns the
statement has been committed there. -/
theorem query_joins_iff (call : Call) (write : Action σ Query) (closing : Bool)
    (writes : Writes call write closing) (session : Session σ) (reachable : Reachable session)
    (connection : Nat) (bracket : bracketed? session = some connection) :
    (Joins connection call write session ↔ ¬ ∃ ready, Loses connection write session ready) ∧
      ∀ ready statement, Poised write session ready statement →
        Loses connection write session ready → ∃ number, number ≠ connection ∧
          Ends call.run session
            (fun _ final => ∃ answer later, final.log = ready.log ++
              ⟨.execute number statement.sent, answer⟩ :: ⟨.commit number, .ok ()⟩ :: later)
            fun _ final => ∃ answer later, final.log = ready.log ++
              ⟨.execute number statement.sent, answer⟩ :: later := by
  have inside := reachable.inside bracket
  refine ⟨⟨fun joins => ?_, fun keeps => ⟨poised_of_returns writes, ?_⟩⟩, ?_⟩
  · intro ⟨ready, loses⟩
    obtain ⟨statement, poised⟩ := loses.1
    have isOpen := (joins.inside ready statement poised).1
    have idle := (loses.away writes inside).idle
    have bracketing := poised.bracketing writes reachable
    cases ((bracketing.isOpen connection).mp isOpen).symm.trans idle
  · intro ready statement poised
    have stays := stays_of_not_loses poised writes inside fun loses => keeps ⟨ready, loses⟩
    have bracketing := poised.bracketing writes reachable
    have isOpen := (bracketed_iff ready connection).mpr stays.inside.held
    have executes := poised.executes writes stays.inside.held
    have left := ends_after (ends_mono executes (fun _ _ sent => sent.unreturned) fun _ _ => id)
    exact ⟨(bracketing.isOpen connection).mpr isOpen, left.log rfl⟩
  · intro ready statement poised loses
    obtain ⟨handle, held⟩ := poised.held
    obtain ⟨other, outside⟩ := (loses.away writes inside).held handle held
    refine ⟨handle.connection, other, ends_mono (poised.executes writes held) ?_ ?_⟩
    · intro _ final ⟨answer, rest, split, settles⟩
      obtain ⟨later, rfl⟩ := settles.committed outside rfl
      exact ⟨answer, later, split⟩
    · intro _ final ⟨answer, rest, split, settles⟩
      exact ⟨answer, rest, split⟩

theorem query_joins_rehearsed :
    Reachable rehearsedInside ∧ bracketed? rehearsedInside = some 0 ∧
      Joins 0 (.queryExecute "UPDATE t SET a = 1" [] false) (pure ⟨"UPDATE t SET a = 1", []⟩)
        rehearsedInside := by
  have writes : Writes (.queryExecute "UPDATE t SET a = 1" [] false)
      (pure ⟨"UPDATE t SET a = 1", []⟩ : Action Script Query) false := .queryExecute _ _ _
  have joins := query_joins_iff _ _ _ writes rehearsedInside rehearsedInside_reachable 0
    rehearsedInside_bracketed
  refine ⟨rehearsedInside_reachable, rehearsedInside_bracketed, joins.1.mpr ?_⟩
  intro ⟨ready, loses⟩
  have away := loses.away writes (rehearsedInside_reachable.inside rehearsedInside_bracketed)
  obtain ⟨⟨_, query, middle, written, _, connected, _⟩, _⟩ := loses
  cases written
  have held : (after connect rehearsedInside).handle? = some ⟨0, true⟩ := by decide +kernel
  rw [after, connected] at held
  exact (away.held _ held).1 rfl

/-- With a probe that is answered by two the statement runs on another connection. -/
theorem query_not_joined :
    Reachable { rehearsedInside with server := unwell } ∧
      bracketed? { rehearsedInside with server := unwell } = some 0 ∧
      ¬ Joins 0 (.queryExecute "UPDATE t SET a = 1" [] false) (pure ⟨"UPDATE t SET a = 1", []⟩)
        { rehearsedInside with server := unwell } := by
  have reachable : Reachable { rehearsedInside with server := unwell } :=
    .elsewhere unwell rehearsedInside_reachable
  have writes : Writes (.queryExecute "UPDATE t SET a = 1" [] false)
      (pure ⟨"UPDATE t SET a = 1", []⟩ : Action Script Query) false := .queryExecute _ _ _
  have moved : bracketed? (after connect { rehearsedInside with server := unwell }) = none := by
    decide +kernel
  refine ⟨reachable, rehearsedInside_bracketed, fun joins => ?_⟩
  obtain ⟨ready, statement, poised⟩ := joins.ran (by decide +kernel)
  have isOpen := (joins.inside ready statement poised).1
  have bracket := ((poised.bracketing writes reachable).isOpen 0).mp isOpen
  obtain ⟨query, middle, written, _, connected, _⟩ := poised
  cases written
  rw [after, connected] at moved
  cases bracket.symm.trans moved

end SqlGateway.Session
