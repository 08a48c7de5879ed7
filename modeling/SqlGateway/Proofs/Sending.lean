import SqlGateway.Proofs.Adding
import SqlGateway.Proofs.Reach

/-!
What a query sends once it has connected: its own statement and no other, followed by a commit where no
transaction is open.
-/

namespace SqlGateway.Session

structure Settles (handle : Handle) (returned : Bool) (rest : List Exchange) : Prop where
  alone : ∀ exchange ∈ rest, ∀ number other, exchange.event ≠ .execute number other
  joined : handle.inTransaction = true → ∀ exchange ∈ rest, ∀ number, exchange.event ≠ .commit number
  committed : handle.inTransaction = false → returned = true →
    ∃ later, rest = ⟨.commit handle.connection, .ok ()⟩ :: later

def Executes {σ : Type} (handle : Handle) (sent : Sent) (returned : Bool) (session final : Session σ) :
    Prop :=
  ∃ answer rest, final.log = session.log ++ ⟨.execute handle.connection sent, answer⟩ :: rest ∧
    Settles handle returned rest

/-- What `queryExecute` sends for a query once it has connected, whatever the session and the server. -/
def Sends (query : String) (params : Params) (sent : Sent) : Prop :=
  ∀ (σ : Type) [Server σ] (closing : Bool) (session ready : Session σ) (handle : Handle),
    connect session = .ok true ready → ready.handle? = some handle →
      ∃ answer rest, (after (queryExecute query params closing) session).log =
          ready.log ++ ⟨.execute handle.connection sent, answer⟩ :: rest ∧
        ∀ exchange ∈ rest, ∀ number other, exchange.event ≠ .execute number other

variable {σ : Type} {session final : Session σ}

theorem Settles.append {handle : Handle} {returned : Bool} {rest torn : List Exchange}
    (settles : Settles handle returned rest)
    (quiet : ∀ exchange ∈ torn, (∀ number other, exchange.event ≠ .execute number other) ∧
      ∀ number, exchange.event ≠ .commit number) :
    Settles handle returned (rest ++ torn) where
  alone exchange member := by
    rcases List.mem_append.mp member with member | member
    · exact settles.alone exchange member
    · exact (quiet exchange member).1
  joined inside exchange member := by
    rcases List.mem_append.mp member with member | member
    · exact settles.joined inside exchange member
    · exact (quiet exchange member).2
  committed outside returns := by
    obtain ⟨later, rfl⟩ := settles.committed outside returns
    exact ⟨later ++ torn, rfl⟩

theorem Executes.unreturned {handle : Handle} {sent : Sent} {returned : Bool}
    (executes : Executes handle sent returned session final) :
    Executes handle sent false session final := by
  obtain ⟨answer, rest, split, settles⟩ := executes
  exact ⟨answer, rest, split, settles.alone, settles.joined, fun _ => nofun⟩

theorem Executes.log {handle : Handle} {sent : Sent} (executes : Executes handle sent false session final)
    (inside : handle.inTransaction = true) : ∃ answer rest,
      final.log = session.log ++ ⟨.execute handle.connection sent, answer⟩ :: rest ∧
        ∀ exchange ∈ rest, ∀ number, exchange.event ≠ .commit number := by
  obtain ⟨answer, rest, split, settles⟩ := executes
  exact ⟨answer, rest, split, settles.joined inside⟩

theorem Ran.executes {statement : Statement} {handle : Handle} {exchanges : List Exchange}
    {result : Except Failure Outcome} (ran : Ran statement handle exchanges result) :
    ∃ answer rest, exchanges = ⟨.execute handle.connection statement.sent, answer⟩ :: rest ∧
      Settles handle result.isOk rest ∧ ∀ outcome, result = .ok outcome → fetched answer = .ok outcome := by
  cases ran with
  | joined answer inside =>
    refine ⟨answer, [], rfl, ⟨by simp, by simp, fun outside => ?_⟩, fun _ => id⟩
    cases inside.symm.trans outside
  | committed answer outside fetches =>
    refine ⟨answer, _, rfl, ⟨by simp, fun inside => ?_, fun _ _ => ⟨[], rfl⟩⟩, fun _ same => same ▸ fetches⟩
    cases inside.symm.trans outside
  | uncommitted answer fault outside fetches =>
    refine ⟨answer, _, rfl, ⟨by simp, fun inside => ?_, fun _ => nofun⟩, nofun⟩
    cases inside.symm.trans outside
  | failed answer outside refused | undone answer outside refused known
  | stuck answer fault outside refused known =>
    exact ⟨answer, _, rfl, ⟨by simp, by simp, fun _ => nofun⟩, nofun⟩

theorem Runs.answered {statement : Statement} {handle : Handle} {result : Except Failure Outcome}
    (runs : Runs statement session result final) (held : session.handle? = some handle) :
    ∃ answer rest, final.log = session.log ++ ⟨.execute handle.connection statement.sent, answer⟩ :: rest ∧
      Settles handle result.isOk rest ∧ ∀ outcome, result = .ok outcome → fetched answer = .ok outcome := by
  cases runs with
  | unconnected absent => cases held.symm.trans absent
  | mk other server same ran =>
    obtain rfl := Option.some.inj (same.symm.trans held)
    obtain ⟨answer, rest, rfl, ends⟩ := ran.executes
    exact ⟨answer, rest, by rw [heard_log, noting_log], ends⟩

theorem Runs.executes {statement : Statement} {handle : Handle} {result : Except Failure Outcome}
    (runs : Runs statement session result final) (held : session.handle? = some handle) :
    Executes handle statement.sent result.isOk session final := by
  obtain ⟨answer, rest, split, settles, _⟩ := runs.answered held
  exact ⟨answer, rest, split, settles⟩

theorem Asks.executes {query : String} {params : Params} {statement : Statement} {handle : Handle}
    {result : Except Failure Bool} (asks : Asks query params session result final)
    (bound : Statement.forQuery query params = .ok statement)
    (held : session.handle? = some handle) :
    Executes handle statement.sent result.isOk session final := by
  cases asks with
  | unbound _ refused => cases bound.symm.trans refused
  | failed same runs =>
    obtain rfl := Except.ok.inj (same.symm.trans bound)
    exact runs.executes held
  | done same runs =>
    obtain rfl := Except.ok.inj (same.symm.trans bound)
    exact runs.executes held

theorem Teardown.quiet {exchanges : List Exchange} {result : Except Failure Bool}
    (torn : Teardown session exchanges result) :
    ∀ exchange ∈ exchanges, (∀ number other, exchange.event ≠ .execute number other) ∧
      ∀ number, exchange.event ≠ .commit number := by
  cases torn <;> simp

theorem Executes.closes {handle : Handle} {sent : Sent} {returned : Bool} {last : Session σ}
    {result : Except Failure Bool} (executes : Executes handle sent returned session last)
    (closes : Closes last result final) : Executes handle sent returned session final := by
  obtain ⟨answer, rest, split, settles⟩ := executes
  cases closes with
  | @mk exchanges _ server torn =>
    refine ⟨answer, rest ++ exchanges, ?_, settles.append torn.quiet⟩
    rw [heard_log, letGo, split, List.append_assoc, List.cons_append]

variable [Server σ]

theorem queryExecute_executes {query : String} {params : Params} {statement : Statement}
    {handle : Handle} {ready : Session σ} (closing : Bool) (given : isBlankText query = false)
    (bound : Statement.forQuery query params = .ok statement)
    (connected : connect session = .ok true ready) (held : ready.handle? = some handle) :
    Ends (queryExecute query params closing) session
      (fun _ final => Executes handle statement.sent true ready final)
      fun _ final => Executes handle statement.sent false ready final := by
  rw [queryExecute, given, if_neg Bool.false_ne_true, ends_bind, ends_discard,
    ends_iff_of_ok connected, ends_finally]
  have released (returned : Bool) (last : Session σ)
      (executes : Executes handle statement.sent returned ready last) :
      Ends (if closing = true then discard close else pure ()) last
        (fun _ final => Executes handle statement.sent returned ready final)
        fun _ final => Executes handle statement.sent false ready final := by
    split
    · rw [ends_discard]
      exact ends_mono (close_meets last) (fun _ _ closes => executes.closes closes)
        fun _ _ closes => (executes.closes closes).unreturned
    · rwa [ends_pure]
  exact ends_mono (ask_meets query params ready)
    (fun _ last asks => released true last (asks.executes bound held))
    fun _ last asks => released false last (asks.executes bound held)

theorem queryExecute_returns {query : String} {params : Params} {closing answer : Bool}
    (returns : queryExecute query params closing session = .ok answer final) :
    isBlankText query = false ∧ ∃ ready statement, connect session = .ok true ready ∧
      Statement.forQuery query params = .ok statement := by
  suffices sent : Ends (queryExecute query params closing) session
      (fun _ _ => isBlankText query = false ∧ ∃ ready statement, connect session = .ok true ready ∧
        Statement.forQuery query params = .ok statement) fun _ _ => True from
    (ends_iff_of_ok returns).mp sent
  rw [queryExecute]
  cases blank : isBlankText query with
  | true =>
    rw [if_pos rfl, ends_bind, ends_throw]
    trivial
  | false =>
    rw [if_neg Bool.false_ne_true, ends_bind, ends_discard]
    cases connected : connect session with
    | error failure ready =>
      rw [ends_iff_of_error connected]
      trivial
    | ok answer ready =>
      obtain rfl := connects_answer ((ends_iff_of_ok connected).mp (connect_meets session))
      rw [ends_iff_of_ok connected, ends_finally]
      apply ends_mono (ask_meets query params ready)
      · intro answer last asks
        generalize same : Except.ok answer = result at asks
        cases asks with
        | unbound _ _ | failed _ _ => cases same
        | @done statement _ _ bound runs =>
          refine ends_of_forall (fun _ _ => ?_) fun _ _ => trivial
          exact ⟨rfl, ready, statement, rfl, bound⟩
      · intro _ last _
        exact ends_of_forall (fun _ _ => trivial) fun _ _ => trivial

theorem sends_of_forQuery {query : String} {params : Params} {statement : Statement}
    (given : isBlankText query = false) (bound : Statement.forQuery query params = .ok statement) :
    Sends query params statement.sent := by
  intro τ server closing session ready handle connected held
  have executes := queryExecute_executes closing given bound connected held
  obtain ⟨answer, rest, split, settles⟩ := ends_after
    (ends_mono executes (fun _ _ returned => returned.unreturned) fun _ _ => id)
  exact ⟨answer, rest, split, settles.alone⟩

theorem sends_unique {query : String} {params : Params} {first second : Sent}
    (sends : Sends query params first) (sendsToo : Sends query params second) : first = second := by
  obtain ⟨ready, connected, held⟩ : ∃ ready, connect rehearsed = .ok true ready ∧
      ready.handle? = some ⟨0, false⟩ := ⟨_, rfl, rfl⟩
  obtain ⟨_, _, split, _⟩ := sends Script false rehearsed ready ⟨0, false⟩ connected held
  obtain ⟨_, _, splitToo, _⟩ := sendsToo Script false rehearsed ready ⟨0, false⟩ connected held
  have same := (List.cons.inj (List.append_cancel_left (split.symm.trans splitToo))).1
  cases same
  rfl

end SqlGateway.Session
