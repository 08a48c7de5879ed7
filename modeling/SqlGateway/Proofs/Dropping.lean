import SqlGateway.Proofs.Adding
import SqlGateway.Proofs.Reach

/-!
What becomes of an open transaction when a session connects. The probe is a statement inside the
transaction; unless it is answered by one, the connection is closed and the transaction goes with it,
and no connection that is opened later is that one again.
-/

namespace SqlGateway

def Exchange.Executing (connection : Nat) : Exchange → Prop
  | ⟨.execute number _, _⟩ => number = connection
  | _ => False

namespace Session

variable {σ : Type}

structure Inside (connection : Nat) (session : Session σ) : Prop where
  held : session.handle? = some ⟨connection, true⟩
  numbered : connection < session.opened

structure Away (connection : Nat) (session : Session σ) : Prop where
  held : ∀ handle, session.handle? = some handle →
    handle.connection ≠ connection ∧ handle.inTransaction = false
  numbered : connection < session.opened

theorem Away.idle {connection : Nat} {session : Session σ} (away : Away connection session) :
    bracketed? session = none := by
  unfold bracketed?
  cases held : session.handle? with
  | none => rfl
  | some handle =>
    rw [Option.filter_some_neg (away.held handle held).2]
    rfl

structure Stays (connection : Nat) (session final : Session σ) : Prop where
  inside : Inside connection final
  adds : Adds (·.Executing connection) session final

/-- A probe in the transaction was not answered by one, and the connection was closed. -/
inductive Drops (connection : Nat) (session final : Session σ) : Prop
  | mk (before : List Exchange) (reply : Except Fault Reply) (answer : Except Fault Unit)
      (later : List Exchange) : (∀ exchange ∈ before, exchange.Executing connection) →
      verdict (fetched reply) = .ok false →
      final.log = session.log ++ before ++
        ⟨.execute connection probe.sent, reply⟩ :: ⟨.close connection, answer⟩ :: later →
      Away connection final → Drops connection session final

inductive Probes (connection : Nat) (session final : Session σ) : Except Failure Bool → Prop
  | answered (reply : Except Fault Reply) : verdict (fetched reply) = .ok true →
      final.log = session.log ++ [⟨.execute connection probe.sent, reply⟩] →
      Inside connection final → Probes connection session final (.ok true)
  | unclear (reply : Except Fault Reply) {failure : Failure} :
      verdict (fetched reply) = .error failure →
      final.log = session.log ++ [⟨.execute connection probe.sent, reply⟩] →
      Inside connection final → Probes connection session final (.error failure)
  | dropped (reply : Except Fault Reply) (answer : Except Fault Unit) (later : List Exchange)
      {result : Except Failure Bool} : verdict (fetched reply) = .ok false →
      final.log = session.log ++
        ⟨.execute connection probe.sent, reply⟩ :: ⟨.close connection, answer⟩ :: later →
      Away connection final → Probes connection session final result

variable {connection : Nat} {session final : Session σ}

theorem Closes.opened {result : Except Failure Bool} (closes : Closes session result final) :
    final.opened = session.opened := by
  cases closes with
  | mk server torn => rfl

theorem Runs.opened {statement : Statement} {result : Except Failure Outcome}
    (runs : Runs statement session result final) : final.opened = session.opened := by
  cases runs with
  | unconnected held => rfl
  | mk handle server held ran => cases result <;> rfl

theorem Runs.away {statement : Statement} {result : Except Failure Outcome}
    (runs : Runs statement session result final) (away : Away connection session) :
    Away connection final where
  held handle held := away.held handle (runs.handle.symm.trans held)
  numbered := by
    rw [runs.opened]
    exact away.numbered

theorem Closes.away {result : Except Failure Bool} (closes : Closes session result final)
    (numbered : connection < session.opened) : Away connection final where
  held handle held := by
    rw [closes.handle] at held
    cases held
  numbered := by
    rw [closes.opened]
    exact numbered

theorem Opens.away {result : Except Failure Unit} (opens : Opens session result final)
    (away : Away connection session) : Away connection final := by
  cases opens with
  | engineless fault server => exact ⟨away.held, away.numbered⟩
  | refused fault server => exact ⟨away.held, away.numbered⟩
  | opened server =>
    refine ⟨fun handle held => ?_, Nat.lt_succ_of_lt away.numbered⟩
    obtain rfl := Option.some.inj held
    exact ⟨Nat.ne_of_gt away.numbered, rfl⟩

theorem Checks.away {result : Except Failure Bool} (checks : Checks session result final)
    (away : Away connection session) : Away connection final := by
  cases checks with
  | absent held => exact away
  | answered handle held runs judged => exact runs.away away
  | dropped handle held runs judged closes => exact closes.away (runs.away away).numbered
  | unclear handle held runs judged => exact runs.away away

theorem Connects.away {result : Except Failure Bool} (connects : Connects session result final)
    (away : Away connection session) : Away connection final := by
  cases connects with
  | healthy checks => exact checks.away away
  | unclear checks => exact checks.away away
  | opened checks opens => exact opens.away (checks.away away)
  | unopened checks opens known => exact opens.away (checks.away away)
  | refused checks opens known closes => exact closes.away (opens.away (checks.away away)).numbered

theorem Closes.first {handle : Handle} {result : Except Failure Bool}
    (closes : Closes session result final) (held : session.handle? = some handle) :
    ∃ answer later, final.log = session.log ++ ⟨.close handle.connection, answer⟩ :: later := by
  cases closes with
  | mk server torn =>
    cases torn with
    | nothing absent _ | disposed _ absent _ => cases held.symm.trans absent
    | closed other answer same _ _ | both other answer _ same _ _ =>
      obtain rfl := Option.some.inj (same.symm.trans held)
      exact ⟨answer, _, rfl⟩
    | cut other fault same _ =>
      obtain rfl := Option.some.inj (same.symm.trans held)
      exact ⟨.error fault, [], rfl⟩

theorem Runs.stays {statement : Statement} {result : Except Failure Outcome}
    (runs : Runs statement session result final) (inside : Inside connection session) :
    Stays connection session final := by
  obtain ⟨answer, _, held, split, _⟩ := runs.inside inside.held
  have numbered : connection < final.opened := by
    rw [runs.opened]
    exact inside.numbered
  exact ⟨⟨held, numbered⟩, .one split rfl⟩

theorem Checks.probes {result : Except Failure Bool} (checks : Checks session result final)
    (inside : Inside connection session) : Probes connection session final result := by
  cases checks with
  | absent held => cases inside.held.symm.trans held
  | answered handle held runs judged =>
    obtain ⟨reply, fetches, _, split, _⟩ := runs.inside inside.held
    exact .answered reply (fetches ▸ judged) split (runs.stays inside).inside
  | unclear handle held runs judged =>
    obtain ⟨reply, fetches, _, split, _⟩ := runs.inside inside.held
    exact .unclear reply (fetches ▸ judged) split (runs.stays inside).inside
  | dropped handle held runs judged closes =>
    obtain ⟨reply, fetches, heldStill, split, _⟩ := runs.inside inside.held
    obtain ⟨answer, later, splitLater⟩ := closes.first heldStill
    have away := closes.away (runs.stays inside).inside.numbered
    refine .dropped reply answer later (fetches ▸ judged) ?_ away
    calc
      final.log = _ ++ ⟨.close connection, answer⟩ :: later := splitLater
      _ = session.log ++
          ⟨.execute connection probe.sent, reply⟩ :: ⟨.close connection, answer⟩ :: later := by
        rw [split, List.append_assoc, List.singleton_append]

theorem exists_split_of_prefix {front back log grown : List Exchange} (split : log = front ++ back)
    (grows : log <+: grown) : ∃ more, grown = front ++ (back ++ more) := by
  obtain ⟨more, extended⟩ := grows
  refine ⟨more, ?_⟩
  calc
    grown = log ++ more := extended.symm
    _ = front ++ (back ++ more) := by rw [split, List.append_assoc]

theorem Probes.grows {middle : Session σ} {result later : Except Failure Bool}
    (probes : Probes connection session middle result) (unhealthy : result = .ok false)
    (grows : middle.log <+: final.log) (away : Away connection middle → Away connection final) :
    Probes connection session final later := by
  cases probes with
  | answered _ _ _ _ | unclear _ _ _ _ => cases unhealthy
  | dropped reply answer rest judged split gone =>
    obtain ⟨more, splitLater⟩ := exists_split_of_prefix split grows
    exact .dropped reply answer (rest ++ more) judged splitLater (away gone)

theorem Connects.probes {result : Except Failure Bool} (connects : Connects session result final)
    (inside : Inside connection session) : Probes connection session final result := by
  cases connects with
  | healthy checks => exact checks.probes inside
  | unclear checks => exact checks.probes inside
  | opened checks opens => exact (checks.probes inside).grows rfl (opens.within probe.sent).adds.grows opens.away
  | unopened checks opens known =>
    exact (checks.probes inside).grows rfl (opens.within probe.sent).adds.grows opens.away
  | refused checks opens known closes =>
    have grows := ((opens.within probe.sent).trans (closes.within _)).adds.grows
    exact (checks.probes inside).grows rfl grows fun away =>
      closes.away (opens.away away).numbered

theorem Stays.not_closed {connection : Nat} (stays : Stays connection session final)
    {before later : List Exchange} {closed : Exchange}
    (split : final.log = session.log ++ before ++ closed :: later) : closed.Executing connection := by
  obtain ⟨exchanges, same, executing⟩ := stays.adds
  rw [same, List.append_assoc] at split
  apply executing
  rw [List.append_cancel_left split]
  exact List.mem_append_right before List.mem_cons_self

/-- What queries do to a transaction: they stay in it or lose it, and having lost it they are done with
its connection. -/
structure Follows (connection : Nat) (session final : Session σ) : Prop where
  inside : Inside connection session →
    Stays connection session final ∨ Drops connection session final
  away : Away connection session → Away connection final
  grows : session.log <+: final.log

theorem Follows.refl (session : Session σ) : Follows connection session session where
  inside inside := .inl ⟨inside, .refl session⟩
  away := id
  grows := List.prefix_rfl

theorem Stays.drops {middle : Session σ} (stays : Stays connection session middle)
    (drops : Drops connection middle final) : Drops connection session final := by
  obtain ⟨exchanges, splitFirst, executing⟩ := stays.adds
  cases drops with
  | mk before reply answer later executingLater judged split away =>
    refine .mk (exchanges ++ before) reply answer later ?_ judged ?_ away
    · intro exchange member
      rcases List.mem_append.mp member with member | member
      · exact executing exchange member
      · exact executingLater exchange member
    · rw [split, splitFirst, List.append_assoc session.log]

theorem Drops.follows {middle : Session σ} (drops : Drops connection session middle)
    (follows : Follows connection middle final) : Drops connection session final := by
  cases drops with
  | mk before reply answer later executing judged split away =>
    obtain ⟨more, splitLater⟩ := exists_split_of_prefix split follows.grows
    exact .mk before reply answer (later ++ more) executing judged splitLater (follows.away away)

theorem Follows.trans {middle : Session σ} (first : Follows connection session middle)
    (second : Follows connection middle final) : Follows connection session final where
  inside inside := by
    rcases first.inside inside with stays | drops
    · rcases second.inside stays.inside with staysLater | dropsLater
      · exact .inl ⟨staysLater.inside, stays.adds.trans staysLater.adds⟩
      · exact .inr (stays.drops dropsLater)
    · exact .inr (drops.follows second)
  away away := second.away (first.away away)
  grows := first.grows.trans second.grows

theorem Connects.follows {result : Except Failure Bool} (connects : Connects session result final) :
    Follows connection session final where
  inside inside := by
    cases connects.probes inside with
    | answered reply judged split kept | unclear reply judged split kept =>
      exact .inl ⟨kept, .one split rfl⟩
    | dropped reply answer later judged split away =>
      refine .inr (.mk [] reply answer later (by simp) judged ?_ away)
      rw [split, List.append_nil]
  away := connects.away
  grows := connects.outer.grows

theorem steady_follows (connection : Nat) : Steady (Follows (σ := σ) connection) where
  refl := .refl
  trans := .trans
  connect := Connects.follows
  run runs := ⟨fun inside => .inl (runs.stays inside), runs.away, runs.within.adds.grows⟩
  remember session _ _ :=
    ⟨fun inside => .inl ⟨⟨inside.held, inside.numbered⟩, .refl session⟩,
      fun away => ⟨away.held, away.numbered⟩, List.prefix_rfl⟩

def Numbered (session : Session σ) : Prop :=
  ∀ handle, session.handle? = some handle → handle.connection < session.opened

theorem Opens.numbered {result : Except Failure Unit} (opens : Opens session result final)
    (numbered : Numbered session) : Numbered final := by
  cases opens with
  | engineless fault server => exact numbered
  | refused fault server => exact numbered
  | opened server =>
    intro handle held
    obtain rfl := Option.some.inj held
    exact Nat.lt_succ_self session.opened

theorem Numbered.withTransaction (numbered : Numbered session) (isOpen : Bool) :
    Numbered (session.withTransaction isOpen) := by
  intro handle held
  obtain ⟨before, heldBefore, rfl⟩ := Option.map_eq_some_iff.mp held
  exact numbered before heldBefore

theorem Move.numbered (move : Move session final) (numbered : Numbered session) : Numbered final := by
  cases move with
  | closed closes =>
    intro handle held
    rw [closes.handle] at held
    cases held
  | ran runs =>
    intro handle held
    rw [runs.handle] at held
    rw [runs.opened]
    exact numbered handle held
  | opened absent opens => exact opens.numbered numbered
  | begun fresh begins =>
    cases begins with
    | unconnected held => exact numbered
    | answered handle isOpen server held => exact numbered.withTransaction isOpen
    | refused handle fault server held => exact numbered
  | committed commits =>
    cases commits with
    | nothing idle => exact numbered
    | done number server bracket => exact numbered.withTransaction false
    | refused number fault server bracket => exact numbered
  | rolledBack rollsBack =>
    cases rollsBack with
    | nothing idle => exact numbered
    | asked number answer server bracket => exact numbered.withTransaction false
  | remembered prepared? catalog => exact numbered
  | redirected descriptor absent engine => exact numbered

theorem Reachable.numbered [Server σ] (reachable : Reachable session) : Numbered session :=
  reachable.invariant (fun _ _ _ _ => nofun) Move.numbered fun _ here => here

theorem Reachable.inside [Server σ] (reachable : Reachable session)
    (bracket : bracketed? session = some connection) : Inside connection session := by
  have held := (bracketed_iff session connection).mp bracket
  exact ⟨held, reachable.numbered _ held⟩

end Session

end SqlGateway
