import SqlGateway.Proofs.Batch
import SqlGateway.Proofs.Order

/-!
What a statement leaves behind that runs outside an explicit transaction. If its run returns, it is
committed; if its run fails, it is rolled back, unless the fault is of an unknown origin or the server
refused the commit or the rollback. What is left then is committed with the next statement that is
answered on the connection.
-/

namespace SqlGateway

def Exchange.Settling (connection : Nat) : Exchange → Prop
  | ⟨.commit number, .ok _⟩ | ⟨.rollback number, .ok _⟩ | ⟨.close number, _⟩ => number = connection
  | _ => False

def Exchange.Refusing (connection : Nat) : Exchange → Prop
  | ⟨.commit number, .error _⟩ | ⟨.rollback number, .error _⟩ => number = connection
  | _ => False

/-- After a statement nothing but refused attempts went before its end. -/
def Settled (connection : Nat) (rest : List Exchange) : Prop :=
  ∃ tried last others, rest = tried ++ last :: others ∧
    (∀ exchange ∈ tried, exchange.Refusing connection) ∧ last.Settling connection

theorem settled_of_settling {connection : Nat} (last : Exchange) (settles : last.Settling connection)
    (others : List Exchange) : Settled connection (last :: others) :=
  ⟨[], last, others, rfl, fun _ member => absurd member List.not_mem_nil, settles⟩

theorem not_settled_nil (connection : Nat) : ¬ Settled connection [] := by
  rintro ⟨tried, last, others, split, _⟩
  exact List.append_ne_nil_of_right_ne_nil tried (List.cons_ne_nil last others) split.symm

theorem settled_of_refusing {connection : Nat} (first : Exchange) {others : List Exchange}
    (refuses : first.Refusing connection) (open_ : ¬ first.Settling connection) :
    Settled connection (first :: others) ↔ Settled connection others := by
  constructor
  · rintro ⟨tried, last, rest, split, refused, settles⟩
    cases tried with
    | nil =>
      obtain ⟨rfl, _⟩ := List.cons.inj split
      exact absurd settles open_
    | cons head tail =>
      obtain ⟨_, rfl⟩ := List.cons.inj split
      exact ⟨tail, last, rest, rfl, fun exchange member =>
        refused exchange (List.mem_cons_of_mem head member), settles⟩
  · rintro ⟨tried, last, rest, rfl, refused, settles⟩
    exact ⟨first :: tried, last, rest, rfl, List.forall_mem_cons.mpr ⟨refuses, refused⟩, settles⟩

/-- A statement that failed, or a commit that was refused: the connection is left in a transaction that it
began by itself. -/
def Exchange.Leaving (connection : Nat) : Exchange → Prop
  | ⟨.execute number _, answer⟩ =>
    number = connection ∧ ∃ failure, Session.fetched answer = .error failure
  | ⟨.commit number, .error _⟩ => number = connection
  | _ => False

/-- What was left open outside an explicit transaction is committed later exactly if a statement is
answered on that connection later, where neither counts once a rollback was carried out. -/
def LogSettles (log : List Exchange) : Prop :=
  ∀ before exchange later connection, log = before ++ exchange :: later →
    exchange.Leaving connection → ¬ OpenIn connection before →
    (Withheld connection (·.Committing connection) later ↔
      Withheld connection (·.Answered connection) later)

namespace Session

variable {σ : Type} {session middle final : Session σ}

def Known (answer : Except Fault Reply) : Prop :=
  ∃ cause, fetched answer = .error (.fault cause) ∧ cause.recognised = true

inductive Autocommits (statement : Statement) (connection : Nat) :
    List Exchange → Except Failure Outcome → Prop
  | committed (reply : Reply) {outcome : Outcome} : collect reply = .ok outcome →
      Autocommits statement connection [⟨.execute connection statement.sent, .ok reply⟩,
        ⟨.commit connection, .ok ()⟩] (.ok outcome)
  | uncommitted (reply : Reply) {outcome : Outcome} (fault : Fault) : collect reply = .ok outcome →
      Autocommits statement connection [⟨.execute connection statement.sent, .ok reply⟩,
        ⟨.commit connection, .error fault⟩] (.error (.fault fault))
  | cut (answer : Except Fault Reply) {cause : Fault} : fetched answer = .error (.fault cause) →
      cause.recognised = false →
      Autocommits statement connection [⟨.execute connection statement.sent, answer⟩]
        (.error (.fault cause))
  | undone (answer : Except Fault Reply) {cause : Fault} : fetched answer = .error (.fault cause) →
      cause.recognised = true →
      Autocommits statement connection [⟨.execute connection statement.sent, answer⟩,
        ⟨.rollback connection, .ok ()⟩] (.error (.fault cause))
  | stuck (answer : Except Fault Reply) {cause : Fault} (fault : Fault) :
      fetched answer = .error (.fault cause) → cause.recognised = true →
      Autocommits statement connection [⟨.execute connection statement.sent, answer⟩,
        ⟨.rollback connection, .error fault⟩] (.error (.fault fault))

theorem Ran.autocommits {statement : Statement} {connection : Nat} {exchanges : List Exchange}
    {result : Except Failure Outcome} (ran : Ran statement ⟨connection, false⟩ exchanges result)
    (abandons : ∀ failure answer, result = .error failure →
      exchanges = [⟨.execute connection statement.sent, answer⟩] → failure.isRecognisedFault = false) :
    Autocommits statement connection exchanges result := by
  cases ran with
  | joined answer inside => cases inside
  | committed answer _ fetches =>
    obtain ⟨reply, rfl, collected⟩ := collect_of_fetched fetches
    exact .committed reply collected
  | uncommitted answer fault _ fetches =>
    obtain ⟨reply, rfl, collected⟩ := collect_of_fetched fetches
    exact .uncommitted reply fault collected
  | failed answer _ refused =>
    obtain ⟨cause, rfl⟩ := fetched_recognised refused
    exact .cut answer refused (abandons _ answer rfl rfl)
  | undone answer _ refused known =>
    obtain ⟨cause, rfl⟩ := fetched_recognised refused
    exact .undone answer refused known
  | stuck answer fault _ refused known =>
    obtain ⟨cause, rfl⟩ := fetched_recognised refused
    exact .stuck answer fault refused known

/-- Nothing went wrong at a statement, or at its commit or rollback, that the gateway does not know. -/
def Foreseen (connection : Nat) (answer : Except Fault Reply) (rest : List Exchange) : Prop :=
  ∀ cause : Fault, cause.recognised = false → fetched answer ≠ .error (.fault cause) ∧
    ⟨.commit connection, .error cause⟩ ∉ rest ∧ ⟨.rollback connection, .error cause⟩ ∉ rest

theorem foreseen_cons {connection : Nat} {answer : Except Fault Reply} {torn : List Exchange}
    (quiet : ∀ fault, ⟨.commit connection, .error fault⟩ ∉ torn ∧
      ⟨.rollback connection, .error fault⟩ ∉ torn)
    (known : ∀ cause : Fault, fetched answer = .error (.fault cause) → cause.recognised = true)
    (first : Exchange) :
    Foreseen connection answer (first :: torn) ↔ ∀ cause : Fault, cause.recognised = false →
      ⟨.commit connection, .error cause⟩ ≠ first ∧ ⟨.rollback connection, .error cause⟩ ≠ first := by
  have answers (cause : Fault) (unknown : cause.recognised = false) :
      fetched answer ≠ .error (.fault cause) := fun same => nomatch unknown.symm.trans (known cause same)
  simp only [Foreseen, List.mem_cons, not_or, quiet, not_false_eq_true, and_true, ne_eq]
  exact forall_congr' fun cause => forall_congr' fun unknown => and_iff_right (answers cause unknown)

theorem foreseen_refused {connection : Nat} {answer : Except Fault Reply} {torn : List Exchange}
    (quiet : ∀ fault, ⟨.commit connection, .error fault⟩ ∉ torn ∧
      ⟨.rollback connection, .error fault⟩ ∉ torn)
    (known : ∀ cause : Fault, fetched answer = .error (.fault cause) → cause.recognised = true)
    {first : Exchange} {fault : Fault} (refuses : first = ⟨.commit connection, .error fault⟩ ∨
      first = ⟨.rollback connection, .error fault⟩) :
    Foreseen connection answer (first :: torn) ↔ fault.recognised = true := by
  rw [foreseen_cons quiet known]
  constructor
  · intro foreseen
    by_contra unknown
    obtain ⟨commits, undoes⟩ := foreseen fault (eq_false_of_ne_true unknown)
    rcases refuses with rfl | rfl
    · exact commits rfl
    · exact undoes rfl
  · intro recognised cause unknown
    have apart : cause ≠ fault := by
      rintro rfl
      cases unknown.symm.trans recognised
    rcases refuses with rfl | rfl
    · exact ⟨fun same => apart (by cases same; rfl), nofun⟩
    · exact ⟨nofun, fun same => apart (by cases same; rfl)⟩

theorem Judges.torn {judged answered : Except Failure Bool} {connection : Nat}
    (judges : Judges middle judged answered final)
    (here : middle.handle? = some ⟨connection, false⟩) :
    ∃ torn, final.log = middle.log ++ torn ∧
      (∀ fault, ⟨.commit connection, .error fault⟩ ∉ torn ∧
        ⟨.rollback connection, .error fault⟩ ∉ torn) ∧
      (judged = .ok false → Settled connection torn) ∧
      ∀ failure, judged = .error failure → torn = [] := by
  cases judges with
  | answered => exact ⟨[], (List.append_nil _).symm, by simp, nofun, nofun⟩
  | unclear => exact ⟨[], (List.append_nil _).symm, by simp, nofun, fun _ _ => rfl⟩
  | dropped closes =>
    cases closes with
    | mk server torn =>
      refine ⟨_, rfl, ?_, fun _ => ?_, nofun⟩
      · cases torn <;> simp
      · cases torn with
        | nothing absent _ | disposed _ absent _ => cases here.symm.trans absent
        | closed handle answer held _ _ | both handle answer _ held _ _ =>
          obtain rfl := Option.some.inj (held.symm.trans here)
          exact settled_of_settling ⟨.close connection, answer⟩ rfl _
        | cut handle fault held _ =>
          obtain rfl := Option.some.inj (held.symm.trans here)
          exact settled_of_settling ⟨.close connection, .error fault⟩ rfl _

/-- After a fault of its probe a connection is closed exactly if the fault is a known one. -/
theorem Judges.settled_iff {fault : Fault} {answered : Except Failure Bool} {connection : Nat}
    (judges : Judges middle (verdict (.error (.fault fault))) answered final)
    (here : middle.handle? = some ⟨connection, false⟩) :
    ∃ torn, final.log = middle.log ++ torn ∧
      (∀ fault, ⟨.commit connection, .error fault⟩ ∉ torn ∧
        ⟨.rollback connection, .error fault⟩ ∉ torn) ∧
      (Settled connection torn ↔ fault.recognised = true) := by
  obtain ⟨torn, split, quiet, closes, stops⟩ := judges.torn here
  refine ⟨torn, split, quiet, ?_⟩
  by_cases known : fault.recognised = true
  · exact iff_of_true (closes (if_pos known)) known
  · obtain rfl := stops (.fault fault) (if_neg known)
    exact iff_of_false (not_settled_nil connection) known

variable [Server σ]

def Autobegins (statement : Statement) (connection : Nat) (session : Session σ) : Prop :=
  Server.inTransaction connection
    (Server.respond (.execute connection statement.sent) session.server).2 = true

/-- A run that returns has committed its statement, and one that fails has rolled it back exactly if the
statement itself failed, with a known fault, and the rollback was not refused. Nothing else is asked. -/
def RunSettles (statement : Statement) (connection : Nat) (session : Session σ) : Prop :=
  Ends (run statement) session
    (fun _ final => ∃ reply, final.log = session.log ++
      [⟨.execute connection statement.sent, .ok reply⟩, ⟨.commit connection, .ok ()⟩])
    fun _ final => ∃ answer rest,
      final.log = session.log ++ ⟨.execute connection statement.sent, answer⟩ :: rest ∧
      (rest = [⟨.rollback connection, .ok ()⟩] ↔
        Known answer ∧ ∀ fault, ⟨.rollback connection, .error fault⟩ ∉ rest)

/-- A probe is settled when the check ends, if need be by closing its connection, exactly if every fault
on the way was a known one. -/
def CheckSettles (connection : Nat) (session : Session σ) : Prop :=
  ∃ answer rest, (after checkConnection session).log =
      session.log ++ ⟨.execute connection probe.sent, answer⟩ :: rest ∧
    (Settled connection rest ↔ Foreseen connection answer rest)

theorem abandon_undoes {connection : Nat} (here : session.handle? = some ⟨connection, false⟩)
    (begun : Server.inTransaction connection session.server = true) :
    Ends (abandon connection) session
      (fun _ final => ∃ answer, final.log = session.log ++ [⟨.rollback connection, answer⟩])
      fun _ final => ∃ answer, final.log = session.log ++ [⟨.rollback connection, answer⟩] := by
  have outside : session.inTransaction = false := by
    rw [inTransaction, here]
    rfl
  simp only [abandon, ends_bind, ends_get, outside, begun, Bool.not_false, Bool.true_and, if_true]
  exact ends_perform _ (fun _ _ => ⟨_, rfl⟩) fun _ _ => ⟨_, rfl⟩

theorem run_abandons {statement : Statement} {connection : Nat}
    (here : session.handle? = some ⟨connection, false⟩)
    (begins : Autobegins statement connection session) :
    Ends (run statement) session (fun _ _ => True) fun failure final =>
      failure.isRecognisedFault = true → ∃ answer exchange, final.log =
        session.log ++ [⟨.execute connection statement.sent, answer⟩] ++ [exchange] := by
  rw [run, ends_bind, held, ends_bind, ends_get, here]
  dsimp only
  rw [ends_pure, ends_bind, ends_onFault]
  refine ends_mono (execution_meets connection statement.sent session) ?_ ?_
  · rintro outcome _ ⟨answer, collected, rfl⟩
    have outside : (session.heard [⟨.execute connection statement.sent, answer⟩] (Server.respond
        (.execute connection statement.sent) session.server).2).inTransaction = false := by
      rw [inTransaction, heard_handle, here]
      rfl
    rw [ends_bind, ends_get, outside, if_neg Bool.false_ne_true, ends_bind]
    refine ends_perform _ (fun _ _ => ?_) fun fault server _ => ⟨answer, _, rfl⟩
    rw [ends_bind, ends_noteInsertId, ends_pure]
    trivial
  · rintro failure _ ⟨answer, refused, rfl⟩
    split
    · rw [ends_bind]
      refine ends_mono (abandon_undoes here begins) ?_ ?_
      · rintro _ final ⟨undone, split⟩
        rw [ends_throw]
        exact fun _ => ⟨answer, _, split⟩
      · rintro _ final ⟨undone, split⟩ _
        exact ⟨answer, _, split⟩
    · rename_i unknown
      exact fun known => absurd known unknown

theorem run_autocommits {statement : Statement} {connection : Nat}
    (here : session.handle? = some ⟨connection, false⟩)
    (begins : Autobegins statement connection session) :
    Meets (run statement) session fun result final => ∃ exchanges,
      Autocommits statement connection exchanges result ∧ final.log = session.log ++ exchanges ∧
        final.handle? = some ⟨connection, false⟩ := by
  have autocommits {result : Except Failure Outcome} {final : Session σ}
      (runs : Runs statement session result final)
      (abandons : ∀ failure, result = .error failure → failure.isRecognisedFault = true →
        ∃ answer exchange, final.log =
          session.log ++ [⟨.execute connection statement.sent, answer⟩] ++ [exchange]) :
      ∃ exchanges, Autocommits statement connection exchanges result ∧
        final.log = session.log ++ exchanges ∧ final.handle? = some ⟨connection, false⟩ := by
    have kept := runs.handle.trans here
    cases runs with
    | unconnected absent => cases here.symm.trans absent
    | @mk handle exchanges result server same ran =>
      obtain rfl := Option.some.inj (same.symm.trans here)
      rw [heard_log, noting_log] at abandons ⊢
      refine ⟨exchanges, ran.autocommits fun failure answer fails alone => ?_, rfl, kept⟩
      by_contra known
      obtain ⟨other, exchange, split⟩ := abandons failure fails (eq_true_of_ne_false known)
      rw [List.append_assoc] at split
      cases alone.symm.trans (List.append_cancel_left split)
  exact ends_mono ((run_meets statement session).and (run_abandons here begins))
    (fun _ _ both => autocommits both.1 fun _ => nofun)
    fun _ _ both => autocommits both.1 fun _ same => Except.error.inj same ▸ both.2

theorem run_settles {statement : Statement} {connection : Nat}
    (here : session.handle? = some ⟨connection, false⟩)
    (begins : Autobegins statement connection session) : RunSettles statement connection session := by
  refine ends_mono (run_autocommits here begins) ?_ ?_
  · rintro outcome final ⟨exchanges, autocommits, split, _⟩
    cases autocommits with
    | committed reply _ => exact ⟨reply, split⟩
  · rintro failure final ⟨exchanges, autocommits, split, _⟩
    cases autocommits with
    | uncommitted reply fault collected =>
      refine ⟨_, _, split, iff_of_false nofun ?_⟩
      rintro ⟨⟨cause, refused, _⟩, _⟩
      cases collected.symm.trans refused
    | cut answer refused unknown =>
      refine ⟨_, _, split, iff_of_false nofun ?_⟩
      rintro ⟨⟨cause, same, known⟩, _⟩
      cases same.symm.trans refused
      cases unknown.symm.trans known
    | undone answer refused known =>
      exact ⟨_, _, split, iff_of_true rfl ⟨⟨_, refused, known⟩, by simp⟩⟩
    | stuck answer fault refused known =>
      refine ⟨_, _, split, iff_of_false (by simp) fun both => ?_⟩
      exact both.2 fault (List.mem_singleton_self _)

theorem check_settles {connection : Nat} (here : session.handle? = some ⟨connection, false⟩)
    (begins : Autobegins probe connection session) : CheckSettles connection session := by
  have settles {answered : Except Failure Bool} {final : Session σ} (ended : ∃ result middle,
      (∃ exchanges, Autocommits probe connection exchanges result ∧
        middle.log = session.log ++ exchanges ∧ middle.handle? = some ⟨connection, false⟩) ∧
      Judges middle (verdict result) answered final) :
      ∃ answer rest, final.log = session.log ++ ⟨.execute connection probe.sent, answer⟩ :: rest ∧
        (Settled connection rest ↔ Foreseen connection answer rest) := by
    obtain ⟨result, middle, ⟨exchanges, autocommits, split, kept⟩, judges⟩ := ended
    have answered {reply : Reply} {outcome : Outcome} (collected : collect reply = .ok outcome)
        (cause : Fault) (refused : fetched (.ok reply) = .error (.fault cause)) :
        cause.recognised = true := nomatch collected.symm.trans refused
    have failed {answer : Except Fault Reply} {cause : Fault} (known : cause.recognised = true)
        (refused : fetched answer = .error (.fault cause)) (other : Fault)
        (same : fetched answer = .error (.fault other)) : other.recognised = true := by
      cases same.symm.trans refused
      exact known
    cases autocommits with
    | committed reply collected =>
      obtain ⟨torn, splitFinal, quiet, _⟩ := judges.torn kept
      rw [split, List.append_assoc, List.cons_append, List.singleton_append] at splitFinal
      refine ⟨.ok reply, _, splitFinal, ?_⟩
      rw [foreseen_cons quiet (answered collected)]
      exact iff_of_true (settled_of_settling ⟨.commit connection, .ok ()⟩ rfl torn)
        fun cause unknown => ⟨nofun, nofun⟩
    | uncommitted reply fault collected =>
      obtain ⟨torn, splitFinal, quiet, settled⟩ := judges.settled_iff kept
      rw [split, List.append_assoc, List.cons_append, List.singleton_append] at splitFinal
      refine ⟨.ok reply, _, splitFinal, ?_⟩
      rw [settled_of_refusing ⟨.commit connection, .error fault⟩ rfl id, settled,
        foreseen_refused quiet (answered collected) (.inl rfl)]
    | cut answer refused unknown =>
      obtain ⟨torn, splitFinal, quiet, settled⟩ := judges.settled_iff kept
      rw [split, List.append_assoc, List.singleton_append] at splitFinal
      refine ⟨answer, torn, splitFinal, ?_⟩
      rw [settled, unknown]
      refine iff_of_false Bool.false_ne_true fun foreseen => ?_
      exact (foreseen _ unknown).1 refused
    | undone answer refused known =>
      obtain ⟨torn, splitFinal, quiet, _⟩ := judges.torn kept
      rw [split, List.append_assoc, List.cons_append, List.singleton_append] at splitFinal
      refine ⟨answer, _, splitFinal, ?_⟩
      rw [foreseen_cons quiet (failed known refused)]
      exact iff_of_true (settled_of_settling ⟨.rollback connection, .ok ()⟩ rfl torn)
        fun cause unknown => ⟨nofun, nofun⟩
    | stuck answer fault refused known =>
      obtain ⟨torn, splitFinal, quiet, settled⟩ := judges.settled_iff kept
      rw [split, List.append_assoc, List.cons_append, List.singleton_append] at splitFinal
      refine ⟨answer, _, splitFinal, ?_⟩
      rw [settled_of_refusing ⟨.rollback connection, .error fault⟩ rfl id, settled,
        foreseen_refused quiet (failed known refused) (.inr rfl)]
  exact ends_after (ends_mono (judges_meets here (run_autocommits here begins)) (fun _ _ => settles)
    fun _ _ => settles)

theorem Reachable.atRest_of_leaving (reachable : Reachable session) {connection : Nat}
    {before later : List Exchange} {exchange : Exchange}
    (split : session.log = before ++ exchange :: later) (leaves : exchange.Leaving connection)
    (outside : ¬ OpenIn connection before) : AtRest connection (before ++ [exchange]) := by
  have timely := reachable.timely before exchange later split
  obtain ⟨event, answer⟩ := exchange
  cases event with
  | execute number sent =>
    obtain ⟨rfl, failure, refused⟩ := leaves
    exact atRest_snoc timely.1 (absurd · outside) nofun ⟨not_answered refused, nofun, nofun⟩
  | commit number =>
    cases answer with
    | ok done => exact leaves.elim
    | error fault =>
      obtain rfl : number = connection := leaves
      exact atRest_snoc timely.1 (absurd · outside) nofun ⟨id, nofun, nofun⟩
  | createEngine _ | connect _ | begin _ | commitTransaction _ | rollbackTransaction _ | rollback _
  | close _ | dispose => exact leaves.elim

theorem Reachable.logSettles (reachable : Reachable session) : LogSettles session.log := by
  intro before exchange later connection split leaves outside
  have rest := reachable.atRest_of_leaving split leaves outside
  have ordered := reachable.wellOrdered.ordered
  have timely := reachable.timely
  rw [split, ← List.singleton_append, ← List.append_assoc] at ordered timely
  exact rest.withheld_iff ordered timely

/-- Outside an explicit transaction a statement is committed if its run returns. If its run fails, it is
undone exactly if it failed by itself, with a known fault, and the server did not refuse to undo it; a
probe is undone unless a fault is an unknown one. What is left is committed with the next statement that
is answered on the connection. -/
theorem autocommit_settles (session : Session σ) :
    (∀ connection, session.handle? = some ⟨connection, false⟩ →
      (∀ statement, Autobegins statement connection session →
        RunSettles statement connection session) ∧
      (Autobegins probe connection session → CheckSettles connection session)) ∧
    (Reachable session → LogSettles session.log) :=
  ⟨fun _ here => ⟨fun _ => run_settles here, check_settles here⟩, Reachable.logSettles⟩

def uncommitted : Session Script :=
  after (Call.queryExecute "UPDATE t SET a = 1" [] false).run
    { rehearsed with server := rehearsed.server.change (.fault .commit (some Script.goneAway)) }

theorem uncommitted_reachable : Reachable uncommitted :=
  .called (.queryExecute "UPDATE t SET a = 1" [] false) (.elsewhere _ rehearsed_reachable)

def resumed : Session Script :=
  after Call.connect.run
    { uncommitted with server := uncommitted.server.change (.fault .commit none) }

theorem resumed_settles :
    RunSettles (.ofText "UPDATE t SET a = 1") 0 resumed ∧ CheckSettles 0 resumed ∧
      LogSettles resumed.log := by
  have held : resumed.handle? = some ⟨0, false⟩ := by decide +kernel
  have begins : Autobegins (.ofText "UPDATE t SET a = 1") 0 resumed := by
    unfold Autobegins
    decide +kernel
  have probing : Autobegins probe 0 resumed := by
    unfold Autobegins
    decide +kernel
  obtain ⟨runs, settles⟩ := autocommit_settles resumed
  refine ⟨(runs 0 held).1 _ begins, (runs 0 held).2 probing, settles ?_⟩
  exact .called .connect (.elsewhere _ uncommitted_reachable)

/-- An update that is not committed is not undone either, and the probe of the next call commits it. -/
theorem uncommitted_resumed :
    Reachable uncommitted ∧
      returns (Call.queryExecute "UPDATE t SET a = 1" [] false).run
        { rehearsed with server := rehearsed.server.change (.fault .commit (some Script.goneAway)) } =
          false ∧
      uncommitted.handle? = some ⟨0, false⟩ ∧ (∀ exchange ∈ uncommitted.log, ¬ exchange.Undoing 0) ∧
      ¬ Withheld 0 (·.Committing 0) (resumed.log.drop uncommitted.log.length) :=
  ⟨uncommitted_reachable, by decide +kernel, by decide +kernel, by decide +kernel, by decide +kernel⟩

end Session

end SqlGateway
