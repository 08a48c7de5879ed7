import SqlGateway.Proofs.Bindable
import SqlGateway.Proofs.Committed

/-!
What the failure of a call says of the faults behind it. Where every fault is one that the gateway knows, a
fault leaves a call in words of the gateway; it is left bare by a rollback that is asked for directly, and by a
disposal with which a close ends.
-/

namespace SqlGateway

def Failure.own (failure : Failure) : Bool :=
  match failure.kind with
  | .serverFault | .libraryFault | .foreignFault | .absentColumn | .invalidOperation | .noSuchMethod
  | .wrongType => false
  | _ => true

namespace Exchange

def refusesDispose : Exchange → Bool
  | ⟨.dispose, .error _⟩ => true
  | _ => false

def refusesRollback : Exchange → Bool
  | ⟨.rollbackTransaction _, .error _⟩ => true
  | _ => false

end Exchange

def Familiar (exchanges : List Exchange) : Prop :=
  ∀ exchange ∈ exchanges, ∀ fault, exchange.fault? = some fault → fault.recognised = true

def Undisposed (exchanges : List Exchange) : Prop :=
  exchanges.getLast?.any Exchange.refusesDispose = true

def Signals (exchanges : List Exchange) : Prop :=
  ∃ connection answer outcome d, ⟨.execute connection Session.probe.sent, answer⟩ ∈ exchanges ∧
    Session.fetched answer = .ok outcome ∧ Session.firstValue outcome = .decimal d ∧ d.isSignalling = true

theorem Familiar.append {first second : List Exchange} (known : Familiar (first ++ second)) :
    Familiar first ∧ Familiar second := List.forall_mem_append.mp known

theorem undisposed_append {first second : List Exchange} (disposed : ¬ Undisposed first) :
    Undisposed (first ++ second) ↔ Undisposed second := by
  unfold Undisposed at *
  cases second using List.reverseRecOn with
  | nil =>
    rw [List.append_nil]
    exact iff_of_false disposed Bool.false_ne_true
  | append_singleton front last => rw [← List.append_assoc, List.getLast?_concat, List.getLast?_concat]

theorem not_undisposed_of_forall {exchanges : List Exchange}
    (others : ∀ exchange ∈ exchanges, exchange.refusesDispose = false) : ¬ Undisposed exchanges := by
  unfold Undisposed
  cases last : exchanges.getLast? with
  | none => exact Bool.false_ne_true
  | some exchange =>
    rw [Option.any_some, others exchange (List.mem_of_getLast? last)]
    exact Bool.false_ne_true

theorem Signals.append_left {second : List Exchange} (signals : Signals second) (first : List Exchange) :
    Signals (first ++ second) := by
  obtain ⟨connection, answer, outcome, d, member, rest⟩ := signals
  exact ⟨connection, answer, outcome, d, List.mem_append_right first member, rest⟩

theorem Failure.own_fault (fault : Fault) : (Failure.fault fault).own = false := by
  cases fault <;> rfl

theorem Statement.fails_bind (statement : Statement) (name : String) (value : Value) :
    FailsWith (·.own = true) (statement.bind name value) := by
  unfold Statement.bind
  refine FailsWith.bind (fun failure refused => ?_) fun bound => ?_
  · rw [(inferFor_error refused).1]
    rfl
  · split
    · exact fails_ok _
    · exact fails_error rfl

theorem Statement.fails_forQuery (query : String) (params : Params) :
    FailsWith (·.own = true) (Statement.forQuery query params) :=
  Statement.fails_bindEach Statement.fails_bind _ _

namespace Session

variable {σ α β : Type} {session middle final : Session σ} {given : Value → Prop}

/-- What a failure goes back to, if there is one: to the gateway itself, to a disposal that was refused, to a
signalling number, to a row that is held and has no such column, or to a given value that is no name. -/
inductive Accounts (given : Value → Prop) (exchanges : List Exchange) (final : Session σ) : Option Failure → Prop
  | none : ¬ Undisposed exchanges → Accounts given exchanges final none
  | own {failure : Failure} : failure.own = true → ¬ Undisposed exchanges →
      Accounts given exchanges final (some failure)
  | undisposed (fault : Fault) : Undisposed exchanges → Accounts given exchanges final (some (.fault fault))
  | signalled : Signals exchanges → ¬ Undisposed exchanges →
      Accounts given exchanges final (some .invalidOperation)
  | absent {failure : Failure} : Lacks (outcome final).rows failure → ¬ Undisposed exchanges →
      Accounts given exchanges final (some failure)
  | misnamed {failure : Failure} : Misnames given failure → ¬ Undisposed exchanges →
      Accounts given exchanges final (some failure)

def Told (given : Value → Prop) (session : Session σ) (failure? : Option Failure) (final : Session σ) : Prop :=
  ∃ exchanges, final.log = session.log ++ exchanges ∧ (Familiar exchanges → Accounts given exchanges final failure?)

def Strange (session final : Session σ) : Prop :=
  ∃ exchanges, final.log = session.log ++ exchanges ∧ ¬ Familiar exchanges

/-- No disposal was refused last, and the failure is one of the gateway if every fault is known. -/
def Worded (given : Value → Prop) (session : Session σ) (failure : Failure) (final : Session σ) : Prop :=
  Told given session none final ∧ (failure.own = true ∨ Strange session final)

theorem not_undisposed_nil : ¬ Undisposed [] := Bool.false_ne_true

theorem told_silent (log : final.log = session.log) : Told given session none final :=
  ⟨[], log.trans (List.append_nil _).symm, fun _ => .none not_undisposed_nil⟩

theorem told_own {failure : Failure} (own : failure.own = true) : Told given session (some failure) session :=
  ⟨[], (List.append_nil _).symm, fun _ => .own own not_undisposed_nil⟩

theorem told_lacks {failure : Failure} (lacks : Lacks (outcome session).rows failure) :
    Told given session (some failure) session :=
  ⟨[], (List.append_nil _).symm, fun _ => .absent lacks not_undisposed_nil⟩

theorem told_misnames {failure : Failure} (misnames : Misnames given failure) :
    Told given session (some failure) session :=
  ⟨[], (List.append_nil _).symm, fun _ => .misnamed misnames not_undisposed_nil⟩

theorem told_undisposing (adds : Adds (·.refusesDispose = false) session final) : Told given session none final := by
  obtain ⟨exchanges, split, others⟩ := adds
  exact ⟨exchanges, split, fun _ => .none (not_undisposed_of_forall others)⟩

namespace Told

variable {failure? : Option Failure}

theorem trans (first : Told given session none middle) (second : Told given middle failure? final) :
    Told given session failure? final := by
  obtain ⟨before, split, early⟩ := first
  obtain ⟨after, splitLater, late⟩ := second
  refine ⟨before ++ after, by rw [splitLater, split, List.append_assoc], fun known => ?_⟩
  obtain ⟨knownEarly, knownLate⟩ := known.append
  have disposed : ¬ Undisposed before := by
    cases early knownEarly
    assumption
  have same : Undisposed (before ++ after) ↔ Undisposed after := undisposed_append disposed
  cases late knownLate with
  | none others => exact .none (same.not.mpr others)
  | own ours others => exact .own ours (same.not.mpr others)
  | undisposed fault last => exact .undisposed fault (same.mpr last)
  | signalled signals others => exact .signalled (signals.append_left before) (same.not.mpr others)
  | absent lacks others => exact .absent lacks (same.not.mpr others)
  | misnamed misnames others => exact .misnamed misnames (same.not.mpr others)

theorem own (told : Told given session none final) {failure : Failure} (own : failure.own = true) :
    Told given session (some failure) final := told.trans (told_own own)

theorem caught {failure : Failure} (told : Told given session (some failure) final) (own : failure.own = true) :
    Told given session none final := by
  obtain ⟨exchanges, split, accounts⟩ := told
  refine ⟨exchanges, split, fun known => ?_⟩
  cases accounts known with
  | own _ others => exact .none others
  | undisposed fault _ => cases (Failure.own_fault fault).symm.trans own
  | signalled _ _ => cases own
  | absent lacks _ =>
    obtain ⟨name, row, -, -, rfl⟩ := lacks
    cases own
  | misnamed misnames _ => cases misnames <;> cases own

end Told

namespace Strange

theorem told (strange : Strange session final) (failure? : Option Failure) : Told given session failure? final := by
  obtain ⟨exchanges, split, unknown⟩ := strange
  exact ⟨exchanges, split, fun known => absurd known unknown⟩

theorem of_fault {exchanges : List Exchange} (split : final.log = session.log ++ exchanges)
    {exchange : Exchange} (member : exchange ∈ exchanges) {fault : Fault} (raised : exchange.fault? = some fault)
    (unknown : ¬ fault.recognised = true) : Strange session final :=
  ⟨exchanges, split, fun known => unknown (known exchange member fault raised)⟩

theorem early (strange : Strange session middle) (grows : middle.log <+: final.log) :
    Strange session final := by
  obtain ⟨exchanges, split, unknown⟩ := strange
  obtain ⟨later, splitLater⟩ := grows
  exact ⟨exchanges ++ later, by rw [← splitLater, split, List.append_assoc], fun known => unknown known.append.1⟩

theorem late (grows : session.log <+: middle.log) (strange : Strange middle final) :
    Strange session final := by
  obtain ⟨before, split⟩ := grows
  obtain ⟨exchanges, splitLater, unknown⟩ := strange
  exact ⟨before ++ exchanges, by rw [splitLater, ← split, List.append_assoc],
    fun known => unknown known.append.2⟩

end Strange

theorem Worded.told {failure : Failure} (worded : Worded given session failure final) :
    Told given session (some failure) final :=
  worded.2.elim worded.1.own fun strange => strange.told _

abbrev Reported (given : Value → Prop) (session : Session σ) (result : Except Failure α) (final : Session σ) : Prop :=
  Told given session (failureOf result) final

theorem Closes.reported {result : Except Failure Bool} (closes : Closes session result final) :
    Reported given session result final := by
  cases closes with
  | mk server torn =>
    cases torn with
    | nothing _ _ => exact told_silent (by rw [heard_log, List.append_nil]; rfl)
    | disposed answer _ _ =>
      cases answer with
      | ok _ => exact told_undisposing (.one rfl rfl)
      | error fault => exact ⟨_, rfl, fun _ => .undisposed fault rfl⟩
    | closed handle answer _ _ _ => exact told_undisposing (.one rfl rfl)
    | both handle answer disposal _ _ _ =>
      cases disposal with
      | ok _ => exact told_undisposing ⟨_, rfl, by simp [Exchange.refusesDispose]⟩
      | error fault => exact ⟨_, rfl, fun _ => .undisposed fault rfl⟩
    | cut handle fault _ unknown =>
      exact Strange.told (.of_fault rfl List.mem_cons_self rfl unknown) _

theorem Closes.after {failure : Failure} {closed : Except Failure Bool} (worded : Worded given session failure middle)
    (closes : Closes middle closed final) :
    Reported given session (closed.bind fun _ => .error failure : Except Failure Bool) final := by
  have told := worded.1.trans closes.reported
  cases closed with
  | error other => exact told
  | ok _ =>
    rcases worded.2 with own | strange
    · exact told.own own
    · exact (strange.early closes.outer.grows).told _

theorem Ran.undisposing {statement : Statement} {handle : Handle} {exchanges : List Exchange}
    {result : Except Failure Outcome} (ran : Ran statement handle exchanges result) :
    ∀ exchange ∈ exchanges, exchange.refusesDispose = false := by
  cases ran <;> simp [Exchange.refusesDispose]

theorem Ran.fetches {statement : Statement} {handle : Handle} {exchanges : List Exchange}
    {outcome : Outcome} (ran : Ran statement handle exchanges (.ok outcome)) : ∃ answer,
      ⟨.execute handle.connection statement.sent, answer⟩ ∈ exchanges ∧ fetched answer = .ok outcome := by
  generalize same : Except.ok outcome = result at ran
  cases ran with
  | joined answer _ => exact ⟨answer, List.mem_cons_self, rfl⟩
  | committed answer _ fetches =>
    cases same
    exact ⟨answer, List.mem_cons_self, fetches⟩
  | uncommitted _ _ _ _ | failed _ _ _ | undone _ _ _ _ | stuck _ _ _ _ _ => cases same

theorem Runs.undisposing {statement : Statement} {result : Except Failure Outcome}
    (runs : Runs statement session result final) : Told given session none final := by
  cases runs with
  | unconnected _ => exact told_silent rfl
  | mk handle server held ran =>
    exact told_undisposing ⟨_, by rw [heard_log, noting_log], ran.undisposing⟩

theorem Runs.worded {statement : Statement} {failure : Failure}
    (runs : Runs statement session (.error failure) final) {left : Failure}
    (unconnected : failure = .notConnected → left.own = true)
    (known : failure.isRecognisedFault = true → left.own = true) : Worded given session left final := by
  refine ⟨runs.undisposing, ?_⟩
  generalize same : Except.error failure = result at runs
  cases runs with
  | unconnected _ =>
    cases same
    exact .inl (unconnected rfl)
  | mk handle server held ran =>
    cases same
    obtain ⟨fault, rfl, exchange, member, raised⟩ := ran.fault
    by_cases recognised : fault.recognised = true
    · exact .inl (known recognised)
    · exact .inr (.of_fault (by rw [heard_log, noting_log]) member raised recognised)

/-- A probe that says nothing was answered by a signalling number, if every fault is known. -/
theorem Runs.unclear {result : Except Failure Outcome} {failure : Failure}
    (runs : Runs probe session result final) (judged : verdict result = .error failure) :
    Told given session (some failure) final := by
  cases result with
  | ok outcome =>
    obtain ⟨rfl, d, value, signalling⟩ := isOne_error judged
    generalize same : Except.ok outcome = result at runs
    cases runs with
    | unconnected _ => cases same
    | @mk handle exchanges _ server _ ran =>
      cases same
      obtain ⟨answer, member, fetches⟩ := ran.fetches
      exact ⟨exchanges, by rw [heard_log, noting_log],
        fun _ => .signalled ⟨_, answer, outcome, d, member, fetches, value, signalling⟩
          (not_undisposed_of_forall ran.undisposing)⟩
  | error refused =>
    rw [verdict] at judged
    split at judged
    · cases judged
    next unknown =>
    cases judged
    refine (runs.worded (fun absent => ?_) fun known => absurd known unknown).told
    subst absent
    rfl

theorem Checks.reported {result : Except Failure Bool} (checks : Checks session result final) :
    Reported given session result final := by
  cases checks with
  | absent _ => exact told_silent rfl
  | answered handle held runs judged => exact runs.undisposing
  | @dropped handle _ closing _ _ held runs judged closes =>
    have told : Told given session (failureOf closing) final := runs.undisposing.trans closes.reported
    cases closing <;> exact told
  | unclear handle held runs judged => exact runs.unclear judged

theorem Opens.undisposing {result : Except Failure Unit} (opens : Opens session result final) :
    Told given session none final := by
  cases opens with
  | engineless fault server => exact told_undisposing (.one rfl rfl)
  | refused fault server | opened server => exact told_undisposing ⟨_, rfl, by simp [Exchange.refusesDispose]⟩

theorem Opens.worded {failure : Failure} (opens : Opens session (.error failure) final) {left : Failure}
    (known : failure.isRecognisedFault = true → left.own = true) : Worded given session left final := by
  refine ⟨opens.undisposing, ?_⟩
  generalize same : Except.error failure = result at opens
  cases opens with
  | opened _ => cases same
  | engineless fault server =>
    cases same
    by_cases recognised : fault.recognised = true
    · exact .inl (known recognised)
    · exact .inr (.of_fault rfl List.mem_cons_self rfl recognised)
  | refused fault server =>
    cases same
    by_cases recognised : fault.recognised = true
    · exact .inl (known recognised)
    · exact .inr (.of_fault rfl (List.mem_cons_of_mem _ List.mem_cons_self) rfl recognised)

theorem own_refusal (descriptor : Descriptor) {failure : Failure} (known : failure.isRecognisedFault = true) :
    (refusal descriptor failure).own = true := by
  cases failure with
  | fault _ => rfl
  | _ => cases known

theorem Connects.reported {result : Except Failure Bool} (connects : Connects session result final) :
    Reported given session result final := by
  cases connects with
  | healthy checks | unclear checks => exact checks.reported
  | opened checks opens => exact Told.trans checks.reported opens.undisposing
  | unopened checks opens unknown =>
    exact Told.trans checks.reported (opens.worded fun known => absurd known unknown).told
  | refused checks opens known closes =>
    exact Told.trans checks.reported (closes.after (opens.worded (own_refusal _)))

theorem own_reported {failure : Failure} (known : failure.isRecognisedFault = true) :
    (reported failure).own = true := by
  rw [reported, if_pos known]
  cases failure with
  | fault cause => cases cause <;> rfl
  | _ => cases known

theorem Asks.worded {query : String} {params : Params} {failure : Failure}
    (asks : Asks query params session (.error failure) final) : Worded given session failure final := by
  generalize same : Except.error failure = result at asks
  cases asks with
  | done _ _ => cases same
  | unbound prepared refused =>
    cases same
    exact ⟨told_silent rfl, .inl (Statement.fails_forQuery query params _ refused)⟩
  | failed bound runs =>
    cases same
    exact runs.worded (by rintro rfl; rfl) own_reported

theorem Asks.reported {query : String} {params : Params} {result : Except Failure Bool}
    (asks : Asks query params session result final) : Reported given session result final := by
  cases result with
  | error failure => exact asks.worded.told
  | ok answer =>
    generalize same : Except.ok answer = result at asks
    cases asks with
    | unbound _ _ | failed _ _ => cases same
    | done bound runs => exact runs.undisposing.trans (told_silent rfl)

theorem Queries.reported {query : String} {params : Params} {closing : Bool} {result : Except Failure Bool}
    (queries : Queries query params closing session result final) : Reported given session result final := by
  cases queries with
  | blank _ => exact told_own rfl
  | unconnected _ connects => exact connects.reported
  | kept _ connects asks _ => exact Told.trans connects.reported asks.reported
  | @released result closed _ _ _ _ connects asks _ closes =>
    refine Told.trans connects.reported ?_
    cases result with
    | error failure => exact closes.after asks.worded
    | ok answer =>
      have told : Told given _ (failureOf closed) final := Told.trans asks.reported closes.reported
      cases closed <;> exact told

theorem RollsBack.undisposing {result : Except Failure Bool} (rollsBack : RollsBack session result final) :
    Told given session none final := by
  cases rollsBack with
  | nothing _ => exact told_silent rfl
  | asked connection answer server _ => exact told_undisposing (.one rfl rfl)

theorem RollsBack.strange {failure : Failure} (rollsBack : RollsBack session (.error failure) final)
    (unknown : ¬ failure.isRecognisedFault = true) : Strange session final := by
  generalize same : Except.error failure = result at rollsBack
  cases rollsBack with
  | nothing _ => cases same
  | asked connection answer server _ =>
    cases answer with
    | ok _ => cases same
    | error fault =>
      cases same
      exact .of_fault rfl List.mem_cons_self rfl unknown

end Session

end SqlGateway
