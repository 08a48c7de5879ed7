import SqlGateway.Proofs.Committed
import SqlGateway.Proofs.Dropping

/-!
What connecting and checking yield. A session that has connected holds the connection that it held, which has
just answered the probe by one, or a connection that was opened last of all; where it could not connect it
holds nothing, and the engine that it created on the way is disposed of.
-/

namespace SqlGateway

namespace Exchange

def executes : Exchange → Bool
  | ⟨.execute _ _, _⟩ => true
  | _ => false

def creates : Exchange → Bool
  | ⟨.createEngine _, _⟩ => true
  | _ => false

def connects : Exchange → Bool
  | ⟨.connect _, _⟩ => true
  | _ => false

/-- A request that fails with a fault which is not dealt with on the way to a connection: any of a disposal,
and else one that is not recognised. Nothing of the kind is said of a request to begin. -/
def slips : Exchange → Bool
  | ⟨.begin _, _⟩ => false
  | ⟨.dispose, .error _⟩ => true
  | exchange => exchange.fault?.any fun fault => !fault.recognised

def works : Exchange → Bool
  | ⟨.execute _ _, _⟩ | ⟨.commit _, _⟩ => true
  | _ => false

end Exchange

structure Sparing (statements openings : Nat) (exchanges : List Exchange) : Prop where
  statements : exchanges.countP Exchange.executes ≤ statements
  engines : exchanges.countP Exchange.creates ≤ openings
  connections : exchanges.countP Exchange.connects ≤ openings

theorem Sparing.nil (statements openings : Nat) : Sparing statements openings [] :=
  ⟨Nat.zero_le _, Nat.zero_le _, Nat.zero_le _⟩

theorem Sparing.append {statements openings others furthers : Nat} {first second : List Exchange}
    (early : Sparing statements openings first) (late : Sparing others furthers second) :
    Sparing (statements + others) (openings + furthers) (first ++ second) where
  statements := by
    rw [List.countP_append]
    exact Nat.add_le_add early.statements late.statements
  engines := by
    rw [List.countP_append]
    exact Nat.add_le_add early.engines late.engines
  connections := by
    rw [List.countP_append]
    exact Nat.add_le_add early.connections late.connections

/-- An engine was asked for, and if it was created it was disposed of after that. -/
def Reclaimed (exchanges : List Exchange) : Prop :=
  ∃ before options answer later, exchanges = before ++ ⟨.createEngine options, answer⟩ :: later ∧
    (answer = .ok () → ⟨.dispose, .ok ()⟩ ∈ later)

def Quiet (exchanges : List Exchange) : Prop :=
  ∃ before last, exchanges = before ++ [last] ∧ last.slips = false ∧ last.works = false

theorem Reclaimed.append_left {exchanges : List Exchange} (reclaimed : Reclaimed exchanges)
    (first : List Exchange) : Reclaimed (first ++ exchanges) := by
  obtain ⟨before, options, answer, later, rfl, disposed⟩ := reclaimed
  exact ⟨first ++ before, options, answer, later, (List.append_assoc _ _ _).symm, disposed⟩

theorem Quiet.append_left {exchanges : List Exchange} (quiet : Quiet exchanges) (first : List Exchange) :
    Quiet (first ++ exchanges) := by
  obtain ⟨before, last, rfl, rest⟩ := quiet
  exact ⟨first ++ before, last, (List.append_assoc _ _ _).symm, rest⟩

namespace Session

variable {σ : Type} {session middle final : Session σ}

def probed (handle : Handle) (reply : Reply) : List Exchange :=
  ⟨.execute handle.connection probe.sent, .ok reply⟩ ::
    (if handle.inTransaction then [] else [⟨.commit handle.connection, .ok ()⟩])

/-- The connection that is held has answered the probe by one. Nothing else was asked, but for the commit of
the probe where no transaction is open. -/
structure Healthy (session final : Session σ) (exchanges : List Exchange) : Prop where
  handle : final.handle? = session.handle?
  engine : final.engine = session.engine
  answered : ∃ handle reply outcome, session.handle? = some handle ∧
    exchanges = probed handle reply ∧ collect reply = .ok outcome ∧ isOne (firstValue outcome) = .ok true

/-- A connection was opened last of all, on an engine of its own, and is held outside a transaction. -/
structure Renewed (session final : Session σ) (exchanges : List Exchange) : Prop where
  handle : final.handle? = some ⟨session.opened, false⟩
  engine : final.engine = true
  opened : ∃ before options, exchanges = before ++
    [⟨.createEngine options, .ok ()⟩, ⟨.connect session.opened, .ok ()⟩]

structure Dropped (session final : Session σ) (exchanges : List Exchange) : Prop where
  handle : final.handle? = none
  closed : ∀ handle, session.handle? = some handle → ∃ answer, ⟨.close handle.connection, answer⟩ ∈ exchanges

/-- The failure is the fault of the last request, which slips, or the probe was answered by a signalling
number. -/
inductive Slips : List Exchange → Failure → Prop
  | raised (before : List Exchange) {exchange : Exchange} {fault : Fault} : exchange.slips = true →
      exchange.fault? = some fault → Slips (before ++ [exchange]) (.fault fault)
  | signalled (before : List Exchange) (handle : Handle) {reply : Reply} {outcome : Outcome} :
      collect reply = .ok outcome → isOne (firstValue outcome) = .error .invalidOperation →
      Slips (before ++ probed handle reply) .invalidOperation

theorem Slips.append {exchanges : List Exchange} {failure : Failure} (slips : Slips exchanges failure)
    (before : List Exchange) : Slips (before ++ exchanges) failure := by
  cases slips with
  | raised front slips raised =>
    rw [← List.append_assoc]
    exact .raised _ slips raised
  | signalled front handle collected signals =>
    rw [← List.append_assoc]
    exact .signalled _ handle collected signals

theorem Slips.kind_ne {exchanges : List Exchange} {failure : Failure} (slips : Slips exchanges failure) :
    failure.kind ≠ .connection := by
  cases slips with
  | @raised _ _ fault _ _ => cases fault <;> nofun
  | signalled _ _ _ _ => nofun

theorem slips_concat {before : List Exchange} {last : Exchange} {failure : Failure}
    (slips : Slips (before ++ [last]) failure) : last.slips = true ∧ last.fault?.isSome = true ∨
      ∃ connection reply outcome, collect reply = .ok outcome ∧
        isOne (firstValue outcome) = .error .invalidOperation ∧
        (last = ⟨.execute connection probe.sent, .ok reply⟩ ∨ last = ⟨.commit connection, .ok ()⟩) := by
  generalize same : before ++ [last] = exchanges at slips
  cases slips with
  | raised front slips raised =>
    obtain rfl := List.singleton_inj.mp (List.append_inj' same rfl).2
    exact .inl ⟨slips, by rw [raised, Option.isSome_some]⟩
  | signalled front handle collected signals =>
    refine .inr ⟨handle.connection, _, _, collected, signals, ?_⟩
    unfold probed at same
    split at same
    · exact .inl (List.singleton_inj.mp (List.append_inj' same rfl).2)
    · rw [List.append_cons front] at same
      exact .inr (List.singleton_inj.mp (List.append_inj' same rfl).2)

theorem not_slips_of_quiet {exchanges : List Exchange} (quiet : Quiet exchanges) (failure : Failure) :
    ¬ Slips exchanges failure := by
  obtain ⟨before, last, rfl, unslipping, idle⟩ := quiet
  intro slips
  rcases slips_concat slips with ⟨slips, -⟩ | ⟨_, _, _, -, -, rfl | rfl⟩
  · cases unslipping.symm.trans slips
  · cases idle
  · cases idle

theorem slips_of_cutShort {exchanges : List Exchange} {failure : Failure} (cut : CutShort exchanges failure) :
    Slips exchanges failure := by
  cases cut with
  | @closing before connection fault unknown =>
    refine .raised before ?_ rfl
    simp [Exchange.slips, Exchange.fault?, unknown]
  | disposing before fault => exact .raised before rfl rfl

theorem Teardown.sparing {exchanges : List Exchange} {result : Except Failure Bool}
    (torn : Teardown session exchanges result) : Sparing 0 0 exchanges := by
  cases torn <;> exact ⟨Nat.le_refl 0, Nat.le_refl 0, Nat.le_refl 0⟩

theorem Teardown.close_mem {handle : Handle} {exchanges : List Exchange} {result : Except Failure Bool}
    (torn : Teardown session exchanges result) (held : session.handle? = some handle) :
    ∃ answer, ⟨.close handle.connection, answer⟩ ∈ exchanges := by
  cases torn with
  | nothing absent _ | disposed _ absent _ => cases held.symm.trans absent
  | closed other answer same _ _ | both other answer _ same _ _ =>
    obtain rfl := Option.some.inj (same.symm.trans held)
    exact ⟨answer, List.mem_cons_self⟩
  | cut other fault same _ =>
    obtain rfl := Option.some.inj (same.symm.trans held)
    exact ⟨.error fault, List.mem_cons_self⟩

theorem Teardown.of_absent {exchanges : List Exchange} {answer : Bool}
    (torn : Teardown session exchanges (.ok answer)) (absent : session.handle? = none) :
    exchanges = if session.engine then [⟨.dispose, .ok ()⟩] else [] := by
  generalize same : Except.ok answer = result at torn
  cases torn with
  | nothing _ engine => rw [engine, if_neg Bool.false_ne_true]
  | closed _ _ held _ _ | both _ _ _ held _ _ | cut _ _ held _ => cases held.symm.trans absent
  | disposed disposal _ engine =>
    cases disposal with
    | ok _ => rw [engine, if_pos rfl]
    | error _ => cases same

theorem Ran.sparing {statement : Statement} {handle : Handle} {exchanges : List Exchange}
    {result : Except Failure Outcome} (ran : Ran statement handle exchanges result) :
    Sparing 1 0 exchanges := by
  cases ran <;> exact ⟨Nat.le_refl 1, Nat.le_refl 0, Nat.le_refl 0⟩

theorem Runs.sparing {statement : Statement} {result : Except Failure Outcome}
    (runs : Runs statement session result final) :
    ∃ exchanges, final.log = session.log ++ exchanges ∧ Sparing 1 0 exchanges := by
  cases runs with
  | unconnected _ => exact ⟨[], (List.append_nil _).symm, .nil 1 0⟩
  | mk handle server held ran => exact ⟨_, by rw [heard_log, noting_log], ran.sparing⟩

theorem Runs.engine {statement : Statement} {result : Except Failure Outcome}
    (runs : Runs statement session result final) : final.engine = session.engine := by
  cases runs with
  | unconnected _ => rfl
  | mk _ _ _ _ => cases result <;> rfl

theorem Ran.returned {handle : Handle} {exchanges : List Exchange} {outcome : Outcome}
    (ran : Ran probe handle exchanges (.ok outcome)) :
    ∃ reply, collect reply = .ok outcome ∧ exchanges = probed handle reply := by
  generalize same : Except.ok outcome = result at ran
  cases ran with
  | joined answer inside =>
    obtain ⟨reply, rfl, collected⟩ := collect_of_fetched same.symm
    exact ⟨reply, collected.trans same, by rw [probed, inside, if_pos rfl]⟩
  | committed answer outside fetches =>
    cases same
    obtain ⟨reply, rfl, collected⟩ := collect_of_fetched fetches
    exact ⟨reply, collected, by rw [probed, outside, if_neg Bool.false_ne_true]⟩
  | uncommitted _ _ _ _ | failed _ _ _ | undone _ _ _ _ | stuck _ _ _ _ _ => cases same

theorem Checks.healthy (checks : Checks session (.ok true) final) :
    ∃ exchanges, final.log = session.log ++ exchanges ∧ Healthy session final exchanges := by
  generalize same : Except.ok true = answer at checks
  cases checks with
  | absent _ => cases same
  | unclear _ _ _ _ => cases same
  | @dropped _ _ closing _ _ _ _ _ _ => cases closing <;> cases same
  | @answered handle result _ held runs judged =>
    cases result with
    | error failure =>
      rw [verdict] at judged
      split at judged <;> cases judged
    | ok outcome =>
      have kept := runs.handle
      have engine := runs.engine
      generalize returned : Except.ok outcome = result at runs
      cases runs with
      | unconnected _ => cases returned
      | @mk other exchanges _ server here ran =>
        obtain rfl := Option.some.inj (here.symm.trans held)
        cases returned
        obtain ⟨reply, collected, asked⟩ := ran.returned
        exact ⟨exchanges, by rw [heard_log, noting_log], kept, engine, other, reply, outcome, held, asked,
          collected, judged⟩

theorem Checks.dropped_of_false (checks : Checks session (.ok false) final) :
    ∃ exchanges, final.log = session.log ++ exchanges ∧ Dropped session final exchanges := by
  have gone := checks.handle_of_false
  generalize same : Except.ok false = answer at checks
  cases checks with
  | answered _ _ _ _ | unclear _ _ _ _ => cases same
  | absent absent =>
    refine ⟨[], (List.append_nil _).symm, gone, fun handle held => ?_⟩
    cases held.symm.trans absent
  | dropped handle held runs judged closes =>
    obtain ⟨ran, split, -⟩ := runs.within.adds
    have kept := runs.handle
    cases closes with
    | @mk torn _ server tears =>
      refine ⟨ran ++ torn, ?_, gone, fun other here => ?_⟩
      · rw [heard_log, letGo, split, List.append_assoc]
      · obtain ⟨answer, member⟩ := tears.close_mem (kept.trans here)
        exact ⟨answer, List.mem_append_right ran member⟩

theorem Checks.sparing {result : Except Failure Bool} (checks : Checks session result final) :
    ∃ exchanges, final.log = session.log ++ exchanges ∧ Sparing 1 0 exchanges := by
  cases checks with
  | absent _ => exact ⟨[], (List.append_nil _).symm, .nil 1 0⟩
  | answered _ _ runs _ | unclear _ _ runs _ => exact runs.sparing
  | dropped _ _ runs _ closes =>
    obtain ⟨ran, split, few⟩ := runs.sparing
    cases closes with
    | @mk torn _ server tears =>
      exact ⟨ran ++ torn, by rw [heard_log, letGo, split, List.append_assoc], few.append tears.sparing⟩

theorem Checks.opened {result : Except Failure Bool} (checks : Checks session result final) :
    final.opened = session.opened := by
  cases checks with
  | absent _ => rfl
  | answered _ _ runs _ | unclear _ _ runs _ => exact runs.opened
  | dropped _ _ runs _ closes => exact closes.opened.trans runs.opened

theorem Ran.slips {statement : Statement} {handle : Handle} {exchanges : List Exchange}
    {failure : Failure} (ran : Ran statement handle exchanges (.error failure))
    (unknown : ¬ failure.isRecognisedFault = true) : Slips exchanges failure := by
  have raised {answer : Except Fault Reply} (refused : fetched answer = .error failure) :
      Slips [⟨.execute handle.connection statement.sent, answer⟩] failure := by
    obtain ⟨fault, rfl⟩ := fetched_recognised refused
    have here : Exchange.fault? ⟨.execute handle.connection statement.sent, answer⟩ = some fault := by
      simp [Exchange.fault?, refused]
    refine .raised [] ?_ here
    change (Exchange.fault? _).any _ = true
    rw [here]
    simpa [Failure.isRecognisedFault] using unknown
  have last {first exchange : Exchange} {fault : Fault} (same : failure = .fault fault)
      (slips : exchange.slips = !fault.recognised) (here : exchange.fault? = some fault) :
      Slips [first, exchange] failure := by
    subst same
    refine .raised [first] ?_ here
    rw [slips]
    simpa [Failure.isRecognisedFault] using unknown
  generalize same : Except.error failure = result at ran
  cases ran with
  | joined answer _ => exact raised same.symm
  | committed _ _ _ => cases same
  | uncommitted _ fault _ _ | stuck _ fault _ _ _ => exact last (Except.error.inj same) rfl rfl
  | failed answer _ refused =>
    cases same
    exact raised refused
  | undone _ _ _ known =>
    cases same
    exact absurd known unknown

theorem Runs.slips {handle : Handle} {result : Except Failure Outcome} {failure : Failure}
    (runs : Runs probe session result final) (held : session.handle? = some handle)
    (judged : verdict result = .error failure) :
    ∃ exchanges, final.log = session.log ++ exchanges ∧ Slips exchanges failure := by
  cases runs with
  | unconnected absent => cases held.symm.trans absent
  | @mk other exchanges _ server here ran =>
    refine ⟨exchanges, by rw [heard_log, noting_log], ?_⟩
    cases result with
    | ok outcome =>
      obtain ⟨reply, collected, rfl⟩ := ran.returned
      rw [verdict] at judged
      obtain ⟨rfl, -⟩ := isOne_error judged
      exact .signalled [] other collected judged
    | error refused =>
      rw [verdict] at judged
      split at judged
      · cases judged
      · next unknown =>
        cases judged
        exact ran.slips unknown

theorem Checks.slips {failure : Failure} (checks : Checks session (.error failure) final) :
    ∃ exchanges, final.log = session.log ++ exchanges ∧ Slips exchanges failure := by
  generalize same : Except.error failure = answer at checks
  cases checks with
  | absent _ | answered _ _ _ _ => cases same
  | unclear handle held runs judged =>
    cases same
    exact runs.slips held judged
  | @dropped handle _ closing _ _ held runs judged closes =>
    cases closing with
    | ok _ => cases same
    | error refused =>
      cases same
      obtain ⟨ran, split, -⟩ := runs.within.adds
      obtain ⟨torn, splitLater, cut⟩ := closes.cutShort
      refine ⟨ran ++ torn, ?_, slips_of_cutShort (cut ran)⟩
      rw [splitLater, split, List.append_assoc]

theorem Opens.sparing {result : Except Failure Unit} (opens : Opens session result final) :
    ∃ exchanges, final.log = session.log ++ exchanges ∧ Sparing 0 1 exchanges := by
  cases opens with
  | engineless _ _ => exact ⟨_, rfl, Nat.le_refl 0, Nat.le_refl 1, Nat.zero_le 1⟩
  | refused _ _ | opened _ => exact ⟨_, rfl, Nat.le_refl 0, Nat.le_refl 1, Nat.le_refl 1⟩

theorem Opens.renewed (opens : Opens session (.ok ()) final) :
    final.handle? = some ⟨session.opened, false⟩ ∧ final.engine = true ∧ ∃ options,
      final.log = session.log ++ [⟨.createEngine options, .ok ()⟩, ⟨.connect session.opened, .ok ()⟩] := by
  generalize same : Except.ok () = answer at opens
  cases opens with
  | engineless _ _ | refused _ _ => cases same
  | opened server => exact ⟨rfl, rfl, _, rfl⟩

theorem Opens.fault {failure : Failure} (opens : Opens session (.error failure) final) :
    ∃ before exchange fault, final.log = session.log ++ (before ++ [exchange]) ∧ failure = .fault fault ∧
      exchange.fault? = some fault ∧ exchange.slips = !fault.recognised ∧ exchange.works = false := by
  generalize same : Except.error failure = answer at opens
  cases opens with
  | opened _ => cases same
  | engineless fault server => exact ⟨[], _, fault, rfl, Except.error.inj same, rfl, rfl, rfl⟩
  | refused fault server => exact ⟨[_], _, fault, rfl, Except.error.inj same, rfl, rfl, rfl⟩

theorem Opens.reclaims {failure : Failure} {answer : Bool} (opens : Opens session (.error failure) middle)
    (absent : session.handle? = none) (known : failure.isRecognisedFault = true)
    (closes : Closes middle (.ok answer) final) :
    ∃ exchanges, final.log = session.log ++ exchanges ∧ Reclaimed exchanges ∧ Quiet exchanges := by
  generalize same : Except.error failure = result at opens
  cases closes with
  | @mk torn _ later tears =>
    cases opens with
    | opened _ => cases same
    | engineless fault server =>
      cases same
      rw [tears.of_absent absent]
      refine ⟨_, List.append_assoc _ _ _, ⟨[], _, .error fault, _, rfl, nofun⟩, ?_⟩
      split
      · exact ⟨[_], _, rfl, rfl, rfl⟩
      · exact ⟨[], _, rfl, congrArg not known, rfl⟩
    | refused fault server =>
      cases same
      rw [tears.of_absent absent]
      exact ⟨_, List.append_assoc _ _ _, ⟨[], _, .ok (), _, rfl, fun _ => by simp [heard]⟩,
        [_, _], _, rfl, rfl, rfl⟩

theorem Connects.sparing {result : Except Failure Bool} (connects : Connects session result final) :
    ∃ exchanges, final.log = session.log ++ exchanges ∧ Sparing 1 1 exchanges := by
  have opened {result : Except Failure Unit} {middle last : Session σ}
      (checks : Checks session (.ok false) middle) (opens : Opens middle result last) :
      ∃ exchanges, last.log = session.log ++ exchanges ∧ Sparing 1 1 exchanges := by
    obtain ⟨checked, split, few⟩ := checks.sparing
    obtain ⟨opening, splitLater, fewLater⟩ := opens.sparing
    exact ⟨checked ++ opening, by rw [splitLater, split, List.append_assoc], few.append fewLater⟩
  have checked {answer : Except Failure Bool} (checks : Checks session answer final) :
      ∃ exchanges, final.log = session.log ++ exchanges ∧ Sparing 1 1 exchanges := by
    obtain ⟨exchanges, split, few⟩ := checks.sparing
    exact ⟨exchanges, split, few.statements, Nat.le_succ_of_le few.engines, Nat.le_succ_of_le few.connections⟩
  cases connects with
  | healthy checks | unclear checks => exact checked checks
  | opened checks opens | unopened checks opens _ => exact opened checks opens
  | refused checks opens _ closes =>
    obtain ⟨exchanges, split, few⟩ := opened checks opens
    cases closes with
    | @mk torn _ server tears =>
      exact ⟨exchanges ++ torn, by rw [heard_log, letGo, split, List.append_assoc], few.append tears.sparing⟩

theorem Connects.healthy_or_renewed (connects : Connects session (.ok true) final) :
    ∃ exchanges, final.log = session.log ++ exchanges ∧
      (Healthy session final exchanges ∨ Renewed session final exchanges) := by
  generalize same : Except.ok true = result at connects
  cases connects with
  | healthy checks =>
    obtain ⟨exchanges, split, healthy⟩ := checks.healthy
    exact ⟨exchanges, split, .inl healthy⟩
  | unclear _ | unopened _ _ _ => cases same
  | @refused _ closing _ _ _ _ _ _ _ => cases closing <;> cases same
  | opened checks opens =>
    obtain ⟨checked, split, -⟩ := checks.within.adds
    obtain ⟨held, engine, options, splitLater⟩ := opens.renewed
    rw [checks.opened] at held splitLater
    exact ⟨_, by rw [splitLater, split, List.append_assoc], .inr ⟨held, engine, checked, options, rfl⟩⟩

variable [Server σ]

/-- A session that could not connect is one that slipped, or one that lets go of everything. -/
theorem Connects.slips_or_reclaims {failure : Failure}
    (connects : Connects session (.error failure) final) :
    ∃ exchanges, final.log = session.log ++ exchanges ∧
      (Slips exchanges failure ∨
        failure.kind = .connection ∧ Released final ∧ Reclaimed exchanges ∧ Quiet exchanges) := by
  generalize same : Except.error failure = result at connects
  cases connects with
  | healthy _ | opened _ _ => cases same
  | unclear checks =>
    cases same
    obtain ⟨exchanges, split, slips⟩ := checks.slips
    exact ⟨exchanges, split, .inl slips⟩
  | unopened checks opens unknown =>
    cases same
    obtain ⟨checked, split, -⟩ := checks.within.adds
    obtain ⟨before, exchange, fault, splitLater, rfl, raised, slips, -⟩ := opens.fault
    refine ⟨checked ++ (before ++ [exchange]), ?_, .inl (Slips.append (.raised before ?_ raised) checked)⟩
    · rw [splitLater, split, List.append_assoc]
    · rw [slips]
      simpa [Failure.isRecognisedFault] using unknown
  | @refused refused closing middle _ _ checks opens known closes =>
    obtain ⟨checked, split, -⟩ := checks.within.adds
    cases closing with
    | error other =>
      cases same
      obtain ⟨opening, splitOpens, -⟩ := (opens.within probe.sent).adds
      obtain ⟨torn, splitLater, cut⟩ := closes.cutShort
      refine ⟨checked ++ opening ++ torn, ?_, .inl (slips_of_cutShort (cut (checked ++ opening)))⟩
      rw [splitLater, splitOpens, split, List.append_assoc, List.append_assoc, List.append_assoc]
    | ok answer =>
      obtain rfl := Except.error.inj same
      obtain ⟨exchanges, splitLater, reclaimed, quiet⟩ := opens.reclaims checks.handle_of_false known closes
      obtain ⟨_, _, fault, -, rfl, -⟩ := opens.fault
      exact ⟨checked ++ exchanges, by rw [splitLater, split, List.append_assoc],
        .inr ⟨rfl, closes.released, reclaimed.append_left checked, quiet.append_left checked⟩⟩

/-- Whatever the session and the server: connecting asks for one probe, one engine and one connection at most.
If it returns, the connection that is held has answered the probe by one and nothing was let go of, or it was
opened last of all and is in no transaction; if it fails to connect, nothing is held any longer and an engine
that was created is disposed of. A check finds the connection healthy in the same sense, or it is gone. -/
theorem connect_healthy_or_renewed (session : Session σ) :
    Ends connect session
      (fun answer final => answer = true ∧ ∃ exchanges, final.log = session.log ++ exchanges ∧
        Sparing 1 1 exchanges ∧ (Healthy session final exchanges ∨ Renewed session final exchanges))
      (fun failure final => ∃ exchanges, final.log = session.log ++ exchanges ∧ Sparing 1 1 exchanges ∧
        (failure.kind = .connection → Released final ∧ Reclaimed exchanges)) ∧
    Ends checkConnection session
      (fun answer final => ∃ exchanges, final.log = session.log ++ exchanges ∧
        if answer = true then Healthy session final exchanges else Dropped session final exchanges)
      fun _ _ => True := by
  refine ⟨ends_mono (connect_meets session) ?_ ?_, ends_mono (checkConnection_meets session) ?_ ?_⟩
  · intro answer final connects
    obtain rfl := connects_answer connects
    obtain ⟨exchanges, split, few⟩ := connects.sparing
    obtain ⟨others, same, yields⟩ := connects.healthy_or_renewed
    obtain rfl := List.append_cancel_left (same.symm.trans split)
    exact ⟨rfl, others, split, few, yields⟩
  · intro failure final connects
    obtain ⟨exchanges, split, few⟩ := connects.sparing
    obtain ⟨others, same, ends⟩ := connects.slips_or_reclaims
    obtain rfl := List.append_cancel_left (same.symm.trans split)
    refine ⟨others, split, few, fun unconnected => ?_⟩
    rcases ends with slips | ⟨-, released, reclaimed, -⟩
    · exact absurd unconnected slips.kind_ne
    · exact ⟨released, reclaimed⟩
  · intro answer final checks
    cases answer with
    | true =>
      obtain ⟨exchanges, split, healthy⟩ := checks.healthy
      exact ⟨exchanges, split, by rwa [if_pos rfl]⟩
    | false =>
      obtain ⟨exchanges, split, dropped⟩ := checks.dropped_of_false
      exact ⟨exchanges, split, by rwa [if_neg Bool.false_ne_true]⟩
  · exact fun _ _ _ => trivial

end Session

end SqlGateway
