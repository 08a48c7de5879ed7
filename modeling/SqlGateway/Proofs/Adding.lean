import Mathlib.Data.List.Induction
import SqlGateway.Proofs.Asking

/-!
What operations add to the log. Connecting, closing and running a statement never ask for an explicit
transaction or for the end of one.
-/

namespace SqlGateway

def Event.Outer : Event → Prop
  | .begin _ | .commitTransaction _ | .rollbackTransaction _ => False
  | _ => True

/-- A request that is made on the way to running the statement, and of no other statement. -/
def Event.Within (statement : Sent) : Event → Prop
  | .execute _ sent => sent = statement
  | .begin _ | .commitTransaction _ | .rollbackTransaction _ => False
  | _ => True

theorem Event.Within.outer {statement : Sent} {event : Event} (within : event.Within statement) :
    event.Outer := by
  cases event with
  | begin _ | commitTransaction _ | rollbackTransaction _ => exact within
  | createEngine _ | connect _ | execute _ _ | commit _ | rollback _ | close _ | dispose => trivial

def Throughout (allowed : List Exchange → Exchange → Prop) (log : List Exchange) : Prop :=
  ∀ before exchange later, log = before ++ exchange :: later → allowed before exchange

theorem throughout_nil (allowed : List Exchange → Exchange → Prop) : Throughout allowed [] := by
  intro before exchange later split
  exact absurd split.symm (List.append_ne_nil_of_right_ne_nil before (List.cons_ne_nil _ later))

theorem throughout_snoc {allowed : List Exchange → Exchange → Prop} {log : List Exchange}
    {last : Exchange} (throughout : Throughout allowed log) (here : allowed log last) :
    Throughout allowed (log ++ [last]) := by
  intro before exchange later split
  rcases List.eq_nil_or_concat later with rfl | ⟨front, final, rfl⟩
  · obtain ⟨rfl, same⟩ := List.append_inj' split rfl
    obtain rfl := List.singleton_inj.mp same
    exact here
  · rw [List.concat_eq_append, ← List.cons_append, ← List.append_assoc] at split
    exact throughout before exchange front (List.append_inj' split rfl).1

theorem throughout_early {allowed : List Exchange → Exchange → Prop} {first second : List Exchange}
    (throughout : Throughout allowed (first ++ second)) : Throughout allowed first := by
  intro before exchange later split
  refine throughout before exchange (later ++ second) ?_
  rw [split, List.append_assoc, List.cons_append]

theorem throughout_append {allowed : List Exchange → Exchange → Prop} {first second : List Exchange}
    (early : Throughout allowed first)
    (late : Throughout (fun before => allowed (first ++ before)) second) :
    Throughout allowed (first ++ second) := by
  induction second using List.reverseRecOn with
  | nil => rwa [List.append_nil]
  | append_singleton front last ih =>
    rw [← List.append_assoc]
    refine throughout_snoc (ih ?_) (late front last [] rfl)
    intro before exchange later split
    refine late before exchange (later ++ [last]) ?_
    rw [split, List.append_assoc, List.cons_append]

namespace Session

variable {σ : Type}

/-- The log is that of the earlier state and after it exchanges of one kind alone. -/
def Adds (kind : Exchange → Prop) (session final : Session σ) : Prop :=
  ∃ exchanges, final.log = session.log ++ exchanges ∧ ∀ exchange ∈ exchanges, kind exchange

theorem Adds.refl {kind : Exchange → Prop} (session : Session σ) : Adds kind session session :=
  ⟨[], (List.append_nil _).symm, fun _ member => absurd member List.not_mem_nil⟩

theorem Adds.one {kind : Exchange → Prop} {session final : Session σ} {exchange : Exchange}
    (split : final.log = session.log ++ [exchange]) (kinds : kind exchange) :
    Adds kind session final := by
  refine ⟨[exchange], split, ?_⟩
  intro other member
  rwa [List.mem_singleton.mp member]

theorem Adds.trans {kind : Exchange → Prop} {first second third : Session σ}
    (early : Adds kind first second) (late : Adds kind second third) : Adds kind first third := by
  obtain ⟨before, split, every⟩ := early
  obtain ⟨after, splitLater, everyLater⟩ := late
  refine ⟨before ++ after, ?_, ?_⟩
  · calc
      third.log = second.log ++ after := splitLater
      _ = first.log ++ (before ++ after) := by rw [split, List.append_assoc]
  · intro exchange member
    rcases List.mem_append.mp member with member | member
    · exact every exchange member
    · exact everyLater exchange member

theorem Adds.mono {kind other : Exchange → Prop} {session final : Session σ}
    (adds : Adds kind session final) (follows : ∀ exchange, kind exchange → other exchange) :
    Adds other session final := by
  obtain ⟨exchanges, split, every⟩ := adds
  exact ⟨exchanges, split, fun exchange member => follows exchange (every exchange member)⟩

theorem Adds.grows {kind : Exchange → Prop} {session final : Session σ}
    (adds : Adds kind session final) : session.log <+: final.log := by
  obtain ⟨exchanges, split, _⟩ := adds
  exact ⟨exchanges, split.symm⟩

theorem Adds.later {kind : Exchange → Prop} {session middle final : Session σ}
    (adds : Adds kind session final) (early : session.log <+: middle.log)
    (late : middle.log <+: final.log) : Adds kind middle final := by
  obtain ⟨exchanges, split, every⟩ := adds
  obtain ⟨before, splitEarly⟩ := early
  obtain ⟨after, splitLate⟩ := late
  have same : session.log ++ (before ++ after) = session.log ++ exchanges := by
    rw [← split, ← splitLate, ← splitEarly, List.append_assoc]
  have parts := List.append_cancel_left same
  exact ⟨after, splitLate.symm, fun exchange member =>
    every exchange (parts ▸ List.mem_append_right before member)⟩

variable {session final : Session σ}

/-- The session is directed where it was, and has asked for nothing that does not go with the statement. -/
structure Within (statement : Sent) (session final : Session σ) : Prop where
  adds : Adds (·.event.Within statement) session final
  descriptor : final.descriptor = session.descriptor

namespace Within

variable {statement : Sent} {middle : Session σ}

theorem refl (session : Session σ) : Within statement session session := ⟨.refl session, rfl⟩

theorem trans (early : Within statement session middle) (late : Within statement middle final) :
    Within statement session final :=
  ⟨early.adds.trans late.adds, late.descriptor.trans early.descriptor⟩

theorem outer (within : Within statement session final) : Adds (·.event.Outer) session final :=
  within.adds.mono fun _ => Event.Within.outer

end Within

theorem Closes.within {result : Except Failure Bool} (closes : Closes session result final)
    (statement : Sent) : Within statement session final := by
  cases closes with
  | @mk exchanges _ server torn =>
    refine ⟨⟨exchanges, rfl, ?_⟩, rfl⟩
    cases torn <;> simp [Event.Within]

theorem Ran.within {statement : Statement} {handle : Handle} {exchanges : List Exchange}
    {result : Except Failure Outcome} (ran : Ran statement handle exchanges result) :
    ∀ exchange ∈ exchanges, exchange.event.Within statement.sent := by
  cases ran <;> simp [Event.Within]

theorem noting_log (session : Session σ) (result : Except Failure Outcome) :
    (session.noting result).log = session.log := by
  cases result <;> rfl

theorem Runs.within {statement : Statement} {result : Except Failure Outcome}
    (runs : Runs statement session result final) : Within statement.sent session final := by
  cases runs with
  | unconnected held => exact .refl session
  | mk handle server held ran =>
    refine ⟨⟨_, by rw [heard_log, noting_log], ran.within⟩, ?_⟩
    cases result <;> rfl

theorem Runs.inside {statement : Statement} {connection : Nat} {result : Except Failure Outcome}
    (runs : Runs statement session result final) (held : session.handle? = some ⟨connection, true⟩) :
    ∃ answer, fetched answer = result ∧ final.handle? = some ⟨connection, true⟩ ∧
      final.log = session.log ++ [⟨.execute connection statement.sent, answer⟩] ∧
      final.lastInsertId = (session.noting result).lastInsertId := by
  have kept := runs.handle.trans held
  cases runs with
  | unconnected absent => cases held.symm.trans absent
  | mk handle server same ran =>
    obtain rfl := Option.some.inj (same.symm.trans held)
    cases ran with
    | joined answer inside => exact ⟨answer, rfl, kept, by rw [heard_log, noting_log], rfl⟩
    | committed _ outside | uncommitted _ _ outside | failed _ outside | undone _ outside
    | stuck _ _ outside => cases outside

theorem Checks.within {result : Except Failure Bool} (checks : Checks session result final) :
    Within probe.sent session final := by
  cases checks with
  | absent held => exact .refl session
  | answered handle held runs judged => exact runs.within
  | dropped handle held runs judged closes => exact runs.within.trans (closes.within probe.sent)
  | unclear handle held runs judged => exact runs.within

theorem Opens.within {result : Except Failure Unit} (opens : Opens session result final)
    (statement : Sent) : Within statement session final := by
  cases opens with
  | engineless fault server => exact ⟨⟨_, rfl, by simp [Event.Within]⟩, rfl⟩
  | refused fault server => exact ⟨⟨_, rfl, by simp [Event.Within]⟩, rfl⟩
  | opened server => exact ⟨⟨_, rfl, by simp [Event.Within]⟩, rfl⟩

theorem Connects.within {result : Except Failure Bool} (connects : Connects session result final) :
    Within probe.sent session final := by
  cases connects with
  | healthy checks => exact checks.within
  | unclear checks => exact checks.within
  | opened checks opens => exact checks.within.trans (opens.within _)
  | unopened checks opens known => exact checks.within.trans (opens.within _)
  | refused checks opens known closes =>
    exact (checks.within.trans (opens.within _)).trans (closes.within _)

theorem Closes.outer {result : Except Failure Bool} (closes : Closes session result final) :
    Adds (·.event.Outer) session final := (closes.within probe.sent).outer

theorem Connects.outer {result : Except Failure Bool} (connects : Connects session result final) :
    Adds (·.event.Outer) session final := connects.within.outer

theorem Connects.held (connects : Connects session (.ok true) final) :
    ∃ handle, final.handle? = some handle := by
  generalize same : Except.ok true = result at connects
  cases connects with
  | healthy checks =>
    generalize checked : Except.ok true = answer at checks
    cases checks with
    | absent _ => cases checked
    | answered handle held runs judged => exact ⟨handle, runs.handle.trans held⟩
    | @dropped _ _ closing _ _ _ _ _ _ => cases closing <;> cases checked
    | unclear _ _ _ _ => cases checked
  | opened checks opens =>
    generalize opened : Except.ok () = answer at opens
    cases opens with
    | engineless _ _ | refused _ _ => cases opened
    | opened server => exact ⟨_, rfl⟩
  | unclear _ | unopened _ _ _ => cases same
  | @refused _ closing _ _ _ _ _ _ _ => cases closing <;> cases same

theorem Connects.held_outside (connects : Connects session (.ok true) final)
    (outside : final.inTransaction = false) :
    ∃ connection, final.handle? = some ⟨connection, false⟩ := by
  obtain ⟨⟨connection, inside⟩, held⟩ := connects.held
  obtain rfl : inside = false := by
    simpa only [inTransaction, held, Option.any_some] using outside
  exact ⟨connection, held⟩

end Session

end SqlGateway
