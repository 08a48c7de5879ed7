import SqlGateway.Proofs.Lifetime

/-!
What becomes of engines. An engine that was created is kept until it is disposed of, and it is disposed of once
at most. It is lost if the close of its connection is cut short, and left without a connection if opening one is
refused by a fault that is not recognised; another engine then takes its place.
-/

namespace SqlGateway

def Event.Creates : Event → Prop
  | .createEngine _ => True
  | _ => False

namespace Exchange

def disposes : Exchange → Bool
  | ⟨.dispose, _⟩ => true
  | _ => false

/-- The close of a connection that a fault cuts short. -/
def cuts : Exchange → Bool
  | ⟨.close _, .error fault⟩ => !fault.recognised
  | _ => false

/-- The refusal of a connection that nothing is done about. -/
def strands : Exchange → Bool
  | ⟨.connect _, .error fault⟩ => !fault.recognised
  | _ => false

end Exchange

/-- What has become of the last engine that was created. -/
inductive Tenure
  | released
  | kept
  | stranded
  deriving DecidableEq, Repr

def Tenure.next (before : Tenure) : Exchange → Tenure
  | ⟨.createEngine _, .ok _⟩ => .kept
  | ⟨.connect _, .error fault⟩ => if fault.recognised then before else .stranded
  | ⟨.close _, .error fault⟩ => if fault.recognised then before else .released
  | ⟨.dispose, _⟩ => .released
  | _ => before

def tenure (log : List Exchange) : Tenure := log.foldl Tenure.next .released

/-- An engine is asked for while none is kept, disposed of while one is there, and all else is asked of a kept
one. -/
def Event.Orderly (before : Tenure) : Event → Prop
  | .createEngine _ => before ≠ .kept
  | .dispose => before ≠ .released
  | _ => before = .kept

abbrev Orderly (log : List Exchange) : Prop :=
  Throughout (fun before exchange => exchange.event.Orderly (tenure before)) log

/-- What follows a created engine, up to where another is asked for or to the end of the log. -/
structure Spans (log span later : List Exchange) : Prop where
  engine : ∃ early options, log = early ++ ⟨.createEngine options, .ok ()⟩ :: (span ++ later)
  only : ∀ exchange ∈ span, ¬ exchange.event.Creates

def disposals (span : List Exchange) : Nat := span.countP Exchange.disposes

/-- The close of the connection was cut short, or another engine was asked for after the refusal. -/
def Lost (span : List Exchange) : Prop :=
  span.any Exchange.cuts = true ∨ span.getLast?.any Exchange.strands = true

instance (span : List Exchange) : Decidable (Lost span) :=
  inferInstanceAs (Decidable (_ = true ∨ _ = true))

/-- The refusal of a connection is followed by nothing but refusals of engines. -/
def Stranded (log : List Exchange) : Prop :=
  ∃ early refusal failed, log = early ++ refusal :: failed ∧ refusal.strands = true ∧
    ∀ exchange ∈ failed, ∃ options fault, exchange = ⟨.createEngine options, .error fault⟩

theorem tenure_snoc (log : List Exchange) (last : Exchange) :
    tenure (log ++ [last]) = (tenure log).next last := by
  rw [tenure, tenure, List.foldl_append, List.foldl_cons, List.foldl_nil]

inductive Spent (span : List Exchange) : Tenure → Prop
  | kept : disposals span = 0 → span.any Exchange.cuts = false →
      span.getLast?.any Exchange.strands = false → Spent span .kept
  | stranded : disposals span = 0 → span.any Exchange.cuts = false →
      span.getLast?.any Exchange.strands = true → Spent span .stranded
  | disposed : disposals span = 1 → span.any Exchange.cuts = false →
      span.getLast?.any Exchange.strands = false → Spent span .released
  | cut : disposals span = 0 → span.any Exchange.cuts = true → Spent span .released

theorem disposals_snoc (span : List Exchange) (last : Exchange) :
    disposals (span ++ [last]) = disposals span + if last.disposes then 1 else 0 := by
  rw [disposals, List.countP_append, List.countP_singleton]
  rfl

theorem Spent.snoc {span : List Exchange} {before : Tenure} {last : Exchange} (spent : Spent span before)
    (other : ¬ last.event.Creates) (orderly : last.event.Orderly before) :
    Spent (span ++ [last]) (before.next last) := by
  have counted := disposals_snoc span last
  have cutting : (span ++ [last]).any Exchange.cuts = (span.any Exchange.cuts || last.cuts) := by
    rw [List.any_append, List.any_cons, List.any_nil, Bool.or_false]
  have final : (span ++ [last]).getLast?.any Exchange.strands = last.strands := by
    rw [List.getLast?_concat, Option.any_some]
  have ends (refusal : last.disposes = false) (here : before = .kept) :
      disposals (span ++ [last]) = 0 ∧ (span ++ [last]).any Exchange.cuts = last.cuts := by
    subst here
    cases spent with
    | kept none uncut _ =>
      rw [refusal, none] at counted
      rw [uncut, Bool.false_or] at cutting
      exact ⟨counted, cutting⟩
  rcases last with ⟨event, answer⟩
  cases event with
  | createEngine options => exact absurd trivial other
  | dispose =>
    cases spent with
    | kept none uncut _ | stranded none uncut _ =>
      exact .disposed (counted.trans (by rw [none]; rfl)) (cutting.trans (by rw [uncut]; rfl)) final
    | disposed _ _ _ | cut _ _ => exact absurd rfl orderly
  | connect number =>
    obtain ⟨none, uncut⟩ := ends rfl orderly
    obtain rfl : before = .kept := orderly
    cases answer with
    | ok answer => exact .kept none uncut final
    | error fault => cases known : fault.recognised with
      | true =>
        simpa [Tenure.next, known] using .kept none uncut (final.trans (by simp [Exchange.strands, known]))
      | false =>
        simpa [Tenure.next, known] using .stranded none uncut (final.trans (by simp [Exchange.strands, known]))
  | close number =>
    obtain ⟨none, cuts⟩ := ends rfl orderly
    obtain rfl : before = .kept := orderly
    cases answer with
    | ok answer => exact .kept none cuts final
    | error fault => cases known : fault.recognised with
      | true => simpa [Tenure.next, known] using .kept none (cuts.trans (by simp [Exchange.cuts, known])) final
      | false => simpa [Tenure.next, known] using .cut none (cuts.trans (by simp [Exchange.cuts, known]))
  | execute _ _ | begin _ | commitTransaction _ | rollbackTransaction _ | commit _ | rollback _ =>
    obtain ⟨none, uncut⟩ := ends rfl orderly
    obtain rfl : before = .kept := orderly
    exact .kept none uncut final

theorem spent_of_orderly {early span : List Exchange} (kept : tenure early = .kept)
    (orderly : Orderly (early ++ span)) (only : ∀ exchange ∈ span, ¬ exchange.event.Creates) :
    Spent span (tenure (early ++ span)) := by
  induction span using List.reverseRecOn with
  | nil =>
    rw [List.append_nil, kept]
    exact .kept rfl rfl rfl
  | append_singleton front last ih =>
    rw [← List.append_assoc] at orderly ⊢
    obtain ⟨others, other⟩ := List.forall_mem_append.mp only
    rw [tenure_snoc]
    exact (ih (throughout_early orderly) others).snoc (other last (List.mem_singleton.mpr rfl))
      (orderly _ last [] rfl)

theorem Spent.disposals_le {span : List Exchange} {after : Tenure} (spent : Spent span after) :
    disposals span ≤ 1 := by
  cases spent with
  | kept none _ _ | stranded none _ _ | cut none _ => exact none ▸ Nat.zero_le 1
  | disposed one _ _ => exact Nat.le_of_eq one

theorem Spent.disposed_iff {span : List Exchange} {after : Tenure} (spent : Spent span after)
    (gone : after ≠ .kept) : disposals span = 1 ↔ ¬ Lost span := by
  cases spent with
  | kept _ _ _ => exact absurd rfl gone
  | stranded none _ stranding => exact iff_of_false (by rw [none]; decide) (not_not_intro (.inr stranding))
  | disposed one uncut unstranded => exact iff_of_true one (by simp [Lost, uncut, unstranded])
  | cut none cutting => exact iff_of_false (by rw [none]; decide) (not_not_intro (.inl cutting))

theorem Spans.spent {log span later : List Exchange} (spans : Spans log span later) (orderly : Orderly log) :
    ∃ before, log = before ++ later ∧ Spent span (tenure before) := by
  obtain ⟨⟨early, options, split⟩, only⟩ := spans
  have whole : log = early ++ [⟨.createEngine options, .ok ()⟩] ++ span ++ later := by
    rw [split, List.append_assoc, List.append_assoc, List.singleton_append]
  rw [whole] at orderly
  exact ⟨_, whole, spent_of_orderly (by rw [tenure_snoc]; rfl) (throughout_early orderly) only⟩

theorem tenure_of_failed {failed : List Exchange}
    (refused : ∀ exchange ∈ failed, ∃ options fault, exchange = ⟨.createEngine options, .error fault⟩)
    (early : List Exchange) : tenure (early ++ failed) = tenure early := by
  induction failed generalizing early with
  | nil => rw [List.append_nil]
  | cons exchange later ih =>
    obtain ⟨⟨options, fault, rfl⟩, rest⟩ := List.forall_mem_cons.mp refused
    rw [← List.singleton_append, ← List.append_assoc, ih rest, tenure_snoc]
    rfl

theorem Exchange.strands_eq {exchange : Exchange} (strands : exchange.strands = true) :
    ∃ number fault, exchange = ⟨.connect number, .error fault⟩ ∧ fault.recognised = false := by
  rcases exchange with ⟨event, answer⟩
  cases event with
  | connect number =>
    cases answer with
    | ok answer => cases strands
    | error fault => exact ⟨number, fault, rfl, by simpa [Exchange.strands] using strands⟩
  | createEngine _ | execute _ _ | begin _ | commitTransaction _ | rollbackTransaction _ | commit _
  | rollback _ | close _ | dispose => cases strands

theorem Tenure.next_eq_stranded {before : Tenure} {exchange : Exchange} (orderly : exchange.event.Orderly before)
    (left : before.next exchange = .stranded) : exchange.strands = true ∨
      before = .stranded ∧ ∃ options fault, exchange = ⟨.createEngine options, .error fault⟩ := by
  rcases exchange with ⟨event, answer⟩
  cases event with
  | createEngine options =>
    cases answer with
    | ok answer => cases left
    | error fault => exact .inr ⟨left, options, fault, rfl⟩
  | dispose => cases left
  | connect number | close number =>
    obtain rfl : before = .kept := orderly
    cases answer with
    | ok answer => cases left
    | error fault => cases known : fault.recognised <;> simp_all [Tenure.next, Exchange.strands]
  | execute _ _ | begin _ | commitTransaction _ | rollbackTransaction _ | commit _ | rollback _ =>
    obtain rfl : before = .kept := orderly
    cases left

theorem tenure_eq_stranded_iff {log : List Exchange} (orderly : Orderly log) :
    tenure log = .stranded ↔ Stranded log := by
  constructor
  · intro left
    induction log using List.reverseRecOn with
    | nil => cases left
    | append_singleton front last ih =>
      rw [tenure_snoc] at left
      rcases Tenure.next_eq_stranded (orderly front last [] rfl) left with strands | ⟨before, refused⟩
      · exact ⟨front, last, [], rfl, strands, nofun⟩
      · obtain ⟨early, refusal, failed, rfl, strands, others⟩ := ih (throughout_early orderly) before
        refine ⟨early, refusal, failed ++ [last], by rw [List.append_assoc, List.cons_append], strands, ?_⟩
        exact List.forall_mem_append.mpr ⟨others, List.forall_mem_singleton.mpr refused⟩
  · rintro ⟨early, refusal, failed, rfl, strands, refused⟩
    obtain ⟨number, fault, rfl, unknown⟩ := Exchange.strands_eq strands
    rw [← List.singleton_append, ← List.append_assoc, tenure_of_failed refused, tenure_snoc]
    simp [Tenure.next, unknown]

theorem orderly_snoc {log : List Exchange} {last : Exchange} (orderly : Orderly log)
    (here : last.event.Orderly (tenure log)) : Orderly (log ++ [last]) := throughout_snoc orderly here

theorem kept_of_working {connection : Nat} {log more : List Exchange} (orderly : Orderly log)
    (kept : tenure log = .kept) (working : ∀ exchange ∈ more, exchange.event.WorksOn connection) :
    Orderly (log ++ more) ∧ tenure (log ++ more) = .kept := by
  induction more generalizing log with
  | nil =>
    rw [List.append_nil]
    exact ⟨orderly, kept⟩
  | cons exchange later ih =>
    obtain ⟨here, rest⟩ := List.forall_mem_cons.mp working
    have one : exchange.event.Orderly (tenure log) ∧ (tenure log).next exchange = .kept := by
      rw [kept]
      rcases exchange with ⟨event, answer⟩
      cases event with
      | execute _ _ | begin _ | commitTransaction _ | rollbackTransaction _ | commit _ | rollback _ =>
        exact ⟨rfl, rfl⟩
      | createEngine _ | connect _ | close _ | dispose => exact here.elim
    rw [← List.singleton_append, ← List.append_assoc]
    exact ih (orderly_snoc orderly one.1) ((tenure_snoc log exchange).trans one.2) rest

namespace Session

variable {σ : Type} {session final : Session σ}

/-- A session has the engine that its log tells of, and a connection only on one that is kept. -/
structure Tenanted (session : Session σ) : Prop where
  engine : session.engine = true ↔ tenure session.log ≠ .released
  handle : ∀ handle, session.handle? = some handle → tenure session.log = .kept
  orderly : Orderly session.log

structure Housed (session : Session σ) : Prop extends Tenanted session where
  empty : session.handle? = none → tenure session.log ≠ .kept

structure Cleared (session : Session σ) : Prop extends Housed session where
  released : tenure session.log = .released

theorem Housed.of_eq (before : Housed session) (log : final.log = session.log)
    (engine : final.engine = session.engine) (handle : final.handle? = session.handle?) : Housed final := by
  obtain ⟨⟨owned, held, orderly⟩, empty⟩ := before
  exact ⟨⟨by rw [engine, log]; exact owned, by rw [handle, log]; exact held, log ▸ orderly⟩,
    by rw [handle, log]; exact empty⟩

theorem Housed.works (before : Housed session) {handle : Handle} (held : session.handle? = some handle)
    {more : List Exchange} (split : final.log = session.log ++ more)
    (working : ∀ exchange ∈ more, exchange.event.WorksOn handle.connection)
    (engine : final.engine = session.engine) (living : final.living = session.living) : Housed final := by
  have kept := before.handle handle held
  obtain ⟨orderly, still⟩ := kept_of_working before.orderly kept working
  refine ⟨⟨?_, fun _ _ => split ▸ still, split ▸ orderly⟩, fun absent => ?_⟩
  · rw [engine, split, still, before.engine, kept]
  · cases (living_of_absent absent).symm.trans (living.trans (living_of_held held))

theorem Teardown.released {exchanges : List Exchange} {result : Except Failure Bool}
    (torn : Teardown session exchanges result) (before : Tenanted session) :
    Orderly (session.log ++ exchanges) ∧ tenure (session.log ++ exchanges) = .released := by
  have disposed {log : List Exchange} (orderly : Orderly log) (owned : tenure log ≠ .released)
      (answer : Except Fault Unit) : Orderly (log ++ [⟨.dispose, answer⟩]) ∧
        tenure (log ++ [⟨.dispose, answer⟩]) = .released :=
    ⟨orderly_snoc orderly owned, tenure_snoc _ _⟩
  cases torn with
  | nothing absent engineless =>
    rw [List.append_nil]
    refine ⟨before.orderly, by_contra fun owned => ?_⟩
    cases engineless.symm.trans (before.engine.mpr owned)
  | disposed answer absent engine => exact disposed before.orderly (before.engine.mp engine) answer
  | closed handle answer held engineless known =>
    have owned := before.engine.mpr (by rw [before.handle handle held]; decide)
    cases engineless.symm.trans owned
  | both handle answer disposal held engine known =>
    have kept := before.handle handle held
    have closing : tenure (session.log ++ [⟨.close handle.connection, answer⟩]) = .kept := by
      rw [tenure_snoc, kept]
      cases answer with
      | ok answer => rfl
      | error fault => simp [Tenure.next, known fault rfl]
    have asked : Orderly (session.log ++ [⟨.close handle.connection, answer⟩]) :=
      orderly_snoc before.orderly kept
    rw [← List.singleton_append, ← List.append_assoc]
    exact disposed asked (by rw [closing]; decide) disposal
  | cut handle fault held unknown =>
    have kept := before.handle handle held
    refine ⟨orderly_snoc before.orderly kept, ?_⟩
    rw [tenure_snoc]
    simp [Tenure.next, unknown]

theorem Closes.cleared {result : Except Failure Bool} (closes : Closes session result final)
    (before : Tenanted session) : Cleared final := by
  cases closes with
  | mk server torn =>
    obtain ⟨orderly, released⟩ := torn.released before
    refine ⟨⟨⟨?_, nofun, orderly⟩, fun _ => ?_⟩, released⟩
    · rw [heard_log]
      exact iff_of_false Bool.false_ne_true (not_not_intro released)
    · rw [heard_log]
      exact released ▸ nofun

theorem Opens.tenanted {result : Except Failure Unit} (opens : Opens session result final)
    (absent : session.handle? = none) (before : Housed session) : Tenanted final ∧
      ((∀ failure, result = .error failure → ¬ failure.isRecognisedFault) → Housed final) := by
  have vacant := before.empty absent
  have orderly (answer : Except Fault Unit) :
      Orderly (session.log ++ [⟨.createEngine (engineOptions session), answer⟩]) :=
    orderly_snoc before.orderly vacant
  have created : tenure (session.log ++ [⟨.createEngine (engineOptions session), .ok ()⟩]) = .kept :=
    tenure_snoc _ _
  have connecting (answer : Except Fault Unit) :
      Orderly (session.log ++ [⟨.createEngine (engineOptions session), .ok ()⟩,
        ⟨.connect session.opened, answer⟩]) ∧
      tenure (session.log ++ [⟨.createEngine (engineOptions session), .ok ()⟩,
        ⟨.connect session.opened, answer⟩]) = Tenure.kept.next ⟨.connect session.opened, answer⟩ := by
    rw [← List.singleton_append, ← List.append_assoc, tenure_snoc, created]
    exact ⟨orderly_snoc (orderly (.ok ())) created, rfl⟩
  cases opens with
  | engineless fault server =>
    have same : tenure (session.log ++ [⟨.createEngine (engineOptions session), .error fault⟩]) =
      tenure session.log := tenure_snoc _ _
    have housed : Housed (session.heard [⟨.createEngine (engineOptions session), .error fault⟩] server) := by
      refine ⟨⟨?_, fun handle held => absurd held (by rw [heard_handle, absent]; nofun), orderly _⟩, fun _ => ?_⟩
      · rw [heard_log, same]
        exact before.engine
      · rw [heard_log, same]
        exact vacant
    exact ⟨housed.toTenanted, fun _ => housed⟩
  | refused fault server =>
    obtain ⟨asked, after⟩ := connecting (.error fault)
    have tenanted : Tenanted (({ session with engine := true } : Session σ).heard
        [⟨.createEngine (engineOptions session), .ok ()⟩, ⟨.connect session.opened, .error fault⟩] server) := by
      refine ⟨iff_of_true rfl ?_, fun handle held => absurd held (by rw [heard_handle, absent]; nofun), asked⟩
      rw [heard_log, after]
      cases known : fault.recognised <;> simp [Tenure.next, known]
    refine ⟨tenanted, fun unknown => ⟨tenanted, fun _ => ?_⟩⟩
    have unrecognised : fault.recognised = false := Bool.eq_false_iff.mpr (unknown _ rfl)
    rw [heard_log, after]
    simp [Tenure.next, unrecognised]
  | opened server =>
    obtain ⟨asked, after⟩ := connecting (.ok ())
    have housed : Housed (({ session with
          engine := true, handle? := some ⟨session.opened, false⟩, opened := session.opened + 1 } :
        Session σ).heard
        [⟨.createEngine (engineOptions session), .ok ()⟩, ⟨.connect session.opened, .ok ()⟩] server) := by
      refine ⟨⟨iff_of_true rfl ?_, fun _ _ => after, asked⟩, nofun⟩
      rw [heard_log, after]
      exact (nofun : Tenure.kept ≠ .released)
    exact ⟨housed.toTenanted, fun _ => housed⟩

abbrev Houses (session final : Session σ) : Prop := Housed session → Housed final

theorem chaining_houses : Chaining (Houses (σ := σ)) where
  refl _ := id
  trans early late := late ∘ early

theorem Runs.housed {statement : Statement} {result : Except Failure Outcome}
    (runs : Runs statement session result final) (before : Housed session) : Housed final := by
  cases runs with
  | unconnected absent => exact before
  | mk handle server held ran =>
    refine before.works held (by rw [heard_log, noting_log]) ran.works ?_ ?_ <;> cases result <;> rfl

theorem Checks.housed {result : Except Failure Bool} (checks : Checks session result final)
    (before : Housed session) : Housed final :=
  chaining_houses.checked (fun runs before => runs.housed before)
    (fun closes before => (closes.cleared before.toTenanted).toHoused) checks before

theorem Connects.housed {result : Except Failure Bool} (connects : Connects session result final)
    (before : Housed session) : Housed final := by
  cases connects with
  | healthy checks | unclear checks => exact checks.housed before
  | opened checks opens =>
    exact (opens.tenanted checks.handle_of_false (checks.housed before)).2 nofun
  | unopened checks opens unknown =>
    refine (opens.tenanted checks.handle_of_false (checks.housed before)).2 fun failure same => ?_
    cases same
    exact unknown
  | refused checks opens known closes =>
    exact (closes.cleared (opens.tenanted checks.handle_of_false (checks.housed before)).1).toHoused

theorem Begins.housed {result : Except Failure Bool} (begins : Begins session result final)
    (before : Housed session) : Housed final := by
  cases begins with
  | unconnected absent => exact before
  | answered handle isOpen server held =>
    exact before.works held rfl (by simp [Event.WorksOn]) rfl (living_withTransaction session isOpen)
  | refused handle fault server held => exact before.works held rfl (by simp [Event.WorksOn]) rfl rfl

theorem Commits.housed {result : Except Failure Bool} (commits : Commits session result final)
    (before : Housed session) : Housed final := by
  cases commits with
  | nothing idle => exact before
  | done connection server bracket =>
    have held := (bracketed_iff session connection).mp bracket
    exact before.works held rfl (by simp [Event.WorksOn]) rfl (living_withTransaction session false)
  | refused connection fault server bracket =>
    have held := (bracketed_iff session connection).mp bracket
    exact before.works held rfl (by simp [Event.WorksOn]) rfl rfl

theorem RollsBack.housed {result : Except Failure Bool} (rollsBack : RollsBack session result final)
    (before : Housed session) : Housed final := by
  cases rollsBack with
  | nothing idle => exact before
  | asked connection answer server bracket =>
    have held := (bracketed_iff session connection).mp bracket
    exact before.works held rfl (by simp [Event.WorksOn]) rfl (living_withTransaction session false)

theorem handling_houses : Handling (Houses (σ := σ)) where
  toChaining := chaining_houses
  prepare _ _ before := before.of_eq rfl rfl rfl
  connect connects := connects.housed
  run runs := runs.housed
  closed closes before := (closes.cleared before.toTenanted).toHoused
  begun _ begins := begins.housed
  committed commits := commits.housed
  rolledBack rollsBack := rollsBack.housed

section

variable [Server σ]

theorem keeps_houses (request : Request) : Keeps Houses (request.run : Action σ Answer) := by
  by_cases redirects : request.Redirects
  · exact handling_houses.redirects (fun _ _ _ _ before => before.of_eq rfl rfl rfl) redirects
  by_cases consults : request.Consults
  · exact (handling_houses.steady fun _ _ before => before.of_eq rfl rfl rfl).request consults
  · exact handling_houses.request (keeps_of_meets begin_meets fun begins => begins.housed) redirects consults

theorem Driven.housed (driven : Driven session) : Housed session := by
  induction driven with
  | created fromSettings =>
    obtain ⟨descriptor, rfl⟩ := create_eq fromSettings
    exact ⟨⟨iff_of_false Bool.false_ne_true (not_not_intro rfl), nofun, throughout_nil _⟩, nofun⟩
  | asked request _ ih => exact (keeps_houses request).after _ ih
  | elsewhere server _ ih => exact ih.of_eq rfl rfl rfl

/-- However a close ends, the engine is not there any more. -/
theorem Housed.closed (before : Housed session) {last : Session σ}
    (closed : last = after Call.close.run session ∨ last = after close session) :
    Cleared last := by
  have ends {start : Session σ} (here : Housed start) :
      Ends close start (fun _ => Cleared) fun _ => Cleared :=
    ends_mono (close_meets start) (fun _ _ closes => closes.cleared here.toTenanted)
      fun _ _ closes => closes.cleared here.toTenanted
  rcases closed with rfl | rfl
  · apply ends_after
    simp only [Call.run, release, reset, ends_bind, ends_modify, ends_pure]
    exact ends (before.of_eq rfl rfl rfl)
  · exact ends_after (ends before)

/-- Over a whole run of requests, whatever the server answers, an engine is disposed of once at most. By the
time that another is asked for, and by the end of a close, it was disposed of unless it was lost; and a session
holds an engine for a connection alone unless it was left without one. -/
theorem driven_disposes (session : Session σ) (driven : Driven session) :
    (∀ span later, Spans session.log span later → disposals span ≤ 1) ∧
    (∀ span next later, Spans session.log span (next :: later) → next.event.Creates →
      (disposals span = 1 ↔ ¬ Lost span)) ∧
    (∀ last span, last = after Call.close.run session ∨ last = after close session → Spans last.log span [] →
      (disposals span = 1 ↔ ¬ Lost span)) ∧
    ((session.engine = true → session.handle?.isSome = true) ↔ ¬ Stranded session.log) := by
  have housed := driven.housed
  refine ⟨fun span later spans => ?_, fun span next later spans creates => ?_,
    fun last span closed spans => ?_, ?_⟩
  · obtain ⟨before, -, spent⟩ := spans.spent housed.orderly
    exact spent.disposals_le
  · obtain ⟨before, split, spent⟩ := spans.spent housed.orderly
    have here := housed.orderly before next later split
    rcases next with ⟨event, answer⟩
    cases event with
    | createEngine options => exact spent.disposed_iff here
    | connect _ | execute _ _ | begin _ | commitTransaction _ | rollbackTransaction _ | commit _ | rollback _
    | close _ | dispose => exact creates.elim
  · have cleared := housed.closed closed
    obtain ⟨before, split, spent⟩ := spans.spent cleared.orderly
    rw [List.append_nil] at split
    exact spent.disposed_iff (by rw [← split, cleared.released]; decide)
  · rw [← tenure_eq_stranded_iff housed.orderly, housed.engine]
    cases held : session.handle? with
    | none =>
      have vacant := housed.empty held
      cases ended : tenure session.log <;> simp_all
    | some handle => simp [housed.handle handle held]

end

def connected : Session Script := after (Request.call .connect).run rehearsed

theorem connected_driven : Driven connected := .asked _ (.created rehearsed_created)

def visit (closing : Except Fault Unit) : List Exchange := [⟨.connect 0, .ok ()⟩, ⟨.close 0, closing⟩]

theorem connected_disposes :
    Spans (after Call.close.run connected).log (visit (.ok ()) ++ [⟨.dispose, .ok ()⟩]) [] ∧
      disposals (visit (.ok ()) ++ [⟨.dispose, .ok ()⟩]) = 1 := by
  have spans : Spans (after Call.close.run connected).log (visit (.ok ()) ++ [⟨.dispose, .ok ()⟩]) [] :=
    ⟨⟨[], engineOptions rehearsed, rfl⟩, by simp [visit, Event.Creates]⟩
  have kept : ¬ Lost (visit (.ok ()) ++ [⟨.dispose, .ok ()⟩]) := by decide
  exact ⟨spans, ((driven_disposes connected connected_driven).2.2.1 _ _ (.inl rfl) spans).mpr kept⟩

def slammed : Session Script :=
  { connected with server := connected.server.change (.fault .close (some (.foreign "slammed"))) }

def barred : Session Script :=
  after (Request.call .connect).run { rehearsed with
    server := rehearsed.server.change (.fault .connect (some (.foreign "barred"))) }

/-- The close leaves the engine undisposed, and the refusal leaves it without a connection. -/
theorem slammed_undisposed : Driven slammed ∧
    (∃ span, Spans (after Call.close.run slammed).log span [] ∧ disposals span = 0) ∧
    Driven barred ∧ barred.engine = true ∧ barred.handle? = none := by
  refine ⟨.elsewhere _ connected_driven, ⟨visit (.error (.foreign "slammed")), ?_, rfl⟩,
    .asked _ (.elsewhere _ (.created rehearsed_created)), by decide +kernel, by decide +kernel⟩
  exact ⟨⟨[], engineOptions rehearsed, rfl⟩, by simp [visit, Event.Creates]⟩

end Session

end SqlGateway
