import SqlGateway.Proofs.Adding
import SqlGateway.Proofs.Reach

/-!
Explicit transactions in the log of a session. A transaction is a bracket from the request that began
it to the request that ended it; nothing inside it opens another one, reconnects, commits a statement
by itself or runs one on another connection, and a session is inside exactly the bracket that is open.
-/

namespace SqlGateway

/-- The requests that end the transaction of a connection. A commit only does so if it succeeds. -/
def Exchange.Ending (connection : Nat) : Exchange → Prop
  | ⟨.commitTransaction number, answer⟩ => number = connection ∧ answer = .ok ()
  | ⟨.rollbackTransaction number, _⟩ => number = connection
  | ⟨.close number, _⟩ => number = connection
  | _ => False

/-- What may be asked while a connection is inside its transaction. -/
def Event.Allowed (connection : Nat) : Event → Prop
  | .connect _ | .begin _ => False
  | .commit number | .rollback number => number ≠ connection
  | .execute number _ => number = connection
  | _ => True

def Exchange.opening (connection : Nat) : Exchange := ⟨.begin connection, .ok true⟩

/-- A transaction began and has not ended since. -/
def OpenIn (connection : Nat) (log : List Exchange) : Prop :=
  ∃ before inside, log = before ++ .opening connection :: inside ∧
    ∀ exchange ∈ inside, ¬ exchange.Ending connection

def Bracketed (log : List Exchange) : Prop :=
  ∀ before exchange later, log = before ++ exchange :: later →
    ∀ connection, OpenIn connection before → exchange.event.Allowed connection

theorem opening_not_ending (number connection : Nat) :
    ¬ (Exchange.opening number).Ending connection := id

theorem not_openIn_nil (connection : Nat) : ¬ OpenIn connection [] := by
  intro isOpen
  obtain ⟨before, inside, split, _⟩ := isOpen
  exact List.append_ne_nil_of_right_ne_nil before (List.cons_ne_nil _ inside) split.symm

theorem bracketed_nil : Bracketed [] :=
  throughout_nil fun before exchange => ∀ connection, OpenIn connection before →
    exchange.event.Allowed connection

theorem openIn_snoc (connection : Nat) (log : List Exchange) (last : Exchange) :
    OpenIn connection (log ++ [last]) ↔
      last = .opening connection ∨ OpenIn connection log ∧ ¬ last.Ending connection := by
  constructor
  · intro isOpen
    obtain ⟨before, inside, split, quiet⟩ := isOpen
    rcases List.eq_nil_or_concat inside with rfl | ⟨front, final, rfl⟩
    · exact .inl (List.singleton_inj.mp (List.append_inj' split rfl).2)
    · rw [List.concat_eq_append, ← List.cons_append, ← List.append_assoc] at split
      obtain ⟨rfl, same⟩ := List.append_inj' split rfl
      obtain rfl := List.singleton_inj.mp same
      refine .inr ⟨⟨before, front, rfl, fun exchange member => ?_⟩, ?_⟩
      · exact quiet exchange (by simp [member])
      · exact quiet last (by simp)
  · intro isOpen
    rcases isOpen with rfl | ⟨⟨before, inside, rfl, quiet⟩, unended⟩
    · exact ⟨log, [], rfl, fun _ member => absurd member List.not_mem_nil⟩
    · refine ⟨before, inside ++ [last], by simp, fun exchange member => ?_⟩
      rcases List.mem_append.mp member with member | member
      · exact quiet exchange member
      · rwa [List.mem_singleton.mp member]

theorem bracketed_snoc {log : List Exchange} {last : Exchange} (bracketed : Bracketed log)
    (allowed : ∀ connection, OpenIn connection log → last.event.Allowed connection) :
    Bracketed (log ++ [last]) :=
  throughout_snoc bracketed allowed

/-- The log is bracketed and the bracket that is open, if any, is the given one. -/
structure Bracketing (bracket : Option Nat) (log : List Exchange) : Prop where
  isOpen (connection : Nat) : OpenIn connection log ↔ bracket = some connection
  bracketed : Bracketed log

namespace Bracketing

variable {bracket : Option Nat} {log : List Exchange}

theorem nil : Bracketing none [] where
  isOpen connection := iff_of_false (not_openIn_nil connection) nofun
  bracketed := bracketed_nil

theorem append (before : Bracketing bracket log) (exchanges : List Exchange)
    (unopening : ∀ exchange ∈ exchanges, ∀ connection, exchange ≠ .opening connection)
    (inside : ∀ exchange ∈ exchanges, ∀ connection, bracket = some connection →
      exchange.event.Allowed connection ∧ ¬ exchange.Ending connection) :
    Bracketing bracket (log ++ exchanges) := by
  induction exchanges generalizing log with
  | nil => rwa [List.append_nil]
  | cons head tail ih =>
    rw [← List.singleton_append, ← List.append_assoc]
    refine ih ⟨fun connection => ?_, ?_⟩ (fun exchange member => ?_) fun exchange member => ?_
    · have here := inside head List.mem_cons_self connection
      have other := unopening head List.mem_cons_self connection
      rw [openIn_snoc, before.isOpen, or_iff_right other]
      exact ⟨And.left, fun same => ⟨same, (here same).2⟩⟩
    · refine bracketed_snoc before.bracketed fun connection isOpen => ?_
      exact (inside head List.mem_cons_self connection ((before.isOpen connection).mp isOpen)).1
    · exact unopening exchange (List.mem_cons_of_mem head member)
    · exact inside exchange (List.mem_cons_of_mem head member)

theorem idle (before : Bracketing none log) (exchanges : List Exchange)
    (unopening : ∀ exchange ∈ exchanges, ∀ connection, exchange ≠ .opening connection) :
    Bracketing none (log ++ exchanges) :=
  before.append exchanges unopening fun _ _ _ inside => nomatch inside

theorem begun (before : Bracketing none log) (connection : Nat) :
    Bracketing (some connection) (log ++ [.opening connection]) where
  isOpen number := by
    have unopened : ¬ OpenIn number log := fun isOpen => nomatch (before.isOpen number).mp isOpen
    rw [openIn_snoc, or_iff_left fun both => unopened both.1, Exchange.opening, Exchange.opening]
    constructor
    · intro same
      cases same
      rfl
    · intro same
      cases same
      rfl
  bracketed := bracketed_snoc before.bracketed fun number isOpen =>
    nomatch (before.isOpen number).mp isOpen

theorem ended {connection : Nat} {last : Exchange} (before : Bracketing (some connection) log)
    (ending : last.Ending connection) (allowed : last.event.Allowed connection) :
    Bracketing none (log ++ [last]) where
  isOpen number := by
    rw [openIn_snoc, before.isOpen]
    refine iff_of_false ?_ nofun
    intro isOpen
    rcases isOpen with rfl | ⟨same, unended⟩
    · exact opening_not_ending number connection ending
    · exact unended (Option.some.inj same ▸ ending)
  bracketed := by
    refine bracketed_snoc before.bracketed fun number isOpen => ?_
    rwa [← Option.some.inj ((before.isOpen number).mp isOpen)]

end Bracketing

namespace Session

variable {σ : Type} {session final : Session σ}

def WellBracketed (session : Session σ) : Prop := Bracketing (bracketed? session) session.log

theorem Teardown.bracketing {exchanges : List Exchange} {result : Except Failure Bool}
    (torn : Teardown session exchanges result)
    (before : Bracketing (bracketed? session) session.log) :
    Bracketing none (session.log ++ exchanges) := by
  have idle (held : session.handle? = none) : Bracketing none (session.log ++ []) := by
    rw [bracketed?, held] at before
    rwa [List.append_nil]
  have closed (handle : Handle) (answer : Except Fault Unit) (held : session.handle? = some handle) :
      Bracketing none (session.log ++ [⟨.close handle.connection, answer⟩]) := by
    cases inside : handle.inTransaction with
    | true =>
      rw [(bracketed_iff session handle.connection).mpr (by rw [held, ← inside])] at before
      exact before.ended rfl trivial
    | false =>
      rw [bracketed?, held, Option.filter_some_neg inside] at before
      exact before.idle _ (by simp [Exchange.opening])
  have disposed {exchanges : List Exchange} (answer : Except Fault Unit)
      (gone : Bracketing none (session.log ++ exchanges)) :
      Bracketing none (session.log ++ (exchanges ++ [⟨.dispose, answer⟩])) := by
    rw [← List.append_assoc]
    exact gone.idle _ (by simp [Exchange.opening])
  cases torn with
  | nothing held engine => exact idle held
  | disposed answer held engine => exact disposed answer (idle held)
  | closed handle answer held engine known => exact closed handle answer held
  | both handle answer disposal held engine known => exact disposed disposal (closed handle answer held)
  | cut handle fault held unknown => exact closed handle (.error fault) held

theorem Closes.bracketing {result : Except Failure Bool} (closes : Closes session result final)
    (before : WellBracketed session) : WellBracketed final := by
  cases closes with
  | mk server torn => exact torn.bracketing before

theorem Ran.bracketing {statement : Statement} {handle : Handle} {exchanges : List Exchange}
    {result : Except Failure Outcome} (ran : Ran statement handle exchanges result)
    (held : session.handle? = some handle) (before : WellBracketed session) :
    Bracketing (bracketed? session) (session.log ++ exchanges) := by
  have unopening : ∀ exchange ∈ exchanges, ∀ connection, exchange ≠ .opening connection := by
    intro exchange member connection same
    subst same
    cases ran <;> simp [Exchange.opening] at member
  refine before.append exchanges unopening fun exchange member connection bracket => ?_
  rw [bracketed_iff, held] at bracket
  obtain rfl := Option.some.inj bracket
  cases ran with
  | joined answer inside =>
    rw [List.mem_singleton.mp member]
    exact ⟨rfl, id⟩
  | committed _ outside | uncommitted _ _ outside | failed _ outside | undone _ outside
  | stuck _ _ outside => cases outside

theorem Runs.bracketing {statement : Statement} {result : Except Failure Outcome}
    (runs : Runs statement session result final) (before : WellBracketed session) :
    WellBracketed final := by
  unfold WellBracketed
  rw [bracketed_congr runs.handle]
  cases runs with
  | unconnected held => exact before
  | mk handle server held ran =>
    have kept := ran.bracketing held before
    cases result <;> exact kept

theorem Opens.bracketing {result : Except Failure Unit} (opens : Opens session result final)
    (absent : session.handle? = none) (before : WellBracketed session) : WellBracketed final := by
  have idle : bracketed? session = none := by
    rw [bracketed?, absent]
    rfl
  unfold WellBracketed at before ⊢
  rw [idle] at before
  rw [opens.idle idle]
  cases opens with
  | engineless fault server => exact before.idle _ (by simp [Exchange.opening])
  | refused fault server => exact before.idle _ (by simp [Exchange.opening])
  | opened server => exact before.idle _ (by simp [Exchange.opening])

theorem bracketed_withTransaction {connection : Nat} {isOpen : Bool} {handle : Handle}
    (held : session.handle? = some handle) (same : handle.connection = connection) :
    bracketed? (session.withTransaction isOpen) = if isOpen = true then some connection else none := by
  rw [bracketed?, withTransaction, held]
  cases isOpen with
  | true => exact congrArg some same
  | false => rfl

theorem Begins.bracketing {result : Except Failure Bool} (begins : Begins session result final)
    (idle : bracketed? session = none) (before : WellBracketed session) : WellBracketed final := by
  cases begins with
  | unconnected held => exact before
  | answered handle isOpen server held =>
    unfold WellBracketed at before ⊢
    rw [idle] at before
    rw [heard_bracketed, bracketed_withTransaction held rfl]
    cases isOpen with
    | true => exact before.begun handle.connection
    | false => exact before.idle _ (by simp [Exchange.opening])
  | refused handle fault server held =>
    unfold WellBracketed at before ⊢
    rw [idle] at before
    rw [heard_bracketed, idle]
    exact before.idle _ (by simp [Exchange.opening])

theorem bracketed_ended {connection : Nat} (bracket : bracketed? session = some connection) :
    bracketed? (session.withTransaction false) = none := by
  rw [bracketed_withTransaction ((bracketed_iff session connection).mp bracket) rfl]
  rfl

theorem Commits.bracketing {result : Except Failure Bool} (commits : Commits session result final)
    (before : WellBracketed session) : WellBracketed final := by
  cases commits with
  | nothing idle => exact before
  | done connection server bracket =>
    unfold WellBracketed at before ⊢
    rw [heard_bracketed, bracketed_ended bracket]
    rw [bracket] at before
    exact before.ended ⟨rfl, rfl⟩ trivial
  | refused connection fault server bracket =>
    unfold WellBracketed at before ⊢
    rw [heard_bracketed]
    refine before.append _ (by simp [Exchange.opening]) ?_
    intro exchange member number inside
    rw [List.mem_singleton.mp member]
    exact ⟨trivial, fun ending => nomatch ending.2⟩

theorem RollsBack.bracketing {result : Except Failure Bool} (rollsBack : RollsBack session result final)
    (before : WellBracketed session) : WellBracketed final := by
  cases rollsBack with
  | nothing idle => exact before
  | asked connection answer server bracket =>
    unfold WellBracketed at before ⊢
    rw [heard_bracketed, bracketed_ended bracket]
    rw [bracket] at before
    exact before.ended rfl trivial

theorem Move.bracketing (move : Move session final) (before : WellBracketed session) :
    WellBracketed final := by
  cases move with
  | closed closes => exact closes.bracketing before
  | ran runs => exact runs.bracketing before
  | opened absent opens => exact opens.bracketing absent before
  | begun fresh begins => exact begins.bracketing fresh.idle before
  | committed commits => exact commits.bracketing before
  | rolledBack rollsBack => exact rollsBack.bracketing before
  | remembered prepared? catalog => exact before
  | redirected descriptor absent engine => exact before

theorem Moves.bracketing (moves : Moves session final) (before : WellBracketed session) :
    WellBracketed final :=
  Moves.invariant moves Move.bracketing before

variable [Server σ]

theorem Reachable.bracketing (reachable : Reachable session) : WellBracketed session :=
  reachable.invariant (fun _ _ _ _ => .nil) Move.bracketing fun _ here => here

/-- Over a whole run of calls, whatever the server answers: what is asked inside an explicit transaction
is allowed there, and a session is in a transaction exactly while its bracket is open. -/
theorem reachable_brackets (session : Session σ) (reachable : Reachable session) :
    Bracketed session.log ∧
      (∀ connection, OpenIn connection session.log ↔ session.handle? = some ⟨connection, true⟩) ∧
      (session.inTransaction = true ↔ ∃ connection, OpenIn connection session.log) ∧
      (session.inTransaction = true → session.handle?.isSome = true) := by
  have bracketing := reachable.bracketing
  refine ⟨bracketing.bracketed, fun connection => ?_, ?_, fun inside => ?_⟩
  · rw [bracketing.isOpen, bracketed_iff]
  · rw [inTransaction_eq, Option.isSome_iff_exists]
    exact exists_congr fun connection => (bracketing.isOpen connection).symm
  · rw [inTransaction_eq, Option.isSome_iff_exists] at inside
    obtain ⟨connection, bracket⟩ := inside
    rw [(bracketed_iff session connection).mp bracket]
    rfl

theorem rehearsed_brackets :
    Reachable rehearsedInside ∧ rehearsedInside.inTransaction = true ∧
      Bracketed rehearsedInside.log ∧ OpenIn 0 rehearsedInside.log := by
  have brackets := reachable_brackets rehearsedInside rehearsedInside_reachable
  have held := (bracketed_iff rehearsedInside 0).mp rehearsedInside_bracketed
  have isOpen := (brackets.2.1 0).mpr held
  exact ⟨rehearsedInside_reachable, brackets.2.2.1.mpr ⟨0, isOpen⟩, brackets.1, isOpen⟩

end Session

end SqlGateway
