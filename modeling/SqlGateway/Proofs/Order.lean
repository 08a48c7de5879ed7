import Mathlib.Data.List.Induction
import SqlGateway.Proofs.Bracket
import SqlGateway.Proofs.Lifetime

/-!
Where requests stand in the log of a session. A statement that is answered outside a transaction has its
commit directly after it, and nothing else is committed by itself; a transaction begins directly after the
session has connected, and is committed only while it is open. What was left open on a connection is
therefore committed later exactly if a statement is answered on that connection later.
-/

namespace SqlGateway

def Exchange.Answered (connection : Nat) : Exchange → Prop
  | ⟨.execute number _, answer⟩ =>
    number = connection ∧ ∃ outcome, Session.fetched answer = .ok outcome
  | _ => False

def Exchange.Committing (connection : Nat) : Exchange → Prop
  | ⟨.commit number, _⟩ | ⟨.commitTransaction number, _⟩ => number = connection
  | _ => False

def Exchange.Undoing (connection : Nat) : Exchange → Prop
  | ⟨.rollback number, .ok _⟩ | ⟨.rollbackTransaction number, .ok _⟩ => number = connection
  | _ => False

def Placed (before : List Exchange) (exchange : Exchange) (later : List Exchange) : Prop :=
  match exchange.event with
  | .execute connection _ => exchange.Answered connection →
    OpenIn connection before ∨ ∃ answer rest, later = ⟨.commit connection, answer⟩ :: rest
  | .commit connection => ∃ front last, before = front ++ [last] ∧ last.Answered connection
  | .begin connection => ∃ front last, before = front ++ [last] ∧
    (last = ⟨.connect connection, .ok ()⟩ ∨ last = ⟨.commit connection, .ok ()⟩)
  | .commitTransaction connection => OpenIn connection before
  | _ => True

/-- Every exchange is in its place after those that went before. -/
def Ordered : List Exchange → List Exchange → Prop
  | _, [] => True
  | before, exchange :: later => Placed before exchange later ∧ Ordered (before ++ [exchange]) later

theorem Placed.append {before later : List Exchange} {exchange : Exchange}
    (placed : Placed before exchange later) (more : List Exchange) :
    Placed before exchange (later ++ more) := by
  unfold Placed at placed ⊢
  split at placed
  · intro answered
    rcases placed answered with isOpen | ⟨answer, rest, rfl⟩
    · exact .inl isOpen
    · exact .inr ⟨answer, rest ++ more, rfl⟩
  all_goals exact placed

theorem Ordered.append {before first second : List Exchange} (early : Ordered before first)
    (late : Ordered (before ++ first) second) : Ordered before (first ++ second) := by
  induction first generalizing before with
  | nil => rwa [List.append_nil] at late
  | cons head tail ih =>
    obtain ⟨placed, ordered⟩ := early
    refine ⟨placed.append second, ih ordered ?_⟩
    rwa [List.append_assoc, List.singleton_append]

theorem Ordered.placed {start before later log : List Exchange} {exchange : Exchange}
    (ordered : Ordered start log) (split : log = before ++ exchange :: later) :
    Placed (start ++ before) exchange later := by
  subst split
  induction before generalizing start with
  | nil =>
    rw [List.append_nil]
    exact ordered.1
  | cons head tail ih =>
    have rest := ih ordered.2
    rwa [List.append_assoc, List.singleton_append] at rest

/-- No exchange of the kind comes before a rollback. -/
def Withheld (connection : Nat) (kind : Exchange → Prop) (exchanges : List Exchange) : Prop :=
  Throughout (fun before exchange => kind exchange → ∃ undone ∈ before, undone.Undoing connection)
    exchanges

theorem withheld_cons {connection : Nat} {kind : Exchange → Prop} {head : Exchange}
    {tail : List Exchange} :
    Withheld connection kind (head :: tail) ↔
      ¬ kind head ∧ (head.Undoing connection ∨ Withheld connection kind tail) := by
  constructor
  · intro withheld
    refine ⟨fun here => ?_, ?_⟩
    · obtain ⟨undone, member, _⟩ := withheld [] head tail rfl here
      exact List.not_mem_nil member
    · by_cases undoes : head.Undoing connection
      · exact .inl undoes
      · refine .inr fun before exchange later split here => ?_
        obtain ⟨undone, member, accepted⟩ :=
          withheld (head :: before) exchange later (congrArg (head :: ·) split) here
        rcases List.mem_cons.mp member with rfl | earlier
        · exact absurd accepted undoes
        · exact ⟨undone, earlier, accepted⟩
  · rintro ⟨apart, either⟩ before exchange later split here
    cases before with
    | nil =>
      obtain ⟨rfl, _⟩ := List.cons.inj split
      exact absurd here apart
    | cons first before =>
      obtain ⟨rfl, rest⟩ := List.cons.inj split
      rcases either with undoes | withheld
      · exact ⟨head, List.mem_cons_self, undoes⟩
      · obtain ⟨undone, member, accepted⟩ := withheld before exchange later rest here
        exact ⟨undone, List.mem_cons_of_mem head member, accepted⟩

instance (connection : Nat) : DecidablePred (Exchange.Committing connection)
  | ⟨.commit number, _⟩ | ⟨.commitTransaction number, _⟩ =>
    inferInstanceAs (Decidable (number = connection))
  | ⟨.createEngine _, _⟩ | ⟨.connect _, _⟩ | ⟨.execute _ _, _⟩ | ⟨.begin _, _⟩
  | ⟨.rollbackTransaction _, _⟩ | ⟨.rollback _, _⟩ | ⟨.close _, _⟩ | ⟨.dispose, _⟩ => isFalse id

instance (connection : Nat) : DecidablePred (Exchange.Undoing connection)
  | ⟨.rollback number, .ok _⟩ | ⟨.rollbackTransaction number, .ok _⟩ =>
    inferInstanceAs (Decidable (number = connection))
  | ⟨.rollback _, .error _⟩ | ⟨.rollbackTransaction _, .error _⟩ | ⟨.createEngine _, _⟩
  | ⟨.connect _, _⟩ | ⟨.execute _ _, _⟩ | ⟨.begin _, _⟩ | ⟨.commitTransaction _, _⟩ | ⟨.commit _, _⟩
  | ⟨.close _, _⟩ | ⟨.dispose, _⟩ => isFalse id

instance decidableWithheld (connection : Nat) (kind : Exchange → Prop) [DecidablePred kind] :
    DecidablePred (Withheld connection kind)
  | [] => isTrue (throughout_nil _)
  | head :: tail =>
    have := decidableWithheld connection kind tail
    decidable_of_iff (¬ kind head ∧ (head.Undoing connection ∨ Withheld connection kind tail))
      withheld_cons.symm

/-- The log up to a point where the connection is out of any transaction and nothing is under way on it. -/
structure AtRest (connection : Nat) (front : List Exchange) : Prop where
  opened : OpenedIn connection front
  idle : ¬ OpenIn connection front
  last : ∀ {before last}, front = before ++ [last] → ¬ last.Answered connection ∧
    last ≠ ⟨.connect connection, .ok ()⟩ ∧ last ≠ ⟨.commit connection, .ok ()⟩

section

variable {connection : Nat} {front later : List Exchange}

theorem atRest_snoc {last : Exchange} (opened : OpenedIn connection front)
    (ended : OpenIn connection front → last.Ending connection) (unopening : last ≠ .opening connection)
    (quiet : ¬ last.Answered connection ∧ last ≠ ⟨.connect connection, .ok ()⟩ ∧
      last ≠ ⟨.commit connection, .ok ()⟩) : AtRest connection (front ++ [last]) where
  opened := List.mem_append_left [last] opened
  idle := by
    rw [openIn_snoc, or_iff_right unopening]
    rintro ⟨isOpen, unended⟩
    exact unended (ended isOpen)
  last same := by
    obtain ⟨_, ends⟩ := List.append_inj' same rfl
    obtain rfl := List.singleton_inj.mp ends
    exact quiet

theorem opened_of_openIn {before : List Exchange} (idle : ¬ OpenIn connection front)
    (isOpen : OpenIn connection (front ++ before)) :
    ∃ early inside, before = early ++ .opening connection :: inside := by
  induction before using List.reverseRecOn with
  | nil =>
    rw [List.append_nil] at isOpen
    exact absurd isOpen idle
  | append_singleton early last ih =>
    rw [← List.append_assoc, openIn_snoc] at isOpen
    rcases isOpen with rfl | ⟨earlier, _⟩
    · exact ⟨early, [], rfl⟩
    · obtain ⟨first, inside, rfl⟩ := ih earlier
      exact ⟨first, inside ++ [last], by rw [List.append_assoc, List.cons_append]⟩

theorem eq_append_of_snoc {before first : List Exchange} {last : Exchange}
    (split : front ++ before = first ++ [last]) (apart : ∀ first, front ≠ first ++ [last]) :
    ∃ early, before = early ++ [last] ∧ first = front ++ early := by
  rcases List.eq_nil_or_concat before with rfl | ⟨early, final, rfl⟩
  · rw [List.append_nil] at split
    exact absurd split (apart first)
  · rw [List.concat_eq_append, ← List.append_assoc] at split
    obtain ⟨rfl, same⟩ := List.append_inj' split rfl
    obtain rfl := List.singleton_inj.mp same
    exact ⟨early, List.concat_eq_append, rfl⟩

namespace AtRest

variable (rest : AtRest connection front) (ordered : Ordered [] (front ++ later))
  (timely : Throughout (fun before exchange => exchange.event.Timely before) (front ++ later))

include rest ordered

theorem answered_of_commit {before after : List Exchange} {answer : Except Fault Unit}
    (split : later = before ++ ⟨.commit connection, answer⟩ :: after) :
    ∃ early answered, before = early ++ [answered] ∧ answered.Answered connection := by
  have whole : front ++ later = (front ++ before) ++ ⟨.commit connection, answer⟩ :: after := by
    rw [split, List.append_assoc]
  obtain ⟨first, last, ends, answered⟩ := ordered.placed whole
  rw [List.nil_append] at ends
  obtain ⟨early, same, _⟩ := eq_append_of_snoc ends fun first same => (rest.last same).1 answered
  exact ⟨early, last, same, answered⟩

include timely

theorem committed_of_openIn {before after : List Exchange} (split : later = before ++ after)
    (isOpen : OpenIn connection (front ++ before)) :
    ∃ early middle, before = early ++ ⟨.commit connection, .ok ()⟩ :: middle := by
  obtain ⟨early, inside, rfl⟩ := opened_of_openIn rest.idle isOpen
  have whole : front ++ later = (front ++ early) ++ .opening connection :: (inside ++ after) := by
    rw [split, List.append_assoc, List.append_assoc, List.cons_append]
  obtain ⟨first, last, ends, either⟩ := ordered.placed whole
  rw [List.nil_append] at ends
  have apart (first : List Exchange) : front ≠ first ++ [last] := by
    intro same
    rcases either with rfl | rfl
    · exact (rest.last same).2.1 rfl
    · exact (rest.last same).2.2 rfl
  obtain ⟨earlier, rfl, rfl⟩ := eq_append_of_snoc ends apart
  rcases either with rfl | rfl
  · have reopened : front ++ later =
        (front ++ earlier) ++ ⟨.connect connection, .ok ()⟩ ::
          (.opening connection :: (inside ++ after)) := by
      rw [whole]
      simp only [List.append_assoc, List.singleton_append]
    have numbered := (timely _ _ _ reopened).2 connection
    have opened : OpenedIn connection (front ++ earlier) :=
      List.mem_append_left earlier rest.opened
    exact absurd (numbered.mp opened) (Nat.lt_irrefl connection)
  · refine ⟨earlier, .opening connection :: inside, ?_⟩
    rw [List.append_assoc, List.singleton_append]

theorem answered_of_committing {before after : List Exchange} {exchange : Exchange}
    (split : later = before ++ exchange :: after) (commits : exchange.Committing connection) :
    ∃ early answered middle, before = early ++ answered :: middle ∧ answered.Answered connection := by
  obtain ⟨event, answer⟩ := exchange
  cases event with
  | commit number =>
    obtain rfl : number = connection := commits
    obtain ⟨early, answered, same, here⟩ := rest.answered_of_commit ordered split
    exact ⟨early, answered, [], same, here⟩
  | commitTransaction number =>
    obtain rfl : number = connection := commits
    have whole : front ++ later = (front ++ before) ++ ⟨.commitTransaction number, answer⟩ :: after := by
      rw [split, List.append_assoc]
    have isOpen : OpenIn number ([] ++ (front ++ before)) := ordered.placed whole
    obtain ⟨first, second, rfl⟩ := rest.committed_of_openIn ordered timely split isOpen
    rw [List.append_assoc, List.cons_append] at split
    obtain ⟨early, answered, rfl, here⟩ := rest.answered_of_commit ordered split
    refine ⟨early, answered, ⟨.commit number, .ok ()⟩ :: second, ?_, here⟩
    rw [List.append_assoc, List.singleton_append]
  | createEngine _ | connect _ | execute _ _ | begin _ | rollbackTransaction _ | rollback _ | close _
  | dispose => exact commits.elim

theorem answered_withheld (withheld : Withheld connection (·.Committing connection) later) :
    Withheld connection (·.Answered connection) later := by
  intro before exchange after split answered
  obtain ⟨event, answer⟩ := exchange
  cases event with
  | execute number sent =>
    obtain ⟨rfl, _⟩ := id answered
    have whole : front ++ later = (front ++ before) ++ ⟨.execute number sent, answer⟩ :: after := by
      rw [split, List.append_assoc]
    rcases ordered.placed whole answered with isOpen | ⟨commit, others, rfl⟩
    · obtain ⟨early, middle, rfl⟩ := rest.committed_of_openIn ordered timely split isOpen
      rw [List.append_assoc, List.cons_append] at split
      obtain ⟨undone, member, undoes⟩ := withheld early _ _ split rfl
      exact ⟨undone, List.mem_append_left _ member, undoes⟩
    · rw [← List.singleton_append, ← List.append_assoc] at split
      obtain ⟨undone, member, undoes⟩ := withheld _ _ others split rfl
      rcases List.mem_append.mp member with member | member
      · exact ⟨undone, member, undoes⟩
      · obtain rfl := List.mem_singleton.mp member
        exact undoes.elim
  | createEngine _ | connect _ | begin _ | commitTransaction _ | rollbackTransaction _ | commit _
  | rollback _ | close _ | dispose => exact answered.elim

theorem committing_withheld (withheld : Withheld connection (·.Answered connection) later) :
    Withheld connection (·.Committing connection) later := by
  intro before exchange after split commits
  obtain ⟨early, answered, middle, rfl, here⟩ :=
    rest.answered_of_committing ordered timely split commits
  rw [List.append_assoc, List.cons_append] at split
  obtain ⟨undone, member, undoes⟩ := withheld early answered _ split here
  exact ⟨undone, List.mem_append_left _ member, undoes⟩

/-- What was left open is committed later exactly if a statement is answered later, where neither counts
once a rollback was carried out. -/
theorem withheld_iff : Withheld connection (·.Committing connection) later ↔
    Withheld connection (·.Answered connection) later :=
  ⟨rest.answered_withheld ordered timely, rest.committing_withheld ordered timely⟩

end AtRest

end

namespace Session

variable {σ : Type} {session final : Session σ}

theorem Teardown.ordered {exchanges : List Exchange} {result : Except Failure Bool}
    (torn : Teardown session exchanges result) (before : List Exchange) : Ordered before exchanges := by
  cases torn <;> simp [Ordered, Placed]

theorem not_answered {connection : Nat} {sent : Sent} {answer : Except Fault Reply} {failure : Failure}
    (refused : fetched answer = .error failure) :
    ¬ Exchange.Answered connection ⟨.execute connection sent, answer⟩ := by
  rintro ⟨_, outcome, fetches⟩
  cases fetches.symm.trans refused

theorem Ran.ordered {statement : Statement} {handle : Handle} {exchanges : List Exchange}
    {result : Except Failure Outcome} (ran : Ran statement handle exchanges result)
    (held : session.handle? = some handle) (before : WellBracketed session) :
    Ordered session.log exchanges := by
  cases ran with
  | joined answer inside =>
    have bracket : bracketed? session = some handle.connection :=
      (bracketed_iff session handle.connection).mpr (by rw [held, ← inside])
    exact ⟨fun _ => .inl ((before.isOpen handle.connection).mpr bracket), trivial⟩
  | committed answer outside fetches =>
    exact ⟨fun _ => .inr ⟨_, _, rfl⟩, ⟨_, _, rfl, rfl, _, fetches⟩, trivial⟩
  | uncommitted answer fault outside fetches =>
    exact ⟨fun _ => .inr ⟨_, _, rfl⟩, ⟨_, _, rfl, rfl, _, fetches⟩, trivial⟩
  | failed answer outside refused =>
    exact ⟨fun answered => absurd answered (not_answered refused), trivial⟩
  | undone answer outside refused known | stuck answer fault outside refused known =>
    exact ⟨fun answered => absurd answered (not_answered refused), trivial, trivial⟩

theorem Begins.ordered {connection : Nat} {result : Except Failure Bool}
    (begins : Begins session result final) (fresh : Fresh connection session)
    (before : Ordered [] session.log) : Ordered [] final.log := by
  cases begins with
  | unconnected absent => exact before
  | answered handle isOpen server held =>
    obtain rfl := Option.some.inj (held.symm.trans fresh.held)
    exact before.append ⟨fresh.last, trivial⟩
  | refused handle fault server held =>
    obtain rfl := Option.some.inj (held.symm.trans fresh.held)
    exact before.append ⟨fresh.last, trivial⟩

theorem Commits.ordered {result : Except Failure Bool} (commits : Commits session result final)
    (bracketing : WellBracketed session) (before : Ordered [] session.log) :
    Ordered [] final.log := by
  cases commits with
  | nothing idle => exact before
  | done connection server bracket | refused connection fault server bracket =>
    exact before.append ⟨(bracketing.isOpen connection).mpr bracket, trivial⟩

theorem Move.ordered (move : Move session final) (bracketing : WellBracketed session)
    (before : Ordered [] session.log) : Ordered [] final.log := by
  cases move with
  | closed closes =>
    cases closes with
    | mk server torn => exact before.append (torn.ordered _)
  | ran runs =>
    cases runs with
    | unconnected absent => exact before
    | @mk handle exchanges result server held ran =>
      rw [heard_log, noting_log]
      exact before.append (ran.ordered held bracketing)
  | opened absent opens =>
    cases opens with
    | engineless fault server => exact before.append ⟨trivial, trivial⟩
    | refused fault server | opened server => exact before.append ⟨trivial, trivial, trivial⟩
  | begun fresh begins => exact begins.ordered fresh before
  | committed commits => exact commits.ordered bracketing before
  | rolledBack rollsBack =>
    cases rollsBack with
    | nothing idle => exact before
    | asked connection answer server bracket => exact before.append ⟨trivial, trivial⟩
  | remembered prepared? catalog => exact before
  | redirected descriptor absent engine => exact before

structure WellOrdered (session : Session σ) : Prop where
  bracketing : WellBracketed session
  ordered : Ordered [] session.log

theorem Move.wellOrdered (move : Move session final) (before : WellOrdered session) :
    WellOrdered final :=
  ⟨move.bracketing before.bracketing, move.ordered before.bracketing before.ordered⟩

variable [Server σ]

theorem Reachable.wellOrdered (reachable : Reachable session) : WellOrdered session :=
  reachable.invariant (fun _ _ _ _ => ⟨.nil, trivial⟩) Move.wellOrdered
    fun _ here => ⟨here.bracketing, here.ordered⟩

theorem Reachable.timely (reachable : Reachable session) :
    Throughout (fun before exchange => exchange.event.Timely before) session.log := by
  have lived : Lived session := reachable.invariant (fun _ _ _ _ => .nil) Move.lived fun _ here => here
  exact lived.timely

end Session

end SqlGateway
