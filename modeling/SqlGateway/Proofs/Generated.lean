import SqlGateway.Proofs.Lifetime

/-!
The identifiers that statements have generated, as the log of a session tells them. A session answers the last
one of all, and so that of its connection exactly if the connection has generated one or none was generated
before it.
-/

namespace SqlGateway

structure Generated where
  connection : Nat
  id : Int
  deriving DecidableEq, Repr

def idText : Option Generated → String
  | some generated => toString generated.id
  | none => "0"

def Outcome.identifier? (outcome : Outcome) : Option Int := outcome.lastRowId.filter (· ≠ 0)

def generatedOn (connection : Nat) : Except Failure Outcome → Option Generated
  | .ok outcome => outcome.identifier?.map fun id => ⟨connection, id⟩
  | .error _ => none

namespace Exchange

def generated? : Exchange → Option Generated
  | ⟨.execute connection _, answer⟩ => generatedOn connection (Session.fetched answer)
  | _ => none

/-- What a statement by itself ends with may be refused, and then the statement is not completed. -/
def refusesCommit : Exchange → Bool
  | ⟨.commit _, .error _⟩ => true
  | _ => false

end Exchange

/-- What the completed statements have generated, in order. -/
def generatedIn : List Exchange → List Generated
  | [] => []
  | exchange :: later =>
    (if later.head?.any Exchange.refusesCommit then none else exchange.generated?).toList ++ generatedIn later

theorem generatedIn_append (log more : List Exchange) (goesOn : more.head?.any Exchange.refusesCommit = false) :
    generatedIn (log ++ more) = generatedIn log ++ generatedIn more := by
  induction log with
  | nil => rfl
  | cons exchange later ih =>
    have next : (later ++ more).head?.any Exchange.refusesCommit = later.head?.any Exchange.refusesCommit := by
      cases later with
      | nil => exact goesOn
      | cons _ _ => rfl
    rw [List.cons_append, generatedIn, generatedIn, next, ih, List.append_assoc]

def Event.Silent : Event → Prop
  | .execute _ _ | .commit _ => False
  | _ => True

theorem Event.Silent.barren {exchange : Exchange} (silent : exchange.event.Silent) :
    exchange.refusesCommit = false ∧ exchange.generated? = none := by
  rcases exchange with ⟨event, answer⟩
  cases event with
  | execute _ _ | commit _ => exact silent.elim
  | createEngine _ | connect _ | begin _ | commitTransaction _ | rollbackTransaction _ | rollback _ | close _
  | dispose => exact ⟨rfl, rfl⟩

theorem barren_of_silent {more : List Exchange} (silent : ∀ exchange ∈ more, exchange.event.Silent) :
    more.head?.any Exchange.refusesCommit = false ∧ generatedIn more = [] := by
  induction more with
  | nil => exact ⟨rfl, rfl⟩
  | cons exchange later ih =>
    obtain ⟨here, rest⟩ := List.forall_mem_cons.mp silent
    refine ⟨here.barren.1, ?_⟩
    rw [generatedIn, here.barren.2, (ih rest).2]
    split <;> rfl

theorem idText_ne_zero {generated : Generated} (nonzero : generated.id ≠ 0) : idText (some generated) ≠ "0" := by
  obtain ⟨connection, id⟩ := generated
  intro same
  have chars := congrArg String.toList same
  cases id with
  | ofNat n =>
    have digits : (toString n).toList = ['0'] := chars
    rw [Nat.toString_eq_ofList_toDigits, String.toList_ofList] at digits
    refine nonzero (congrArg Int.ofNat ?_)
    rw [← Nat.ofDigitChars_ten_toDigits (n := n), digits]
    rfl
  | negSucc n =>
    have signed : ("-" ++ toString (n + 1)).toList = ['0'] := chars
    rw [String.toList_append] at signed
    cases (List.cons.inj signed).1

namespace Session

variable {σ : Type} {session final : Session σ}

/-- What is known of the identifiers in a session. The connection that it holds is the last that was opened,
so what was generated on it comes after all that was generated on others. -/
structure Generates (session : Session σ) : Prop where
  last : session.lastInsertId = idText (generatedIn session.log).getLast?
  nonzero : ∀ generated ∈ generatedIn session.log, generated.id ≠ 0
  numbered : ∀ generated ∈ generatedIn session.log, generated.connection < session.opened
  held : ∀ handle, session.handle? = some handle → handle.connection < session.opened ∧
    ∃ early late, generatedIn session.log = early ++ late ∧
      (∀ generated ∈ early, generated.connection ≠ handle.connection) ∧
      ∀ generated ∈ late, generated.connection = handle.connection

theorem Generates.barren (before : Generates session) (more : List Exchange)
    (split : final.log = session.log ++ more)
    (barren : more.head?.any Exchange.refusesCommit = false ∧ generatedIn more = [])
    (same : final.lastInsertId = session.lastInsertId) (opened : session.opened ≤ final.opened)
    (handle : ∀ handle, final.handle? = some handle →
      (∃ prior, session.handle? = some prior ∧ prior.connection = handle.connection) ∨
        handle.connection = session.opened ∧ session.opened < final.opened) : Generates final := by
  have kept : generatedIn final.log = generatedIn session.log := by
    rw [split, generatedIn_append _ _ barren.1, barren.2, List.append_nil]
  refine ⟨?_, ?_, fun generated member => ?_, fun current holds => ?_⟩
  · rw [same, kept]
    exact before.last
  · rw [kept]
    exact before.nonzero
  · rw [kept] at member
    exact Nat.lt_of_lt_of_le (before.numbered generated member) opened
  · rw [kept]
    rcases handle current holds with ⟨prior, held, number⟩ | ⟨number, more⟩
    · rw [← number]
      exact ⟨Nat.lt_of_lt_of_le (before.held prior held).1 opened, (before.held prior held).2⟩
    · refine ⟨number ▸ more, _, [], (List.append_nil _).symm, fun generated member => ?_, nofun⟩
      rw [number]
      exact Nat.ne_of_lt (before.numbered generated member)

theorem Ran.generated {statement : Statement} {handle : Handle} {exchanges : List Exchange}
    {result : Except Failure Outcome} (ran : Ran statement handle exchanges result) :
    exchanges.head?.any Exchange.refusesCommit = false ∧
      generatedIn exchanges = (generatedOn handle.connection result).toList := by
  cases ran with
  | joined answer inside =>
    simp [generatedIn, Exchange.refusesCommit, Exchange.generated?]
  | committed answer outside fetches | uncommitted answer fault outside fetches
  | failed answer outside fetches | undone answer outside fetches known
  | stuck answer fault outside fetches known =>
    simp [generatedIn, Exchange.refusesCommit, Exchange.generated?, generatedOn, fetches]

theorem notedId_eq (previous : String) (outcome : Outcome) :
    notedId previous outcome = (outcome.identifier?.map toString).getD previous := by
  unfold notedId Outcome.identifier?
  cases outcome.lastRowId with
  | none => rfl
  | some id => by_cases zero : id = 0 <;> simp [zero, Option.filter_some]

theorem Generates.snoc {handle : Handle} (before : Generates session) (held : session.handle? = some handle)
    {id : Int} (nonzero : id ≠ 0)
    (log : generatedIn final.log = generatedIn session.log ++ [⟨handle.connection, id⟩])
    (last : final.lastInsertId = toString id) (opened : final.opened = session.opened)
    (same : final.handle? = session.handle?) : Generates final := by
  obtain ⟨number, early, late, split, others, own⟩ := before.held handle held
  refine ⟨?_, ?_, ?_, fun current holds => ?_⟩
  · rw [last, log, List.getLast?_concat]
    rfl
  · rw [log]
    exact List.forall_mem_append.mpr ⟨before.nonzero, List.forall_mem_singleton.mpr nonzero⟩
  · rw [log, opened]
    exact List.forall_mem_append.mpr ⟨before.numbered, List.forall_mem_singleton.mpr number⟩
  · obtain rfl := Option.some.inj (holds.symm.trans (same.trans held))
    refine ⟨opened ▸ number, early, late ++ [⟨current.connection, id⟩], ?_, others, ?_⟩
    · rw [log, split, List.append_assoc]
    · exact List.forall_mem_append.mpr ⟨own, List.forall_mem_singleton.mpr rfl⟩

theorem Runs.generates {statement : Statement} {result : Except Failure Outcome}
    (runs : Runs statement session result final) (before : Generates session) : Generates final := by
  cases runs with
  | unconnected absent => exact before
  | @mk handle exchanges _ server held ran =>
    obtain ⟨goesOn, generated⟩ := ran.generated
    have unchanged (none : generatedOn handle.connection result = none)
        (same : (session.noting result).lastInsertId = session.lastInsertId) :
        Generates ((session.noting result).heard exchanges server) := by
      rw [none] at generated
      refine before.barren exchanges (by rw [heard_log, noting_log]) ⟨goesOn, generated⟩ same ?_ ?_
      · cases result <;> exact Nat.le_refl _
      · intro current holds
        exact .inl ⟨current, by cases result <;> exact holds, rfl⟩
    cases result with
    | error failure => exact unchanged rfl rfl
    | ok outcome =>
      cases found : outcome.identifier? with
      | none =>
        refine unchanged (by rw [generatedOn, found]; rfl) ?_
        simp only [noting, notedId_eq, found, Option.map_none, Option.getD_none]
      | some id =>
        have nonzero : id ≠ 0 := by simpa using (Option.filter_eq_some_iff.mp found).2
        refine before.snoc held nonzero ?_ ?_ rfl rfl
        · rw [heard_log, noting_log, generatedIn_append _ _ goesOn, generated, generatedOn, found]
          rfl
        · change notedId session.lastInsertId outcome = toString id
          rw [notedId_eq, found, Option.map_some, Option.getD_some]

theorem Generates.stays (before : Generates session) {more : List Exchange}
    (split : final.log = session.log ++ more) (silent : ∀ exchange ∈ more, exchange.event.Silent)
    (same : final.lastInsertId = session.lastInsertId) (opened : final.opened = session.opened)
    (living : final.living = session.living) : Generates final := by
  refine before.barren more split (barren_of_silent silent) same (Nat.le_of_eq opened.symm)
    fun current holds => .inl ?_
  exact Option.map_eq_some_iff.mp (living.symm.trans (living_of_held holds))

theorem Closes.generates {result : Except Failure Bool} (closes : Closes session result final)
    (before : Generates session) : Generates final := by
  cases closes with
  | @mk exchanges _ server torn =>
    refine before.barren exchanges rfl (barren_of_silent ?_) rfl (Nat.le_refl _) nofun
    cases torn <;> simp [Event.Silent]

theorem Opens.generates {result : Except Failure Unit} (opens : Opens session result final)
    (before : Generates session) : Generates final := by
  cases opens with
  | engineless fault server =>
    exact before.stays rfl (by simp [Event.Silent]) rfl rfl rfl
  | refused fault server =>
    exact before.stays rfl (by simp [Event.Silent]) rfl rfl rfl
  | opened server =>
    refine before.barren _ rfl (barren_of_silent (by simp [Event.Silent])) rfl
      (Nat.le_succ _) fun current holds => .inr ?_
    cases holds
    exact ⟨rfl, Nat.lt_succ_self _⟩

theorem Begins.generates {result : Except Failure Bool} (begins : Begins session result final)
    (before : Generates session) : Generates final := by
  cases begins with
  | unconnected absent => exact before
  | answered handle isOpen server held =>
    exact before.stays rfl (by simp [Event.Silent]) rfl rfl
      (living_withTransaction session isOpen)
  | refused handle fault server held =>
    exact before.stays rfl (by simp [Event.Silent]) rfl rfl rfl

theorem Commits.generates {result : Except Failure Bool} (commits : Commits session result final)
    (before : Generates session) : Generates final := by
  cases commits with
  | nothing idle => exact before
  | done connection server bracket =>
    exact before.stays rfl (by simp [Event.Silent]) rfl rfl
      (living_withTransaction session false)
  | refused connection fault server bracket =>
    exact before.stays rfl (by simp [Event.Silent]) rfl rfl rfl

theorem RollsBack.generates {result : Except Failure Bool} (rollsBack : RollsBack session result final)
    (before : Generates session) : Generates final := by
  cases rollsBack with
  | nothing idle => exact before
  | asked connection answer server bracket =>
    exact before.stays rfl (by simp [Event.Silent]) rfl rfl
      (living_withTransaction session false)

theorem Move.generates (move : Move session final) (before : Generates session) : Generates final := by
  cases move with
  | closed closes => exact closes.generates before
  | ran runs => exact runs.generates before
  | opened absent opens => exact opens.generates before
  | begun fresh begins => exact begins.generates before
  | committed commits => exact commits.generates before
  | rolledBack rollsBack => exact rollsBack.generates before
  | remembered prepared? catalog | redirected descriptor absent engine =>
    exact ⟨before.1, before.2, before.3, before.4⟩

def lastOn (connection : Nat) (log : List Exchange) : Option Generated :=
  ((generatedIn log).filter (·.connection = connection)).getLast?

theorem Generates.last_on {handle : Handle} (generates : Generates session)
    (held : session.handle? = some handle) :
    lastOn handle.connection session.log =
      if ∃ generated ∈ generatedIn session.log, generated.connection = handle.connection
      then (generatedIn session.log).getLast? else none := by
  obtain ⟨-, early, late, split, others, own⟩ := generates.held handle held
  have kept : (generatedIn session.log).filter (·.connection = handle.connection) = late := by
    rw [split, List.filter_append, List.filter_eq_nil_iff.mpr, List.filter_eq_self.mpr, List.nil_append]
    · simpa using own
    · simpa using others
  rw [Session.lastOn, kept]
  cases late using List.reverseRecOn with
  | nil =>
    rw [List.append_nil] at split
    rw [if_neg, List.getLast?_nil]
    rw [split]
    simpa using others
  | append_singleton front last ih =>
    rw [if_pos, split, ← List.append_assoc, List.getLast?_concat, List.getLast?_concat]
    exact ⟨last, by rw [split]; simp, own last (by simp)⟩

variable [Server σ]

theorem Driven.generates (driven : Driven session) : Generates session :=
  driven.invariant (fun _ _ _ _ => ⟨rfl, nofun, nofun, nofun⟩) Move.generates Begins.generates
    fun _ before => ⟨before.1, before.2, before.3, before.4⟩

/-- A session answers the last identifier of all. That is the last of the connection that it holds exactly if
one was generated on that connection, or none on any. -/
theorem lastInsertId_scoped_iff (session : Session σ) (driven : Driven session) :
    Call.lastInsertId.run session = .ok (.text (idText (generatedIn session.log).getLast?)) session ∧
    ∀ handle, session.handle? = some handle →
      (Call.lastInsertId.run session = .ok (.text (idText (lastOn handle.connection session.log))) session ↔
        (∃ generated ∈ generatedIn session.log, generated.connection = handle.connection) ∨
          generatedIn session.log = []) := by
  have generates := driven.generates
  have answers : Call.lastInsertId.run session =
      .ok (.text (idText (generatedIn session.log).getLast?)) session := by
    rw [← generates.last]
    rfl
  refine ⟨answers, fun handle held => ?_⟩
  rw [answers, generates.last_on held]
  split
  · next own => exact iff_of_true rfl (.inl own)
  · next others =>
    rw [or_iff_right others]
    constructor
    · intro same
      cases last : (generatedIn session.log).getLast? with
      | none => exact List.getLast?_eq_none_iff.mp last
      | some generated =>
        rw [last] at same
        injection same with text
        injection text with text
        exact absurd text (idText_ne_zero (generates.nonzero generated (List.mem_of_getLast? last)))
    · intro none
      rw [none, List.getLast?_nil]

def inserting : Session Script :=
  after (Request.call (.queryExecute "INSERT INTO t VALUES (1)" [] false)).run { rehearsed with
    server := rehearsed.server.change (.rules [⟨"INSERT", none, { lastRowId := some 7 }, 0⟩]) }

theorem inserting_driven : Driven inserting := .asked _ (.elsewhere _ (.created rehearsed_created))

theorem inserting_scoped : inserting.handle? = some ⟨0, false⟩ ∧
    Call.lastInsertId.run inserting = .ok (.text (idText (lastOn 0 inserting.log))) inserting := by
  have held : inserting.handle? = some ⟨0, false⟩ := by decide +kernel
  have own : ⟨0, 7⟩ ∈ generatedIn inserting.log := by decide +kernel
  exact ⟨held, ((lastInsertId_scoped_iff inserting inserting_driven).2 _ held).mpr (.inl ⟨_, own, rfl⟩)⟩

def reconnected : Session Script :=
  after (Request.call .connect).run (after (Request.call .close).run inserting)

/-- On the second connection nothing was generated, and still the session answers seven. -/
theorem reconnected_unscoped : Driven reconnected ∧ reconnected.handle? = some ⟨1, false⟩ ∧
    idText (lastOn 1 reconnected.log) = "0" ∧
    Call.lastInsertId.run reconnected = .ok (.text "7") reconnected := by
  have driven : Driven reconnected := .asked _ (.asked _ inserting_driven)
  have last : idText (generatedIn reconnected.log).getLast? = "7" := by decide +kernel
  have answers := driven.generates.last.trans last
  refine ⟨driven, by decide +kernel, by decide +kernel, ?_⟩
  rw [← answers]
  rfl

end Session

end SqlGateway
