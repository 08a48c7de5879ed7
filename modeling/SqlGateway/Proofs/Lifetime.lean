import Mathlib.Logic.ExistsUnique
import SqlGateway.Proofs.Adding
import SqlGateway.Proofs.Parts

/-!
Lifetimes of connections in the log of a session. A connection is opened once, after all that were opened
before it have been closed; it is worked on only in its lifetime and closed at most once, and the
connection that a session holds is the one that lives.
-/

namespace SqlGateway

def OpenedIn (connection : Nat) (log : List Exchange) : Prop := ⟨.connect connection, .ok ()⟩ ∈ log

def ClosedIn (connection : Nat) (log : List Exchange) : Prop :=
  ∃ answer, ⟨.close connection, answer⟩ ∈ log

def LivesIn (connection : Nat) (log : List Exchange) : Prop :=
  OpenedIn connection log ∧ ¬ ClosedIn connection log

def Event.WorksOn (connection : Nat) : Event → Prop
  | .execute number _ | .begin number | .commitTransaction number | .rollbackTransaction number
  | .commit number | .rollback number => number = connection
  | _ => False

/-- One connection at a time. -/
structure SingleFile (log : List Exchange) : Prop where
  succession {before later : List Exchange} {connection : Nat} {answer : Except Fault Unit} :
    log = before ++ ⟨.connect (connection + 1), answer⟩ :: later → ClosedIn connection before
  once {before later : List Exchange} {connection : Nat} {answer : Except Fault Unit} :
    log = before ++ ⟨.close connection, answer⟩ :: later → ¬ ClosedIn connection before
  within {before later : List Exchange} {exchange : Exchange} {connection : Nat} :
    log = before ++ exchange :: later → exchange.event.WorksOn connection → LivesIn connection before

/-- What has to hold of the requests before a request. -/
def Event.Timely (before : List Exchange) : Event → Prop
  | .connect connection =>
    (∀ number, ¬ LivesIn number before) ∧ ∀ number, OpenedIn number before ↔ number < connection
  | .close connection | .execute connection _ | .begin connection | .commitTransaction connection
  | .rollbackTransaction connection | .commit connection | .rollback connection =>
    LivesIn connection before
  | .createEngine _ | .dispose => True

theorem openedIn_snoc (connection : Nat) (log : List Exchange) (last : Exchange) :
    OpenedIn connection (log ++ [last]) ↔
      OpenedIn connection log ∨ last = ⟨.connect connection, .ok ()⟩ := by
  rw [OpenedIn, OpenedIn, List.mem_append, List.mem_singleton, eq_comm]

theorem closedIn_snoc (connection : Nat) (log : List Exchange) (last : Exchange) :
    ClosedIn connection (log ++ [last]) ↔
      ClosedIn connection log ∨ ∃ answer, last = ⟨.close connection, answer⟩ := by
  simp only [ClosedIn, List.mem_append, List.mem_singleton, exists_or, eq_comm]

theorem Event.WorksOn.lives {connection : Nat} {event : Event} {before : List Exchange}
    (works : event.WorksOn connection) (timely : event.Timely before) : LivesIn connection before := by
  cases event with
  | execute _ _ | begin _ | commitTransaction _ | rollbackTransaction _ | commit _ | rollback _ =>
    cases works
    exact timely
  | createEngine _ | connect _ | close _ | dispose => exact works.elim

theorem singleFile_of_timely {log : List Exchange}
    (timely : Throughout (fun before exchange => exchange.event.Timely before) log) :
    SingleFile log where
  succession {before later connection answer} split := by
    obtain ⟨alone, numbered⟩ := timely before _ later split
    have opened : OpenedIn connection before := (numbered connection).mpr (Nat.lt_succ_self connection)
    exact Classical.not_not.mp fun unclosed => alone connection ⟨opened, unclosed⟩
  once split closed := (timely _ _ _ split).2 closed
  within split works := works.lives (timely _ _ _ split)

/-- The connections of a log: which of them lives, and how many were opened. -/
structure Lifetimes (living : Option Nat) (opened : Nat) (log : List Exchange) : Prop where
  timely : Throughout (fun before exchange => exchange.event.Timely before) log
  numbered (connection : Nat) : OpenedIn connection log ↔ connection < opened
  closed (connection : Nat) : ClosedIn connection log → connection < opened
  lives (connection : Nat) : LivesIn connection log ↔ living = some connection

def Exchange.Inner (exchange : Exchange) : Prop :=
  (∀ connection, exchange ≠ ⟨.connect connection, .ok ()⟩) ∧
    ∀ connection answer, exchange ≠ ⟨.close connection, answer⟩

theorem Event.WorksOn.timely {connection : Nat} {event : Event} {before : List Exchange}
    (works : event.WorksOn connection) (lives : LivesIn connection before) : event.Timely before := by
  cases event with
  | execute _ _ | begin _ | commitTransaction _ | rollbackTransaction _ | commit _ | rollback _ =>
    cases works
    exact lives
  | createEngine _ | connect _ | close _ | dispose => exact works.elim

theorem Event.WorksOn.inner {connection : Nat} {exchange : Exchange}
    (works : exchange.event.WorksOn connection) : exchange.Inner := by
  refine ⟨fun number same => ?_, fun number answer same => ?_⟩
  · subst same
    exact works
  · subst same
    exact works

theorem Exchange.Inner.dispose {answer : Except Fault Unit} :
    Exchange.Inner ⟨.dispose, answer⟩ := by
  simp [Exchange.Inner]

theorem Exchange.Inner.refusedConnect (connection : Nat) (fault : Fault) :
    Exchange.Inner ⟨.connect connection, .error fault⟩ := by
  simp [Exchange.Inner]

theorem Exchange.Inner.createEngine {options : EngineOptions} {answer : Except Fault Unit} :
    Exchange.Inner ⟨.createEngine options, answer⟩ := by
  simp [Exchange.Inner]

namespace Lifetimes

variable {living : Option Nat} {opened : Nat} {log : List Exchange}

theorem nil : Lifetimes none 0 [] where
  timely := throughout_nil _
  numbered connection := by simp [OpenedIn]
  closed connection := by simp [ClosedIn]
  lives connection := by simp [LivesIn, OpenedIn]

theorem inner (before : Lifetimes living opened log) {exchange : Exchange}
    (inner : exchange.Inner) (timely : exchange.event.Timely log) :
    Lifetimes living opened (log ++ [exchange]) := by
  have opens (connection : Nat) :
      OpenedIn connection (log ++ [exchange]) ↔ OpenedIn connection log := by
    rw [openedIn_snoc, or_iff_left (inner.1 connection)]
  have closes (connection : Nat) :
      ClosedIn connection (log ++ [exchange]) ↔ ClosedIn connection log := by
    rw [closedIn_snoc, or_iff_left fun ⟨answer, same⟩ => inner.2 connection answer same]
  refine ⟨throughout_snoc before.timely timely, fun connection => ?_, fun connection => ?_,
    fun connection => ?_⟩
  · rw [opens, before.numbered]
  · rw [closes]
    exact before.closed connection
  · rw [LivesIn, opens, closes]
    exact before.lives connection

theorem connecting (before : Lifetimes none opened log) : Event.Timely log (.connect opened) :=
  ⟨fun number lives => (nomatch (before.lives number).mp lives), before.numbered⟩

theorem opens (before : Lifetimes none opened log) :
    Lifetimes (some opened) (opened + 1) (log ++ [⟨.connect opened, .ok ()⟩]) := by
  have opens (connection : Nat) : OpenedIn connection (log ++ [⟨.connect opened, .ok ()⟩]) ↔
      connection < opened ∨ opened = connection := by
    rw [openedIn_snoc, before.numbered]
    simp
  have closes (connection : Nat) : ClosedIn connection (log ++ [⟨.connect opened, .ok ()⟩]) ↔
      ClosedIn connection log := by
    rw [closedIn_snoc]
    simp
  refine ⟨throughout_snoc before.timely before.connecting, fun connection => ?_,
    fun connection closed => ?_, fun connection => ?_⟩
  · rw [opens, Nat.lt_succ_iff_lt_or_eq, eq_comm]
  · exact Nat.lt_succ_of_lt (before.closed connection ((closes connection).mp closed))
  · rw [LivesIn, opens, closes, Option.some.injEq]
    constructor
    · rintro ⟨earlier | same, unclosed⟩
      · cases (before.lives connection).mp ⟨(before.numbered connection).mpr earlier, unclosed⟩
      · exact same
    · rintro rfl
      exact ⟨.inr rfl, fun closed => Nat.lt_irrefl _ (before.closed _ closed)⟩

theorem closes {connection : Nat} (before : Lifetimes (some connection) opened log)
    (answer : Except Fault Unit) :
    Lifetimes none opened (log ++ [⟨.close connection, answer⟩]) := by
  have here : LivesIn connection log := (before.lives connection).mpr rfl
  have opens (number : Nat) : OpenedIn number (log ++ [⟨.close connection, answer⟩]) ↔
      OpenedIn number log := by
    rw [openedIn_snoc]
    simp
  have closes (number : Nat) : ClosedIn number (log ++ [⟨.close connection, answer⟩]) ↔
      ClosedIn number log ∨ connection = number := by
    rw [closedIn_snoc]
    simp
  refine ⟨throughout_snoc before.timely here, fun number => ?_, fun number closed => ?_,
    fun number => iff_of_false ?_ nofun⟩
  · rw [opens, before.numbered]
  · rcases (closes number).mp closed with earlier | rfl
    · exact before.closed number earlier
    · exact (before.numbered connection).mp here.1
  · rw [LivesIn, opens, closes]
    rintro ⟨opened, unclosed⟩
    have same := (before.lives number).mp ⟨opened, fun closed => unclosed (.inl closed)⟩
    exact unclosed (.inr (Option.some.inj same))

theorem works {connection : Nat} (before : Lifetimes (some connection) opened log)
    (exchanges : List Exchange) (working : ∀ exchange ∈ exchanges, exchange.event.WorksOn connection) :
    Lifetimes (some connection) opened (log ++ exchanges) := by
  induction exchanges generalizing log with
  | nil => rwa [List.append_nil]
  | cons head tail ih =>
    have here := working head List.mem_cons_self
    have first : Lifetimes (some connection) opened (log ++ [head]) :=
      before.inner here.inner (here.timely ((before.lives connection).mpr rfl))
    rw [← List.singleton_append, ← List.append_assoc]
    exact ih first fun exchange member => working exchange (List.mem_cons_of_mem head member)

end Lifetimes

namespace Session

variable {σ : Type} {session final : Session σ}

def living (session : Session σ) : Option Nat := session.handle?.map Handle.connection

def Lived (session : Session σ) : Prop := Lifetimes session.living session.opened session.log

theorem living_of_held {handle : Handle} (held : session.handle? = some handle) :
    session.living = some handle.connection := by
  rw [living, held, Option.map_some]

theorem living_of_absent (absent : session.handle? = none) : session.living = none := by
  rw [living, absent, Option.map_none]

@[simp] theorem living_heard (session : Session σ) (exchanges : List Exchange) (server : σ) :
    (session.heard exchanges server).living = session.living := rfl

@[simp] theorem living_withTransaction (session : Session σ) (isOpen : Bool) :
    (session.withTransaction isOpen).living = session.living := by
  unfold living withTransaction
  cases session.handle? <;> rfl

theorem Teardown.lifetimes {exchanges : List Exchange} {result : Except Failure Bool}
    (torn : Teardown session exchanges result) (before : Lived session) :
    Lifetimes none session.opened (session.log ++ exchanges) := by
  have absent (gone : session.handle? = none) : Lifetimes none session.opened session.log := by
    rw [← living_of_absent gone]
    exact before
  have closed (handle : Handle) (held : session.handle? = some handle) (answer : Except Fault Unit) :
      Lifetimes none session.opened (session.log ++ [⟨.close handle.connection, answer⟩]) := by
    unfold Lived at before
    rw [living_of_held held] at before
    exact before.closes answer
  cases torn with
  | nothing gone _ =>
    rw [List.append_nil]
    exact absent gone
  | disposed answer gone _ => exact (absent gone).inner .dispose trivial
  | closed handle answer held _ _ => exact closed handle held answer
  | both handle answer disposal held _ _ =>
    rw [← List.singleton_append, ← List.append_assoc]
    exact (closed handle held answer).inner .dispose trivial
  | cut handle fault held _ => exact closed handle held (.error fault)

theorem Closes.lived {result : Except Failure Bool} (closes : Closes session result final)
    (before : Lived session) : Lived final := by
  cases closes with
  | mk server torn => exact torn.lifetimes before

theorem Ran.works {statement : Statement} {handle : Handle} {exchanges : List Exchange}
    {result : Except Failure Outcome} (ran : Ran statement handle exchanges result) :
    ∀ exchange ∈ exchanges, exchange.event.WorksOn handle.connection := by
  cases ran <;> simp [Event.WorksOn]

theorem Lived.works {handle : Handle} (before : Lived session) (held : session.handle? = some handle)
    (exchanges : List Exchange)
    (working : ∀ exchange ∈ exchanges, exchange.event.WorksOn handle.connection) :
    Lifetimes session.living session.opened (session.log ++ exchanges) := by
  unfold Lived at before
  rw [living_of_held held] at before ⊢
  exact before.works exchanges working

theorem Runs.lived {statement : Statement} {result : Except Failure Outcome}
    (runs : Runs statement session result final) (before : Lived session) : Lived final := by
  cases runs with
  | unconnected absent => exact before
  | mk handle server held ran =>
    have worked := before.works held _ ran.works
    cases result <;> exact worked

theorem Opens.lived {result : Except Failure Unit} (opens : Opens session result final)
    (absent : session.handle? = none) (before : Lived session) : Lived final := by
  unfold Lived at before
  rw [living_of_absent absent] at before
  have created (answer : Except Fault Unit) : Lifetimes none session.opened
      (session.log ++ [⟨.createEngine (engineOptions session), answer⟩]) :=
    before.inner .createEngine trivial
  cases opens with
  | engineless fault server =>
    rw [Lived, living_heard, living_of_absent absent]
    exact created (.error fault)
  | refused fault server =>
    have asked := (created (.ok ())).inner (.refusedConnect session.opened fault)
      (created (.ok ())).connecting
    rw [List.append_assoc, List.singleton_append] at asked
    rw [Lived, living_heard, living, absent]
    exact asked
  | opened server =>
    rw [Lived, heard_log, ← List.singleton_append, ← List.append_assoc]
    exact (created (.ok ())).opens

theorem Begins.lived {result : Except Failure Bool} (begins : Begins session result final)
    (before : Lived session) : Lived final := by
  cases begins with
  | unconnected absent => exact before
  | answered handle isOpen server held =>
    rw [Lived, living_heard, living_withTransaction]
    exact before.works held _ (by simp [Event.WorksOn])
  | refused handle fault server held => exact before.works held _ (by simp [Event.WorksOn])

theorem Commits.lived {result : Except Failure Bool} (commits : Commits session result final)
    (before : Lived session) : Lived final := by
  cases commits with
  | nothing idle => exact before
  | done connection server bracket =>
    have held := (bracketed_iff session connection).mp bracket
    rw [Lived, living_heard, living_withTransaction]
    exact before.works held _ (by simp [Event.WorksOn])
  | refused connection fault server bracket =>
    have held := (bracketed_iff session connection).mp bracket
    exact before.works held _ (by simp [Event.WorksOn])

theorem RollsBack.lived {result : Except Failure Bool} (rollsBack : RollsBack session result final)
    (before : Lived session) : Lived final := by
  cases rollsBack with
  | nothing idle => exact before
  | asked connection answer server bracket =>
    have held := (bracketed_iff session connection).mp bracket
    rw [Lived, living_heard, living_withTransaction]
    exact before.works held _ (by simp [Event.WorksOn])

theorem Move.lived (move : Move session final) (before : Lived session) : Lived final := by
  cases move with
  | closed closes => exact closes.lived before
  | ran runs => exact runs.lived before
  | opened absent opens => exact opens.lived absent before
  | begun fresh begins => exact begins.lived before
  | committed commits => exact commits.lived before
  | rolledBack rollsBack => exact rollsBack.lived before
  | remembered prepared? catalog => exact before
  | redirected descriptor absent engine => exact before

variable [Server σ]

theorem Driven.lived (driven : Driven session) : Lived session :=
  driven.invariant (fun _ _ _ _ => .nil) Move.lived Begins.lived fun _ here => here

theorem close_of_released (absent : session.handle? = none) (engineless : session.engine = false) :
    close session = .ok true session := by
  obtain ⟨settings, echo, descriptor, engine, handle?, lastInsertId, prepared?, catalog, server, log,
    opened⟩ := session
  cases absent
  cases engineless
  rfl

theorem release_of_released (absent : session.handle? = none) (engineless : session.engine = false) :
    Call.close.run session = .ok (.flag true) { session with prepared? := none } := by
  obtain ⟨settings, echo, descriptor, engine, handle?, lastInsertId, prepared?, catalog, server, log,
    opened⟩ := session
  cases absent
  cases engineless
  rfl

/-- Nothing is held, and a further close, of the connection or of the whole session, asks for nothing. -/
structure Released (session : Session σ) : Prop where
  handle : session.handle? = none
  engine : session.engine = false
  idle : session.inTransaction = false
  again : close session = .ok true session
  againWhole : ∃ final, Call.close.run session = .ok (.flag true) final ∧ final.log = session.log

theorem Closes.released {result : Except Failure Bool} (closes : Closes session result final) :
    Released final where
  handle := closes.handle
  engine := closes.engine
  idle := inTransaction_eq_false.mpr closes.idle
  again := close_of_released closes.handle closes.engine
  againWhole := ⟨_, release_of_released closes.handle closes.engine, rfl⟩

theorem released_after_close (session : Session σ) : Released (after close session) :=
  ends_after (ends_mono (close_meets session) (fun _ _ => Closes.released) fun _ _ => Closes.released)

theorem released_after_release (session : Session σ) : Released (after Call.close.run session) := by
  apply ends_after
  simp only [Call.run, release, reset, ends_bind, ends_modify, ends_pure]
  exact ends_mono (close_meets _) (fun _ _ => Closes.released) fun _ _ => Closes.released

/-- Over a whole run of requests, whatever the server answers: connections follow one another in single
file, and a session is connected exactly while one of them lives, which is the one that it holds. A close
lets go of everything in any state, also when the server refuses it. -/
theorem driven_single_file (session : Session σ) (driven : Driven session) :
    SingleFile session.log ∧
      (∀ connection, LivesIn connection session.log ↔ session.living = some connection) ∧
      (session.handle?.isSome = true ↔ ∃! connection, LivesIn connection session.log) ∧
      ∀ any : Session σ, Released (after close any) ∧ Released (after Call.close.run any) := by
  have lifetimes : Lifetimes session.living session.opened session.log := driven.lived
  refine ⟨singleFile_of_timely lifetimes.timely, lifetimes.lives, ?_, fun any =>
    ⟨released_after_close any, released_after_release any⟩⟩
  constructor
  · intro connected
    obtain ⟨handle, held⟩ := Option.isSome_iff_exists.mp connected
    refine ⟨handle.connection, (lifetimes.lives _).mpr (living_of_held held), fun other lives => ?_⟩
    exact Option.some.inj (((lifetimes.lives other).mp lives).symm.trans (living_of_held held))
  · rintro ⟨connection, lives, _⟩
    obtain ⟨handle, held, _⟩ := Option.map_eq_some_iff.mp ((lifetimes.lives connection).mp lives)
    rw [held, Option.isSome_some]

def replaced : Session Script :=
  after (Request.call (.queryExecute "SELECT 3" [] false)).run { rehearsedInside with server := unwell }

theorem replaced_single_file : Driven replaced ∧ SingleFile replaced.log ∧ LivesIn 1 replaced.log ∧
    ¬ LivesIn 0 replaced.log := by
  have driven : Driven replaced := .asked _ (.elsewhere unwell
    (.asked (.call (.transaction "SELECT 2" [] false false)) (.created rehearsed_created)))
  have living : replaced.living = some 1 := by decide +kernel
  have whole := driven_single_file replaced driven
  refine ⟨driven, whole.1, (whole.2.1 1).mpr living, fun lives => ?_⟩
  cases living.symm.trans ((whole.2.1 0).mp lives)

end Session

end SqlGateway
