import SqlGateway.Proofs.Lifetime
import SqlGateway.Proofs.Results

/-!
Where the connections of a session lead. Every engine is created for the descriptor in force and every
request is made on a connection that was opened on such an engine; the descriptor changes only after the
connection has been let go, so that no later request reaches where the session was directed before.
-/

namespace SqlGateway

/-- The connection was opened on an engine that was created with the options. -/
def OpenedOn (options : EngineOptions) (connection : Nat) (log : List Exchange) : Prop :=
  ∃ before later, log = before ++ ⟨.createEngine options, .ok ()⟩ :: ⟨.connect connection, .ok ()⟩ :: later

/-- A request that leads where the options say: the engine is created with them, a connection is opened on
that engine, and work is done on a connection that was opened so. -/
def Event.Aimed (options : EngineOptions) (before : List Exchange) : Event → Prop
  | .createEngine given => given = options
  | .connect _ => ∃ earlier, before = earlier ++ [⟨.createEngine options, .ok ()⟩]
  | .execute connection _ | .begin connection | .commitTransaction connection
  | .rollbackTransaction connection | .commit connection | .rollback connection =>
    OpenedOn options connection before
  | .close _ | .dispose => True

/-- Each of the exchanges that follow the earlier ones leads where the options say. -/
def Steered (options : EngineOptions) (earlier exchanges : List Exchange) : Prop :=
  Throughout (fun before exchange => exchange.event.Aimed options (earlier ++ before)) exchanges

def Event.Tearing : Event → Prop
  | .close _ | .dispose => True
  | _ => False

variable {options other : EngineOptions} {connection : Nat} {earlier log : List Exchange}

theorem OpenedOn.append (opened : OpenedOn options connection log) (more : List Exchange) :
    OpenedOn options connection (log ++ more) := by
  obtain ⟨before, later, rfl⟩ := opened
  exact ⟨before, later ++ more, by rw [List.append_assoc, List.cons_append, List.cons_append]⟩

theorem Event.Tearing.aimed {event : Event} (tears : event.Tearing) : event.Aimed options earlier := by
  cases event with
  | close _ | dispose => trivial
  | createEngine _ | connect _ | execute _ _ | begin _ | commitTransaction _ | rollbackTransaction _
  | commit _ | rollback _ => exact tears.elim

theorem Event.WorksOn.aimed {event : Event} (works : event.WorksOn connection)
    (opened : OpenedOn options connection earlier) : event.Aimed options earlier := by
  cases event with
  | execute _ _ | begin _ | commitTransaction _ | rollbackTransaction _ | commit _ | rollback _ =>
    obtain rfl := works
    exact opened
  | createEngine _ | connect _ | close _ | dispose => exact works.elim

theorem steered_nil : Steered options earlier [] := throughout_nil _

theorem Steered.append {first second : List Exchange} (early : Steered options earlier first)
    (late : Steered options (earlier ++ first) second) : Steered options earlier (first ++ second) := by
  unfold Steered at late
  simp only [List.append_assoc] at late
  exact throughout_append early late

theorem steered_of_tearing {exchanges : List Exchange}
    (tears : ∀ exchange ∈ exchanges, exchange.event.Tearing) : Steered options earlier exchanges := by
  intro before exchange later split
  have member : exchange ∈ exchanges := split ▸ List.mem_append_right before List.mem_cons_self
  exact (tears exchange member).aimed

theorem steered_of_working {exchanges : List Exchange} (opened : OpenedOn options connection earlier)
    (works : ∀ exchange ∈ exchanges, exchange.event.WorksOn connection) :
    Steered options earlier exchanges := by
  intro before exchange later split
  have member : exchange ∈ exchanges := split ▸ List.mem_append_right before List.mem_cons_self
  exact (works exchange member).aimed (opened.append before)

theorem steered_opening (answer : Except Fault Unit) :
    Steered options earlier [⟨.createEngine options, .ok ()⟩, ⟨.connect connection, answer⟩] := by
  have engine : Steered options earlier [⟨.createEngine options, .ok ()⟩] :=
    throughout_snoc (throughout_nil _) rfl
  exact engine.append (throughout_snoc (throughout_nil _) ⟨earlier, List.append_nil _⟩)

theorem steered_engine (answer : Except Fault Unit) :
    Steered options earlier [⟨.createEngine options, answer⟩] :=
  throughout_snoc (throughout_nil _) rfl

theorem place_trichotomy {before later before' later' : List Exchange} {exchange exchange' : Exchange}
    (same : before ++ exchange :: later = before' ++ exchange' :: later') :
    before = before' ∧ exchange = exchange' ∨
      (∃ between, before' = before ++ exchange :: between) ∨
      ∃ between, before = before' ++ exchange' :: between := by
  rcases List.append_eq_append_iff.mp same with ⟨between, rfl, split⟩ | ⟨between, rfl, split⟩
  · cases between with
    | nil =>
      rw [List.nil_append] at split
      exact .inl ⟨(List.append_nil before).symm, (List.cons.inj split).1⟩
    | cons head tail =>
      obtain ⟨rfl, _⟩ := List.cons.inj split
      exact .inr (.inl ⟨tail, rfl⟩)
  · cases between with
    | nil =>
      rw [List.nil_append] at split
      exact .inl ⟨List.append_nil before', (List.cons.inj split).1.symm⟩
    | cons head tail =>
      obtain ⟨rfl, _⟩ := List.cons.inj split
      exact .inr (.inr ⟨tail, rfl⟩)

/-- A connection is opened once, and so on one engine. -/
theorem Lifetimes.opened_once {living : Option Nat} {opened : Nat} (lifetimes : Lifetimes living opened log)
    (first : OpenedOn options connection log) (second : OpenedOn other connection log) :
    options = other := by
  have fresh {before later : List Exchange} (split : log = before ++ ⟨.connect connection, .ok ()⟩ :: later) :
      ¬ OpenedIn connection before := by
    intro earlier
    have timely : Event.Timely before (.connect connection) := lifetimes.timely _ _ _ split
    exact Nat.lt_irrefl connection ((timely.2 connection).mp earlier)
  obtain ⟨before, later, split⟩ := first
  obtain ⟨before', later', split'⟩ := second
  rw [List.append_cons] at split split'
  rcases place_trichotomy (split.symm.trans split') with ⟨same, _⟩ | ⟨between, later⟩ | ⟨between, later⟩
  · cases (List.append_inj' same rfl).2
    rfl
  · refine absurd ?_ (fresh split')
    rw [later]
    exact List.mem_append_right _ List.mem_cons_self
  · refine absurd ?_ (fresh split)
    rw [later]
    exact List.mem_append_right _ List.mem_cons_self

namespace Session

variable {σ : Type} {session final : Session σ}

/-- Every text is given and the port is the configured one. -/
structure Complete (settings : Settings) (descriptor : Descriptor) : Prop where
  host : descriptor.host ≠ ""
  user : descriptor.user ≠ ""
  password : descriptor.password ≠ ""
  database : descriptor.database ≠ ""
  port : descriptor.port = settings.port

def Aimed (session : Session σ) : Prop :=
  ∀ connection, session.living = some connection → OpenedOn (engineOptions session) connection session.log

structure Undiverted (session final : Session σ) : Prop where
  settings : final.settings = session.settings
  echo : final.echo = session.echo
  descriptor : final.descriptor = session.descriptor

/-- All that was asked for on the way leads where the session is directed, now as before. -/
structure Steers (session final : Session σ) : Prop extends Undiverted session final where
  follows : Aimed session → Aimed final ∧ ∃ exchanges, final.log = session.log ++ exchanges ∧
    Steered (engineOptions session) session.log exchanges

theorem Undiverted.refl (session : Session σ) : Undiverted session session := ⟨rfl, rfl, rfl⟩

theorem Undiverted.engineOptions (undiverted : Undiverted session final) :
    engineOptions final = engineOptions session := by
  unfold Session.engineOptions
  rw [undiverted.settings, undiverted.echo, undiverted.descriptor]

theorem Steers.refl (session : Session σ) : Steers session session :=
  ⟨.refl session, fun aimed => ⟨aimed, [], (List.append_nil _).symm, steered_nil⟩⟩

theorem Steers.trans {middle : Session σ} (early : Steers session middle) (late : Steers middle final) :
    Steers session final where
  settings := late.settings.trans early.settings
  echo := late.echo.trans early.echo
  descriptor := late.descriptor.trans early.descriptor
  follows aimed := by
    obtain ⟨aimedMiddle, first, split, steered⟩ := early.follows aimed
    obtain ⟨aimedFinal, second, splitFinal, steeredFinal⟩ := late.follows aimedMiddle
    rw [early.engineOptions, split] at steeredFinal
    refine ⟨aimedFinal, first ++ second, ?_, steered.append steeredFinal⟩
    rw [splitFinal, split, List.append_assoc]

theorem steers_of_steered {exchanges : List Exchange} (undiverted : Undiverted session final)
    (living : final.living = session.living) (split : final.log = session.log ++ exchanges)
    (steered : Aimed session → Steered (engineOptions session) session.log exchanges) :
    Steers session final where
  toUndiverted := undiverted
  follows aimed := by
    refine ⟨?_, exchanges, split, steered aimed⟩
    intro connection lives
    rw [living] at lives
    rw [undiverted.engineOptions, split]
    exact (aimed connection lives).append exchanges

theorem steers_of_working {handle : Handle} {exchanges : List Exchange}
    (held : session.handle? = some handle) (undiverted : Undiverted session final)
    (living : final.living = session.living) (split : final.log = session.log ++ exchanges)
    (works : ∀ exchange ∈ exchanges, exchange.event.WorksOn handle.connection) : Steers session final :=
  steers_of_steered undiverted living split fun aimed =>
    steered_of_working (aimed handle.connection (living_of_held held)) works

theorem Teardown.tearing {exchanges : List Exchange} {result : Except Failure Bool}
    (torn : Teardown session exchanges result) : ∀ exchange ∈ exchanges, exchange.event.Tearing := by
  cases torn <;> simp [Event.Tearing]

theorem Closes.tears {result : Except Failure Bool} (closes : Closes session result final) :
    Undiverted session final ∧ Adds (·.event.Tearing) session final := by
  cases closes with
  | mk server torn => exact ⟨⟨rfl, rfl, rfl⟩, _, rfl, torn.tearing⟩

theorem aimed_of_absent (absent : session.handle? = none) : Aimed session := by
  intro connection lives
  rw [living_of_absent absent] at lives
  cases lives

theorem Closes.steers {result : Except Failure Bool} (closes : Closes session result final) :
    Steers session final := by
  obtain ⟨undiverted, exchanges, split, tears⟩ := closes.tears
  exact ⟨undiverted, fun _ =>
    ⟨aimed_of_absent closes.handle, exchanges, split, steered_of_tearing tears⟩⟩

theorem Runs.steers {statement : Statement} {result : Except Failure Outcome}
    (runs : Runs statement session result final) : Steers session final := by
  cases runs with
  | unconnected absent => exact .refl session
  | mk handle server held ran =>
    cases result with
    | ok outcome => exact steers_of_working held ⟨rfl, rfl, rfl⟩ rfl rfl ran.works
    | error failure => exact steers_of_working held ⟨rfl, rfl, rfl⟩ rfl rfl ran.works

theorem Opens.steers {result : Except Failure Unit} (opens : Opens session result final) :
    Steers session final := by
  cases opens with
  | engineless fault server =>
    exact steers_of_steered ⟨rfl, rfl, rfl⟩ rfl rfl fun _ => steered_engine (.error fault)
  | refused fault server =>
    exact steers_of_steered ⟨rfl, rfl, rfl⟩ rfl rfl fun _ => steered_opening (.error fault)
  | opened server =>
    refine ⟨⟨rfl, rfl, rfl⟩, fun _ => ⟨?_, _, rfl, steered_opening (.ok ())⟩⟩
    intro connection lives
    cases lives
    exact ⟨session.log, [], rfl⟩

theorem Begins.steers {result : Except Failure Bool} (begins : Begins session result final) :
    Steers session final := by
  cases begins with
  | unconnected absent => exact .refl session
  | answered handle isOpen server held =>
    refine steers_of_working held ⟨rfl, rfl, rfl⟩ ?_ rfl (by simp [Event.WorksOn])
    rw [living_heard, living_withTransaction]
  | refused handle fault server held =>
    exact steers_of_working held ⟨rfl, rfl, rfl⟩ rfl rfl (by simp [Event.WorksOn])

theorem Commits.steers {result : Except Failure Bool} (commits : Commits session result final) :
    Steers session final := by
  cases commits with
  | nothing idle => exact .refl session
  | done connection server bracket =>
    have held := (bracketed_iff session connection).mp bracket
    refine steers_of_working held ⟨rfl, rfl, rfl⟩ ?_ rfl (by simp [Event.WorksOn])
    rw [living_heard, living_withTransaction]
  | refused connection fault server bracket =>
    have held := (bracketed_iff session connection).mp bracket
    exact steers_of_working held ⟨rfl, rfl, rfl⟩ rfl rfl (by simp [Event.WorksOn])

theorem RollsBack.steers {result : Except Failure Bool} (rollsBack : RollsBack session result final) :
    Steers session final := by
  cases rollsBack with
  | nothing idle => exact .refl session
  | asked connection answer server bracket =>
    have held := (bracketed_iff session connection).mp bracket
    refine steers_of_working held ⟨rfl, rfl, rfl⟩ ?_ rfl (by simp [Event.WorksOn])
    rw [living_heard, living_withTransaction]

theorem operating_steers : Operating (Steers (σ := σ)) where
  refl := .refl
  trans := .trans
  prepare session _ := ⟨⟨rfl, rfl, rfl⟩, (Steers.refl session).follows⟩
  closed := Closes.steers
  run := Runs.steers
  opened _ opens := opens.steers
  begun _ begins := begins.steers
  committed := Commits.steers
  rolledBack := RollsBack.steers

theorem steady_steers : Steady (Steers (σ := σ)) :=
  operating_steers.handling.steady fun session _ => ⟨⟨rfl, rfl, rfl⟩, (Steers.refl session).follows⟩

theorem resolve_nonempty {settings : Settings} {field : Field} {value : Option String} {text : String}
    (resolved : resolve settings field value = .ok text) : text ≠ "" := by
  have kept {given : Option String} (found : given.filter (fun text => !text.isEmpty) = some text) :
      text ≠ "" := by
    rintro rfl
    simp at found
  unfold resolve at resolved
  dsimp only at resolved
  split at resolved
  · next found =>
    cases resolved
    exact kept found
  · next found =>
    cases resolved
    exact kept found
  · cases resolved

theorem complete_of_describe {settings : Settings} {target : Target} {descriptor : Descriptor}
    (described : describe settings target = .ok descriptor) : Complete settings descriptor := by
  unfold describe at described
  obtain ⟨host, hostGiven, described⟩ := bind_eq_ok described
  obtain ⟨user, userGiven, described⟩ := bind_eq_ok described
  obtain ⟨password, passwordGiven, described⟩ := bind_eq_ok described
  obtain ⟨database, databaseGiven, described⟩ := bind_eq_ok described
  cases described
  exact ⟨resolve_nonempty hostGiven, resolve_nonempty userGiven, resolve_nonempty passwordGiven,
    resolve_nonempty databaseGiven, rfl⟩

theorem Complete.replaced {settings : Settings} {descriptor : Descriptor}
    (complete : Complete settings descriptor) {text : String} (nonempty : text ≠ "") (field : Field) :
    Complete settings (replaceField descriptor text field) := by
  cases field with
  | host => exact { complete with host := nonempty }
  | user => exact { complete with user := nonempty }
  | password => exact { complete with password := nonempty }
  | database => exact { complete with database := nonempty }

/-- What one request does to where a session leads. If the session is directed elsewhere, then nothing was
asked for but to let go of the connection. -/
structure Leads (session final : Session σ) : Prop where
  settings : final.settings = session.settings
  complete : Complete session.settings session.descriptor → Complete session.settings final.descriptor
  follows : Aimed session → Aimed final ∧ ∃ exchanges, final.log = session.log ++ exchanges ∧
    Steered (engineOptions session) session.log exchanges ∧
    (engineOptions final = engineOptions session ∨ ∀ exchange ∈ exchanges, exchange.event.Tearing)

theorem Steers.leads (steers : Steers session final) : Leads session final where
  settings := steers.settings
  complete complete := by rwa [steers.descriptor]
  follows aimed := by
    obtain ⟨aimedFinal, exchanges, split, steered⟩ := steers.follows aimed
    exact ⟨aimedFinal, exchanges, split, steered, .inl steers.engineOptions⟩

theorem Steers.leads_then {middle : Session σ} (early : Steers session middle)
    (silent : middle.log = session.log) (late : Leads middle final) : Leads session final where
  settings := late.settings.trans early.settings
  complete complete := by
    have kept := late.complete
    rw [early.settings, early.descriptor] at kept
    exact kept complete
  follows aimed := by
    have follows := late.follows (early.follows aimed).1
    rwa [early.engineOptions, silent] at follows

theorem Closes.leads {result : Except Failure Bool} (closes : Closes session result final)
    {descriptor : Descriptor}
    (complete : Complete session.settings session.descriptor → Complete session.settings descriptor) :
    Leads session { final with descriptor } where
  settings := closes.tears.1.settings
  complete := complete
  follows _ := by
    obtain ⟨_, exchanges, split, tears⟩ := closes.tears
    exact ⟨aimed_of_absent closes.handle, exchanges, split, steered_of_tearing tears, .inr tears⟩

theorem keeps_leads_forgetting {action : Action σ Unit} (keeps : Keeps Leads action) :
    Keeps Leads (do reset; action; return .nothing : Action σ Answer) where
  ends session := by
    simp only [reset, ends_bind, ends_modify, ends_pure]
    have forgotten : Steers session { session with prepared? := none } :=
      operating_steers.prepare session none
    exact ends_mono (keeps.ends _) (fun _ _ leads => forgotten.leads_then rfl leads)
      fun _ _ leads => forgotten.leads_then rfl leads

theorem keeps_leads_answering {action : Action σ Unit} (keeps : Keeps Leads action) :
    Keeps Leads (do action; return .nothing : Action σ Answer) where
  ends session := by
    simp only [ends_bind, ends_pure]
    exact keeps.ends session

section

variable [Server σ]

theorem keeps_configure_leads (target : Target) : Keeps Leads (configure target : Action σ Unit) where
  ends session := by
    simp only [configure, ends_bind, ends_discard, ends_get, ends_ofResult, ends_modify]
    refine ends_mono (close_meets session) (fun _ middle closes => ?_) fun _ _ closes => closes.steers.leads
    split
    · next descriptor given =>
      rw [closes.tears.1.settings] at given
      exact closes.leads fun _ => complete_of_describe given
    · exact closes.steers.leads

theorem keeps_setField_leads (field : Field) (value : Option String) :
    Keeps Leads (setField field value : Action σ Unit) where
  ends session := by
    simp only [setField, ends_bind, ends_discard, ends_get, ends_ofResult, ends_modify]
    split
    · next text given =>
      refine ends_mono (close_meets session) (fun _ middle closes => ?_) fun _ _ closes => closes.steers.leads
      refine closes.leads fun complete => ?_
      rw [closes.tears.1.descriptor]
      exact complete.replaced (resolve_nonempty given) field
    · exact (Steers.refl session).leads

theorem keeps_request_steers {request : Request} (stays : ¬ request.Redirects) :
    Keeps Steers (request.run : Action σ Answer) := by
  by_cases consults : request.Consults
  · exact steady_steers.request consults
  · exact operating_steers.handling.request (keeps_of_meets begin_meets Begins.steers) stays consults

theorem keeps_request_leads (request : Request) : Keeps Leads (request.run : Action σ Answer) := by
  by_cases redirects : request.Redirects
  · rcases request with call | call | _ | _
    · cases call with
      | configure target => exact keeps_leads_forgetting (keeps_configure_leads target)
      | setField field value => exact keeps_leads_forgetting (keeps_setField_leads field value)
      | _ => exact redirects.elim
    · cases call with
      | configure target => exact keeps_leads_answering (keeps_configure_leads target)
      | setField field value => exact keeps_leads_answering (keeps_setField_leads field value)
      | _ => exact redirects.elim
    · exact redirects.elim
    · exact redirects.elim
  · have steers : Keeps Steers (request.run : Action σ Answer) := keeps_request_steers redirects
    exact ⟨fun session => ends_mono (steers.ends session) (fun _ _ => Steers.leads) fun _ _ => Steers.leads⟩

theorem Driven.aimed (driven : Driven session) :
    Complete session.settings session.descriptor ∧ Aimed session := by
  induction driven with
  | created fromSettings =>
    unfold create at fromSettings
    obtain ⟨descriptor, described, rfl⟩ := map_eq_ok fromSettings
    exact ⟨complete_of_describe described, aimed_of_absent rfl⟩
  | @asked request middle _ ih =>
    have leads := (keeps_request_leads request).after middle
    refine ⟨?_, (leads.follows ih.2).1⟩
    rw [leads.settings]
    exact leads.complete ih.1
  | elsewhere server _ ih => exact ih

/-- Over a whole run of requests, whatever the server answers: the descriptor is complete, the connection
that is held was opened where it says, and each request creates engines and works on connections only where
the descriptor says that is in force throughout. A request that changes the descriptor asks for nothing but
to let go of the connection. -/
theorem driven_directed (session : Session σ) (driven : Driven session) :
    Complete session.settings session.descriptor ∧
      (∀ handle, session.handle? = some handle →
        OpenedOn (engineOptions session) handle.connection session.log) ∧
      (∀ connection options other, OpenedOn options connection session.log →
        OpenedOn other connection session.log → options = other) ∧
      ∀ request : Request, ∃ exchanges,
        (after request.run session).log = session.log ++ exchanges ∧
        Steered (engineOptions session) session.log exchanges ∧
        (after request.run session).settings = session.settings ∧
        (engineOptions (after request.run session) = engineOptions session ∨
          ∀ exchange ∈ exchanges, exchange.event.Tearing) := by
  have lifetimes : Lifetimes session.living session.opened session.log := driven.lived
  obtain ⟨complete, aimed⟩ := driven.aimed
  refine ⟨complete, ?_, ?_, ?_⟩
  · intro handle held
    exact aimed handle.connection (living_of_held held)
  · intro connection options other first second
    exact lifetimes.opened_once first second
  · intro request
    have leads := (keeps_request_leads request).after session
    obtain ⟨_, exchanges, split, steered, directed⟩ := leads.follows aimed
    exact ⟨exchanges, split, steered, leads.settings, directed⟩

end

def moved : Session Script :=
  after (Request.call (.queryExecute "SELECT 4" [] false)).run
    (after (Request.call (.setField .database (some "store"))).run rehearsedInside)

theorem moved_directed : Driven moved ∧ moved.descriptor.database = "store" ∧
    OpenedOn (engineOptions moved) 1 moved.log ∧ ¬ OpenedOn (engineOptions rehearsedInside) 1 moved.log := by
  have driven : Driven moved := .asked _ (.asked _
    (.asked (.call (.transaction "SELECT 2" [] false false)) (.created rehearsed_created)))
  have held : moved.handle? = some ⟨1, false⟩ := by decide +kernel
  have directed := driven_directed moved driven
  have opened := directed.2.1 ⟨1, false⟩ held
  refine ⟨driven, by decide +kernel, opened, ?_⟩
  intro before
  have same := directed.2.2.1 1 _ _ opened before
  revert same
  decide +kernel

end Session

end SqlGateway
