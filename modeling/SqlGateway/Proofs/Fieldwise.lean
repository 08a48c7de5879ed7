import SqlGateway.Proofs.Carried
import SqlGateway.Proofs.Direction
import SqlGateway.Proofs.Missing

/-!
Directing a session elsewhere, in all four fields at once or in one after the other. What a field comes to
depends on the value that is given for it and on the defaults, never on where the session is directed. So both
ways are refused for the same values, and where they are not refused they lead to the same place, whatever the
order of the fields and whatever else is asked for in between.
-/

namespace SqlGateway.Session

variable {σ : Type}

def Target.value (target : Target) : Field → Option String
  | .host => target.host
  | .user => target.user
  | .password => target.password
  | .database => target.database

def textOf (descriptor : Descriptor) : Field → String
  | .host => descriptor.host
  | .user => descriptor.user
  | .password => descriptor.password
  | .database => descriptor.database

def Request.field? : Request → Option (Field × Option String)
  | .call (.setField field value) | .connection (.setField field value) => some (field, value)
  | _ => none

def Request.target? : Request → Option Target
  | .call (.configure target) | .connection (.configure target) => some target
  | _ => none

variable {session middle final : Session σ} {settings : Settings} {target : Target} {descriptor : Descriptor}
  {field : Field} {value : Option String} {failure : Failure} {fields : List Field} {request : Request}

theorem textOf_replaceField (descriptor : Descriptor) (text : String) (field other : Field) :
    textOf (replaceField descriptor text field) other =
      if other = field then text else textOf descriptor other := by
  cases field <;> cases other <;> rfl

theorem port_replaceField (descriptor : Descriptor) (text : String) (field : Field) :
    (replaceField descriptor text field).port = descriptor.port := by
  cases field <;> rfl

theorem descriptor_eq {first second : Descriptor} (texts : ∀ field, textOf first field = textOf second field)
    (port : first.port = second.port) : first = second := by
  obtain ⟨host, user, password, database, number⟩ := first
  obtain rfl : host = second.host := texts .host
  obtain rfl : user = second.user := texts .user
  obtain rfl : password = second.password := texts .password
  obtain rfl : database = second.database := texts .database
  obtain rfl : number = second.port := port
  rfl

theorem missing_of_resolve (refused : resolve settings field value = .error failure) :
    failure.kind = .missingSetting := by
  unfold resolve at refused
  dsimp only at refused
  split at refused
  · cases refused
  · cases refused
  · cases refused
    rfl

theorem describe_eq_ok_iff : describe settings target = .ok descriptor ↔
    (∀ field, resolve settings field (target.value field) = .ok (textOf descriptor field)) ∧
      descriptor.port = settings.port := by
  constructor
  · intro described
    unfold describe at described
    obtain ⟨host, hostGiven, described⟩ := bind_eq_ok described
    obtain ⟨user, userGiven, described⟩ := bind_eq_ok described
    obtain ⟨password, passwordGiven, described⟩ := bind_eq_ok described
    obtain ⟨database, databaseGiven, described⟩ := bind_eq_ok described
    cases described
    refine ⟨fun field => ?_, rfl⟩
    cases field
    · exact hostGiven
    · exact userGiven
    · exact passwordGiven
    · exact databaseGiven
  · rintro ⟨resolved, port⟩
    have host : resolve settings .host target.host = .ok descriptor.host := resolved .host
    have user : resolve settings .user target.user = .ok descriptor.user := resolved .user
    have password : resolve settings .password target.password = .ok descriptor.password := resolved .password
    have database : resolve settings .database target.database = .ok descriptor.database := resolved .database
    rw [describe, host, user, password, database, ← port]
    rfl

theorem describe_eq_error (refused : describe settings target = .error failure) :
    ∃ field, resolve settings field (target.value field) = .error failure := by
  unfold describe at refused
  rcases bind_eq_error refused with host | ⟨_, -, refused⟩
  · exact ⟨.host, host⟩
  rcases bind_eq_error refused with user | ⟨_, -, refused⟩
  · exact ⟨.user, user⟩
  rcases bind_eq_error refused with password | ⟨_, -, refused⟩
  · exact ⟨.password, password⟩
  rcases bind_eq_error refused with database | ⟨_, -, refused⟩
  · exact ⟨.database, database⟩
  · cases refused

theorem describe_refused_iff : (∃ failure, describe settings target = .error failure) ↔
    ∃ field failure, resolve settings field (target.value field) = .error failure := by
  constructor
  · rintro ⟨failure, refused⟩
    exact (describe_eq_error refused).imp fun _ refused => ⟨failure, refused⟩
  · rintro ⟨field, failure, refused⟩
    cases described : describe settings target with
    | error other => exact ⟨other, rfl⟩
    | ok descriptor => cases refused.symm.trans ((describe_eq_ok_iff.mp described).1 field)

section

variable [Server σ]

/-- A server that refuses neither to close a connection nor to dispose of an engine. -/
structure Obliging (σ : Type) [Server σ] : Prop where
  closes (connection : Nat) (server : σ) : (Server.respond (.close connection) server).1 = .ok ()
  disposes (server : σ) : (Server.respond .dispose server).1 = .ok ()

structure Directed (session : Session σ) (descriptor : Descriptor) (final : Session σ) : Prop where
  settings : final.settings = session.settings
  descriptor : final.descriptor = descriptor
  vacant : Vacant final

def Request.Misses (request : Request) (session : Session σ) : Prop :=
  ∃ failure final, request.run session = .error failure final ∧ failure.kind = .missingSetting

/-- Requests that direct the session nowhere else, however they end. Between them the server may come to be in
any state. -/
inductive Meanwhile (session : Session σ) : Session σ → Prop
  | nothing : Meanwhile session session
  | asked {middle : Session σ} (request : Request) : ¬ request.Redirects → Meanwhile session middle →
      Meanwhile session (after request.run middle)
  | elsewhere {middle : Session σ} (server : σ) : Meanwhile session middle →
      Meanwhile session { middle with server }

/-- The fields are given their values one after the other. The last state is the one right after the last of
them. -/
inductive Sets (target : Target) (session : Session σ) : List Field → Session σ → Prop
  | nothing : Sets target session [] session
  | given {fields : List Field} {field : Field} {request : Request} {middle ready final : Session σ}
      {answer : Answer} : Sets target session fields middle → Meanwhile middle ready →
      request.field? = some (field, target.value field) → request.run ready = .ok answer final →
      Sets target session (fields ++ [field]) final

theorem Meanwhile.undiverted (meanwhile : Meanwhile session final) : Undiverted session final := by
  induction meanwhile with
  | nothing => exact .refl session
  | @asked middle request stays _ ih =>
    have steers := (keeps_request_steers stays).after middle
    exact ⟨steers.settings.trans ih.settings, steers.echo.trans ih.echo, steers.descriptor.trans ih.descriptor⟩
  | elsewhere server _ ih => exact ⟨ih.settings, ih.echo, ih.descriptor⟩

theorem ends_field (asked : request.field? = some (field, value)) {done : Answer → Session σ → Prop}
    {failed : Failure → Session σ → Prop}
    (sets : ∀ prepared?, Ends (setField field value) { session with prepared? } (fun _ => done .nothing) failed) :
    Ends request.run session done failed := by
  rcases request with call | call | _ | _
  · cases call with
    | setField given text =>
      cases asked
      simp only [Request.run, Call.run, reset, ends_bind, ends_modify, ends_pure]
      exact sets none
    | _ => cases asked
  · cases call with
    | setField given text =>
      cases asked
      simp only [Request.run, ConnectionCall.run, ends_bind, ends_pure]
      exact sets session.prepared?
    | _ => cases asked
  · cases asked
  · cases asked

theorem ends_target (asked : request.target? = some target) {done : Answer → Session σ → Prop}
    {failed : Failure → Session σ → Prop}
    (configures : ∀ prepared?, Ends (configure target) { session with prepared? } (fun _ => done .nothing) failed) :
    Ends request.run session done failed := by
  rcases request with call | call | _ | _
  · cases call with
    | configure given =>
      cases asked
      simp only [Request.run, Call.run, reset, ends_bind, ends_modify, ends_pure]
      exact configures none
    | _ => cases asked
  · cases call with
    | configure given =>
      cases asked
      simp only [Request.run, ConnectionCall.run, ends_bind, ends_pure]
      exact configures session.prepared?
    | _ => cases asked
  · cases asked
  · cases asked

theorem misses_of_resolve (asked : request.field? = some (field, value))
    (refused : resolve session.settings field value = .error failure) : request.Misses session := by
  refine exists_error_of_ends (ends_field asked fun prepared? => ?_)
  simp only [setField, ends_bind, ends_get, ends_ofResult, refused]
  exact missing_of_resolve refused

theorem ends_answered {event : Event} {answer : event.Answer}
    (answered : (Server.respond event session.server).1 = .ok answer) :
    Ends (perform event) session (fun _ _ => True) fun _ _ => False := by
  rw [ends_responded]
  split
  · trivial
  · next refused =>
    rw [refused] at answered
    cases answered

namespace Obliging

variable (obliging : Obliging σ)

include obliging

theorem ends_close (session : Session σ) : Ends close session
    (fun _ final => Vacant final ∧ Undiverted session final) fun _ _ => False := by
  have returns : Ends close session (fun _ _ => True) fun _ _ => False := by
    have disposes (middle : Session σ) :
        Ends (if session.engine = true then do perform .dispose; return true else return true) middle
          (fun _ _ => True) fun _ _ => False := by
      split
      · rw [ends_bind]
        exact ends_mono (ends_answered (obliging.disposes middle.server)) (fun _ _ _ => (ends_pure true).mpr trivial)
          fun _ _ => id
      · exact (ends_pure true).mpr trivial
    simp only [close, ends_bind, ends_get, ends_set]
    cases session.handle? with
    | none => exact disposes _
    | some handle =>
      simp only [ends_bind, ends_onFault]
      exact ends_mono (ends_answered (obliging.closes handle.connection _)) (fun _ middle _ => disposes middle)
        fun _ _ => False.elim
  exact ends_mono (returns.and (close_meets session)) (fun _ _ both => ⟨both.2.vacant, both.2.tears.1⟩)
    fun _ _ both => both.1

theorem ends_setField {text : String} (resolved : resolve session.settings field value = .ok text) :
    Ends (setField field value) session
      (fun _ final => Directed session (replaceField session.descriptor text field) final) fun _ _ => False := by
  simp only [setField, ends_bind, ends_discard, ends_get, ends_ofResult, ends_modify, resolved]
  refine ends_mono (obliging.ends_close session) (fun _ middle closed => ?_) fun _ _ => id
  obtain ⟨vacant, undiverted⟩ := closed
  exact ⟨undiverted.settings, congrArg (replaceField · text field) undiverted.descriptor,
    vacant.handle, vacant.engine⟩

theorem ends_configure (described : describe session.settings target = .ok descriptor) :
    Ends (configure target) session (fun _ final => Directed session descriptor final) fun _ _ => False := by
  simp only [configure, ends_bind, ends_discard, ends_get, ends_ofResult, ends_modify]
  refine ends_mono (obliging.ends_close session) (fun _ middle closed => ?_) fun _ _ => id
  obtain ⟨vacant, undiverted⟩ := closed
  have given : describe middle.settings target = .ok descriptor := by rw [undiverted.settings, described]
  simp only [given]
  exact ⟨undiverted.settings, rfl, vacant.handle, vacant.engine⟩

theorem ends_configure_refused (refused : describe session.settings target = .error failure) :
    Ends (configure target) session (fun _ _ => False) fun given _ => given = failure := by
  simp only [configure, ends_bind, ends_discard, ends_get, ends_ofResult, ends_modify]
  refine ends_mono (obliging.ends_close session) (fun _ middle closed => ?_) fun _ _ => False.elim
  rw [closed.2.settings, refused]

theorem returns_of_resolve (asked : request.field? = some (field, value)) {text : String}
    (resolved : resolve session.settings field value = .ok text) : ∃ final,
      request.run session = .ok .nothing final ∧
        Directed session (replaceField session.descriptor text field) final := by
  have ends : Ends request.run session (fun answer final => answer = .nothing ∧
      Directed session (replaceField session.descriptor text field) final) fun _ _ => False :=
    ends_field asked fun prepared? => by
      refine ends_mono (obliging.ends_setField ?_)
        (fun _ _ directed => ⟨rfl, directed.settings, directed.descriptor, directed.vacant⟩) fun _ _ => id
      exact resolved
  obtain ⟨_, final, returned, rfl, directed⟩ := exists_ok_of_ends ends
  exact ⟨final, returned, directed⟩

theorem returns_of_describe (asked : request.target? = some target)
    (described : describe session.settings target = .ok descriptor) : ∃ final,
      request.run session = .ok .nothing final ∧ Directed session descriptor final := by
  have ends : Ends request.run session (fun answer final => answer = .nothing ∧
      Directed session descriptor final) fun _ _ => False :=
    ends_target asked fun prepared? => by
      refine ends_mono (obliging.ends_configure ?_)
        (fun _ _ directed => ⟨rfl, directed.settings, directed.descriptor, directed.vacant⟩) fun _ _ => id
      exact described
  obtain ⟨_, final, returned, rfl, directed⟩ := exists_ok_of_ends ends
  exact ⟨final, returned, directed⟩

theorem directed_of_returned (asked : request.field? = some (field, value)) {answer : Answer}
    (returned : request.run session = .ok answer final) : ∃ text,
      resolve session.settings field value = .ok text ∧
        Directed session (replaceField session.descriptor text field) final := by
  cases resolved : resolve session.settings field value with
  | error failure =>
    obtain ⟨_, _, failed, -⟩ := misses_of_resolve asked resolved
    cases failed.symm.trans returned
  | ok text =>
    obtain ⟨_, returns, directed⟩ := obliging.returns_of_resolve asked resolved
    cases returned.symm.trans returns
    exact ⟨text, rfl, directed⟩

theorem field_misses_iff (asked : request.field? = some (field, value)) : request.Misses session ↔
    ∃ failure, resolve session.settings field value = .error failure := by
  constructor
  · rintro ⟨failure, final, failed, -⟩
    cases resolved : resolve session.settings field value with
    | error other => exact ⟨other, rfl⟩
    | ok text =>
      obtain ⟨_, returned, -⟩ := obliging.returns_of_resolve asked resolved
      cases failed.symm.trans returned
  · rintro ⟨failure, refused⟩
    exact misses_of_resolve asked refused

theorem target_misses_iff (asked : request.target? = some target) : request.Misses session ↔
    ∃ failure, describe session.settings target = .error failure := by
  constructor
  · rintro ⟨failure, final, failed, -⟩
    cases described : describe session.settings target with
    | error other => exact ⟨other, rfl⟩
    | ok descriptor =>
      obtain ⟨_, returned, -⟩ := obliging.returns_of_describe asked described
      cases failed.symm.trans returned
  · rintro ⟨failure, refused⟩
    obtain ⟨field, alone⟩ := describe_eq_error refused
    refine exists_error_of_ends (ends_target asked fun prepared? => ?_)
    refine ends_mono (obliging.ends_configure_refused ?_) (fun _ _ => id) fun given _ (same : given = failure) => ?_
    · exact refused
    · rw [same]
      exact missing_of_resolve alone

theorem misses_iff (asked : request.target? = some target) : request.Misses session ↔
    ∃ field single, Request.field? single = some (field, target.value field) ∧ single.Misses session := by
  rw [obliging.target_misses_iff asked, describe_refused_iff]
  refine exists_congr fun field => ⟨fun refused => ?_, ?_⟩
  · have single : (Request.connection (.setField field (target.value field))).field? =
        some (field, target.value field) := rfl
    exact ⟨_, single, (obliging.field_misses_iff single).mpr refused⟩
  · rintro ⟨single, asked, misses⟩
    exact (obliging.field_misses_iff asked).mp misses

theorem sets_descriptor (sets : Sets target session fields final) :
    final.settings = session.settings ∧ final.descriptor.port = session.descriptor.port ∧
      ∀ field ∈ fields,
        resolve session.settings field (target.value field) = .ok (textOf final.descriptor field) := by
  induction sets with
  | nothing => exact ⟨rfl, rfl, nofun⟩
  | @given fields field request middle ready final answer _ meanwhile asked returned ih =>
    obtain ⟨settings, port, texts⟩ := ih
    have undiverted := meanwhile.undiverted
    have standing : ready.settings = session.settings := undiverted.settings.trans settings
    obtain ⟨text, resolved, directed⟩ := obliging.directed_of_returned asked returned
    refine ⟨directed.settings.trans standing, ?_, fun other member => ?_⟩
    · rw [directed.descriptor, port_replaceField, undiverted.descriptor, port]
    · rw [directed.descriptor, textOf_replaceField]
      split
      · next same => rw [same, ← standing, resolved]
      · next differs =>
        rw [undiverted.descriptor]
        refine texts other ((List.mem_append.mp member).resolve_right fun last => ?_)
        exact differs (List.mem_singleton.mp last)

theorem sets_vacant (sets : Sets target session fields final) (some : fields ≠ []) : Vacant final := by
  cases sets with
  | nothing => exact absurd rfl some
  | given _ _ asked returned =>
    obtain ⟨_, -, directed⟩ := obliging.directed_of_returned asked returned
    exact directed.vacant

theorem sets_returns (described : describe session.settings target = .ok descriptor) {ready : Session σ}
    (sets : Sets target session fields middle) (meanwhile : Meanwhile middle ready)
    (asked : request.field? = some (field, target.value field)) :
    ∃ next, request.run ready = .ok .nothing next ∧ Vacant next := by
  have standing : ready.settings = session.settings :=
    meanwhile.undiverted.settings.trans (obliging.sets_descriptor sets).1
  have resolved := (describe_eq_ok_iff.mp described).1 field
  rw [← standing] at resolved
  obtain ⟨next, returned, directed⟩ := obliging.returns_of_resolve asked resolved
  exact ⟨next, returned, directed.vacant⟩

theorem descriptor_of_sets (described : describe session.settings target = .ok descriptor)
    (configured : session.descriptor.port = session.settings.port) (sets : Sets target session fields final)
    (every : ∀ field, field ∈ fields) : final.descriptor = descriptor := by
  obtain ⟨texts, port⟩ := describe_eq_ok_iff.mp described
  obtain ⟨-, kept, resolved⟩ := obliging.sets_descriptor sets
  refine descriptor_eq (fun field => ?_) ((kept.trans configured).trans port.symm)
  exact Except.ok.inj ((resolved field (every field)).symm.trans (texts field))

end Obliging

/-- On a server that lets go of connections and engines, in any state that is reached: to give all fields at
once is refused for want of a setting exactly if it is refused for one of them alone. Otherwise it returns, and
the fields can be given one after the other in any order, with any requests in between that direct the session
nowhere else. Each of them returns, and after the last the session holds nothing and is directed to the same
place. -/
theorem setFields_configure (obliging : Obliging σ) (session : Session σ) (driven : Driven session)
    (target : Target) (whole : Request) (asked : whole.target? = some target) :
    (whole.Misses session ↔
      ∃ field single, Request.field? single = some (field, target.value field) ∧ single.Misses session) ∧
    (¬ whole.Misses session → ∃ configured, whole.run session = .ok .nothing configured ∧
      (∀ fields middle ready, Sets target session fields middle → Meanwhile middle ready →
        ∀ field single, Request.field? single = some (field, target.value field) →
          ∃ next, single.run ready = .ok .nothing next ∧ Vacant next) ∧
      ∀ fields last, Sets target session fields last → (∀ field, field ∈ fields) →
        last.descriptor = configured.descriptor ∧ Vacant last) := by
  refine ⟨obliging.misses_iff asked, fun given => ?_⟩
  cases described : describe session.settings target with
  | error failure => exact absurd ((obliging.target_misses_iff asked).mpr ⟨failure, described⟩) given
  | ok descriptor =>
    obtain ⟨configured, returned, directed⟩ := obliging.returns_of_describe asked described
    refine ⟨configured, returned, fun fields middle ready sets meanwhile field single asked =>
      obliging.sets_returns described sets meanwhile asked, fun fields last sets every => ⟨?_, ?_⟩⟩
    · rw [directed.descriptor]
      exact obliging.descriptor_of_sets described driven.aimed.1.port sets every
    · exact obliging.sets_vacant sets (List.ne_nil_of_mem (every .host))

end

theorem shelf_obliging : Obliging Shelf := ⟨fun _ _ => rfl, fun _ => rfl⟩

def lodged : Session Shelf where
  settings := { user := some "reader", password := some "hush" }
  echo := false
  descriptor := ⟨"host", "writer", "secret", "shop", 3306⟩
  server := .mk

def lodgedInside : Session Shelf := after (Request.call (.transaction "SELECT 2" [] false false)).run lodged

def removal : Target := { host := some "elsewhere", user := some "", database := some "store" }

/-- The fields are given in another order than they are declared in, and the session connects and runs a query
in between. -/
theorem removal_setFields : Obliging Shelf ∧ Driven lodgedInside ∧ lodgedInside.inTransaction = true ∧
    ¬ (Request.connection (.configure removal)).Misses lodgedInside ∧
    ∃ last, Sets removal lodgedInside [.database, .user, .host, .password] last ∧ Vacant last ∧
      last.descriptor = ⟨"elsewhere", "reader", "hush", "store", 3306⟩ := by
  have created : create { user := some "reader", password := some "hush" } false
      ⟨some "host", some "writer", some "secret", some "shop"⟩ .mk = .ok lodged := rfl
  have driven : Driven lodgedInside := .asked _ (.created created)
  have whole := setFields_configure shelf_obliging lodgedInside driven removal
    (.connection (.configure removal)) rfl
  have described : describe lodgedInside.settings removal =
      .ok ⟨"elsewhere", "reader", "hush", "store", 3306⟩ := rfl
  have asked : (Request.connection (.configure removal)).target? = some removal := rfl
  obtain ⟨_, returns, directed⟩ := shelf_obliging.returns_of_describe asked described
  have given : ¬ (Request.connection (.configure removal)).Misses lodgedInside := by
    rintro ⟨_, _, failed, -⟩
    cases failed.symm.trans returns
  obtain ⟨configured, returned, further, agrees⟩ := whole.2 given
  cases returns.symm.trans returned
  have set {fields : List Field} {middle ready : Session Shelf} (field : Field)
      (sets : Sets removal lodgedInside fields middle) (meanwhile : Meanwhile middle ready) :
      ∃ next, Sets removal lodgedInside (fields ++ [field]) next := by
    obtain ⟨next, returned, -⟩ := further fields middle ready sets meanwhile field
      (.connection (.setField field (removal.value field))) rfl
    exact ⟨next, .given sets meanwhile rfl returned⟩
  obtain ⟨first, one⟩ := set .database .nothing .nothing
  obtain ⟨second, two⟩ := set .user one (.asked (.call .connect) id .nothing)
  obtain ⟨third, three⟩ := set .host two (.asked (.call (.queryExecute "SELECT 4" [] false)) id .nothing)
  obtain ⟨last, four⟩ := set .password three .nothing
  obtain ⟨same, vacant⟩ := agrees _ last four fun field => by cases field <;> decide
  exact ⟨shelf_obliging, driven, by decide +kernel, given, last, four, vacant, same.trans directed.descriptor⟩

end SqlGateway.Session
