import SqlGateway.Proofs.Consulting
import SqlGateway.Proofs.Tabulated

/-!
Failures to bind a value. Connecting, closing and running a statement end with no such failure, nor does
writing a statement for a caller: a query fails to bind only if its own parameters cannot be bound.
-/

namespace SqlGateway

variable {α β : Type}

def Bindable (result : Except Failure α) : Prop :=
  ∀ failure, result = .error failure → failure.kind ≠ .bindFailed

theorem bindable_ok (value : α) : Bindable (.ok value) := nofun

theorem bindable_error {failure : Failure} (other : failure.kind ≠ .bindFailed) :
    Bindable (.error failure : Except Failure α) := by
  intro _ same
  cases same
  exact other

/-- What the server, the connection and the text of a query can make a call fail with. -/
inductive Failure.Ordinary : Failure → Prop
  | fault (cause : Fault) : Ordinary (.fault cause)
  | refused (database host : String) (cause : Fault) : Ordinary (.refused database host cause)
  | notConnected : Ordinary .notConnected
  | emptyQuery : Ordinary .emptyQuery
  | queryFailed (text : String) (sqlstate code : Value) : Ordinary (.queryFailed text sqlstate code)
  | invalidOperation : Ordinary .invalidOperation

theorem Failure.Ordinary.unbinding {failure : Failure} (ordinary : failure.Ordinary) :
    failure.kind ≠ .bindFailed := by
  cases ordinary with
  | fault cause => cases cause <;> nofun
  | refused | notConnected | emptyQuery | queryFailed | invalidOperation => nofun

theorem Bindable.map {result : Except Failure α} (bindable : Bindable result) (f : α → β) :
    Bindable (result.map f) := FailsWith.map bindable f

theorem ordinary_answered (answer : Except Fault α) : FailsWith Failure.Ordinary (answer.mapError .fault) := by
  cases answer with
  | ok value => exact fails_ok value
  | error fault => exact fails_error (.fault fault)

theorem Statement.fails_bindEach {allowed : Failure → Prop}
    (each : ∀ (statement : Statement) (name : String) (value : Value), FailsWith allowed (statement.bind name value))
    (statement : Statement) (params : Params) : FailsWith allowed (statement.bindEach params) := by
  induction params generalizing statement with
  | nil => exact fails_ok statement
  | cons entry more ih => exact (each statement entry.1 entry.2).bind ih

namespace Query

def Unwritten (failure : Failure) : Prop := failure.kind = .invalidParameters ∨ failure.kind = .unrestricted

theorem fails_restriction (table : Value) (record : Record) (conjunction : Conjunction)
    (allRows : Bool) (opening : String) :
    FailsWith Unwritten (restriction table record conjunction allRows opening) := by
  unfold restriction
  split
  · split
    · exact fails_ok _
    · exact fails_error (.inr rfl)
  · refine FailsWith.map ((fails_mapM fun entry _ => ?_).bind fun parts => fails_ok _) _
    exact ((fails_quote entry.1).mono fun _ => .inl).bind fun column => fails_ok _

theorem fails_update (table : Value) (params record : Record) (conjunction : Conjunction)
    (allRows : Bool) : FailsWith Unwritten (update table params record conjunction allRows) := by
  unfold update
  split
  · exact fails_error (.inl rfl)
  · have quotes (name : Value) : FailsWith Unwritten (quote name) := (fails_quote name).mono fun _ => .inl
    refine (fails_mapM fun entry _ => (quotes entry.1).map _).bind fun assignments => ?_
    exact (quotes table).bind fun tableSql => (fails_restriction _ _ _ _ _).bind fun restricted => fails_ok _

theorem Command.fails_write (command : Command) : FailsWith Unwritten command.write := by
  cases command with
  | insert table input primaryKey upsert => exact (fails_insert table input primaryKey upsert).mono fun _ => .inl
  | update table params record conjunction allRows =>
    exact fails_update table params record conjunction allRows
  | delete table record conjunction allRows | select table record conjunction =>
    refine (fails_restriction _ _ _ _ _).bind fun restricted => ?_
    exact ((fails_quote table).mono fun _ => .inl).bind fun tableSql => fails_ok _

theorem bindable_readRows (input : Value) : Bindable (readRows input) :=
  (fails_readRows input).mono fun _ kind => by rw [kind]; nofun

theorem Command.bindable_write (command : Command) : Bindable command.write :=
  command.fails_write.mono fun _ kinds => kinds.elim (fun kind => by rw [kind]; nofun)
    fun kind => by rw [kind]; nofun

end Query

namespace Statement

/-- The characters of a query are looked at, not its text: a long text is slow to take apart. -/
theorem fit_of_chars {query : String} {names : List String} {chars : List Char}
    (same : query.toList = chars) (every : ∀ name ∈ names, Query.Spelled name ∧
      name ∈ ((scan boundName? none chars).map String.ofList).eraseDups ∧ mentions name.toList chars = true) :
    Fit query names := by
  intro name member
  rw [placeholders, same]
  exact every name member

theorem bindable_of_fit {query : String} {params : Params} (distinct : params.keys.Nodup)
    (fit : Fit query params.keys) : Bindable (forQuery query params) := by
  rw [forQuery_of_fit distinct fit]
  refine Bindable.map (fun failure refused => ?_) _
  obtain ⟨name, value, -, rfl, -⟩ := boundEach_error refused
  nofun

end Statement

namespace Session

variable {σ : Type} {session final : Session σ}

theorem Closes.ordinary {result : Except Failure Bool} (closes : Closes session result final) :
    FailsWith Failure.Ordinary result := by
  cases closes with
  | mk server torn =>
    cases torn with
    | nothing _ _ | closed _ _ _ _ _ => exact fails_ok true
    | disposed answer _ _ => exact (ordinary_answered answer).map _
    | both _ _ disposal _ _ _ => exact (ordinary_answered disposal).map _
    | cut _ fault _ _ => exact fails_error (.fault fault)

theorem Runs.ordinary {statement : Statement} {result : Except Failure Outcome}
    (runs : Runs statement session result final) : FailsWith Failure.Ordinary result := by
  cases runs with
  | unconnected _ => exact fails_error .notConnected
  | mk handle server held ran =>
    cases result with
    | ok outcome => exact fails_ok outcome
    | error failure =>
      obtain ⟨fault, rfl, -⟩ := ran.fault
      exact fails_error (.fault fault)

theorem ordinary_verdict {result : Except Failure Outcome} (ordinary : FailsWith Failure.Ordinary result) :
    FailsWith Failure.Ordinary (verdict result) := by
  cases result with
  | ok outcome =>
    intro failure refused
    rw [(isOne_error refused).1]
    exact .invalidOperation
  | error failure =>
    rw [verdict]
    split
    · exact fails_ok false
    · exact fails_error (ordinary failure rfl)

theorem Checks.ordinary {result : Except Failure Bool} (checks : Checks session result final) :
    FailsWith Failure.Ordinary result := by
  cases checks with
  | absent _ | answered _ _ _ _ => exact fails_ok _
  | dropped _ _ _ _ closes => exact closes.ordinary.map _
  | unclear _ _ runs refused => exact refused ▸ ordinary_verdict runs.ordinary

theorem Opens.ordinary {result : Except Failure Unit} (opens : Opens session result final) :
    FailsWith Failure.Ordinary result := by
  cases opens with
  | engineless fault _ | refused fault _ => exact fails_error (.fault fault)
  | opened _ => exact fails_ok ()

theorem ordinary_refusal (descriptor : Descriptor) {failure : Failure} (ordinary : failure.Ordinary) :
    (refusal descriptor failure).Ordinary := by
  unfold refusal
  split
  · next cause => exact .refused _ _ cause
  · exact ordinary

theorem Connects.ordinary {result : Except Failure Bool} (connects : Connects session result final) :
    FailsWith Failure.Ordinary result := by
  cases connects with
  | healthy checks | unclear checks => exact checks.ordinary
  | opened _ _ => exact fails_ok true
  | unopened _ opens _ => exact fails_error (opens.ordinary _ rfl)
  | @refused failure _ middle _ _ _ opens _ closes =>
    exact closes.ordinary.bind fun _ => fails_error (ordinary_refusal _ (opens.ordinary failure rfl))

theorem ordinary_reported {failure : Failure} (ordinary : failure.Ordinary) : (reported failure).Ordinary := by
  unfold reported
  split
  · unfold queryFailure
    split
    · exact .queryFailed _ _ _
    · exact .queryFailed _ _ _
    · exact ordinary
  · exact ordinary

def Failing (query : String) (params : Params) (failure : Failure) : Prop :=
  failure.Ordinary ∨ Statement.forQuery query params = .error failure

theorem Asks.fails {query : String} {params : Params} {result : Except Failure Bool}
    (asks : Asks query params session result final) : FailsWith (Failing query params) result := by
  cases asks with
  | unbound _ refused => exact fails_error (.inr refused)
  | failed _ runs => exact fails_error (.inl (ordinary_reported (runs.ordinary _ rfl)))
  | done _ _ => exact fails_ok true

theorem Queries.fails {query : String} {params : Params} {closing : Bool} {result : Except Failure Bool}
    (queries : Queries query params closing session result final) : FailsWith (Failing query params) result := by
  cases queries with
  | blank _ => exact fails_error (.inl .emptyQuery)
  | unconnected _ connects => exact fails_error (.inl (connects.ordinary _ rfl))
  | kept _ _ asks _ => exact asks.fails
  | released _ _ asks _ closes => exact (closes.ordinary.mono fun _ => .inl).bind fun _ => asks.fails

theorem Queries.bindable {query : String} {params : Params} {closing : Bool} {result : Except Failure Bool}
    (bindable : Bindable (Statement.forQuery query params))
    (queries : Queries query params closing session result final) : Bindable result :=
  queries.fails.mono fun failure failing => failing.elim (·.unbinding) (bindable failure)

structure Binds (action : Action σ α) : Prop where
  ends (session : Session σ) : Meets action session fun result _ => Bindable result

def Unbinding (_ : Session σ) (failure? : Option Failure) (_ : Session σ) : Prop :=
  ∀ failure, failure? = some failure → failure.kind ≠ .bindFailed

theorem bindable_iff {result : Except Failure α} :
    Bindable result ↔ Unbinding session (failureOf result) final := by
  cases result with
  | ok _ => exact iff_of_true nofun nofun
  | error failure =>
    exact ⟨fun bindable _ same => bindable _ (congrArg _ (Option.some.inj same)),
      fun unbinding _ same => unbinding _ (congrArg _ (Except.error.inj same))⟩

theorem binds_iff_yields {action : Action σ α} : Binds action ↔ Yields Unbinding action := by
  have each (session : Session σ) : Meets action session (fun result _ => Bindable result) ↔
      Meets action session fun result final => Unbinding session (failureOf result) final :=
    ends_congr (fun _ _ => bindable_iff) fun _ _ => bindable_iff
  exact ⟨fun binds => ⟨fun session => (each session).mp (binds.ends session)⟩,
    fun yields => ⟨fun session => (each session).mpr (yields.ends session)⟩⟩

theorem binds_ofResult {result : Except Failure α} (bindable : Bindable result) :
    Binds (ofResult result : Action σ α) where
  ends session := by
    cases result with
    | ok answer => exact (ends_pure answer).mpr (bindable_ok answer)
    | error failure => exact (ends_throw failure).mpr bindable

-- The texts of the two catalog queries are longer than the default depth.
set_option maxRecDepth 4000 in
theorem fit_listing : Statement.Fit listingQuery ["database_name"] :=
  Statement.fit_of_chars String.toList_ofList (by decide +kernel)

set_option maxRecDepth 4000 in
theorem fit_primaryKey : Statement.Fit primaryKeyQuery ["database_name", "table_name"] :=
  Statement.fit_of_chars String.toList_ofList (by decide +kernel)

set_option maxRecDepth 4000 in
theorem listing_given : isBlankText listingQuery = false := by
  obtain ⟨chars, same, member⟩ : ∃ chars, listingQuery.toList = chars ∧ 'S' ∈ chars :=
    ⟨_, String.toList_ofList, by decide +kernel⟩
  exact isBlankText_of_mem (same ▸ member) (by decide)

theorem bindable_listing (database : String) :
    Bindable (Statement.forQuery listingQuery [("database_name", .text database)]) := by
  have distinct : ["database_name"].Nodup := by decide
  exact Statement.bindable_of_fit distinct fit_listing

theorem bindable_primaryKey (database table : String) :
    Bindable (Statement.forQuery primaryKeyQuery
      [("database_name", .text database), ("table_name", .text table)]) := by
  have distinct : ["database_name", "table_name"].Nodup := by decide
  exact Statement.bindable_of_fit distinct fit_primaryKey

variable [Server σ]

theorem binds_queryExecute {query : String} {params : Params}
    (bindable : Bindable (Statement.forQuery query params)) (closing : Bool) :
    Binds (queryExecute query params closing : Action σ Bool) where
  ends session := ends_mono (queryExecute_meets query params closing session)
    (fun _ _ queries => queries.bindable bindable) fun _ _ queries => queries.bindable bindable

theorem consulting_unbinding : Consulting (fun _ => True) (Unbinding (σ := σ)) where
  refl _ := nofun
  trans _ later := later
  lacks := by
    rintro _ _ ⟨name, row, -, -, rfl⟩ _ ⟨⟩
    nofun
  rejects session kinds := by
    rintro _ ⟨⟩
    rcases kinds with kind | kind | _ | _
    · rw [kind]
      nofun
    · rw [kind]
      nofun
    · nofun
    · nofun
  recast _ _ := nofun
  recovers _ _ := nofun
  listing := by
    refine ⟨fun session => ?_⟩
    rw [askListing, Meets, ends_bind, ends_databaseName]
    exact (binds_iff_yields.mp (binds_queryExecute (bindable_listing _) false)).ends session
  keyed table := by
    refine ⟨fun session => ?_⟩
    rw [askPrimaryKey, Meets, ends_bind, ends_databaseName]
    exact (binds_iff_yields.mp (binds_queryExecute (bindable_primaryKey _ table) false)).ends session

end Session

end SqlGateway
