import SqlGateway.Proofs.Consulting

/-!
Relations between states that a query keeps to. A query is made of connecting, running statements and
remembering what came back, and a catalog call or the writing of a quick query of the two queries about
the catalog; a relation that holds across each part holds across the whole.
-/

namespace SqlGateway.Session

variable {σ α β : Type}

structure Chaining (Related : Session σ → Session σ → Prop) : Prop where
  refl (session : Session σ) : Related session session
  trans {first second third : Session σ} :
    Related first second → Related second third → Related first third

/-- It holds whatever the session remembers of its statement and of its catalog. -/
structure Composing (Related : Session σ → Session σ → Prop) : Prop extends Chaining Related where
  remember (session : Session σ) (prepared? : Option Prepared) (catalog : Catalog) :
    Related session { session with prepared?, catalog }

structure Querying (Related : Session σ → Session σ → Prop) : Prop extends Chaining Related where
  prepare (session : Session σ) (prepared? : Option Prepared) : Related session { session with prepared? }
  connect {session final : Session σ} {result : Except Failure Bool} :
    Connects session result final → Related session final
  run {statement : Statement} {session final : Session σ} {result : Except Failure Outcome} :
    Runs statement session result final → Related session final

structure Steady (Related : Session σ → Session σ → Prop) : Prop extends Composing Related where
  connect {session final : Session σ} {result : Except Failure Bool} :
    Connects session result final → Related session final
  run {statement : Statement} {session final : Session σ} {result : Except Failure Outcome} :
    Runs statement session result final → Related session final

/-- However the action ends, the state after it is related to the state before. -/
structure Keeps (Related : Session σ → Session σ → Prop) (action : Action σ α) : Prop where
  ends (session : Session σ) : Ends action session (fun _ final => Related session final)
    fun _ final => Related session final

section

variable [Server σ]

structure Attends (Related : Session σ → Session σ → Prop) : Prop extends Composing Related where
  listing : Keeps Related askListing
  keyed (table : String) : Keeps Related (askPrimaryKey table)

end

theorem Keeps.after {Related : Session σ → Session σ → Prop} {action : Action σ α}
    (keeps : Keeps Related action) (session : Session σ) : Related session (after action session) :=
  ends_after (keeps.ends session)

theorem keeps_iff_yields {Related : Session σ → Session σ → Prop} {action : Action σ α} :
    Keeps Related action ↔ Yields (fun session _ final => Related session final) action :=
  ⟨fun keeps => ⟨keeps.ends⟩, fun yields => ⟨yields.ends⟩⟩

theorem keeps_discard {Related : Session σ → Session σ → Prop} {action : Action σ α}
    (keeps : Keeps Related action) : Keeps Related (discard action) where
  ends session := by
    rw [ends_discard]
    exact keeps.ends session

theorem Chaining.yielding {Related : Session σ → Session σ → Prop} (chaining : Chaining Related) :
    Yielding fun session _ final => Related session final where
  refl := chaining.refl
  trans := chaining.trans
  lacks _ := chaining.refl _

namespace Chaining

variable {Related : Session σ → Session σ → Prop} (chaining : Chaining Related)

include chaining

theorem pure (answer : α) : Keeps Related (pure answer) where
  ends session := (ends_pure answer).mpr (chaining.refl session)

theorem throw (failure : Failure) : Keeps Related (throw failure : Action σ α) where
  ends session := (ends_throw failure).mpr (chaining.refl session)

theorem get : Keeps Related get where
  ends session := ends_get.mpr (chaining.refl session)

theorem ofResult (result : Except Failure α) : Keeps Related (ofResult result) := by
  cases result with
  | ok answer => exact chaining.pure answer
  | error failure => exact chaining.throw failure

theorem ends_then {action : Action σ α} {next : α → Action σ β} {session : Session σ}
    (first : Ends action session (fun _ middle => Related session middle)
      fun _ final => Related session final)
    (second : ∀ answer, Keeps Related (next answer)) :
    Ends (action >>= next) session (fun _ final => Related session final)
      fun _ final => Related session final :=
  chaining.yielding.ends_then first fun answer => keeps_iff_yields.mp (second answer)

theorem ends_caught {action : Action σ α} {handler : Failure → Action σ α} {session : Session σ}
    (first : Ends action session (fun _ middle => Related session middle)
      fun _ final => Related session final)
    (second : ∀ failure, Keeps Related (handler failure)) :
    Ends (MonadExcept.tryCatch action handler) session (fun _ final => Related session final)
      fun _ final => Related session final := by
  rw [ends_tryCatch]
  refine ends_mono first (fun _ _ => id) fun failure middle here => ?_
  exact ends_mono ((second failure).ends middle) (fun _ _ => chaining.trans here)
    fun _ _ => chaining.trans here

theorem bind {action : Action σ α} {next : α → Action σ β} (first : Keeps Related action)
    (second : ∀ answer, Keeps Related (next answer)) : Keeps Related (action >>= next) where
  ends session := chaining.ends_then (first.ends session) second

theorem tryCatch {action : Action σ α} {handler : Failure → Action σ α}
    (first : Keeps Related action) (second : ∀ failure, Keeps Related (handler failure)) :
    Keeps Related (tryCatch action handler) where
  ends session := chaining.ends_caught (first.ends session) second

theorem onFault {action : Action σ α} {handler : Failure → Action σ α}
    (first : Keeps Related action) (second : ∀ failure, Keeps Related (handler failure)) :
    Keeps Related (onFault action handler) := by
  refine chaining.tryCatch first fun failure => ?_
  split
  · exact second failure
  · exact chaining.throw failure

theorem rows : Keeps Related rows := chaining.bind chaining.get fun _ => chaining.pure _

theorem databaseName : Keeps Related databaseName :=
  chaining.bind chaining.get fun _ => chaining.pure _

end Chaining

theorem Chaining.findKey [Server σ] {Related : Session σ → Session σ → Prop} (chaining : Chaining Related)
    (table : Value) (keyed : Keeps Related (askPrimaryKey (Text.trim table.display))) :
    Keeps Related (findKey table) :=
  keeps_iff_yields.mpr (chaining.yielding.findKey table (keeps_iff_yields.mp keyed))

namespace Querying

variable {Related : Session σ → Session σ → Prop} (querying : Querying Related)

include querying

theorem ask {query : String} {params : Params} {session final : Session σ}
    {result : Except Failure Bool} (asks : Asks query params session result final) :
    Related session final := by
  cases asks with
  | unbound prepared _ => exact querying.prepare session (some prepared)
  | failed _ runs => exact querying.trans (querying.prepare session (some _)) (querying.run runs)
  | done _ runs =>
    have ran := querying.trans (querying.prepare session (some _)) (querying.run runs)
    exact querying.trans ran (querying.prepare _ (some _))

theorem queries {query : String} {params : Params} {closing : Bool} {session final : Session σ}
    {result : Except Failure Bool} (queries : Queries query params closing session result final)
    (closed : closing = true → ∀ {last result final}, Closes last result final → Related last final) :
    Related session final := by
  cases queries with
  | blank _ => exact querying.refl session
  | unconnected _ connects => exact querying.connect connects
  | kept _ connects asks _ => exact querying.trans (querying.connect connects) (querying.ask asks)
  | released _ connects asks isClosing closes =>
    have asked := querying.trans (querying.connect connects) (querying.ask asks)
    exact querying.trans asked (closed isClosing closes)

variable [Server σ]

theorem queryExecute (query : String) (params : Params) :
    Keeps Related (queryExecute query params false) where
  ends session := ends_mono (queryExecute_meets query params false session)
    (fun _ _ queries => querying.queries queries nofun) fun _ _ queries => querying.queries queries nofun

theorem askPrimaryKey (table : String) : Keeps Related (askPrimaryKey table) :=
  querying.bind querying.databaseName fun _ => querying.queryExecute _ _

theorem send (query : Query) : Keeps Related (send query) :=
  keeps_discard (querying.queryExecute query.sql query.params)

end Querying

namespace Steady

variable {Related : Session σ → Session σ → Prop} (steady : Steady Related)

include steady

theorem querying : Querying Related where
  toChaining := steady.toChaining
  prepare session prepared? := steady.remember session prepared? session.catalog
  connect := steady.connect
  run := steady.run

variable [Server σ]

theorem attends : Attends Related where
  toComposing := steady.toComposing
  listing := steady.bind steady.databaseName fun _ => steady.querying.queryExecute _ _
  keyed := steady.querying.askPrimaryKey

end Steady

namespace Attends

variable [Server σ] {Related : Session σ → Session σ → Prop} (attends : Attends Related)

include attends

theorem consulting : Consulting (fun _ => True) fun session _ final => Related session final where
  toYielding := attends.yielding
  rejects session _ := attends.refl session
  recast session := attends.remember session session.prepared?
  recovers _ := id
  listing := keeps_iff_yields.mp attends.listing
  keyed table := keeps_iff_yields.mp (attends.keyed table)

theorem written (result : Except Failure α) :
    Yields (fun session _ final => Related session final) (ofResult result : Action σ α) :=
  keeps_iff_yields.mp (attends.ofResult result)

theorem loadCatalog : Keeps Related loadCatalog := keeps_iff_yields.mpr attends.consulting.loadCatalog

theorem validSchema (table column : Value) : Keeps Related (validSchema table column) :=
  keeps_iff_yields.mpr (attends.consulting.validSchema trivial fun _ => trivial)

theorem validTable (table : Value) : Keeps Related (validTable table) :=
  keeps_iff_yields.mpr (attends.consulting.validTable trivial)

theorem require (table : Value) (columns : List Value) : Keeps Related (require table columns) :=
  keeps_iff_yields.mpr (attends.consulting.require trivial fun _ _ => trivial)

theorem primaryKey (table : Value) : Keeps Related (primaryKey table) :=
  keeps_iff_yields.mpr (attends.consulting.primaryKey trivial)

theorem writeInsert (table input : Value) (upsert : Bool) : Keeps Related (writeInsert table input upsert) :=
  keeps_iff_yields.mpr (attends.consulting.writeInsert trivial (fun _ _ _ _ => trivial) (attends.written _)
    fun _ => attends.written _)

theorem writeUpdate (table : Value) (params record : Record) (conjunction : Query.Conjunction)
    (allRows : Bool) : Keeps Related (writeUpdate table params record conjunction allRows) :=
  keeps_iff_yields.mpr (attends.consulting.writeUpdate trivial (fun _ _ => trivial) (attends.written _))

theorem writeDelete (table : Value) (record : Record) (conjunction : Query.Conjunction)
    (allRows : Bool) : Keeps Related (writeDelete table record conjunction allRows) :=
  keeps_iff_yields.mpr (attends.consulting.writeDelete trivial (fun _ _ => trivial) (attends.written _))

theorem writeSelect (table : Value) (record : Record) (conjunction : Query.Conjunction) :
    Keeps Related (writeSelect table record conjunction) :=
  keeps_iff_yields.mpr (attends.consulting.writeSelect trivial (fun _ _ => trivial) (attends.written _))

end Attends

end SqlGateway.Session
