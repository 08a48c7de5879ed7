import SqlGateway.Proofs.Asking
import SqlGateway.Proofs.Grouping
import SqlGateway.Session.Call

/-!
Calls about the catalog and the writing of quick queries. They are made of two queries to the server, of
reading the rows that came back and of refusing names. What holds of these parts holds of the whole, where it
may speak of the failure as well as of the states before and after.
-/

namespace SqlGateway

/-- The failure names a column that one of the rows does not have. -/
def Lacks (rows : List Row) (failure : Failure) : Prop :=
  ∃ name, ∃ row ∈ rows, row.get? name = none ∧ failure = .absentColumn name

theorem fails_column {rows : List Row} (name : String) {row : Row} (member : row ∈ rows) :
    FailsWith (Lacks rows) (Session.column name row) := by
  unfold Session.column
  cases found : row.get? name with
  | some value => exact fails_ok value
  | none => exact fails_error ⟨name, row, member, found, rfl⟩

theorem fails_ofRows (rows : List Row) : FailsWith (Lacks rows) (Catalog.ofRows rows) := by
  refine (fails_mapM fun row member => ?_).bind fun listed => fails_ok _
  refine (fails_column _ member).bind fun type => (fails_column _ member).bind fun table => ?_
  exact (fails_column _ member).bind fun column => fails_ok _

/-- The failure says that one of the given values is no name. -/
inductive Misnames (given : Value → Prop) : Failure → Prop
  | untrimmable {value : Value} : given value → ¬ Catalog.HasEnds value → Misnames given (.untrimmable value)
  | unhashable {value : Value} : given value → value.unhashable?.isSome = true → Misnames given (.unhashable value)

def Rejects (given : Value → Prop) (failure : Failure) : Prop :=
  failure.kind = .invalidTable ∨ failure.kind = .invalidColumn ∨ Misnames given failure

namespace Catalog

variable {given : Value → Prop} {table column : Value} (catalog : Catalog)

theorem fails_contains (tabled : given table) (columned : column ≠ .null → given column) :
    FailsWith (Misnames given) (catalog.contains table column) := by
  refine FailsWith.bind (fun failure failed => ?_) fun found => ?_
  · cases table_eq_error_iff.mp failed with
    | untrimmable _ endless => exact .untrimmable tabled endless
    | unhashable _ changes => exact .unhashable tabled changes
  · split
    · exact fails_ok false
    · exact fails_ok true
    · next column named =>
      refine FailsWith.bind (fun failure failed => ?_) fun _ => fails_ok _
      obtain ⟨endless, rfl⟩ := named_eq_error_iff.mp failed
      exact .untrimmable (columned named) endless

theorem fails_check (tabled : given table) (columned : column ≠ .null → given column) {missing : Failure}
    (kind : missing.kind = .invalidTable ∨ missing.kind = .invalidColumn) :
    FailsWith (Rejects given) (catalog.check table column missing) := by
  intro failure failed
  rcases contains_of_check_error failed with unnamed | ⟨-, rfl⟩
  · exact .inr (.inr (catalog.fails_contains tabled columned failure unnamed))
  · exact kind.imp_right .inl

theorem fails_require {columns : List Value} (tabled : given table) (columned : ∀ column ∈ columns, given column) :
    FailsWith (Rejects given) (catalog.require table columns) := by
  refine FailsWith.bind (catalog.fails_check tabled (absurd rfl) (.inl rfl)) fun _ failure failed => ?_
  obtain ⟨before, column, later, rfl, -, failed⟩ := exists_of_forM_error failed
  have among : given column := columned column (List.mem_append_right _ List.mem_cons_self)
  exact catalog.fails_check tabled (fun _ => among) (.inr rfl) failure failed

end Catalog

namespace Session

variable {σ α β : Type}

/-- However the action ends, its failure, if there is one, and the states before and after are related. -/
structure Yields (Leads : Session σ → Option Failure → Session σ → Prop) (action : Action σ α) : Prop where
  ends (session : Session σ) : Meets action session fun result final => Leads session (failureOf result) final

/-- A relation that actions pass on up to the failure, which may be that a row lacks a column. -/
structure Yielding (Leads : Session σ → Option Failure → Session σ → Prop) : Prop where
  refl (session : Session σ) : Leads session none session
  trans {first second third : Session σ} {failure? : Option Failure} :
    Leads first none second → Leads second failure? third → Leads first failure? third
  lacks {session : Session σ} {failure : Failure} : Lacks (outcome session).rows failure →
    Leads session (some failure) session

theorem ends_databaseName {session : Session σ} {done : String → Session σ → Prop}
    {failed : Failure → Session σ → Prop} :
    Ends databaseName session done failed ↔ done session.descriptor.database session := by
  rw [databaseName, ends_bind, ends_get, ends_pure]

section

variable [Server σ]

def askListing : Action σ Bool := do
  queryExecute listingQuery [("database_name", .text (← databaseName))] false

def askPrimaryKey (table : String) : Action σ Bool := do
  queryExecute primaryKeyQuery [("database_name", .text (← databaseName)), ("table_name", .text table)] false

/-- It holds across the two queries about the catalog, and where a name is refused. -/
structure Consulting (given : Value → Prop) (Leads : Session σ → Option Failure → Session σ → Prop) : Prop
    extends Yielding Leads where
  rejects {failure : Failure} (session : Session σ) : Rejects given failure → Leads session (some failure) session
  recast (session : Session σ) (catalog : Catalog) : Leads session none { session with catalog }
  recovers {session final : Session σ} {failure : Failure} : failure.kind = .queryFailed →
    Leads session (some failure) final → Leads session none final
  listing : Yields Leads askListing
  keyed (table : String) : Yields Leads (askPrimaryKey table)

end

variable {Leads : Session σ → Option Failure → Session σ → Prop}

theorem Yields.discard {action : Action σ α} (yields : Yields Leads action) :
    Yields Leads (discard action) where
  ends session := by
    rw [Meets, ends_discard]
    exact yields.ends session

theorem yields_throw {failure : Failure} (here : ∀ session, Leads session (some failure) session) :
    Yields Leads (throw failure : Action σ α) where
  ends session := (ends_throw failure).mpr (here session)

theorem yields_rows {next : List Row → Action σ α} (each : ∀ session,
      Meets (next (outcome session).rows) session fun result final => Leads session (failureOf result) final) :
    Yields Leads (rows >>= next) where
  ends session := by
    rw [Meets, rows, ends_bind, ends_bind, ends_get, ends_pure]
    exact each session

namespace Yielding

variable (yielding : Yielding Leads)

include yielding

theorem pure (answer : α) : Yields Leads (pure answer : Action σ α) where
  ends session := (ends_pure answer).mpr (yielding.refl session)

theorem get : Yields Leads (get : Action σ (Session σ)) where
  ends session := ends_get.mpr (yielding.refl session)

theorem ends_ofResult {result : Except Failure α} {session : Session σ}
    (here : FailsWith (fun failure => Leads session (some failure) session) result) :
    Meets (ofResult result) session fun result final => Leads session (failureOf result) final := by
  cases result with
  | ok answer => exact (yielding.pure answer).ends session
  | error failure => exact (ends_throw failure).mpr (here failure rfl)

theorem ofResult {result : Except Failure α} {allowed : Failure → Prop} (fails : FailsWith allowed result)
    (here : ∀ failure session, allowed failure → Leads session (some failure) session) :
    Yields Leads (ofResult result : Action σ α) where
  ends session := yielding.ends_ofResult (fails.mono fun failure => here failure session)

theorem ends_then {action : Action σ α} {next : α → Action σ β} {session : Session σ}
    (first : Meets action session fun result middle => Leads session (failureOf result) middle)
    (second : ∀ answer, Yields Leads (next answer)) :
    Meets (action >>= next) session fun result final => Leads session (failureOf result) final := by
  rw [Meets, ends_bind]
  refine ends_mono first (fun answer middle here => ?_) fun _ _ => id
  exact ends_mono ((second answer).ends middle) (fun _ _ => yielding.trans here)
    fun _ _ => yielding.trans here

theorem bind {action : Action σ α} {next : α → Action σ β} (first : Yields Leads action)
    (second : ∀ answer, Yields Leads (next answer)) : Yields Leads (action >>= next) where
  ends session := yielding.ends_then (first.ends session) second

theorem answered {action : Action σ α} (yields : Yields Leads action) (answer : α → Answer) :
    Yields Leads (do return answer (← action)) :=
  yielding.bind yields fun _ => yielding.pure _

theorem findKey [Server σ] (table : Value) (keyed : Yields Leads (askPrimaryKey (Text.trim table.display))) :
    Yields Leads (findKey table) where
  ends session := by
    unfold Session.findKey
    have asked := keyed.ends session
    rw [askPrimaryKey, Meets, ends_bind, ends_databaseName] at asked
    rw [Meets, ends_bind, ends_databaseName]
    refine yielding.ends_then ?_ fun _ => yields_rows fun session => ?_
    · rw [Meets, ends_discard]
      exact asked
    split
    · exact (yielding.pure "").ends session
    · exact (yielding.pure "").ends session
    · next _ row _ _ same =>
      have member : row ∈ (outcome session).rows := same ▸ List.mem_cons_self
      refine yielding.ends_then (yielding.ends_ofResult ?_) fun _ => yielding.pure _
      exact (fails_column "column_name" member).mono fun _ => yielding.lacks

end Yielding

namespace Consulting

variable [Server σ] {given : Value → Prop} (consulting : Consulting given Leads)

include consulting

theorem loadCatalog : Yields Leads loadCatalog where
  ends session := by
    unfold Session.loadCatalog
    have asked := consulting.listing.ends session
    rw [askListing, Meets, ends_bind, ends_databaseName] at asked
    rw [Meets, ends_bind, ends_databaseName]
    refine consulting.ends_then ?_ fun listed => ?_
    · rw [Meets, ends_tryCatch]
      refine ends_mono asked (fun _ _ => id) fun failure middle refused => ?_
      split
      · next kind => exact (ends_pure _).mpr (consulting.recovers kind refused)
      · exact (ends_throw _).mpr refused
    split
    · refine yields_rows fun session => ?_
      refine consulting.ends_then (consulting.ends_ofResult ?_) fun catalog => ?_
      · exact (fails_ofRows _).mono fun _ => consulting.lacks
      · have taken : Yields Leads (modify fun session => { session with catalog } : Action σ PUnit) :=
          ⟨fun session => (ends_modify _).mpr (consulting.recast session catalog)⟩
        exact consulting.bind taken fun _ => consulting.pure listed
    · exact consulting.pure listed

theorem contains {table column : Value} (tabled : given table) (columned : column ≠ .null → given column)
    (catalog : Catalog) : Yields Leads (ofResult (catalog.contains table column) : Action σ Bool) :=
  consulting.ofResult (catalog.fails_contains tabled columned) fun _ session misnamed =>
    consulting.rejects session (.inr (.inr misnamed))

theorem validSchema {table column : Value} (tabled : given table) (columned : column ≠ .null → given column) :
    Yields Leads (validSchema table column) := by
  unfold Session.validSchema
  refine consulting.bind consulting.loadCatalog.discard fun _ => ?_
  exact consulting.bind consulting.get fun session => consulting.contains tabled columned _

theorem validTable {table : Value} (tabled : given table) : Yields Leads (validTable table) := by
  unfold Session.validTable
  refine consulting.bind consulting.get fun session => ?_
  have rest : Yields Leads (do
      let session ← MonadState.get
      if ← Session.ofResult (session.catalog.contains table .null) then return true
      Session.validSchema table .null) := by
    refine consulting.bind consulting.get fun session => ?_
    refine consulting.bind (consulting.contains tabled (absurd rfl) _) fun known => ?_
    split
    · exact consulting.pure true
    · exact consulting.validSchema tabled (absurd rfl)
  split
  · exact consulting.bind consulting.loadCatalog.discard fun _ => rest
  · exact rest

theorem require {table : Value} {columns : List Value} (tabled : given table)
    (columned : ∀ column ∈ columns, given column) : Yields Leads (require table columns) := by
  unfold Session.require
  refine consulting.bind consulting.loadCatalog.discard fun _ => consulting.bind consulting.get fun session => ?_
  exact consulting.ofResult (session.catalog.fails_require tabled columned) fun _ session =>
    consulting.rejects session

theorem primaryKey {table : Value} (tabled : given table) : Yields Leads (primaryKey table) := by
  unfold Session.primaryKey
  have found := consulting.findKey table (consulting.keyed _)
  refine consulting.bind (consulting.validSchema tabled (absurd rfl)) fun valid => ?_
  dsimp only
  split
  · exact found
  · exact consulting.bind (yields_throw fun session => consulting.rejects session (.inl rfl)) fun _ => found

theorem writeInsert {table input : Value} {upsert : Bool} (tabled : given table)
    (columned : ∀ batch, Query.readRows input = .ok batch → ∀ column ∈ batch.columns, given column)
    (read : Yields Leads (ofResult (Query.readRows input)))
    (written : ∀ key, Yields Leads (ofResult (Query.insert table input (.text key) upsert))) :
    Yields Leads (writeInsert table input upsert) := by
  refine ⟨fun session => ?_⟩
  have stopped := read.ends session
  rw [Meets, Session.ends_ofResult] at stopped
  rw [Meets, Session.writeInsert, ends_bind, Session.ends_ofResult]
  cases rows : Query.readRows input with
  | error failure =>
    rw [rows] at stopped
    exact stopped
  | ok batch =>
    have rest : Yields Leads (do
        Session.require table batch.columns
        let key ← if upsert then Session.primaryKey table else Pure.pure ""
        Session.ofResult (Query.insert table input (.text key) upsert)) := by
      refine consulting.bind (consulting.require tabled (columned batch rows)) fun _ => ?_
      dsimp only
      split
      · exact consulting.bind (consulting.primaryKey tabled) written
      · exact consulting.bind (consulting.pure "") written
    exact rest.ends session

theorem writeUpdate {table : Value} {params record : Record} {conjunction : Query.Conjunction} {allRows : Bool}
    (tabled : given table) (columned : ∀ column ∈ params.keys ++ record.keys, given column)
    (written : Yields Leads (ofResult (Query.update table params record conjunction allRows))) :
    Yields Leads (writeUpdate table params record conjunction allRows) :=
  consulting.bind (consulting.require tabled columned) fun _ => written

theorem writeDelete {table : Value} {record : Record} {conjunction : Query.Conjunction} {allRows : Bool}
    (tabled : given table) (columned : ∀ column ∈ record.keys, given column)
    (written : Yields Leads (ofResult (Query.delete table record conjunction allRows))) :
    Yields Leads (writeDelete table record conjunction allRows) :=
  consulting.bind (consulting.require tabled columned) fun _ => written

theorem writeSelect {table : Value} {record : Record} {conjunction : Query.Conjunction}
    (tabled : given table) (columned : ∀ column ∈ record.keys, given column)
    (written : Yields Leads (ofResult (Query.select table record conjunction))) :
    Yields Leads (writeSelect table record conjunction) :=
  consulting.bind (consulting.require tabled columned) fun _ => written

end Consulting

end Session

end SqlGateway
