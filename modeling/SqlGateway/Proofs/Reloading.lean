import SqlGateway.Proofs.Bindable
import SqlGateway.Proofs.Grouping
import SqlGateway.Proofs.Parts
import SqlGateway.Proofs.Sending

/-!
What a session knows of its database. The catalog is the grouping of the rows that the last load that
succeeded has read, wherever in a call that load was made; a load that fails and every other request leave
it as it is. What is asked of the catalog is therefore answered by those rows.
-/

namespace SqlGateway

structure Listing where
  database : String
  rows : List Row

def listingSent (database : String) : Sent :=
  ⟨Session.listingQuery, [⟨"database_name", some ⟨.text, .text database⟩⟩]⟩

def Listing.AnsweredIn (listing : Listing) (log : List Exchange) : Prop :=
  ∃ connection reply outcome, ⟨.execute connection (listingSent listing.database), .ok reply⟩ ∈ log ∧
    Session.collect reply = .ok outcome ∧ outcome.rows = listing.rows

namespace Statement

variable {text : String} {names : List String} {chars : List Char}

theorem places_of_chars (same : text.toList = chars)
    (scanned : (((scan sentName? none chars).map String.ofList).filter
      (((scan boundName? none chars).map String.ofList).eraseDups).contains) = names) : places text = names := by
  rwa [places, placeholders, same]

theorem sentText_of_chars (same : text.toList = chars) (plain : unescape chars = chars) :
    sentText text = text := by
  rw [sentText, same, plain, ← same, String.ofList_toList]

end Statement

namespace Session

def listingStatement (database : String) : Statement :=
  ⟨listingQuery, [("database_name", ⟨.text, .text database⟩)], false⟩

theorem forQuery_listing (database : String) :
    Statement.forQuery listingQuery [("database_name", .text database)] =
      .ok (listingStatement database) := by
  have distinct : (Entries.keys [("database_name", Value.text database)]).Nodup := List.pairwise_singleton _ _
  exact Statement.forQuery_of_fit distinct fit_listing

set_option maxRecDepth 4000 in
theorem places_listing : Statement.places listingQuery = ["database_name"] :=
  Statement.places_of_chars String.toList_ofList (by decide +kernel)

set_option maxRecDepth 4000 in
theorem sentText_listing : Statement.sentText listingQuery = listingQuery :=
  Statement.sentText_of_chars String.toList_ofList (by decide +kernel)

theorem sent_listing (database : String) : (listingStatement database).sent = listingSent database := by
  rw [Statement.sent_of_named rfl, listingStatement, sentText_listing, places_listing]
  rfl

variable {σ : Type} {session final : Session σ}

def rowsIn (last : Option Listing) : List Row := (last.map Listing.rows).getD []

def catalogOf (last : Option Listing) : Catalog := Catalog.grouping (rowsIn last)

structure Unlisting (session final : Session σ) : Prop where
  catalog : final.catalog = session.catalog
  grows : session.log <+: final.log

theorem Unlisting.refl (session : Session σ) : Unlisting session session := ⟨rfl, List.prefix_rfl⟩

theorem Unlisting.trans {middle : Session σ} (early : Unlisting session middle)
    (late : Unlisting middle final) : Unlisting session final :=
  ⟨late.catalog.trans early.catalog, early.grows.trans late.grows⟩

theorem Runs.unlisting {statement : Statement} {result : Except Failure Outcome}
    (runs : Runs statement session result final) : Unlisting session final := by
  refine ⟨?_, (Move.ran runs).grows⟩
  cases runs with
  | unconnected absent => rfl
  | mk handle server held ran => cases result <;> rfl

theorem Begins.unlisting {result : Except Failure Bool} (begins : Begins session result final) :
    Unlisting session final := by
  cases begins with
  | unconnected absent => exact .refl session
  | answered handle isOpen server held => exact ⟨rfl, List.prefix_append _ _⟩
  | refused handle fault server held => exact ⟨rfl, List.prefix_append _ _⟩

theorem redirecting_unlisting : Redirecting (Unlisting (σ := σ)) where
  refl := .refl
  trans := .trans
  prepare session _ := ⟨rfl, List.prefix_rfl⟩
  closed closes := ⟨by cases closes; rfl, (Move.closed closes).grows⟩
  run := Runs.unlisting
  opened absent opens := ⟨by cases opens <;> rfl, (Move.opened absent opens).grows⟩
  begun _ := Begins.unlisting
  committed commits := ⟨by cases commits <;> rfl, (Move.committed commits).grows⟩
  rolledBack rollsBack := ⟨by cases rollsBack <;> rfl, (Move.rolledBack rollsBack).grows⟩
  redirect session _ _ _ := ⟨rfl, List.prefix_rfl⟩

theorem querying_unlisting : Querying (Unlisting (σ := σ)) :=
  redirecting_unlisting.handling.toQuerying

/-- What a load has read for a database when it ended. -/
def readFrom (database : String) : EStateM.Result Failure (Session σ) Bool → Option Listing
  | .ok true final => some ⟨database, (outcome final).rows⟩
  | _ => none

section

variable [Server σ]

/-- The listing that a load from this state reads, if it succeeds. -/
def listing? (session : Session σ) : Option Listing :=
  readFrom session.descriptor.database (loadCatalog session)

theorem listing_ends (session : Session σ) :
    Ends (queryExecute listingQuery [("database_name", .text session.descriptor.database)] false) session
      (fun listed final => listed = true ∧ Unlisting session final ∧
        Listing.AnsweredIn ⟨session.descriptor.database, (outcome final).rows⟩ final.log)
      fun _ final => Unlisting session final := by
  refine ends_mono (queryExecute_meets _ _ false session) ?_ ?_
  · intro listed final queries
    have same := querying_unlisting.queries queries nofun
    generalize returned : Except.ok listed = result at queries
    cases queries with
    | blank _ | unconnected _ _ => cases returned
    | released _ _ _ closing _ => cases closing
    | kept _ connects asks _ =>
      obtain ⟨handle, held⟩ := connects.held
      cases asks with
      | unbound _ _ | failed _ _ => cases returned
      | @done statement outcome _ bound runs =>
        cases returned
        obtain ⟨answer, rest, split, _, fetches⟩ := runs.answered held
        obtain ⟨reply, rfl, collects⟩ := collect_of_fetched (fetches outcome rfl)
        refine ⟨rfl, same, handle.connection, reply, outcome, ?_, collects, rfl⟩
        cases bound.symm.trans (forQuery_listing _)
        rw [sent_listing] at split
        rw [holding, split]
        exact List.mem_append_right _ List.mem_cons_self
  · intro failure final queries
    exact querying_unlisting.queries queries nofun

/-- A load that succeeds leaves the grouping of the rows that it has read; any other leaves the catalog. -/
theorem loadCatalog_ends (session : Session σ) :
    Ends loadCatalog session
      (fun listed final => if listed = true then
          final.catalog = Catalog.grouping (outcome final).rows ∧ session.log <+: final.log ∧
            Listing.AnsweredIn ⟨session.descriptor.database, (outcome final).rows⟩ final.log
        else Unlisting session final)
      fun _ final => Unlisting session final := by
  rw [loadCatalog, ends_bind, ends_databaseName, ends_bind, ends_tryCatch]
  refine ends_mono (listing_ends session) ?_ ?_
  · intro listed middle ended
    obtain ⟨rfl, same, answered⟩ := ended
    rw [if_pos rfl, rows, ends_bind, ends_bind, ends_get, ends_pure, ends_bind, ends_ofResult]
    split
    · next catalog built =>
      rw [ends_bind, ends_modify, ends_pure, if_pos rfl]
      exact ⟨Catalog.ofRows_eq_grouping built, same.grows, answered⟩
    · exact same
  · intro failure middle same
    split
    · rw [ends_pure, if_neg Bool.false_ne_true, ends_pure, if_neg Bool.false_ne_true]
      exact same
    · exact (ends_throw failure).mpr same

theorem loads_of_executed {ready middle : Session σ} {catalog : Catalog}
    (connected : connect session = .ok true ready)
    (executed : execute (ready.holding ⟨listingStatement session.descriptor.database, none⟩) =
      .ok true middle)
    (built : Catalog.ofRows (outcome middle).rows = .ok catalog) :
    loadCatalog session = .ok true { middle with catalog } := by
  refine eq_ok_of_ends ?_
  rw [loadCatalog, ends_bind, ends_databaseName, ends_bind, ends_tryCatch]
  refine ends_queryExecute listing_given connected (forQuery_listing _) ?_
  rw [ends_iff_of_ok executed, if_pos rfl, rows, ends_bind, ends_bind, ends_get, ends_pure, ends_bind,
    ends_ofResult, built]
  dsimp only
  rw [ends_bind, ends_modify, ends_pure]
  exact ⟨rfl, rfl⟩

theorem unlisted_of_refused {ready middle : Session σ} {failure : Failure}
    (connected : connect session = .ok true ready)
    (refused : execute (ready.holding ⟨listingStatement session.descriptor.database, none⟩) =
      .error failure middle)
    (query : failure.kind = .queryFailed) : loadCatalog session = .ok false middle := by
  refine eq_ok_of_ends ?_
  rw [loadCatalog, ends_bind, ends_databaseName, ends_bind, ends_tryCatch]
  refine ends_queryExecute listing_given connected (forQuery_listing _) ?_
  rw [ends_iff_of_error refused, if_pos query, ends_pure, if_neg Bool.false_ne_true, ends_pure]
  exact ⟨rfl, rfl⟩

theorem listing?_of_loaded (loaded : loadCatalog session = .ok true final) :
    listing? session = some ⟨session.descriptor.database, (outcome final).rows⟩ := by
  rw [listing?, loaded, readFrom]

theorem listing?_of_unlisted (unlisted : loadCatalog session = .ok false final) :
    listing? session = none := by
  rw [listing?, unlisted]
  rfl

theorem listing?_of_failed {failure : Failure} (failed : loadCatalog session = .error failure final) :
    listing? session = none := by
  rw [listing?, failed]
  rfl

theorem listing?_answered {listing : Listing} (read : listing? session = some listing) :
    listing.database = session.descriptor.database ∧
      listing.AnsweredIn (after loadCatalog session).log := by
  have ends := loadCatalog_ends session
  rw [listing?] at read
  cases loaded : loadCatalog session with
  | ok listed final =>
    rw [loaded] at read
    cases listed with
    | true =>
      cases read
      rw [ends_iff_of_ok loaded, if_pos rfl] at ends
      rw [after_of_ok loaded]
      exact ⟨rfl, ends.2.2⟩
    | false => cases read
  | error failure final =>
    rw [loaded] at read
    cases read

-- What a load reads is known by the lemmas above and never computed.
attribute [irreducible] listing?

def lastListing (previous : Option Listing) (starts : List (Session σ)) : Option Listing :=
  starts.foldl (fun last start => (listing? start).or last) previous

def reached {α : Type} (action : Action σ α) (session : Session σ) : List (Session σ) :=
  match action session with
  | .ok _ final => [final]
  | .error _ _ => []

/-- The states from which a call loads the catalog, in their order. An insert that is to update a row on a
conflict does so again for the primary key, and a look-up of a table only if it is not known. -/
def Call.loads : Call → Session σ → List (Session σ)
  | .insert table input upsert, session =>
    match Query.readRows input with
    | .ok batch => session :: if upsert then reached (Session.require table batch.columns) session else []
    | .error _ => []
  | .update _ _ _ _ _, session | .delete _ _ _ _, session | .select _ _ _, session | .loadCatalog, session
  | .validSchema _ _, session | .primaryKey _, session => [session]
  | .validTable table, session =>
    if session.catalog.isEmpty then
      session :: (reached Session.loadCatalog session).filter (·.catalog.misses table)
    else if session.catalog.misses table then [session] else []
  | _, _ => []

def CatalogCall.loads : CatalogCall → Session σ → List (Session σ)
  | .load, session | .require _ _, session => [session]
  | _, _ => []

def Request.loads : Request → Session σ → List (Session σ)
  | .call asked, session => asked.loads session
  | .catalog asked, session => asked.loads session
  | .connection _, _ | .statement _, _ => []

/-- The action loads the catalog from these states, in their order, and not otherwise: where the catalog was
that of the last listing it is so again. -/
structure Recollects {α : Type} (action : Action σ α) (session : Session σ) (starts : List (Session σ)) :
    Prop where
  grows : session.log <+: (after action session).log
  catalog (last : Option Listing) : session.catalog = catalogOf last →
    (after action session).catalog = catalogOf (lastListing last starts)
  logged : ∀ start ∈ starts, (after loadCatalog start).log <+: (after action session).log

variable {α β : Type}

theorem recollects_of_keeps {action : Action σ α} (keeps : Keeps Unlisting action) (session : Session σ) :
    Recollects action session [] where
  grows := (keeps.after session).grows
  catalog _ known := (keeps.after session).catalog.trans known
  logged _ member := absurd member List.not_mem_nil

theorem recollects_load (session : Session σ) : Recollects loadCatalog session [session] := by
  have ends := loadCatalog_ends session
  have logged : ∀ start ∈ [session], (after loadCatalog start).log <+: (after loadCatalog session).log := by
    intro start member
    obtain rfl := List.mem_singleton.mp member
    exact List.prefix_rfl
  cases loaded : loadCatalog session with
  | ok listed final =>
    rw [ends_iff_of_ok loaded] at ends
    cases listed with
    | true =>
      refine ⟨?_, fun last known => ?_, logged⟩
      · rw [after_of_ok loaded]
        exact ends.2.1
      · rw [after_of_ok loaded, lastListing, List.foldl_cons, List.foldl_nil, listing?_of_loaded loaded]
        exact ends.1
    | false =>
      have unlisted : Unlisting session final := ends
      refine ⟨?_, fun last known => ?_, logged⟩
      · rw [after_of_ok loaded]
        exact unlisted.grows
      · rw [after_of_ok loaded, lastListing, List.foldl_cons, List.foldl_nil, listing?_of_unlisted loaded]
        exact unlisted.catalog.trans known
  | error failure final =>
    rw [ends_iff_of_error loaded] at ends
    refine ⟨?_, fun last known => ?_, logged⟩
    · rw [after_of_error loaded]
      exact ends.grows
    · rw [after_of_error loaded, lastListing, List.foldl_cons, List.foldl_nil, listing?_of_failed loaded]
      exact ends.catalog.trans known

theorem recollects_of_eq {action : Action σ α} {other : Action σ β} {starts : List (Session σ)}
    (same : after action session = after other session) (recollects : Recollects other session starts) :
    Recollects action session starts := by
  refine ⟨?_, ?_, ?_⟩
  · rw [same]
    exact recollects.grows
  · rw [same]
    exact recollects.catalog
  · rw [same]
    exact recollects.logged

theorem recollects_discard {action : Action σ α} {starts : List (Session σ)}
    (recollects : Recollects action session starts) : Recollects (discard action) session starts := by
  refine recollects_of_eq ?_ recollects
  cases ended : action session with
  | ok answer middle => rw [after_of_ok (discard_of_ok ended), after_of_ok ended]
  | error failure middle => rw [after_of_error (discard_of_error ended), after_of_error ended]

theorem Recollects.next {action : Action σ α} {next : α → Action σ β} {starts more : List (Session σ)}
    {answer : α} {middle : Session σ} (first : Recollects action session starts)
    (returned : action session = .ok answer middle) (second : Recollects (next answer) middle more) :
    Recollects (action >>= next) session (starts ++ more) := by
  have whole : after (action >>= next) session = after (next answer) middle :=
    after_of_eq (bind_of_ok returned next)
  obtain ⟨grows, catalog, logged⟩ := first
  rw [after_of_ok returned] at grows catalog logged
  refine ⟨?_, fun last known => ?_, fun start member => ?_⟩
  · rw [whole]
    exact grows.trans second.grows
  · rw [whole, lastListing, List.foldl_append]
    exact second.catalog _ (catalog last known)
  · rw [whole]
    rcases List.mem_append.mp member with early | late
    · exact (logged start early).trans second.grows
    · exact second.logged start late

theorem Recollects.stops {action : Action σ α} {starts : List (Session σ)} {failure : Failure}
    {middle : Session σ} (first : Recollects action session starts)
    (failed : action session = .error failure middle) (next : α → Action σ β) :
    Recollects (action >>= next) session starts := by
  refine recollects_of_eq ?_ first
  rw [after_of_error (bind_of_error failed next), after_of_error failed]

theorem Recollects.then {action : Action σ α} {next : α → Action σ β} {starts : List (Session σ)}
    (first : Recollects action session starts) (keeps : ∀ answer, Keeps Unlisting (next answer)) :
    Recollects (action >>= next) session starts := by
  cases ended : action session with
  | ok answer middle =>
    have whole : Recollects (action >>= next) session (starts ++ []) :=
      first.next ended (recollects_of_keeps (keeps answer) middle)
    rwa [List.append_nil] at whole
  | error failure middle => exact first.stops ended next

theorem keeps_findKey (table : Value) : Keeps Unlisting (findKey table : Action σ String) :=
  querying_unlisting.findKey table (querying_unlisting.askPrimaryKey _)

theorem recollects_validSchema (table column : Value) (session : Session σ) :
    Recollects (validSchema table column) session [session] :=
  (recollects_discard (recollects_load session)).then fun _ =>
    querying_unlisting.bind querying_unlisting.get fun _ => querying_unlisting.ofResult _

theorem recollects_require (table : Value) (columns : List Value) (session : Session σ) :
    Recollects (require table columns) session [session] :=
  (recollects_discard (recollects_load session)).then fun _ =>
    querying_unlisting.bind querying_unlisting.get fun _ => querying_unlisting.ofResult _

theorem recollects_primaryKey (table : Value) (session : Session σ) :
    Recollects (primaryKey table) session [session] := by
  unfold Session.primaryKey
  refine (recollects_validSchema table .null session).then fun valid => ?_
  dsimp only
  split
  · exact keeps_findKey table
  · exact querying_unlisting.bind (querying_unlisting.throw _) fun _ => keeps_findKey table

def recheck (table : Value) : Action σ Bool := do
  if ← ofResult ((← get).catalog.contains table .null) then return true
  validSchema table .null

theorem validTable_of_empty {table : Value} (empty : session.catalog.isEmpty = true) :
    validTable table session = (do discard loadCatalog; recheck table : Action σ Bool) session := by
  rw [validTable, get_then, if_pos empty]
  rfl

theorem validTable_of_known {table : Value} (known : session.catalog.isEmpty = false) :
    validTable table session = recheck table session := by
  rw [validTable, get_then, known]
  rfl

theorem recheck_of_ok {table : Value} {held : Bool} (looked : session.catalog.contains table .null = .ok held) :
    recheck table session = (if held then pure true else validSchema table .null : Action σ Bool) session := by
  rw [recheck, get_then, looked]
  rfl

theorem recheck_of_error {table : Value} {failure : Failure}
    (unnamed : session.catalog.contains table .null = .error failure) :
    recheck table session = .error failure session := by
  rw [recheck, get_then, unnamed]
  rfl

theorem recollects_recheck (table : Value) (session : Session σ) :
    Recollects (recheck table) session (if session.catalog.misses table then [session] else []) := by
  unfold Catalog.misses
  cases looked : session.catalog.contains table .null with
  | error failure =>
    have stopped : (recheck table : Action σ Bool) session = (throw failure : Action σ Bool) session :=
      recheck_of_error looked
    exact recollects_of_eq (after_of_eq stopped) (recollects_of_keeps (querying_unlisting.throw failure) session)
  | ok held =>
    refine recollects_of_eq (after_of_eq (recheck_of_ok looked)) ?_
    cases held with
    | true => exact recollects_of_keeps (querying_unlisting.pure true) session
    | false => exact recollects_validSchema table .null session

theorem loads_of_known {table : Value} (known : session.catalog.isEmpty = false) :
    (Call.validTable table).loads session = if session.catalog.misses table then [session] else [] := by
  rw [Call.loads, known, if_neg Bool.false_ne_true]

theorem loads_of_empty {table : Value} {listed : Bool} (empty : session.catalog.isEmpty = true)
    (loaded : loadCatalog session = .ok listed final) :
    (Call.validTable table).loads session = [session] ++ if final.catalog.misses table then [final] else [] := by
  rw [Call.loads, if_pos empty, reached, loaded]
  cases missing : final.catalog.misses table <;> simp [missing]

theorem recollects_validTable (table : Value) (session : Session σ) :
    Recollects (validTable table) session ((Call.validTable table).loads session) := by
  cases empty : session.catalog.isEmpty with
  | false =>
    rw [loads_of_known empty]
    exact recollects_of_eq (after_of_eq (validTable_of_known empty)) (recollects_recheck table session)
  | true =>
    refine recollects_of_eq (after_of_eq (validTable_of_empty empty)) ?_
    have first := recollects_discard (recollects_load session)
    cases loaded : loadCatalog session with
    | ok listed ready =>
      rw [loads_of_empty empty loaded]
      exact first.next (discard_of_ok loaded) (recollects_recheck table ready)
    | error failure middle =>
      rw [Call.loads, if_pos empty, reached, loaded]
      exact first.stops (discard_of_error loaded) _

theorem recollects_writeInsert (table input : Value) (upsert : Bool) (session : Session σ) :
    Recollects (writeInsert table input upsert) session ((Call.insert table input upsert).loads session) := by
  rw [Call.loads, writeInsert]
  cases read : Query.readRows input with
  | error failure =>
    have stopped : (ofResult (.error failure) : Action σ Query.Rows) session = .error failure session := rfl
    exact (recollects_of_keeps (querying_unlisting.ofResult _) session).stops stopped _
  | ok batch =>
    have given : (ofResult (.ok batch) : Action σ Query.Rows) session = .ok batch session := rfl
    refine recollects_of_eq (after_of_eq (bind_of_ok given _)) ?_
    dsimp only
    have first := recollects_require table batch.columns session
    cases upsert with
    | false =>
      refine first.then fun _ => ?_
      exact querying_unlisting.bind (querying_unlisting.pure "") fun key => querying_unlisting.ofResult _
    | true =>
      cases required : require table batch.columns session with
      | ok _ ready =>
        rw [if_pos rfl, reached, required]
        have keyed : Recollects (do
            let key ← primaryKey table
            ofResult (Query.insert table input (.text key) true) : Action σ Query) ready [ready] :=
          (recollects_primaryKey table ready).then fun key => querying_unlisting.ofResult _
        exact first.next required keyed
      | error failure middle =>
        rw [if_pos rfl, reached, required]
        exact first.stops required _

theorem Recollects.sent {write : Action σ Query} {answer : Action σ α} {starts : List (Session σ)}
    (writes : Recollects write session starts) (keeps : Keeps Unlisting answer) :
    Recollects (do send (← write); answer) session starts :=
  writes.then fun query => querying_unlisting.bind (querying_unlisting.send query) fun _ => keeps

theorem Recollects.answer {action : Action σ α} {starts : List (Session σ)}
    (recollects : Recollects action session starts) (answer : α → Answer) :
    Recollects (do return answer (← action)) session starts :=
  recollects.then fun _ => querying_unlisting.pure _

theorem recollects_call {call : Call} (consults : call.Consults) (session : Session σ) :
    Recollects call.run session (call.loads session) := by
  have counted : Keeps Unlisting (rowCount : Action σ Int) := redirecting_unlisting.view _
  cases call with
  | configure _ | setField _ _ | connect | checkConnection | close | enter | leave | descriptor
  | queryExecute _ _ _ | results _ | rowCount | lastInsertId | keyPair | transactionExecute _
  | transaction _ _ _ _ | rollback => exact consults.elim
  | insert table input upsert =>
    exact ((recollects_writeInsert table input upsert session).sent counted).answer .count
  | update table params record conjunction allRows =>
    have written := (recollects_require table (params.keys ++ record.keys) session).then fun _ =>
      querying_unlisting.ofResult (Query.update table params record conjunction allRows)
    exact (written.sent counted).answer .count
  | delete table record conjunction allRows =>
    have written := (recollects_require table record.keys session).then fun _ =>
      querying_unlisting.ofResult (Query.delete table record conjunction allRows)
    exact (written.sent counted).answer .count
  | select table record conjunction =>
    have written := (recollects_require table record.keys session).then fun _ =>
      querying_unlisting.ofResult (Query.select table record conjunction)
    exact (written.sent querying_unlisting.rows).answer .rows
  | loadCatalog => exact (recollects_load session).answer .flag
  | validSchema table column => exact (recollects_validSchema table column session).answer .flag
  | validTable table => exact (recollects_validTable table session).answer .flag
  | primaryKey table => exact (recollects_primaryKey table session).answer .text

theorem recollects_catalogCall {call : CatalogCall} (consults : call.Consults) (session : Session σ) :
    Recollects call.run session (call.loads session) := by
  cases call with
  | load => exact (recollects_load session).answer .flag
  | require table columns => exact (recollects_require table columns session).answer fun _ => .nothing
  | tables | columns _ | columnType _ _ | snapshot => exact consults.elim

theorem loads_of_plain {request : Request} (plain : ¬ request.Consults) (session : Session σ) :
    request.loads session = [] := by
  rcases request with call | _ | _ | call
  · cases call with
    | insert _ _ _ | update _ _ _ _ _ | delete _ _ _ _ | select _ _ _ | loadCatalog | validSchema _ _
    | validTable _ | primaryKey _ => exact absurd trivial plain
    | _ => rfl
  · rfl
  · rfl
  · cases call with
    | load | require _ _ => exact absurd trivial plain
    | tables | columns _ | columnType _ _ | snapshot => rfl

theorem recollects_request (request : Request) (session : Session σ) :
    Recollects request.run session (request.loads session) := by
  by_cases consults : request.Consults
  · rcases request with call | _ | _ | call
    · exact recollects_call consults session
    · exact consults.elim
    · exact consults.elim
    · exact recollects_catalogCall consults session
  · rw [loads_of_plain consults]
    refine recollects_of_keeps ?_ session
    by_cases redirects : request.Redirects
    · exact redirecting_unlisting.request redirects
    · exact redirecting_unlisting.handling.request (keeps_of_meets begin_meets Begins.unlisting)
        redirects consults

end

end Session

end SqlGateway
