import SqlGateway.Proofs.Direction
import SqlGateway.Proofs.Lookups
import SqlGateway.Proofs.Recalling

/-!
Which database an answer about the catalog speaks of. What is let through was listed by the last load that
succeeded, for the database that the session was directed to at that load. This is the present one if the
load was made by the call itself, or if the session has stayed with its database since. A table that is
found in the catalog at hand and a load that the server refuses let through what was listed for another.
-/

namespace SqlGateway.Session

open Catalog

variable {σ α : Type} {session final : Session σ} {last : Option Listing}

def Current (session : Session σ) (last : Option Listing) : Prop :=
  ∀ listing, last = some listing → listing.database = session.descriptor.database

def Attested (table column : Value) (session : Session σ) : Prop :=
  ∃ listing : Listing, listing.database = session.descriptor.database ∧
    listing.AnsweredIn session.log ∧ Listed listing.rows table column

theorem descriptor_of_reached {action : Action σ α} (keeps : Keeps Steers action) {start : Session σ}
    (member : start ∈ reached action session) : start.descriptor = session.descriptor := by
  have steers := keeps.after session
  unfold reached at member
  cases ended : action session with
  | ok answer middle =>
    rw [ended] at member
    rw [after_of_ok ended] at steers
    rw [List.mem_singleton.mp member]
    exact steers.descriptor
  | error failure middle =>
    rw [ended] at member
    cases member

section

variable [Server σ]

/-- A check lets the table and the column through, or the table alone if the column is null, after loading
the catalog from these states. The quick calls begin with the last of the checks. -/
inductive Affirms (session final : Session σ) : List (Session σ) → Value → Value → Prop
  | table {table : Value} : validTable table session = .ok true final →
      Affirms session final ((Call.validTable table).loads session) table .null
  | schema {table column : Value} : validSchema table column session = .ok true final →
      Affirms session final [session] table column
  | required {table : Value} {columns : List Value} : require table columns session = .ok () final →
      Affirms session final [session] table .null
  | requiredColumn {table column : Value} {columns : List Value} :
      require table columns session = .ok () final → column ∈ columns →
      Affirms session final [session] table column

/-- A stretch of a run, with the last listing at its start and at its end, over which the session stays with
its database. -/
inductive Dwells (session : Session σ) (last : Option Listing) : Session σ → Option Listing → Prop
  | here : Dwells session last session last
  | asked (request : Request) {middle : Session σ} {now : Option Listing} : Dwells session last middle now →
      (after request.run middle).descriptor.database = middle.descriptor.database →
      Dwells session last (after request.run middle) (lastListing now (request.loads middle))
  | elsewhere (server : σ) {middle : Session σ} {now : Option Listing} : Dwells session last middle now →
      Dwells session last { middle with server } now

theorem contains_of_validSchema {table column : Value} {answer : Bool}
    (returned : validSchema table column session = .ok answer final) :
    final.catalog.contains table column = .ok answer := by
  have looked : Ends (validSchema table column) session
      (fun answer final => final.catalog.contains table column = .ok answer) fun _ _ => True := by
    rw [validSchema, ends_bind]
    refine ends_of_forall (fun _ loaded => ?_) fun _ _ => trivial
    rw [ends_bind, ends_get, ends_ofResult]
    split
    · assumption
    · trivial
  exact (ends_iff_of_ok returned).mp looked

theorem validSchema_of_contained {table column : Value} {listed : Bool}
    (loaded : loadCatalog session = .ok listed final)
    (contained : final.catalog.contains table column = .ok true) :
    validSchema table column session = .ok true final := by
  refine eq_ok_of_ends ?_
  rw [validSchema, ends_bind, ends_discard, ends_iff_of_ok loaded, ends_bind, ends_get, ends_ofResult, contained]
  exact ⟨rfl, rfl⟩

theorem contains_of_recheck {table : Value} (returned : recheck table session = .ok true final) :
    final.catalog.contains table .null = .ok true := by
  cases looked : session.catalog.contains table .null with
  | error failure => cases (recheck_of_error looked).symm.trans returned
  | ok held =>
    rw [recheck_of_ok looked] at returned
    cases held with
    | true =>
      rw [if_pos rfl] at returned
      cases returned
      exact looked
    | false =>
      rw [if_neg Bool.false_ne_true] at returned
      exact contains_of_validSchema returned

theorem contains_of_validTable {table : Value} (returned : validTable table session = .ok true final) :
    final.catalog.contains table .null = .ok true := by
  cases empty : session.catalog.isEmpty with
  | false =>
    rw [validTable_of_known empty] at returned
    exact contains_of_recheck returned
  | true =>
    rw [validTable_of_empty empty] at returned
    obtain ⟨_, ready, _, rechecked⟩ := eq_ok_of_bind returned
    exact contains_of_recheck rechecked

theorem affirms_of_contained {table : Value} (contained : session.catalog.contains table .null = .ok true) :
    Affirms session session [] table .null := by
  have known : session.catalog.isEmpty = false := by
    rw [Bool.eq_false_iff, Ne, List.isEmpty_iff]
    intro empty
    rw [empty] at contained
    obtain ⟨found, looked, held⟩ := bind_eq_ok contained
    have none : found = none := by
      rw [found_of_table looked]
      cases spelled? table <;> rfl
    subst none
    cases held
  have loads : (Call.validTable table).loads session = [] := by
    rw [loads_of_known known, Catalog.misses, contained]
    rfl
  exact loads ▸ .table ((validTable_of_known known).trans (recheck_of_ok contained))

theorem descriptor_of_load {request : Request} {start : Session σ} (member : start ∈ request.loads session) :
    start.descriptor = session.descriptor := by
  have single (only : start ∈ [session]) : start.descriptor = session.descriptor := by
    rw [List.mem_singleton.mp only]
  have none (absent : start ∈ ([] : List (Session σ))) : start.descriptor = session.descriptor :=
    absurd absent List.not_mem_nil
  rcases request with call | _ | _ | call
  · cases call with
    | update _ _ _ _ _ | delete _ _ _ _ | select _ _ _ | loadCatalog | validSchema _ _ | primaryKey _ =>
      exact single member
    | insert table input upsert =>
      rw [Request.loads, Call.loads] at member
      split at member
      · next batch _ =>
        rcases List.mem_cons.mp member with rfl | again
        · rfl
        · split at again
          · exact descriptor_of_reached (steady_steers.attends.require table batch.columns) again
          · exact none again
      · exact none member
    | validTable table =>
      rw [Request.loads, Call.loads] at member
      split at member
      · rcases List.mem_cons.mp member with rfl | again
        · rfl
        · exact descriptor_of_reached steady_steers.attends.loadCatalog (List.mem_of_mem_filter again)
      · split at member
        · exact single member
        · exact none member
    | _ => exact none member
  · exact none member
  · exact none member
  · cases call with
    | load | require _ _ => exact single member
    | tables | columns _ | columnType _ _ | snapshot => exact none member

/-- What is found in the catalog at the end was listed by the last load that succeeded, or before the call if
none of its loads did. -/
theorem listed_of_contained {action : Action σ α} {answer : α} {starts : List (Session σ)}
    {table column : Value} (recalls : Recalls session last) (recollects : Recollects action session starts)
    (keeps : Keeps Steers action) (stay : ∀ start ∈ starts, start.descriptor = session.descriptor)
    (returned : action session = .ok answer final) (contained : final.catalog.contains table column = .ok true) :
    ∃ listing, lastListing last starts = some listing ∧ Listed listing.rows table column ∧
      listing.AnsweredIn final.log ∧ final.descriptor = session.descriptor ∧
      (listing.database = final.descriptor.database ∨
        last = some listing ∧ ∀ start ∈ starts, listing? start = none) := by
  have steers := keeps.after session
  obtain ⟨grows, catalog, logged⟩ := recollects
  rw [after_of_ok returned] at steers grows catalog logged
  rw [catalog last recalls.catalog, catalogOf, contains_grouping] at contained
  cases known : lastListing last starts with
  | none =>
    rw [known] at contained
    obtain ⟨row, member, _⟩ := contained
    exact absurd member List.not_mem_nil
  | some listing =>
    rw [known] at contained
    refine ⟨listing, rfl, contained, ?_, steers.descriptor, ?_⟩
    all_goals rcases lastListing_cases last starts with ⟨start, member, _, same⟩ | ⟨unread, same⟩
    · exact AnsweredIn.grows (listing?_answered (same.symm.trans known)).2 (logged start member)
    · exact AnsweredIn.grows (recalls.answered (same.symm.trans known)) grows
    · rw [steers.descriptor, ← stay start member]
      exact .inl (listing?_answered (same.symm.trans known)).1
    · exact .inr ⟨same.symm.trans known, unread⟩

theorem current_of_loaded (request : Request)
    (loaded : ∃ start ∈ request.loads session, (listing? start).isSome = true) :
    Current (after request.run session) (lastListing last (request.loads session)) := by
  obtain ⟨loading, among, read⟩ := loaded
  have consults : request.Consults := by
    by_contra plain
    rw [loads_of_plain plain] at among
    cases among
  have steers := (steady_steers.request consults).after session
  intro listing known
  rcases lastListing_cases last (request.loads session) with ⟨start, member, _, same⟩ | ⟨unread, _⟩
  · rw [(listing?_answered (same.symm.trans known)).1, steers.descriptor, descriptor_of_load member]
  · rw [unread loading among] at read
    cases read

theorem Current.asked (current : Current session last) (request : Request)
    (stays : (after request.run session).descriptor.database = session.descriptor.database) :
    Current (after request.run session) (lastListing last (request.loads session)) := by
  intro listing known
  rw [stays]
  rcases lastListing_cases last (request.loads session) with ⟨start, member, _, same⟩ | ⟨_, same⟩
  · rw [(listing?_answered (same.symm.trans known)).1, descriptor_of_load member]
  · exact current listing (same.symm.trans known)

theorem Dwells.current {now : Option Listing} (dwells : Dwells session last final now)
    (current : Current session last) : Current final now := by
  induction dwells with
  | here => exact current
  | asked request _ stays ih => exact ih.asked request stays
  | elsewhere server _ ih => exact ih

theorem Affirms.listed {starts : List (Session σ)} {table column : Value} (recalls : Recalls session last)
    (affirms : Affirms session final starts table column) :
    ∃ listing, lastListing last starts = some listing ∧ Listed listing.rows table column ∧
      listing.AnsweredIn final.log ∧ final.descriptor = session.descriptor ∧
      (listing.database = final.descriptor.database ∨
        last = some listing ∧ ∀ start ∈ starts, listing? start = none) := by
  have attends : Attends (Steers (σ := σ)) := steady_steers.attends
  have single : ∀ start ∈ [session], start.descriptor = session.descriptor := by simp
  cases affirms with
  | @table table returned =>
    have stay : ∀ start ∈ (Request.call (.validTable table)).loads session,
        start.descriptor = session.descriptor := fun start => descriptor_of_load
    exact listed_of_contained recalls (recollects_validTable _ session) (attends.validTable _) stay returned
      (contains_of_validTable returned)
  | schema returned =>
    exact listed_of_contained recalls (recollects_validSchema _ _ session) (attends.validSchema _ _) single
      returned (contains_of_validSchema returned)
  | required returned =>
    exact listed_of_contained recalls (recollects_require _ _ session) (attends.require _ _) single returned
      (contains_of_require returned).1
  | requiredColumn returned member =>
    exact listed_of_contained recalls (recollects_require _ _ session) (attends.require _ _) single returned
      ((contains_of_require returned).2 _ member)

/-- Over a whole run of requests, whatever the server answers: a name that is let through was listed by the
last load that succeeded, in the call itself or before it. It was listed for the database that the session
is directed to if the call has read the listing or if the one before it was of that database, as it is from
any load that succeeds until the session is directed to another database. -/
theorem affirmed_listed (session : Session σ) (last : Option Listing) (recalls : Recalls session last) :
    (∀ final starts table column, Affirms session final starts table column →
      (∃ listing, lastListing last starts = some listing ∧ Listed listing.rows table column ∧
        listing.AnsweredIn final.log) ∧
      (Current session last ∨ (∃ start ∈ starts, (listing? start).isSome = true) →
        Attested table column final)) ∧
      (∀ request : Request, (∃ start ∈ request.loads session, (listing? start).isSome = true) →
        Current (after request.run session) (lastListing last (request.loads session))) ∧
      ∀ later now, Dwells session last later now → Current session last → Current later now := by
  refine ⟨?_, fun request => current_of_loaded request, fun later now dwells => dwells.current⟩
  intro final starts table column affirms
  obtain ⟨listing, known, listed, answered, same, database⟩ := affirms.listed recalls
  refine ⟨⟨listing, known, listed, answered⟩, fun current => ⟨listing, ?_, answered, listed⟩⟩
  rcases database with present | ⟨earlier, unread⟩
  · exact present
  · rcases current with current | ⟨start, member, read⟩
    · rw [same]
      exact current listing earlier
    · rw [unread start member] at read
      cases read

end

theorem surveyed_affirms : Recalls surveyed (some survey) ∧ Current surveyed (some survey) ∧
    Affirms surveyed surveyed [] (.text "users") .null ∧ Attested (.text "users") .null surveyed := by
  have affirms : Affirms surveyed surveyed [] (.text "users") .null := affirms_of_contained rfl
  have current : Current surveyed (some survey) := by
    rintro _ ⟨⟩
    rfl
  have affirmed := affirmed_listed surveyed (some survey) surveyed_recalls
  exact ⟨surveyed_recalls, current, affirms, (affirmed.1 surveyed [] _ _ affirms).2 (.inl current)⟩

def listsFor (database : String) : Exchange → Bool
  | ⟨.execute _ sent, .ok _⟩ =>
    match sent.params with
    | [⟨_, some ⟨_, .text name⟩⟩] => name == database
    | _ => false
  | _ => false

theorem not_attested {table column : Value}
    (unlisted : session.log.any (listsFor session.descriptor.database) = false) :
    ¬ Attested table column session := by
  intro ⟨listing, same, ⟨connection, reply, outcome, member, _⟩, _⟩
  refine absurd ?_ (Bool.eq_false_iff.mp unlisted)
  exact List.any_eq_true.mpr ⟨_, member, by rw [← same]; exact beq_self_eq_true listing.database⟩

def redirected : Session Register :=
  { after (Request.call (.setField .database (some "store"))).run surveyed with server := ⟨none⟩ }

/-- What was listed for the earlier database is let through, by the catalog at hand and after a load that the
server refused. -/
theorem redirected_unattested :
    Driven redirected ∧
      (∃ final starts, Affirms redirected final starts (.text "users") .null ∧
        ¬ Attested (.text "users") .null final) ∧
      ∃ final starts, Affirms redirected final starts (.text "users") (.text "email") ∧
        ¬ Attested (.text "users") (.text "email") final := by
  have contained : redirected.catalog.contains (.text "users") .null = .ok true := rfl
  have connected : connect redirected = .ok true (after connect redirected) := rfl
  have refused (statement : Statement) : execute ((after connect redirected).holding ⟨statement, none⟩) =
      .error (.queryFailed "lost" .null .null)
        (after execute ((after connect redirected).holding ⟨statement, none⟩)) := rfl
  have unlisted (statement : Statement) :
      (after execute ((after connect redirected).holding ⟨statement, none⟩)).log.any (listsFor "store") =
        false := rfl
  have failed := unlisted_of_refused connected (refused _) rfl
  refine ⟨.elsewhere _ (.asked _ surveyed_recalls.driven), ?_, ?_⟩
  · exact ⟨redirected, [], affirms_of_contained contained, not_attested rfl⟩
  · exact ⟨_, [redirected], .schema (validSchema_of_contained failed rfl), not_attested (unlisted _)⟩

end SqlGateway.Session
