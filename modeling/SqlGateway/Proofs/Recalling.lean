import SqlGateway.Proofs.Reloading

/-!
Runs of a session together with the listing that was read last. The catalog mirrors that listing all along,
and what is asked of it is answered by the rows of the listing.
-/

namespace SqlGateway.Session

open Catalog

variable {σ α : Type} {session final : Session σ} {last : Option Listing}

variable [Server σ]

/-- A call that loads the catalog first ends as the load does if that fails. Otherwise the rows of the last
listing decide, which is that of the load itself if it has succeeded. -/
def Consults (session : Session σ) (last : Option Listing) (decide : List Row → Except Failure α → Prop)
    (result : Except Failure α) (final : Session σ) : Prop :=
  (∃ failure, loadCatalog session = .error failure final ∧ result = .error failure) ∨
    ∃ listed, loadCatalog session = .ok listed final ∧ decide (rowsIn ((listing? session).or last)) result

/-- A run of a session, and the listing that the last successful load of the run has read. Between two
requests the server may come to be in any state. -/
inductive Recalls : Session σ → Option Listing → Prop
  | created {settings : Settings} {echo : Bool} {target : Target} {server : σ} {session : Session σ} :
      create settings echo target server = .ok session → Recalls session none
  | asked (request : Request) {session : Session σ} {last : Option Listing} : Recalls session last →
      Recalls (after request.run session) (lastListing last (request.loads session))
  | elsewhere (server : σ) {session : Session σ} {last : Option Listing} : Recalls session last →
      Recalls { session with server } last

theorem Driven.recalls (driven : Driven session) : ∃ last, Recalls session last := by
  induction driven with
  | created fromSettings => exact ⟨none, .created fromSettings⟩
  | asked request _ ih =>
    obtain ⟨last, recalls⟩ := ih
    exact ⟨_, .asked request recalls⟩
  | elsewhere server _ ih =>
    obtain ⟨last, recalls⟩ := ih
    exact ⟨last, .elsewhere server recalls⟩

theorem Recalls.driven (recalls : Recalls session last) : Driven session := by
  induction recalls with
  | created fromSettings => exact .created fromSettings
  | asked request _ ih => exact .asked request ih
  | elsewhere server _ ih => exact .elsewhere server ih

theorem lastListing_cases (previous : Option Listing) (starts : List (Session σ)) :
    (∃ start ∈ starts, (listing? start).isSome = true ∧ lastListing previous starts = listing? start) ∨
      (∀ start ∈ starts, listing? start = none) ∧ lastListing previous starts = previous := by
  induction starts generalizing previous with
  | nil => exact .inr ⟨fun _ member => absurd member List.not_mem_nil, rfl⟩
  | cons head tail ih =>
    have step : lastListing previous (head :: tail) = lastListing ((listing? head).or previous) tail := rfl
    rw [step]
    rcases ih ((listing? head).or previous) with ⟨start, member, read, same⟩ | ⟨unread, same⟩
    · exact .inl ⟨start, List.mem_cons_of_mem head member, read, same⟩
    · rw [same]
      cases first : listing? head with
      | some listing => exact .inl ⟨head, List.mem_cons_self, by rw [first]; rfl, first.symm⟩
      | none =>
        refine .inr ⟨?_, rfl⟩
        intro start member
        rcases List.mem_cons.mp member with rfl | later
        · exact first
        · exact unread start later

theorem lastListing_single (previous : Option Listing) (start : Session σ) :
    lastListing previous [start] = (listing? start).or previous := by
  rw [lastListing, List.foldl_cons, List.foldl_nil]

theorem lastListing_of_unread {starts : List (Session σ)} (unread : ∀ start ∈ starts, listing? start = none) :
    lastListing last starts = last := by
  rcases lastListing_cases last starts with ⟨start, member, read, _⟩ | ⟨_, same⟩
  · rw [unread start member] at read
    cases read
  · exact same

/-- The catalog is that of the last listing. -/
theorem Recalls.catalog (recalls : Recalls session last) : session.catalog = catalogOf last := by
  induction recalls with
  | created fromSettings =>
    obtain ⟨descriptor, rfl⟩ := create_eq fromSettings
    rfl
  | @asked request before last _ ih => exact (recollects_request request before).catalog last ih
  | elsewhere server _ ih => exact ih

theorem AnsweredIn.grows {listing : Listing} {early late : List Exchange}
    (answered : listing.AnsweredIn early) (grows : early <+: late) : listing.AnsweredIn late := by
  obtain ⟨connection, reply, outcome, member, collects, same⟩ := answered
  exact ⟨connection, reply, outcome, grows.subset member, collects, same⟩

theorem Recalls.answered (recalls : Recalls session last) {listing : Listing} (known : last = some listing) :
    listing.AnsweredIn session.log := by
  induction recalls with
  | created fromSettings => cases known
  | @asked request before last _ ih =>
    have recollects := recollects_request request before
    rcases lastListing_cases last (request.loads before) with ⟨start, member, _, same⟩ | ⟨_, same⟩
    · have read := listing?_answered (same.symm.trans known)
      exact AnsweredIn.grows read.2 (recollects.logged start member)
    · exact AnsweredIn.grows (ih (same.symm.trans known)) recollects.grows
  | elsewhere server _ ih => exact ih known

theorem catalog_of_loaded (known : session.catalog = catalogOf last) {listed : Bool}
    (loaded : loadCatalog session = .ok listed final) :
    final.catalog = catalogOf ((listing? session).or last) := by
  have catalog := (recollects_load session).catalog last known
  rwa [after_of_ok loaded, lastListing_single] at catalog

theorem validSchema_consults (known : session.catalog = catalogOf last) (table column : Value) :
    Meets (validSchema table column) session (Consults session last fun rows => Answers rows table column) := by
  rw [Meets, validSchema, ends_bind, ends_discard]
  cases loaded : loadCatalog session with
  | ok listed ready =>
    have answers := answers_grouping (rowsIn ((listing? session).or last)) table column
    rw [ends_iff_of_ok loaded, ends_bind, ends_get, catalog_of_loaded known loaded, ends_ofResult]
    rw [← catalogOf] at answers
    split
    · next answer returned => exact .inr ⟨listed, loaded, returned ▸ answers⟩
    · next failure failed => exact .inr ⟨listed, loaded, failed ▸ answers⟩
  | error failure middle =>
    rw [ends_iff_of_error loaded]
    exact .inl ⟨failure, loaded, rfl⟩

theorem require_consults (known : session.catalog = catalogOf last) (table : Value) (columns : List Value) :
    Meets (require table columns) session
      (Consults session last fun rows => Requires rows table columns) := by
  rw [Meets, require, ends_bind, ends_discard]
  cases loaded : loadCatalog session with
  | ok listed ready =>
    have requires := requires_grouping (rowsIn ((listing? session).or last)) table columns
    rw [ends_iff_of_ok loaded, ends_bind, ends_get, catalog_of_loaded known loaded, ends_ofResult]
    rw [← catalogOf] at requires
    split
    · next passed => exact .inr ⟨listed, loaded, passed ▸ requires⟩
    · next failure failed => exact .inr ⟨listed, loaded, failed ▸ requires⟩
  | error failure middle =>
    rw [ends_iff_of_error loaded]
    exact .inl ⟨failure, loaded, rfl⟩

/-- Over a whole run of requests, whatever the server answers: the catalog is the grouping of the rows that
were read by the last load that succeeded, wherever it was made, and each request that loads none leaves it.
What is asked of the catalog is answered by these rows. -/
theorem recalls_mirrors (session : Session σ) (last : Option Listing) (recalls : Recalls session last) :
    session.catalog = grouping (rowsIn last) ∧
      CatalogCall.snapshot.run session = .ok (.catalog (grouping (rowsIn last))) session ∧
      (∀ listing, last = some listing → listing.AnsweredIn session.log) ∧
      (∀ request : Request, (∀ start ∈ request.loads session, listing? start = none) →
        (after request.run session).catalog = session.catalog) ∧
      (∀ table column, Meets (validSchema table column) session
        (Consults session last fun rows => Answers rows table column)) ∧
      ∀ table columns, Meets (require table columns) session
        (Consults session last fun rows => Requires rows table columns) := by
  have known := recalls.catalog
  refine ⟨known, ?_, fun listing => recalls.answered, ?_, validSchema_consults known, require_consults known⟩
  · rw [← catalogOf, ← known]
    rfl
  · intro request unread
    have same := (recollects_request request session).catalog last known
    rw [same, lastListing_of_unread unread, known]

structure Register where
  rows? : Option (List Row)

instance : Server Register where
  respond event register :=
    match event with
    | .execute _ _ =>
      match register.rows? with
      | some rows => (.ok ⟨rows.length, none, some ⟨[], .ok rows⟩⟩, register)
      | none => (.error (.library "lost"), register)
    | .begin _ => (.ok true, register)
    | .createEngine _ | .connect _ | .commitTransaction _ | .rollbackTransaction _ | .commit _
    | .rollback _ | .close _ | .dispose => (.ok (), register)
  inTransaction _ _ := false

def registered (table column type : String) : Row :=
  [("table_name", .text table), ("column_name", .text column), ("data_type", .text type)]

def survey : Listing where
  database := "shop"
  rows := [registered "users" "id" "int", registered "posts" "id" "int", registered "users" "email" "text",
    registered "users" "id" "bigint"]

def surveying : Session Register where
  settings := {}
  echo := false
  descriptor := ⟨"host", "user", "secret", "shop", 3306⟩
  server := ⟨some survey.rows⟩

def surveyed : Session Register where
  settings := {}
  echo := false
  descriptor := ⟨"host", "user", "secret", "shop", 3306⟩
  engine := true
  handle? := some ⟨0, false⟩
  prepared? := some ⟨listingStatement "shop", some ⟨[], survey.rows, 4, none⟩⟩
  catalog := [("users", [("id", "bigint"), ("email", "text")]), ("posts", [("id", "int")])]
  server := ⟨some survey.rows⟩
  log := [⟨.createEngine (engineOptions surveying), .ok ()⟩, ⟨.connect 0, .ok ()⟩,
    ⟨.execute 0 (listingSent "shop"), .ok ⟨4, none, some ⟨[], .ok survey.rows⟩⟩⟩,
    ⟨.commit 0, .ok ()⟩]
  opened := 1

theorem surveying_loads : loadCatalog surveying = .ok true surveyed := by
  have connected : connect surveying = .ok true (after connect surveying) := rfl
  have executed (statement : Statement) :
      execute ((after connect surveying).holding ⟨statement, none⟩) =
        .ok true (after execute ((after connect surveying).holding ⟨statement, none⟩)) := rfl
  rw [surveyed, ← sent_listing]
  exact loads_of_executed connected (executed _) rfl

theorem surveying_created :
    create {} false ⟨some "host", some "user", some "secret", some "shop"⟩ ⟨some survey.rows⟩ =
      .ok surveying := rfl

theorem surveyed_recalls : Recalls surveyed (some survey) := by
  have reached : after (Request.call .loadCatalog).run surveying = surveyed := by
    rw [Request.run, Call.run, after_answer, after_of_ok surveying_loads]
  have read : lastListing none ((Request.call .loadCatalog).loads surveying) = some survey := by
    rw [Request.loads, Call.loads, lastListing_single, listing?_of_loaded surveying_loads]
    rfl
  rw [← reached, ← read]
  exact .asked (.call .loadCatalog) (.created surveying_created)

theorem surveyed_mirrors : Recalls surveyed (some survey) ∧ surveyed.catalog = grouping survey.rows ∧
    surveyed.catalog =
      [("users", [("id", "bigint"), ("email", "text")]), ("posts", [("id", "int")])] :=
  ⟨surveyed_recalls, (recalls_mirrors surveyed (some survey) surveyed_recalls).1, rfl⟩

end SqlGateway.Session
