import SqlGateway.Proofs.Adding
import SqlGateway.Proofs.Steady

/-!
What a quick query asks before its own statement. Everything that is executed on the way is a probe or one
of the two queries about the catalog, and the statement is written only once a fresh catalog was found to
hold its names.
-/

namespace SqlGateway

inductive Lookup (database : String) : Sent → Prop
  | probe : Lookup database Session.probe.sent
  | listing {statement : Statement} :
      Statement.forQuery Session.listingQuery [("database_name", .text database)] = .ok statement →
      Lookup database statement.sent
  | primaryKey (table : String) {statement : Statement} :
      Statement.forQuery Session.primaryKeyQuery
        [("database_name", .text database), ("table_name", .text table)] = .ok statement →
      Lookup database statement.sent

def Event.Preparing (database : String) : Event → Prop
  | .execute _ sent => Lookup database sent
  | _ => True

theorem Event.Within.preparing {statement : Sent} {event : Event} (within : event.Within statement)
    {database : String} (lookup : Lookup database statement) : event.Preparing database := by
  cases event with
  | execute connection sent =>
    obtain rfl : sent = statement := within
    exact lookup
  | createEngine _ | connect _ | begin _ | commitTransaction _ | rollbackTransaction _ | commit _
  | rollback _ | close _ | dispose => trivial

namespace Session

variable {σ : Type} {session middle final : Session σ}

/-- On the way nothing was executed but to look something up in the database of the session. -/
structure LooksUp (session final : Session σ) : Prop where
  adds : Adds (·.event.Preparing session.descriptor.database) session final
  descriptor : final.descriptor = session.descriptor

theorem LooksUp.trans (early : LooksUp session middle) (late : LooksUp middle final) :
    LooksUp session final := by
  have adds := late.adds
  rw [early.descriptor] at adds
  exact ⟨early.adds.trans adds, late.descriptor.trans early.descriptor⟩

theorem Within.looksUp {statement : Sent} (within : Within statement session final)
    (lookup : Lookup session.descriptor.database statement) : LooksUp session final :=
  ⟨within.adds.mono fun _ here => here.preparing lookup, within.descriptor⟩

theorem Connects.looksUp {result : Except Failure Bool} (connects : Connects session result final) :
    LooksUp session final := connects.within.looksUp .probe

theorem Asks.looksUp {query : String} {params : Params} {result : Except Failure Bool}
    (asks : Asks query params session result final)
    (lookup : ∀ statement, Statement.forQuery query params = .ok statement →
      Lookup session.descriptor.database statement.sent) : LooksUp session final := by
  have holds (prepared : Prepared) : LooksUp session (session.holding prepared) := ⟨.refl session, rfl⟩
  cases asks with
  | unbound prepared refused => exact holds prepared
  | failed bound runs =>
    exact (holds _).trans (runs.within.looksUp (lookup _ bound))
  | @done statement _ last bound runs =>
    have ran := (holds ⟨statement, none⟩).trans (runs.within.looksUp (lookup _ bound))
    exact ⟨ran.adds, ran.descriptor⟩

variable [Server σ]

theorem queryExecute_looksUp {query : String} {params : Params}
    (lookup : ∀ statement, Statement.forQuery query params = .ok statement →
      Lookup session.descriptor.database statement.sent) :
    Ends (queryExecute query params false) session (fun _ final => LooksUp session final)
      fun _ final => LooksUp session final := by
  have looksUp {result : Except Failure Bool} {final : Session σ}
      (queries : Queries query params false session result final) : LooksUp session final := by
    cases queries with
    | blank _ => exact ⟨.refl session, rfl⟩
    | unconnected _ connects => exact connects.looksUp
    | kept _ connects asks _ =>
      have ready := connects.looksUp
      rw [← ready.descriptor] at lookup
      exact ready.trans (asks.looksUp lookup)
    | released _ _ _ closing _ => cases closing
  exact ends_mono (queryExecute_meets query params false session) (fun _ _ => looksUp) fun _ _ => looksUp

theorem attends_looksUp : Attends (LooksUp (σ := σ)) where
  refl session := ⟨.refl session, rfl⟩
  trans := LooksUp.trans
  remember session _ _ := ⟨.refl session, rfl⟩
  listing.ends session := by
    rw [askListing, ends_bind, ends_databaseName]
    exact queryExecute_looksUp fun _ => .listing
  keyed table := by
    refine ⟨fun session => ?_⟩
    rw [askPrimaryKey, ends_bind, ends_databaseName]
    exact queryExecute_looksUp fun _ => .primaryKey table

theorem contains_of_require {table : Value} {columns : List Value}
    (returned : require table columns session = .ok () final) :
    final.catalog.contains table .null = .ok true ∧
      ∀ column ∈ columns, final.catalog.contains table column = .ok true := by
  suffices required : Ends (require table columns) session
      (fun _ final => final.catalog.contains table .null = .ok true ∧
        ∀ column ∈ columns, final.catalog.contains table column = .ok true) fun _ _ => True from
    (ends_iff_of_ok returned).mp required
  rw [require, ends_bind]
  refine ends_of_forall (fun _ loaded => ?_) fun _ _ => trivial
  rw [ends_bind, ends_get, ends_ofResult]
  split
  · next passed => exact Catalog.contains_of_required passed
  · trivial

end Session

end SqlGateway
