import SqlGateway.Proofs.Committed
import SqlGateway.Proofs.Engines

/-!
A setting that is missing when a session is directed elsewhere. A single field is resolved before anything is
let go of, so that a refusal leaves the session as it was. Where all four fields are given at once the old
connection goes first, and is gone with its transaction when one of the fields turns out to be missing.
-/

namespace SqlGateway.Session

variable {σ : Type} {session start final : Session σ}

/-- The session is directed where it was and holds what it held, and nothing was asked of the server. -/
structure Untouched (session final : Session σ) : Prop where
  descriptor : final.descriptor = session.descriptor
  handle : final.handle? = session.handle?
  engine : final.engine = session.engine
  log : final.log = session.log

structure Vacant (session : Session σ) : Prop where
  handle : session.handle? = none
  engine : session.engine = false

def Request.Configures : Request → Prop
  | .call (.configure _) | .connection (.configure _) => True
  | _ => False

theorem Untouched.refl (session : Session σ) : Untouched session session := ⟨rfl, rfl, rfl, rfl⟩

theorem Untouched.trans (early : Untouched session start) (late : Untouched start final) :
    Untouched session final where
  descriptor := late.descriptor.trans early.descriptor
  handle := late.handle.trans early.handle
  engine := late.engine.trans early.engine
  log := late.log.trans early.log

theorem Untouched.symm (untouched : Untouched session final) : Untouched final session where
  descriptor := untouched.descriptor.symm
  handle := untouched.handle.symm
  engine := untouched.engine.symm
  log := untouched.log.symm

theorem Untouched.vacant (untouched : Untouched session final) (vacant : Vacant session) : Vacant final where
  handle := untouched.handle.trans vacant.handle
  engine := untouched.engine.trans vacant.engine

theorem Closes.vacant {result : Except Failure Bool} (closes : Closes session result final) : Vacant final :=
  ⟨closes.handle, closes.engine⟩

/-- A close leaves alone exactly those sessions that hold nothing. -/
theorem Closes.untouched_iff {result : Except Failure Bool} (closes : Closes session result final) :
    Untouched session final ↔ Vacant session := by
  refine ⟨fun untouched => untouched.symm.vacant closes.vacant, fun vacant => ?_⟩
  cases closes with
  | mk server torn =>
    cases torn with
    | nothing held engine => exact ⟨rfl, held.symm, engine.symm, List.append_nil _⟩
    | disposed _ _ engine => cases vacant.engine.symm.trans engine
    | closed _ _ held _ _ | both _ _ _ held _ _ | cut _ _ held _ => cases vacant.handle.symm.trans held

theorem Closes.kind_ne {failure : Failure} (closes : Closes session (.error failure) final) :
    failure.kind ≠ .missingSetting := by
  obtain ⟨fault, rfl⟩ := closes.bare
  cases fault <;> nofun

variable [Server σ]

theorem setField_missing (field : Field) (value : Option String) (session : Session σ) :
    Ends (setField field value) session (fun _ _ => True) fun failure final =>
      failure.kind = .missingSetting → final = session := by
  simp only [setField, ends_bind, ends_get, ends_ofResult]
  split
  · rw [ends_discard]
    exact ends_mono (close_meets session) (fun _ _ _ => (ends_modify _).mpr trivial)
      fun _ _ closes missing => absurd missing closes.kind_ne
  · exact fun _ => trivial

theorem configure_missing (target : Target) (session : Session σ) :
    Ends (configure target) session (fun _ _ => True) fun failure final =>
      failure.kind = .missingSetting → ∃ answer, Closes session (.ok answer) final := by
  simp only [configure, ends_bind, ends_discard, ends_get, ends_ofResult]
  refine ends_mono (close_meets session) (fun answer final closes => ?_) fun _ _ closes missing =>
    absurd missing closes.kind_ne
  split
  · exact (ends_modify _).mpr trivial
  · exact fun _ => ⟨answer, closes⟩

theorem setField_leaves (field : Field) (value : Option String) (untouched : Untouched session start) :
    Ends (setField field value) start (fun _ _ => True) fun failure final => failure.kind = .missingSetting →
      Untouched session final := by
  refine ends_mono (setField_missing field value start) (fun _ _ _ => trivial) fun _ _ kept missing => ?_
  obtain rfl := kept missing
  exact untouched

theorem configure_leaves (target : Target) (untouched : Untouched session start) :
    Ends (configure target) start (fun _ _ => True) fun failure final => failure.kind = .missingSetting →
      final.descriptor = session.descriptor ∧ Released final ∧
        (Untouched session final ↔ Vacant session) := by
  refine ends_mono (configure_missing target start) (fun _ _ _ => trivial) fun _ _ closed missing => ?_
  obtain ⟨answer, closes⟩ := closed missing
  refine ⟨(closes.within probe.sent).descriptor.trans untouched.descriptor, closes.released, ?_⟩
  constructor
  · intro same
    exact same.symm.vacant closes.vacant
  · intro vacant
    exact untouched.trans (closes.untouched_iff.mpr (untouched.vacant vacant))

/-- A request to go elsewhere that ends for want of a setting leaves the session directed where it was. If it
was about a single field, it leaves the session as it was. All four fields at once cost the session its
connection, its engine and its transaction, and leave it as it was exactly if it held none of them. -/
theorem missing_untouched_iff (request : Request) (redirects : request.Redirects) (session : Session σ) :
    Ends request.run session (fun _ _ => True) fun failure final => failure.kind = .missingSetting →
      final.descriptor = session.descriptor ∧
        (¬ request.Configures → Untouched session final) ∧
        (request.Configures → Released final ∧ (Untouched session final ↔ Vacant session)) := by
  have forgotten : Untouched session { session with prepared? := none } := ⟨rfl, rfl, rfl, rfl⟩
  have single (field : Field) (value : Option String) {start : Session σ} (untouched : Untouched session start) :=
    ends_mono (setField_leaves field value untouched) (fun _ _ => id)
      fun _ final kept missing => And.intro (kept missing).descriptor (kept missing)
  rcases request with call | call | _ | _
  · cases call with
    | configure target =>
      simp only [Request.run, Call.run, reset, ends_bind, ends_modify, ends_pure, Request.Configures,
        not_true, forall_const, false_imp_iff, true_and]
      exact configure_leaves target forgotten
    | setField field value =>
      simp only [Request.run, Call.run, reset, ends_bind, ends_modify, ends_pure, Request.Configures,
        not_false_iff, forall_const, false_imp_iff, and_true]
      exact single field value forgotten
    | _ => exact redirects.elim
  · cases call with
    | configure target =>
      simp only [Request.run, ConnectionCall.run, ends_bind, ends_pure, Request.Configures, not_true,
        forall_const, false_imp_iff, true_and]
      exact configure_leaves target (.refl session)
    | setField field value =>
      simp only [Request.run, ConnectionCall.run, ends_bind, ends_pure, Request.Configures, not_false_iff,
        forall_const, false_imp_iff, and_true]
      exact single field value (.refl session)
    | _ => exact redirects.elim
  · exact redirects.elim
  · exact redirects.elim

/-- No user is given and there is no default for one, and the transaction stays open. -/
theorem setField_untouched : ∃ failure final,
    (Request.connection (.setField .user none)).run rehearsedInside = .error failure final ∧
      failure.kind = .missingSetting ∧ Untouched rehearsedInside final := by
  have refused : (Request.connection (.setField .user none)).run rehearsedInside =
      .error (.missingSetting (.text "user")) rehearsedInside := rfl
  have whole := missing_untouched_iff (.connection (.setField .user none)) trivial rehearsedInside
  obtain ⟨-, untouched, -⟩ := (ends_iff_of_error refused).mp whole rfl
  exact ⟨_, _, refused, rfl, untouched id⟩

/-- Only a host is given, and the connection is gone with its open transaction. -/
theorem configure_touched :
    Reachable rehearsedInside ∧ rehearsedInside.inTransaction = true ∧
      ∃ failure final,
        (Request.connection (.configure { host := some "elsewhere" })).run rehearsedInside =
          .error failure final ∧
        failure.kind = .missingSetting ∧ final.handle? = none ∧ final.inTransaction = false ∧
        final.log = rehearsedInside.log ++ [⟨.close 0, .ok ()⟩, ⟨.dispose, .ok ()⟩] ∧
        ¬ Untouched rehearsedInside final := by
  refine ⟨rehearsedInside_reachable, by decide +kernel, .missingSetting (.text "user"), _, rfl, rfl, rfl, rfl,
    rfl, ?_⟩
  intro untouched
  have held := untouched.handle
  have absent : rehearsedInside.handle?.isNone = false := by decide +kernel
  rw [← held] at absent
  cases absent

end SqlGateway.Session
