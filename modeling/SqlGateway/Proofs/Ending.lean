import SqlGateway.Session.Basic

/-!
How an action ends. A fact about an action speaks of both ends, the answer and the failure, together
with the state that is left; the rules below take such a fact apart along the text of the action.
-/

namespace SqlGateway.Session

variable {σ α β : Type}

/-- If the action returns, `done` holds of its answer and the state after it; if it fails, `failed`
holds of the failure and that state. -/
def Ends (action : Action σ α) (session : Session σ) (done : α → Session σ → Prop)
    (failed : Failure → Session σ → Prop) : Prop :=
  match action session with
  | .ok answer final => done answer final
  | .error failure final => failed failure final

/-- The result of the action and the state after it are related. -/
abbrev Meets (action : Action σ α) (session : Session σ)
    (related : Except Failure α → Session σ → Prop) : Prop :=
  Ends action session (fun answer final => related (.ok answer) final)
    fun failure final => related (.error failure) final

def after (action : Action σ α) (session : Session σ) : Session σ :=
  match action session with
  | .ok _ final | .error _ final => final

def returns (action : Action σ α) (session : Session σ) : Bool :=
  match action session with
  | .ok _ _ => true
  | .error _ _ => false

variable {session : Session σ} {done : α → Session σ → Prop} {failed : Failure → Session σ → Prop}

theorem ends_mono {action : Action σ α} {done' : α → Session σ → Prop}
    {failed' : Failure → Session σ → Prop} (ends : Ends action session done failed)
    (returned : ∀ answer final, done answer final → done' answer final)
    (refused : ∀ failure final, failed failure final → failed' failure final) :
    Ends action session done' failed' := by
  unfold Ends at ends ⊢
  cases equation : action session with
  | ok answer final => exact returned answer final (by simpa only [equation] using ends)
  | error failure final => exact refused failure final (by simpa only [equation] using ends)

theorem ends_of_forall {action : Action σ α} (returned : ∀ answer final, done answer final)
    (refused : ∀ failure final, failed failure final) : Ends action session done failed := by
  unfold Ends
  split
  · exact returned _ _
  · exact refused _ _

theorem ends_congr {action : Action σ α} {done' : α → Session σ → Prop}
    {failed' : Failure → Session σ → Prop}
    (returned : ∀ answer final, done answer final ↔ done' answer final)
    (refused : ∀ failure final, failed failure final ↔ failed' failure final) :
    Ends action session done failed ↔ Ends action session done' failed' :=
  ⟨fun ends => ends_mono ends (fun answer final => (returned answer final).mp)
      fun failure final => (refused failure final).mp,
    fun ends => ends_mono ends (fun answer final => (returned answer final).mpr)
      fun failure final => (refused failure final).mpr⟩

theorem ends_after {action : Action σ α} {holds : Session σ → Prop}
    (ends : Ends action session (fun _ final => holds final) fun _ final => holds final) :
    holds (after action session) := by
  unfold Ends at ends
  unfold after
  cases equation : action session with
  | ok answer final => simpa only [equation] using ends
  | error failure final => simpa only [equation] using ends

theorem ends_iff_of_ok {action : Action σ α} {answer : α} {final : Session σ}
    (returns : action session = .ok answer final) :
    Ends action session done failed ↔ done answer final := by
  rw [Ends, returns]

theorem ends_iff_of_error {action : Action σ α} {failure : Failure} {final : Session σ}
    (fails : action session = .error failure final) :
    Ends action session done failed ↔ failed failure final := by
  rw [Ends, fails]

theorem ends_iff_of_eq {action other : Action σ α} {start : Session σ}
    (same : action session = other start) :
    Ends action session done failed ↔ Ends other start done failed := by
  rw [Ends, Ends, same]

theorem eq_ok_of_returns {action : Action σ α} (returned : returns action session = true) :
    ∃ answer, action session = .ok answer (after action session) := by
  unfold returns at returned
  unfold after
  cases equation : action session with
  | ok answer final => exact ⟨answer, rfl⟩
  | error failure final =>
    rw [equation] at returned
    cases returned

theorem eq_error_of_returns {action : Action σ α} (refused : returns action session = false) :
    ∃ failure, action session = .error failure (after action session) := by
  unfold returns at refused
  unfold after
  cases equation : action session with
  | ok answer final =>
    rw [equation] at refused
    cases refused
  | error failure final => exact ⟨failure, rfl⟩

theorem after_of_error {action : Action σ α} {failure : Failure} {final : Session σ}
    (fails : action session = .error failure final) : after action session = final := by
  rw [after, fails]

theorem eq_ok_of_ends {action : Action σ α} {answer : α} {final : Session σ}
    (ends : Ends action session (fun given left => given = answer ∧ left = final) fun _ _ => False) :
    action session = .ok answer final := by
  cases equation : action session with
  | ok given left =>
    obtain ⟨rfl, rfl⟩ := (ends_iff_of_ok equation).mp ends
    rfl
  | error failure left => exact ((ends_iff_of_error equation).mp ends).elim

theorem exists_ok_of_ends {action : Action σ α}
    (ends : Ends action session done fun _ _ => False) :
    ∃ answer final, action session = .ok answer final ∧ done answer final := by
  cases equation : action session with
  | ok answer final => exact ⟨answer, final, rfl, (ends_iff_of_ok equation).mp ends⟩
  | error failure final => exact ((ends_iff_of_error equation).mp ends).elim

theorem exists_error_of_ends {action : Action σ α}
    (ends : Ends action session (fun _ _ => False) failed) :
    ∃ failure final, action session = .error failure final ∧ failed failure final := by
  cases equation : action session with
  | ok answer final => exact ((ends_iff_of_ok equation).mp ends).elim
  | error failure final => exact ⟨failure, final, rfl, (ends_iff_of_error equation).mp ends⟩

theorem eq_error_of_ends {action : Action σ α} {failure : Failure} {final : Session σ}
    (ends : Ends action session (fun _ _ => False) fun failed left => failed = failure ∧ left = final) :
    action session = .error failure final := by
  cases equation : action session with
  | ok answer left => exact ((ends_iff_of_ok equation).mp ends).elim
  | error failed left =>
    obtain ⟨rfl, rfl⟩ := (ends_iff_of_error equation).mp ends
    rfl

section

variable {middle final : Session σ} {action : Action σ α}

theorem bind_of_ok {answer : α} (returned : action session = .ok answer middle)
    (next : α → Action σ β) : (action >>= next) session = next answer middle := by
  change EStateM.bind action next session = _
  rw [EStateM.bind, returned]

theorem bind_of_error {failure : Failure} (failed : action session = .error failure middle)
    (next : α → Action σ β) : (action >>= next) session = .error failure middle := by
  change EStateM.bind action next session = _
  rw [EStateM.bind, failed]

theorem bind_of_eq {other : Action σ α} (same : action session = other middle)
    (next : α → Action σ β) : (action >>= next) session = (other >>= next) middle := by
  change EStateM.bind action next session = EStateM.bind other next middle
  rw [EStateM.bind, EStateM.bind, same]

theorem get_then (next : Session σ → Action σ β) :
    ((get : Action σ (Session σ)) >>= next) session = next session session := rfl

theorem eq_ok_of_bind {next : α → Action σ β} {answer : β}
    (returned : (action >>= next) session = .ok answer final) :
    ∃ value middle, action session = .ok value middle ∧ next value middle = .ok answer final := by
  cases ended : action session with
  | ok value middle =>
    rw [bind_of_ok ended] at returned
    exact ⟨value, middle, rfl, returned⟩
  | error failure middle =>
    rw [bind_of_error ended] at returned
    cases returned

theorem eq_ok_of_ofResult {result : Except Failure α} {answer : α}
    (returned : (ofResult result : Action σ α) session = .ok answer final) :
    result = .ok answer ∧ final = session := by
  cases result with
  | ok given =>
    cases returned
    exact ⟨rfl, rfl⟩
  | error failure => cases returned

theorem discard_of_ok {answer : α} (returned : action session = .ok answer middle) :
    (discard action : Action σ PUnit) session = .ok ⟨⟩ middle := by
  change EStateM.map (fun _ => PUnit.unit) action session = _
  rw [EStateM.map, returned]

theorem discard_of_error {failure : Failure} (failed : action session = .error failure middle) :
    (discard action : Action σ PUnit) session = .error failure middle := by
  change EStateM.map (fun _ => PUnit.unit) action session = _
  rw [EStateM.map, failed]

theorem tryCatch_of_ok {answer : α} (returned : action session = .ok answer final)
    (handler : Failure → Action σ α) : tryCatch action handler session = .ok answer final := by
  simp only [tryCatch, tryCatchThe, MonadExceptOf.tryCatch]
  delta EStateM.tryCatch
  dsimp only
  rw [returned]

theorem tryCatch_of_error {failure : Failure} (failed : action session = .error failure middle)
    (handler : Failure → Action σ α) :
    tryCatch action handler session = handler failure middle := by
  simp only [tryCatch, tryCatchThe, MonadExceptOf.tryCatch]
  delta EStateM.tryCatch
  dsimp only
  rw [failed]
  rfl

theorem tryCatch_of_eq {other : Action σ α} (same : action session = other middle)
    (handler : Failure → Action σ α) :
    tryCatch action handler session = tryCatch other handler middle := by
  cases ended : other middle with
  | ok answer final => rw [tryCatch_of_ok (same.trans ended), tryCatch_of_ok ended]
  | error failure final => rw [tryCatch_of_error (same.trans ended), tryCatch_of_error ended]

theorem onFault_of_ok {answer : α} (returned : action session = .ok answer final)
    (handler : Failure → Action σ α) : onFault action handler session = .ok answer final :=
  tryCatch_of_ok returned _

theorem after_of_ok {answer : α} (returned : action session = .ok answer final) :
    after action session = final := by
  rw [after, returned]

theorem after_of_eq {other : Action σ α} (same : action session = other middle) :
    after action session = after other middle := by
  rw [after, after, same]

theorem after_answer (action : Action σ α) (answer : α → β) (session : Session σ) :
    after (do return answer (← action)) session = after action session := by
  cases ended : action session with
  | ok found final =>
    have answered := bind_of_ok ended fun found => pure (answer found)
    rw [after_of_ok ended, after_of_ok answered]
  | error failure final =>
    have failed := bind_of_error ended fun found => pure (answer found)
    rw [after_of_error ended, after_of_error failed]

theorem onFault_of_error {failure : Failure} (failed : action session = .error failure middle)
    (handler : Failure → Action σ α) :
    onFault action handler session =
      (if failure.isRecognisedFault then handler failure else throw failure) middle :=
  tryCatch_of_error failed _

end

theorem Ends.and {action : Action σ α} {done' : α → Session σ → Prop}
    {failed' : Failure → Session σ → Prop} (first : Ends action session done failed)
    (second : Ends action session done' failed') :
    Ends action session (fun answer final => done answer final ∧ done' answer final)
      fun failure final => failed failure final ∧ failed' failure final := by
  cases equation : action session with
  | ok answer final =>
    rw [ends_iff_of_ok equation] at first second ⊢
    exact ⟨first, second⟩
  | error failure final =>
    rw [ends_iff_of_error equation] at first second ⊢
    exact ⟨first, second⟩

@[simp] theorem ends_pure (answer : α) :
    Ends (pure answer : Action σ α) session done failed ↔ done answer session := Iff.rfl

@[simp] theorem ends_throw (failure : Failure) :
    Ends (throw failure : Action σ α) session done failed ↔ failed failure session := Iff.rfl

@[simp] theorem ends_get {done : Session σ → Session σ → Prop} :
    Ends (get : Action σ (Session σ)) session done failed ↔ done session session := Iff.rfl

@[simp] theorem ends_set {done : PUnit → Session σ → Prop} (final : Session σ) :
    Ends (set final : Action σ PUnit) session done failed ↔ done ⟨⟩ final := Iff.rfl

@[simp] theorem ends_modify {done : PUnit → Session σ → Prop} (change : Session σ → Session σ) :
    Ends (modify change : Action σ PUnit) session done failed ↔ done ⟨⟩ (change session) := Iff.rfl

@[simp] theorem ends_bind (action : Action σ β) (next : β → Action σ α) :
    Ends (action >>= next) session done failed ↔
      Ends action session (fun answer middle => Ends (next answer) middle done failed) failed := by
  simp only [Ends, bind, EStateM.bind]
  cases action session with
  | ok answer middle => rfl
  | error failure middle => rfl

@[simp] theorem ends_map {done : β → Session σ → Prop} (change : α → β) (action : Action σ α) :
    Ends (change <$> action) session done failed ↔
      Ends action session (fun answer => done (change answer)) failed := by
  simp only [Ends, Functor.map, EStateM.map]
  cases action session with
  | ok answer middle => rfl
  | error failure middle => rfl

@[simp] theorem ends_discard {done : PUnit → Session σ → Prop} (action : Action σ α) :
    Ends (discard action) session done failed ↔
      Ends action session (fun _ => done ⟨⟩) failed := by
  simp only [discard, Functor.discard, Functor.mapConst]
  exact ends_map _ _

@[simp] theorem ends_tryCatch (action : Action σ α) (handler : Failure → Action σ α) :
    Ends (tryCatch action handler) session done failed ↔
      Ends action session done fun failure middle => Ends (handler failure) middle done failed := by
  cases ended : action session with
  | ok answer middle => rw [ends_iff_of_ok (tryCatch_of_ok ended handler), ends_iff_of_ok ended]
  | error failure middle =>
    rw [ends_iff_of_eq (tryCatch_of_error ended handler), ends_iff_of_error ended]

@[simp] theorem ends_onFault (action : Action σ α) (handler : Failure → Action σ α) :
    Ends (onFault action handler) session done failed ↔
      Ends action session done fun failure middle =>
        if failure.isRecognisedFault then Ends (handler failure) middle done failed
        else failed failure middle := by
  simp only [onFault, ends_tryCatch]
  refine ⟨fun ends => ends_mono ends (fun _ _ => id) ?_, fun ends => ends_mono ends (fun _ _ => id) ?_⟩
  all_goals
    intro failure middle caught
    split at caught <;> simp_all

@[simp] theorem ends_finally (action : Action σ α) (finalizer : Action σ β) :
    Ends (tryFinally action finalizer) session done failed ↔
      Ends action session
        (fun answer middle => Ends finalizer middle (fun _ final => done answer final) failed)
        (fun failure middle =>
          Ends finalizer middle (fun _ final => failed failure final) failed) := by
  simp only [tryFinally, ends_map]
  simp only [Ends, tryFinally']
  cases action session with
  | ok answer middle =>
    dsimp only
    cases finalizer middle <;> rfl
  | error failure middle =>
    dsimp only
    cases finalizer middle <;> rfl

@[simp] theorem ends_ofResult (result : Except Failure α) :
    Ends (ofResult result : Action σ α) session done failed ↔
      match result with
      | .ok answer => done answer session
      | .error failure => failed failure session := by
  cases result <;> rfl

-- An action can be a large term: its ends are found by these rules, never by computing it.
attribute [irreducible] Ends

end SqlGateway.Session
