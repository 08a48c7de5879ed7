import Mathlib.Data.List.Basic

/-!
Results that may be failures: what is known of the parts of one that is none.
-/

namespace SqlGateway

variable {ε α β : Type}

theorem bind_eq_ok {first : Except ε α} {next : α → Except ε β} {result : β}
    (returned : (first >>= next) = .ok result) : ∃ value, first = .ok value ∧ next value = .ok result := by
  cases first with
  | error failure => cases returned
  | ok value => exact ⟨value, rfl, returned⟩

theorem bind_returns {first : Except ε α} {next : α → Except ε β} {value : α} (returned : first = .ok value)
    (rest : ∃ result, next value = .ok result) : ∃ result, (first >>= next) = .ok result := by
  subst returned
  exact rest

theorem map_eq_ok {first : Except ε α} {f : α → β} {result : β} (returned : first.map f = .ok result) :
    ∃ value, first = .ok value ∧ f value = result := by
  cases first with
  | error failure => cases returned
  | ok value => exact ⟨value, rfl, Except.ok.inj returned⟩

theorem map_of_mapM {γ : Type} {f : α → Except ε β} {u : β → γ} {v : α → γ} {xs : List α} {ys : List β}
    (each : ∀ x y, f x = .ok y → u y = v x) (all : xs.mapM f = .ok ys) : ys.map u = xs.map v := by
  induction xs generalizing ys with
  | nil => cases all; rfl
  | cons x more ih =>
    rw [List.mapM_cons] at all
    obtain ⟨y, first, all⟩ := bind_eq_ok all
    obtain ⟨later, rest, all⟩ := bind_eq_ok all
    cases all
    rw [List.map_cons, List.map_cons, each x y first, ih rest]

theorem forall_of_mapM {f : α → Except ε β} {xs : List α} {ys : List β} (all : xs.mapM f = .ok ys)
    {x : α} (member : x ∈ xs) : ∃ y, f x = .ok y := by
  have results : ys.map .ok = xs.map f := map_of_mapM (fun _ _ returned => returned.symm) all
  have among := List.mem_map_of_mem (f := f) member
  rw [← results, List.mem_map] at among
  exact among.imp fun y both => both.2.symm

theorem bind_eq_error {first : Except ε α} {next : α → Except ε β} {failure : ε}
    (failed : (first >>= next) = .error failure) :
    first = .error failure ∨ ∃ value, first = .ok value ∧ next value = .error failure := by
  cases first with
  | error other => cases failed; exact .inl rfl
  | ok value => exact .inr ⟨value, rfl, failed⟩

theorem map_eq_error {first : Except ε α} {f : α → β} {failure : ε}
    (failed : first.map f = .error failure) : first = .error failure := by
  cases first with
  | error other => cases failed; rfl
  | ok value => cases failed

theorem exists_of_mapM_error {f : α → Except ε β} {xs : List α} {failure : ε}
    (failed : xs.mapM f = .error failure) : ∃ x ∈ xs, f x = .error failure := by
  induction xs with
  | nil => cases failed
  | cons x more ih =>
    rw [List.mapM_cons] at failed
    rcases bind_eq_error failed with here | ⟨y, -, failed⟩
    · exact ⟨x, List.mem_cons_self, here⟩
    rcases bind_eq_error failed with later | ⟨rest, -, returned⟩
    · obtain ⟨other, member, there⟩ := ih later
      exact ⟨other, List.mem_cons_of_mem _ member, there⟩
    · cases returned

theorem mapM_returns {f : α → Except ε β} {xs : List α} (each : ∀ x ∈ xs, ∃ y, f x = .ok y) :
    ∃ ys, xs.mapM f = .ok ys := by
  cases all : xs.mapM f with
  | ok ys => exact ⟨ys, rfl⟩
  | error failure =>
    obtain ⟨x, member, failed⟩ := exists_of_mapM_error all
    obtain ⟨y, returned⟩ := each x member
    cases failed.symm.trans returned

theorem forall_of_forM {f : α → Except ε Unit} {xs : List α} (all : xs.forM f = .ok ()) :
    ∀ x ∈ xs, f x = .ok () := by
  induction xs with
  | nil => exact List.forall_mem_nil _
  | cons x more ih =>
    obtain ⟨_, first, rest⟩ := bind_eq_ok all
    exact List.forall_mem_cons.mpr ⟨first, ih rest⟩

theorem exists_of_forM_error {f : α → Except ε Unit} {xs : List α} {failure : ε}
    (failed : xs.forM f = .error failure) :
    ∃ before x later, xs = before ++ x :: later ∧ (∀ y ∈ before, f y = .ok ()) ∧ f x = .error failure := by
  induction xs with
  | nil => cases failed
  | cons x more ih =>
    rcases bind_eq_error failed with here | ⟨_, first, there⟩
    · exact ⟨[], x, more, rfl, List.forall_mem_nil _, here⟩
    · obtain ⟨before, y, later, rfl, passed, failed⟩ := ih there
      exact ⟨x :: before, y, later, rfl, List.forall_mem_cons.mpr ⟨first, passed⟩, failed⟩

def failureOf : Except ε α → Option ε
  | .ok _ => none
  | .error failure => some failure

def FailsWith (allowed : ε → Prop) (result : Except ε α) : Prop :=
  ∀ failure, result = .error failure → allowed failure

variable {allowed : ε → Prop}

theorem fails_ok (value : α) : FailsWith allowed (.ok value : Except ε α) := nofun

theorem fails_error {failure : ε} (here : allowed failure) : FailsWith allowed (.error failure : Except ε α) := by
  rintro _ ⟨⟩
  exact here

theorem FailsWith.mono {result : Except ε α} (fails : FailsWith allowed result) {other : ε → Prop}
    (follows : ∀ failure, allowed failure → other failure) : FailsWith other result :=
  fun failure failed => follows failure (fails failure failed)

theorem FailsWith.bind {first : Except ε α} {next : α → Except ε β} (fails : FailsWith allowed first)
    (later : ∀ value, FailsWith allowed (next value)) : FailsWith allowed (first >>= next) := by
  intro failure failed
  rcases bind_eq_error failed with here | ⟨value, -, there⟩
  · exact fails failure here
  · exact later value failure there

theorem FailsWith.map {result : Except ε α} (fails : FailsWith allowed result) (f : α → β) :
    FailsWith allowed (result.map f) :=
  fun failure failed => fails failure (map_eq_error failed)

def EitherWay (returned : α → Prop) (allowed : ε → Prop) : Except ε α → Prop
  | .ok value => returned value
  | .error failure => allowed failure

theorem EitherWay.bind {returned : α → Prop} {later : β → Prop} {first : Except ε α} {next : α → Except ε β}
    (here : EitherWay returned allowed first)
    (there : ∀ value, returned value → EitherWay later allowed (next value)) :
    EitherWay later allowed (first >>= next) := by
  cases first with
  | error failure => exact here
  | ok value => exact there value here

theorem EitherWay.map {returned : α → Prop} {later : β → Prop} {result : Except ε α} {f : α → β}
    (here : EitherWay returned allowed result) (there : ∀ value, returned value → later (f value)) :
    EitherWay later allowed (result.map f) := by
  cases result with
  | error failure => exact here
  | ok value => exact there value here

theorem EitherWay.mono {returned more : α → Prop} {other : ε → Prop} {result : Except ε α}
    (either : EitherWay returned allowed result) (value : ∀ value, returned value → more value)
    (failure : ∀ failure, allowed failure → other failure) : EitherWay more other result := by
  cases result with
  | error _ => exact failure _ either
  | ok _ => exact value _ either

theorem fails_mapM {f : α → Except ε β} {xs : List α} (each : ∀ x ∈ xs, FailsWith allowed (f x)) :
    FailsWith allowed (xs.mapM f) := by
  intro failure failed
  obtain ⟨x, member, here⟩ := exists_of_mapM_error failed
  exact each x member failure here

end SqlGateway
