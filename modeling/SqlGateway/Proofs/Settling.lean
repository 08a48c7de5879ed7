import SqlGateway.Proofs.Parsing

/-!
The count that goes down as values are read. Above twice the length of the text it decides nothing: whatever is
found out with some other count is the answer.
-/

namespace SqlGateway.Toml

section

variable {α β : Type}

/-- The second answer is the first, unless nothing was found out there. -/
def Refines (first second : Except Problem α) : Prop := first = .error .malformed ∨ first = second

theorem Refines.refl (answer : Except Problem α) : Refines answer answer := .inr rfl

theorem Refines.bind {first second : Except Problem α} {next other : α → Except Problem β}
    (refines : Refines first second)
    (later : ∀ answer, first = .ok answer → Refines (next answer) (other answer)) :
    Refines (first >>= next) (second >>= other) := by
  rcases refines with rfl | rfl
  · exact .inl rfl
  · cases first with
    | error problem => exact .inr rfl
    | ok answer => exact later answer rfl

theorem Refines.ok {first second : Except Problem α} (refines : Refines first second) {answer : α}
    (found : first = .ok answer) : second = .ok answer := by
  rcases refines with rfl | rfl
  · cases found
  · exact found

theorem Refines.error {first second : Except Problem α} (refines : Refines first second) {problem : Problem}
    (given : problem ≠ .malformed) (failed : first = .error problem) : second = .error problem := by
  rcases refines with rfl | rfl
  · cases failed
    exact absurd rfl given
  · exact failed

end

theorem length_skipGap (cs : List Char) : (skipGap cs).length ≤ cs.length := length_dropWhile_le isGap cs

variable [Stack] {steps room : Nat} {cs rest : List Char}

theorem length_of_skipAll (skipped : skipAll cs = .ok rest) : rest.length ≤ cs.length := by
  have left := skipAll_answers 0 cs
  rw [skipped] at left
  exact List.IsSuffix.length_le left

theorem length_of_value {item : Toml} (read : value steps room cs = .ok (item, rest)) : rest.length ≤ cs.length := by
  have left := (reads steps).value room cs
  rw [read] at left
  exact List.IsSuffix.length_le left.2

theorem length_of_keyValue {path : Path} {item : Toml} (read : keyValue steps room cs = .ok (path, item, rest)) :
    rest.length ≤ cs.length := by
  have left := (reads steps).keyValue room cs
  rw [read] at left
  exact List.IsSuffix.length_le left.2

theorem length_of_keyPath {path : Path} (read : keyPath steps cs = .ok (path, rest)) : rest.length ≤ cs.length := by
  have left := keyPath_reads steps 0 cs
  rw [read] at left
  exact List.IsSuffix.length_le left.2

/-- What is found out in so many steps is the answer of any count above the bound of the reader. -/
structure Settles (steps : Nat) : Prop where
  value : ∀ count room cs, 2 * cs.length + 1 ≤ count → Refines (value steps room cs) (value count room cs)
  items : ∀ count room cs, 2 * cs.length + 2 ≤ count → Refines (arrayItems steps room cs) (arrayItems count room cs)
  entries : ∀ count room closed held cs, 2 * cs.length + 2 ≤ count →
    Refines (inlineEntries steps room closed held cs) (inlineEntries count room closed held cs)
  keyValue : ∀ count room cs, 2 * cs.length + 1 ≤ count → Refines (keyValue steps room cs) (keyValue count room cs)

theorem settles_zero : Settles 0 where
  value _ _ _ _ := .inl (by rw [Toml.value])
  items _ _ _ _ := .inl (by rw [arrayItems])
  entries _ _ _ _ _ _ := .inl (by rw [inlineEntries])
  keyValue _ _ _ _ := .inl (by rw [Toml.keyValue])

namespace Settles

variable {count : Nat} (settles : Settles steps)

include settles

theorem value_succ (enough : 2 * cs.length ≤ count) :
    Refines (Toml.value (steps + 1) room cs) (Toml.value (count + 1) room cs) := by
  unfold Toml.value
  split
  · exact .refl _
  split
  · exact .refl _
  split
  · exact .refl _
  · exact .refl _
  · refine Refines.bind (.refl _) fun inside _ => Refines.bind (.refl _) fun start skipped => ?_
    have shorter := length_of_skipAll skipped
    rw [List.length_cons] at enough
    exact Refines.bind (settles.items count inside start (by omega)) fun _ _ => .refl _
  · rename_i after _ _
    split
    · exact .refl _
    · refine Refines.bind (.refl _) fun inside _ => ?_
      have shorter := length_skipGap after
      rw [List.length_cons] at enough
      exact Refines.bind (settles.entries count inside [] [] _ (by omega)) fun _ _ => .refl _
  · exact .refl _

theorem items_succ (enough : 2 * cs.length + 1 ≤ count) :
    Refines (arrayItems (steps + 1) room cs) (arrayItems (count + 1) room cs) := by
  unfold arrayItems
  split
  · contradiction
  · exact .refl _
  rename_i room cs _ _ _ _ same _
  cases same
  refine Refines.bind (settles.value count room cs enough) fun read found => ?_
  refine Refines.bind (.refl _) fun start skipped => ?_
  have shorter := Nat.le_trans (length_of_skipAll skipped) (length_of_value found)
  split
  · exact .refl _
  · refine Refines.bind (.refl _) fun next skippedToo => ?_
    have later := length_of_skipAll skippedToo
    rw [List.length_cons] at shorter
    exact Refines.bind (settles.items count room next (by omega)) fun _ _ => .refl _
  · exact .refl _

theorem entries_succ {closed : List Path} {held : Table} (enough : 2 * cs.length + 1 ≤ count) :
    Refines (inlineEntries (steps + 1) room closed held cs) (inlineEntries (count + 1) room closed held cs) := by
  unfold inlineEntries
  refine Refines.bind (settles.keyValue count room cs enough) ?_
  rintro ⟨path, item, rest⟩ found
  have shorter := Nat.le_trans (length_skipGap rest) (length_of_keyValue found)
  dsimp only
  split
  · exact .refl _
  refine Refines.bind (.refl _) fun changed _ => ?_
  split
  · exact .refl _
  · rename_i after comma
    have later := length_skipGap after
    rw [comma, List.length_cons] at shorter
    exact settles.entries count room _ changed _ (by omega)
  · exact .refl _

theorem keyValue_succ (enough : 2 * cs.length ≤ count) :
    Refines (Toml.keyValue (steps + 1) room cs) (Toml.keyValue (count + 1) room cs) := by
  unfold Toml.keyValue
  refine Refines.bind (.refl _) ?_
  rintro ⟨path, rest⟩ found
  have shorter := length_of_keyPath found
  dsimp only
  split
  · rename_i after
    have later := length_skipGap after
    rw [List.length_cons] at shorter
    exact Refines.bind (settles.value count room _ (by omega)) fun _ _ => .refl _
  · exact .refl _

theorem succ : Settles (steps + 1) where
  value count _ cs enough := by
    obtain ⟨less, rfl⟩ := Nat.exists_eq_succ_of_ne_zero (by omega : count ≠ 0)
    exact settles.value_succ (by omega)
  items count _ cs enough := by
    obtain ⟨less, rfl⟩ := Nat.exists_eq_succ_of_ne_zero (by omega : count ≠ 0)
    exact settles.items_succ (by omega)
  entries count _ _ _ cs enough := by
    obtain ⟨less, rfl⟩ := Nat.exists_eq_succ_of_ne_zero (by omega : count ≠ 0)
    exact settles.entries_succ (by omega)
  keyValue count _ cs enough := by
    obtain ⟨less, rfl⟩ := Nat.exists_eq_succ_of_ne_zero (by omega : count ≠ 0)
    exact settles.keyValue_succ (by omega)

end Settles

theorem settles (steps : Nat) : Settles steps := by
  induction steps with
  | zero => exact settles_zero
  | succ steps ih => exact ih.succ

end SqlGateway.Toml
