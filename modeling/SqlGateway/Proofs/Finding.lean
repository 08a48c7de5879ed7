import Mathlib.Data.List.Basic
import SqlGateway.Statement.Placeholder

/-!
The names that are found behind the colons of a text. A reading finds a name wherever one stands, whatever is
around it, and nothing in a stretch without a colon.
-/

namespace SqlGateway.Statement

open Text (isWord)

/-- What may stand behind a name that a value can be bound to. Of a run that a colon ends, the last character
is given up. -/
inductive Behind : List Char → Prop
  | apart {late : List Char} : (∀ c ∈ late.head?, isWord c = false ∧ c ≠ ':') → Behind late
  | shortened {c : Char} {more : List Char} : isWord c = true → Behind (c :: ':' :: more)

theorem takeWhile_stops {p : Char → Bool} {late : List Char} (stops : ∀ c ∈ late.head?, p c = false) :
    late.takeWhile p = [] ∧ late.dropWhile p = late := by
  cases late with
  | nil => exact ⟨rfl, rfl⟩
  | cons c more => simp [stops c rfl]

theorem boundName?_eq_some_iff (before : Option Char) (rest name : List Char) :
    boundName? before rest = some name ↔ opensAfter isWord before = true ∧ name ≠ [] ∧
      (∀ c ∈ name, isWord c = true) ∧ ∃ late, rest = name ++ late ∧ Behind late := by
  constructor
  · intro found
    obtain ⟨allowed, same⟩ : (opensAfter isWord before && !_) = true ∧ _ = name := by
      simpa only [boundName?, Option.ite_none_right_eq_some, Option.some.injEq] using found
    obtain ⟨opens, filled⟩ := (Bool.and_eq_true _ _).mp allowed
    rw [same, Bool.not_eq_true', List.isEmpty_eq_false_iff] at filled
    have word : ∀ c ∈ rest.takeWhile isWord, isWord c = true := List.all_eq_true.mp List.all_takeWhile
    have split := List.takeWhile_append_dropWhile (p := isWord) (l := rest)
    split at same
    · next colon =>
      obtain ⟨more, tail⟩ := List.head?_eq_some_iff.mp colon
      have run : rest.takeWhile isWord ≠ [] := by
        intro none
        rw [none] at same
        exact filled same.symm
      refine ⟨opens, filled, fun c member => word c ((List.dropLast_sublist _).subset (same ▸ member)), ?_⟩
      refine ⟨(rest.takeWhile isWord).getLast run :: ':' :: more, ?_, .shortened (word _ (List.getLast_mem run))⟩
      rw [← same, ← List.singleton_append, ← List.append_assoc, List.dropLast_append_getLast, ← tail, split]
    · next clear =>
      refine ⟨opens, filled, same ▸ word, rest.dropWhile isWord, by rw [← same, split], .apart fun c head => ?_⟩
      have wordless := List.head?_dropWhile_not isWord rest
      rw [Option.mem_def.mp head] at wordless
      exact ⟨by simpa using wordless, fun colon => clear (colon ▸ head)⟩
  · rintro ⟨opens, filled, word, late, rfl, behind⟩
    rw [← List.isEmpty_eq_false_iff] at filled
    unfold boundName?
    rw [List.takeWhile_append_of_pos word, List.dropWhile_append_of_pos word]
    cases behind with
    | apart clear =>
      obtain ⟨taken, dropped⟩ := takeWhile_stops fun c head => (clear c head).1
      have apart : late.head? ≠ some ':' := fun colon => (clear ':' colon).2 rfl
      simp [taken, dropped, apart, opens, filled]
    | @shortened c more here =>
      have colon : isWord ':' = false := by decide
      simp [here, colon, opens, filled]

theorem mem_scan {name? : Option Char → List Char → Option (List Char)} {name early late : List Char}
    (before : List Char) (found : name? (before ++ early).getLast? late = some name) :
    name ∈ scan name? before.getLast? (early ++ ':' :: late) := by
  induction early generalizing before with
  | nil =>
    rw [List.append_nil] at found
    simp [scan, found]
  | cons c more ih =>
    have later := ih (before ++ [c]) (by rwa [List.append_assoc, List.singleton_append])
    rw [List.getLast?_concat] at later
    exact List.mem_append_right _ later

theorem exists_of_mem_scan {name? : Option Char → List Char → Option (List Char)} {name text : List Char}
    (before : List Char) (member : name ∈ scan name? before.getLast? text) :
    ∃ early late, text = early ++ ':' :: late ∧ name? (before ++ early).getLast? late = some name := by
  induction text generalizing before with
  | nil => cases member
  | cons c rest ih =>
    rw [scan, List.mem_append] at member
    rcases member with here | later
    · rw [Option.mem_toList] at here
      split at here
      · next colon => exact ⟨[], rest, by rw [colon]; rfl, by rw [List.append_nil]; exact here⟩
      · cases here
    · have behind : name ∈ scan name? (before ++ [c]).getLast? rest := by rwa [List.getLast?_concat]
      obtain ⟨early, late, split, found⟩ := ih _ behind
      refine ⟨c :: early, late, by rw [split]; rfl, ?_⟩
      rwa [List.append_assoc] at found

theorem scan_skip (name? : Option Char → List Char → Option (List Char)) {cs : List Char} (plain : ':' ∉ cs)
    (before rest : List Char) :
    scan name? before.getLast? (cs ++ rest) = scan name? (before ++ cs).getLast? rest := by
  induction cs generalizing before with
  | nil => simp
  | cons c more ih =>
    obtain ⟨other, plainMore⟩ := not_or.mp (mt List.mem_cons.mpr plain)
    have next := ih plainMore (before ++ [c])
    rw [List.getLast?_concat] at next
    simpa [scan, Ne.symm other] using next

theorem unescape_of_not_mem [Dialect] {cs : List Char} (plain : '\\' ∉ cs) : unescape cs = cs := by
  induction cs with
  | nil => rfl
  | cons c more ih =>
    obtain ⟨other, plainMore⟩ := not_or.mp (mt List.mem_cons.mpr plain)
    simp [unescape, Ne.symm other, ih plainMore]

end SqlGateway.Statement
