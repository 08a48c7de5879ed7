import SqlGateway.Proofs.Lines
import SqlGateway.Proofs.Overlong
import SqlGateway.Proofs.Settling

/-!
Where the reading of a document ends although nothing in it is malformed. It comes to a value that needs more of the
stack than is left, or that is a decimal integer of more digits than are read; whatever stands before that value has
been read.
-/

namespace SqlGateway.Toml

theorem fails_ofOption {α : Type} (read? : Option α) : FailsWith (· = .malformed) (ofOption read?) := by
  cases read? with
  | none => exact fails_error rfl
  | some read => exact fails_ok read

theorem inner_of_le {room share : Nat} (enough : share ≤ room) : inner room share = .ok (room - share) :=
  if_neg (Nat.not_lt.mpr enough)

theorem fails_keyPart (cs : List Char) : FailsWith (· = .malformed) (keyPart cs) := by
  unfold keyPart
  split
  · exact fails_ofOption _
  · exact fails_ofOption _
  · dsimp only
    split
    · exact fails_error rfl
    · exact fails_ok _

theorem fails_keyPath (steps : Nat) (cs : List Char) : FailsWith (· = .malformed) (keyPath steps cs) := by
  induction steps generalizing cs with
  | zero => exact fails_error rfl
  | succ steps ih =>
    unfold keyPath
    refine (fails_keyPart cs).bind fun read => ?_
    dsimp only
    split
    · exact (ih _).bind fun _ => fails_ok _
    · exact fails_ok _

theorem fails_skipAll (cs : List Char) : FailsWith (· = .malformed) (skipAll cs) := by
  fun_induction skipAll cs with
  | case1 => exact fails_error rfl
  | case2 _ _ _ _ _ ih => exact ih
  | case3 => exact fails_ok _

theorem fails_skipComment (cs : List Char) : FailsWith (· = .malformed) (skipComment cs) := by
  unfold skipComment
  split
  · split
    · exact fails_error rfl
    · exact fails_ok _
  · exact fails_ok _

namespace Outline

variable (outline : Outline)

theorem fails_declareTable (path : Path) : FailsWith (· = .malformed) (outline.declareTable path) := by
  unfold declareTable
  split
  · exact fails_error rfl
  · exact (fails_ofOption _).bind fun _ => fails_ok _

theorem fails_declareItem (path : Path) : FailsWith (· = .malformed) (outline.declareItem path) := by
  unfold declareItem
  split
  · exact fails_error rfl
  · exact (fails_ofOption _).bind fun _ => fails_ok _

theorem fails_addEntry (path : Path) (item : Toml) : FailsWith (· = .malformed) (outline.addEntry path item) := by
  unfold addEntry
  dsimp only
  split
  · exact fails_error rfl
  · exact (fails_ofOption _).bind fun _ => fails_ok _

end Outline

theorem fails_headerPath (cs : List Char) : FailsWith (· = .malformed) (headerPath cs) := fails_keyPath _ _

variable [Stack]

/-- The value that the text begins with needs more room than there is. -/
inductive Scarce (room : Nat) : List Char → Prop
  | own {cs : List Char} : room < Stack.own cs → Scarce room cs
  | array {rest : List Char} : room < Stack.array → Scarce room ('[' :: rest)
  | table {rest : List Char} : room < Stack.table → (∀ after, skipGap rest ≠ '}' :: after) → Scarce room ('{' :: rest)

inductive Stops (room : Nat) (cs : List Char) : Problem → Prop
  | scarce : Scarce room cs → Stops room cs .tooDeep
  | long : ¬ Scarce room cs → LongInteger cs → Stops room cs .tooManyDigits

/-- From the text of the items of an array to that of one of them; the items before it are read. -/
inductive ItemAt (room : Nat) : List Char → List Char → Prop
  | first {cs : List Char} : (∀ rest, cs ≠ ']' :: rest) → ItemAt room cs cs
  | later {steps : Nat} {cs rest after next target : List Char} {item : Toml} : (∀ rest, cs ≠ ']' :: rest) →
    value steps room cs = .ok (item, rest) → skipAll rest = .ok (',' :: after) → skipAll after = .ok next →
    ItemAt room next target → ItemAt room cs target

/-- From the text of the entries of an inline table to the value of one of them; the entries before it are read. -/
inductive EntryAt (room : Nat) : List Path → Table → List Char → List Char → Prop
  | first {closed : List Path} {held : Table} {cs rest : List Char} {path : Path} :
    keyPath (cs.length + 1) cs = .ok (path, '=' :: rest) → EntryAt room closed held cs (skipGap rest)
  | later {steps : Nat} {closed : List Path} {held changed : Table} {cs rest after target : List Char} {path : Path}
    {item : Toml} : keyValue steps room cs = .ok (path, item, rest) → isClosed closed path = false →
    within false path.dropLast (enter (path.getLastD "") item) held = some changed → skipGap rest = ',' :: after →
    EntryAt room (if isContainer item then path :: closed else closed) changed (skipGap after) target →
    EntryAt room closed held cs target

/-- From the text of a value to that of a value inside it, each with the room that is left for it. -/
inductive Inside : Nat → List Char → Nat → List Char → Prop
  | here {room : Nat} {cs : List Char} : Inside room cs room cs
  | array {room inner : Nat} {rest start item target : List Char} : ¬ Scarce room ('[' :: rest) →
    skipAll rest = .ok start → ItemAt (room - Stack.array) start item →
    Inside (room - Stack.array) item inner target → Inside room ('[' :: rest) inner target
  | table {room inner : Nat} {rest item target : List Char} : ¬ Scarce room ('{' :: rest) →
    (∀ after, skipGap rest ≠ '}' :: after) → EntryAt (room - Stack.table) [] [] (skipGap rest) item →
    Inside (room - Stack.table) item inner target → Inside room ('{' :: rest) inner target

inductive Passes : Outline → List Char → Outline → List Char → Prop
  | none {outline : Outline} {cs : List Char} : Passes outline cs outline cs
  | blank {outline final : Outline} {cs rest target : List Char} : skipGap cs = '\n' :: rest →
    Passes outline rest final target → Passes outline cs final target
  | line {outline next final : Outline} {cs rest after target : List Char} :
    statement outline (skipGap cs) = .ok (next, rest) → skipComment rest = .ok ('\n' :: after) →
    Passes next after final target → Passes outline cs final target

/-- Reading the text comes to a value for which there is so much room: the one behind the key of a line, or one
inside it. -/
inductive Comes (text : String) (room : Nat) (cs : List Char) : Prop
  | mk {outline : Outline} {line more rest : List Char} {c : Char} {path : Path} :
    Passes {} (joinLineBreaks text.toList) outline line → skipGap line = c :: more → isKeyStart c = true →
    keyPath ((c :: more).length + 1) (c :: more) = .ok (path, '=' :: rest) →
    Inside Stack.room (skipGap rest) room cs → Comes text room cs

def Blocked (room : Nat) (cs : List Char) (problem : Problem) : Prop :=
  ∃ inner target, Inside room cs inner target ∧ Stops inner target problem

section

variable {room : Nat} {cs rest : List Char} {problem : Problem}

theorem value_bracket (enough : ¬ room < Stack.own ('[' :: rest)) (steps : Nat) :
    value (steps + 1) room ('[' :: rest) = (do
      let room ← inner room Stack.array
      let (items, rest) ← arrayItems steps room (← skipAll rest)
      return (.array items, rest)) := by
  have quoteless : quotedText? ('[' :: rest) = none := rfl
  unfold value
  rw [if_neg enough, quoteless]
  rfl

theorem value_brace (enough : ¬ room < Stack.own ('{' :: rest)) (filled : ∀ after, skipGap rest ≠ '}' :: after)
    (steps : Nat) : value (steps + 1) room ('{' :: rest) = (do
      let room ← inner room Stack.table
      let (held, rest) ← inlineEntries steps room [] [] (skipGap rest)
      return (.table held, rest)) := by
  have quoteless : quotedText? ('{' :: rest) = none := rfl
  unfold value
  rw [if_neg enough, quoteless]
  dsimp only
  split
  case h_1 same | h_2 same | h_3 same => cases same
  case h_4 same =>
    cases same
    split
    · next after closing => exact absurd closing (filled after)
    · rfl
  case h_5 apart => exact absurd rfl (apart _)

theorem value_array (enough : ¬ Scarce room ('[' :: rest)) (steps : Nat) : value (steps + 1) room ('[' :: rest) =
    (skipAll rest >>= arrayItems steps (room - Stack.array)).map fun read => (.array read.1, read.2) := by
  have share : Stack.array ≤ room := Nat.not_lt.mp fun few => enough (.array few)
  rw [value_bracket fun few => enough (.own few), inner_of_le share]
  cases skipAll rest with
  | error failure => rfl
  | ok start =>
    change (arrayItems steps (room - Stack.array) start >>= _) = (arrayItems steps (room - Stack.array) start).map _
    cases arrayItems steps (room - Stack.array) start <;> rfl

theorem value_table (enough : ¬ Scarce room ('{' :: rest)) (filled : ∀ after, skipGap rest ≠ '}' :: after)
    (steps : Nat) : value (steps + 1) room ('{' :: rest) =
      (inlineEntries steps (room - Stack.table) [] [] (skipGap rest)).map fun read => (.table read.1, read.2) := by
  have share : Stack.table ≤ room := Nat.not_lt.mp fun few => enough (.table few filled)
  rw [value_brace (fun few => enough (.own few)) filled, inner_of_le share]
  change (inlineEntries steps (room - Stack.table) [] [] (skipGap rest) >>= _) = _
  cases inlineEntries steps (room - Stack.table) [] [] (skipGap rest) <;> rfl

/-- A value that is neither an array nor an inline table with entries holds no others. -/
theorem stops_of_value {steps : Nat} (given : problem ≠ .malformed) (enough : ¬ Scarce room cs)
    (array : ∀ rest, cs ≠ '[' :: rest) (table : ∀ rest, cs = '{' :: rest → ∃ after, skipGap rest = '}' :: after)
    (failed : value (steps + 1) room cs = .error problem) : Stops room cs problem := by
  unfold value at failed
  rw [if_neg fun few => enough (.own few)] at failed
  split at failed
  · exact absurd (fails_ofOption _ problem failed) given
  split at failed
  · cases failed
  · cases failed
  · exact absurd rfl (array _)
  · obtain ⟨after, closing⟩ := table _ rfl
    rw [closing] at failed
    cases failed
  · obtain ⟨rfl, long⟩ := longInteger_of_scalar given failed
    exact .long enough long

theorem value_of_stops (stops : Stops room cs problem) (steps : Nat) :
    value (steps + 1) room cs = .error problem := by
  cases stops with
  | scarce scarce =>
    by_cases own : room < Stack.own cs
    · unfold value
      rw [if_pos own]
    · cases scarce with
      | own few => exact absurd few own
      | @array rest few =>
        rw [value_bracket own, inner, if_pos few]
        rfl
      | @table rest few filled =>
        rw [value_brace own filled, inner, if_pos few]
        rfl
  | long enough long =>
    rw [value_scalar ?_ fun few => enough (.own few)]
    · exact long.scalar
    · obtain ⟨first, more, rfl, begins, -⟩ := long.start
      rintro c ⟨⟩
      rcases begins with ⟨digit, -⟩ | rfl | rfl
      · intro mark
        simp only [valueMarks, List.mem_cons, List.not_mem_nil, or_false] at mark
        rcases mark with rfl | rfl | rfl | rfl | rfl | rfl <;> cases digit
      · decide
      · decide

end

structure Finds (steps : Nat) (problem : Problem) : Prop where
  value : ∀ room cs, value steps room cs = .error problem → Blocked room cs problem
  items : ∀ room cs, arrayItems steps room cs = .error problem →
    ∃ item, ItemAt room cs item ∧ Blocked room item problem
  entries : ∀ room closed held cs, inlineEntries steps room closed held cs = .error problem →
    ∃ item, EntryAt room closed held cs item ∧ Blocked room item problem
  keyValue : ∀ room cs, keyValue steps room cs = .error problem →
    ∃ path rest, keyPath (cs.length + 1) cs = .ok (path, '=' :: rest) ∧ Blocked room (skipGap rest) problem

section

variable {steps room : Nat} {cs : List Char} {problem : Problem} (given : problem ≠ .malformed)

include given

theorem finds_zero : Finds 0 problem where
  value room cs failed := by
    rw [Toml.value] at failed
    cases failed
    exact absurd rfl given
  items room cs failed := by
    rw [arrayItems] at failed
    cases failed
    exact absurd rfl given
  entries room closed held cs failed := by
    rw [inlineEntries] at failed
    cases failed
    exact absurd rfl given
  keyValue room cs failed := by
    rw [Toml.keyValue] at failed
    cases failed
    exact absurd rfl given

variable (finds : Finds steps problem)

include finds

theorem blocked_of_value (failed : value (steps + 1) room cs = .error problem) : Blocked room cs problem := by
  by_cases scarce : Scarce room cs
  · cases (value_of_stops (.scarce scarce) steps).symm.trans failed
    exact ⟨room, cs, .here, .scarce scarce⟩
  by_cases opening : ∃ rest, cs = '[' :: rest
  · obtain ⟨rest, rfl⟩ := opening
    rw [value_array scarce] at failed
    rcases bind_eq_error (map_eq_error failed) with unread | ⟨start, skipped, failed⟩
    · exact absurd (fails_skipAll rest problem unread) given
    · obtain ⟨item, itemAt, inner, target, inside, stops⟩ := finds.items _ _ failed
      exact ⟨inner, target, .array scarce skipped itemAt inside, stops⟩
  by_cases brace : ∃ rest, cs = '{' :: rest ∧ ∀ after, skipGap rest ≠ '}' :: after
  · obtain ⟨rest, rfl, filled⟩ := brace
    rw [value_table scarce filled] at failed
    obtain ⟨item, entryAt, inner, target, inside, stops⟩ := finds.entries _ _ _ _ (map_eq_error failed)
    exact ⟨inner, target, .table scarce filled entryAt inside, stops⟩
  · refine ⟨room, cs, .here, stops_of_value given scarce (fun rest same => opening ⟨rest, same⟩) ?_ failed⟩
    intro rest same
    by_contra none
    exact brace ⟨rest, same, fun after closing => none ⟨after, closing⟩⟩

theorem blocked_of_items (failed : arrayItems (steps + 1) room cs = .error problem) :
    ∃ item, ItemAt room cs item ∧ Blocked room item problem := by
  unfold arrayItems at failed
  split at failed
  · contradiction
  · cases failed
  rename_i room cs _ _ _ _ same apart
  cases same
  have opens (rest : List Char) : cs ≠ ']' :: rest := apart rest
  rcases bind_eq_error failed with here | ⟨⟨item, rest⟩, read, failed⟩
  · exact ⟨cs, .first opens, finds.value room cs here⟩
  rcases bind_eq_error failed with unread | ⟨start, skipped, failed⟩
  · exact absurd (fails_skipAll _ problem unread) given
  split at failed
  · cases failed
  · rename_i after
    rcases bind_eq_error failed with unread | ⟨next, skippedToo, failed⟩
    · exact absurd (fails_skipAll _ problem unread) given
    rcases bind_eq_error failed with there | ⟨_, -, failed⟩
    · obtain ⟨target, itemAt, blocked⟩ := finds.items room next there
      exact ⟨target, .later opens read skipped skippedToo itemAt, blocked⟩
    · cases failed
  · cases failed
    exact absurd rfl given

theorem blocked_of_entries {closed : List Path} {held : Table}
    (failed : inlineEntries (steps + 1) room closed held cs = .error problem) :
    ∃ item, EntryAt room closed held cs item ∧ Blocked room item problem := by
  unfold inlineEntries at failed
  rcases bind_eq_error failed with here | ⟨⟨path, item, rest⟩, read, failed⟩
  · obtain ⟨path, rest, key, blocked⟩ := finds.keyValue room cs here
    exact ⟨skipGap rest, .first key, blocked⟩
  dsimp only at failed
  split at failed
  · cases failed
    exact absurd rfl given
  rename_i open?
  rcases bind_eq_error failed with refused | ⟨changed, entered, failed⟩
  · exact absurd (fails_ofOption _ problem refused) given
  split at failed
  · cases failed
  · rename_i after comma
    obtain ⟨target, entryAt, blocked⟩ := finds.entries _ _ _ _ failed
    refine ⟨target, .later read (Bool.eq_false_iff.mpr open?) ?_ comma entryAt, blocked⟩
    cases change : within false path.dropLast (enter (path.getLastD "") item) held with
    | none => rw [change] at entered; cases entered
    | some other => rw [change] at entered; cases entered; rfl
  · cases failed
    exact absurd rfl given

theorem blocked_of_keyValue (failed : keyValue (steps + 1) room cs = .error problem) :
    ∃ path rest, keyPath (cs.length + 1) cs = .ok (path, '=' :: rest) ∧ Blocked room (skipGap rest) problem := by
  unfold keyValue at failed
  rcases bind_eq_error failed with unread | ⟨⟨path, rest⟩, read, failed⟩
  · exact absurd (fails_keyPath _ cs problem unread) given
  dsimp only at failed
  split at failed
  · rename_i after
    rcases bind_eq_error failed with there | ⟨_, -, failed⟩
    · exact ⟨path, after, read, finds.value _ _ there⟩
    · cases failed
  · cases failed
    exact absurd rfl given

omit finds in
theorem finds_steps (steps : Nat) : Finds steps problem := by
  induction steps with
  | zero => exact finds_zero given
  | succ steps ih =>
    exact ⟨fun _ _ => blocked_of_value given ih, fun _ _ => blocked_of_items given ih,
      fun _ _ _ _ => blocked_of_entries given ih, fun _ _ => blocked_of_keyValue given ih⟩

end

section

variable {room : Nat} {cs target : List Char} {problem : Problem}

theorem arrayItems_succ (opens : ∀ rest, cs ≠ ']' :: rest) (steps : Nat) : arrayItems (steps + 1) room cs = (do
    let (first, rest) ← value steps room cs
    match ← skipAll rest with
    | ']' :: rest => return ([first], rest)
    | ',' :: rest => do
      let (more, rest) ← arrayItems steps room (← skipAll rest)
      return (first :: more, rest)
    | _ => throw .malformed) := by
  rw [arrayItems.eq_def]
  split
  · contradiction
  · exact absurd rfl (opens _)
  · next same _ =>
    cases same
    rfl

theorem ItemAt.error (itemAt : ItemAt room cs target)
    (fails : ∀ count, 2 * target.length + 1 ≤ count → value count room target = .error problem) :
    ∀ count, 2 * cs.length + 2 ≤ count → arrayItems count room cs = .error problem := by
  induction itemAt with
  | first opens =>
    rintro (_ | count) enough
    · omega
    · rw [arrayItems_succ opens, fails count (by omega)]
      rfl
  | @later steps cs rest after next target item opens read skipped skippedToo _ ih =>
    rintro (_ | count) enough
    · omega
    · have shorter := Nat.le_trans (length_of_skipAll skipped) (length_of_value read)
      have later := length_of_skipAll skippedToo
      rw [List.length_cons] at shorter
      have found := ((settles steps).value count room cs (by omega)).ok read
      have there := ih fails count (by omega)
      simp only [arrayItems_succ opens, found, skipped, skippedToo, there, Bind.bind, Except.bind]

theorem keyValue_error {path : Path} {rest : List Char} (key : keyPath (cs.length + 1) cs = .ok (path, '=' :: rest))
    (fails : ∀ count, 2 * (skipGap rest).length + 1 ≤ count → value count room (skipGap rest) = .error problem) :
    ∀ count, 2 * cs.length + 1 ≤ count → keyValue count room cs = .error problem := by
  rintro (_ | count) enough
  · omega
  · have shorter := length_of_keyPath key
    have later := length_skipGap rest
    rw [List.length_cons] at shorter
    have there := fails count (by omega)
    simp only [keyValue, key, there, Bind.bind, Except.bind]

theorem EntryAt.error {closed : List Path} {held : Table} (entryAt : EntryAt room closed held cs target)
    (fails : ∀ count, 2 * target.length + 1 ≤ count → value count room target = .error problem) :
    ∀ count, 2 * cs.length + 2 ≤ count → inlineEntries count room closed held cs = .error problem := by
  induction entryAt with
  | @first closed held cs rest path key =>
    rintro (_ | count) enough
    · omega
    · rw [inlineEntries, keyValue_error key fails count (by omega)]
      rfl
  | @later steps closed held changed cs rest after target path item read apart entered comma _ ih =>
    rintro (_ | count) enough
    · omega
    · have shorter := Nat.le_trans (length_skipGap rest) (length_of_keyValue read)
      have later := length_skipGap after
      rw [comma, List.length_cons] at shorter
      have found := ((settles steps).keyValue count room cs (by omega)).ok read
      have there := ih fails count (by omega)
      simp only [inlineEntries, found, apart, entered, comma, there, Bind.bind, Except.bind, ofOption,
        Bool.false_eq_true, if_false]

theorem Inside.error {inner : Nat} (inside : Inside room cs inner target) (stops : Stops inner target problem) :
    ∀ count, 2 * cs.length + 1 ≤ count → value count room cs = .error problem := by
  induction inside with
  | here =>
    rintro (_ | count) enough
    · omega
    · exact value_of_stops stops count
  | @array room inner rest start item target roomy skipped itemAt _ ih =>
    rintro (_ | count) enough
    · omega
    · have shorter := length_of_skipAll skipped
      rw [List.length_cons] at enough
      have there := itemAt.error (ih stops) count (by omega)
      rw [value_array roomy, skipped]
      change (arrayItems count (room - Stack.array) start).map _ = _
      rw [there]
      rfl
  | @table room inner rest item target roomy filled entryAt _ ih =>
    rintro (_ | count) enough
    · omega
    · have shorter := length_skipGap rest
      rw [List.length_cons] at enough
      rw [value_table roomy filled, entryAt.error (ih stops) count (by omega)]
      rfl

end

section

variable {outline : Outline} {cs : List Char} {problem : Problem}

theorem statement_key (outline : Outline) {c : Char} (begins : isKeyStart c = true) (more : List Char) :
    statement outline (c :: more) = (do
      let (path, item, rest) ← keyValue (2 * (c :: more).length + 3) Stack.room (c :: more)
      return (← outline.addEntry path item, skipGap rest)) := by
  have other {mark : Char} (apart : isKeyStart mark = false) : c ≠ mark := by
    rintro rfl
    cases begins.symm.trans apart
  unfold statement
  split
  · next same => exact absurd (List.cons.inj same).1 (other (by decide))
  · next same => exact absurd (List.cons.inj same).1 (other (by decide))
  · next same => exact absurd (List.cons.inj same).1 (other (by decide))
  · next same =>
    obtain ⟨rfl, rfl⟩ := List.cons.inj same
    rw [if_pos begins]
  · next same => cases same

theorem keyValue_of_statement (given : problem ≠ .malformed) (failed : statement outline cs = .error problem) :
    ∃ c more, cs = c :: more ∧ isKeyStart c = true ∧
      keyValue (2 * (c :: more).length + 3) Stack.room (c :: more) = .error problem := by
  unfold statement at failed
  split at failed
  · rcases bind_eq_error failed with unread | ⟨_, -, failed⟩
    · exact absurd (fails_headerPath _ problem unread) given
    rcases bind_eq_error failed with refused | ⟨_, -, failed⟩
    · exact absurd (Outline.fails_declareItem _ _ problem refused) given
    split at failed
    · cases failed
    · cases failed
      exact absurd rfl given
  · rcases bind_eq_error failed with unread | ⟨_, -, failed⟩
    · exact absurd (fails_headerPath _ problem unread) given
    rcases bind_eq_error failed with refused | ⟨_, -, failed⟩
    · exact absurd (Outline.fails_declareTable _ _ problem refused) given
    split at failed
    · cases failed
    · cases failed
      exact absurd rfl given
  · cases failed
  · rename_i c more _ _ _
    split at failed
    · rename_i begins
      rcases bind_eq_error failed with unread | ⟨_, -, failed⟩
      · exact ⟨c, more, rfl, begins, unread⟩
      rcases bind_eq_error failed with refused | ⟨_, -, failed⟩
      · exact absurd (Outline.fails_addEntry _ _ _ problem refused) given
      · cases failed
    · cases failed
      exact absurd rfl given
  · cases failed

theorem passes_of_statements (given : problem ≠ .malformed) {steps : Nat}
    (failed : statements steps outline cs = .error problem) : ∃ final line c more,
      Passes outline cs final line ∧ skipGap line = c :: more ∧ isKeyStart c = true ∧
        keyValue (2 * (c :: more).length + 3) Stack.room (c :: more) = .error problem := by
  induction steps generalizing outline cs with
  | zero =>
    cases failed
    exact absurd rfl given
  | succ steps ih =>
    unfold statements at failed
    split at failed
    · cases failed
    · rename_i rest blank
      obtain ⟨final, line, c, more, passes, found⟩ := ih failed
      exact ⟨final, line, c, more, .blank blank passes, found⟩
    rcases bind_eq_error failed with here | ⟨⟨next, rest⟩, read, failed⟩
    · obtain ⟨c, more, same, begins, unread⟩ := keyValue_of_statement given here
      exact ⟨outline, cs, c, more, .none, same, begins, unread⟩
    rcases bind_eq_error failed with unread | ⟨after, skipped, failed⟩
    · exact absurd (fails_skipComment _ problem unread) given
    split at failed
    · cases failed
    · obtain ⟨final, line, c, more, passes, found⟩ := ih failed
      exact ⟨final, line, c, more, .line read skipped passes, found⟩
    · cases failed
      exact absurd rfl given

theorem Passes.error {final : Outline} {line : List Char} (passes : Passes outline cs final line)
    (keyed : Keyed (.table outline.root))
    (fails : ∀ steps, line.length < steps → statements steps final line = .error problem) :
    ∀ steps, cs.length < steps → statements steps outline cs = .error problem := by
  induction passes with
  | none => exact fails
  | @blank outline final cs rest target blank _ ih =>
    rintro (_ | steps) enough
    · omega
    · have shorter := length_skipGap cs
      rw [blank, List.length_cons] at shorter
      have there := ih keyed fails steps (by omega)
      simp only [statements, blank, there]
  | @line outline next final cs rest after target read skipped _ ih =>
    rintro (_ | steps) enough
    · omega
    · have reads := statement_reads keyed (skipGap cs)
      rw [read] at reads
      obtain ⟨nextKeyed, left⟩ := reads
      have tail := skipComment_answers 0 rest
      rw [skipped] at tail
      have shorter := Nat.le_trans (List.IsSuffix.length_le tail)
        (Nat.le_trans (List.IsSuffix.length_le left) (length_skipGap cs))
      rw [List.length_cons] at shorter
      have there := ih nextKeyed fails steps (by omega)
      unfold statements
      split
      · next ended =>
        rw [ended] at read
        cases read
        cases skipped
      · next blank =>
        rw [blank] at read
        cases read
      · rw [read]
        change (skipComment rest >>= _) = _
        rw [skipped]
        exact there

theorem statements_error {c : Char} {more : List Char} (start : skipGap cs = c :: more) (begins : isKeyStart c = true)
    (fails : ∀ count, 2 * (c :: more).length + 1 ≤ count → keyValue count Stack.room (c :: more) = .error problem) :
    ∀ steps, cs.length < steps → statements steps outline cs = .error problem := by
  rintro (_ | steps) enough
  · omega
  · have unread : statement outline (c :: more) = .error problem := by
      rw [statement_key outline begins, fails _ (by omega)]
      rfl
    unfold statements
    rw [start]
    split
    · next ended => cases ended
    · next blank =>
      obtain ⟨rfl, -⟩ := List.cons.inj blank
      cases begins
    · rw [unread]
      rfl

/-- A document is given up, without being malformed, exactly where its reading comes to a value that it stops at. -/
theorem parse_error_iff (text : String) (given : problem ≠ .malformed) :
    parse text = .error problem ↔ ∃ room cs, Comes text room cs ∧ Stops room cs problem := by
  constructor
  · intro failed
    obtain ⟨final, line, c, more, passes, start, begins, unread⟩ := passes_of_statements given (map_eq_error failed)
    obtain ⟨path, rest, key, room, target, inside, stops⟩ := (finds_steps given _).keyValue _ _ unread
    exact ⟨room, target, .mk passes start begins key inside, stops⟩
  · rintro ⟨room, target, ⟨passes, start, begins, key, inside⟩, stops⟩
    have failed := passes.error keyed_nil (statements_error start begins (keyValue_error key (inside.error stops))) _
      (Nat.lt_succ_self _)
    exact congrArg (Except.map Outline.root) failed

end

end SqlGateway.Toml
