import SqlGateway.Proofs.Supplied

/-!
The identifiers of a statement: what stands between marks in its text. Apart from the alias of the new rows
each is the table or a column that was given, without the blanks around it.
-/

namespace SqlGateway.Query

open Layout

/-- Reads the names between marks, and what follows a mark that is not closed. -/
def readNames : Option (List Char) → List Char → List String × Option (List Char)
  | open?, [] => ([], open?)
  | none, c :: rest => readNames (if c = mark then some [] else none) rest
  | some read, c :: rest =>
    if c = mark then
      let (names, open?) := readNames none rest
      (String.ofList read :: names, open?)
    else readNames (some (read ++ [c])) rest

example : readNames none "`t`.`id` = `new`.`id`".toList = (["t", "id", "new", "id"], none) := by decide

/-- What an identifier of the statement may be: a name that was given, trimmed, or the alias. -/
inductive Command.Identifies (command : Command) : String → Prop
  | given {name : String} : .text name ∈ command.table :: command.columns →
      Identifies command (Text.trim name)
  | aliased : command.Aliases → Identifies command "new"

structure Reads (allowed : String → Prop) (text : List Char) : Prop where
  closed : (readNames none text).2 = none
  names : ∀ name ∈ (readNames none text).1, allowed name

theorem readNames_append (open? : Option (List Char)) (first second : List Char) :
    readNames open? (first ++ second) =
      ((readNames open? first).1 ++ (readNames (readNames open? first).2 second).1,
        (readNames (readNames open? first).2 second).2) := by
  induction first generalizing open? with
  | nil =>
    cases open? <;> rfl
  | cons c rest ih =>
    cases open? with
    | none =>
      rw [List.cons_append, readNames, readNames]
      exact ih _
    | some read =>
      rw [List.cons_append, readNames, readNames]
      by_cases marked : c = mark
      · rw [if_pos marked, if_pos marked, ih none]
        rfl
      · rw [if_neg marked, if_neg marked]
        exact ih _

theorem readNames_outside {text : List Char} (absent : mark ∉ text) :
    readNames none text = ([], none) := by
  induction text with
  | nil => rfl
  | cons c rest ih =>
    obtain ⟨other, later⟩ := not_or.mp (mt List.mem_cons.mpr absent)
    rw [readNames, if_neg fun same => other same.symm]
    exact ih later

theorem readNames_inside {name : List Char} (absent : mark ∉ name) (read : List Char) :
    readNames (some read) name = ([], some (read ++ name)) := by
  induction name generalizing read with
  | nil => rw [readNames, List.append_nil]
  | cons c rest ih =>
    obtain ⟨other, later⟩ := not_or.mp (mt List.mem_cons.mpr absent)
    rw [readNames, if_neg fun same => other same.symm, ih later, List.append_assoc, List.singleton_append]

theorem readNames_quoted {name : List Char} (absent : mark ∉ name) :
    readNames none (mark :: name ++ [mark]) = ([String.ofList name], none) := by
  rw [List.cons_append, readNames, if_pos rfl, readNames_append, readNames_inside absent, List.nil_append,
    readNames, if_pos rfl, readNames]
  rfl

variable {allowed : String → Prop}

theorem Reads.mono {other : String → Prop} {text : List Char} (reads : Reads allowed text)
    (follows : ∀ name, allowed name → other name) : Reads other text :=
  ⟨reads.closed, fun name read => follows name (reads.names name read)⟩

theorem reads_outside {text : List Char} (absent : mark ∉ text) : Reads allowed text := by
  have outside := readNames_outside absent
  exact ⟨by rw [outside], by rw [outside]; nofun⟩

theorem Reads.append {first second : List Char} (reads : Reads allowed first)
    (readsToo : Reads allowed second) : Reads allowed (first ++ second) where
  closed := by
    rw [readNames_append, reads.closed]
    exact readsToo.closed
  names := by
    rw [readNames_append, reads.closed]
    exact List.forall_mem_append.mpr ⟨reads.names, readsToo.names⟩

theorem reads_chars {layout : Layout} (each : ∀ piece ∈ layout, Reads allowed piece.chars) :
    Reads allowed (chars layout) := by
  induction layout with
  | nil => exact reads_outside List.not_mem_nil
  | cons piece later ih =>
    obtain ⟨first, rest⟩ := List.forall_mem_cons.mp each
    exact first.append (ih rest)

theorem quoteName_eq_some {name quoted : String} (given : quoteName? name = some quoted) :
    mark ∉ (Text.trim name).toList ∧ quoted.toList = mark :: (Text.trim name).toList ++ [mark] := by
  simp only [quoteName?] at given
  split at given
  · cases given
  · next fit =>
    obtain rfl := Option.some.inj given
    rw [Bool.or_eq_true, not_or, List.contains_iff_mem] at fit
    exact ⟨fit.2, String.toList_ofList⟩

theorem reads_quoted {value : Value} (trimmed : ∀ name, value = .text name → allowed (Text.trim name)) :
    Reads allowed (Piece.quoted value).chars := by
  rw [Piece.chars, quotedText]
  cases quotes : quotable? value with
  | none => exact reads_outside List.not_mem_nil
  | some quoted =>
    obtain ⟨name, rfl, given⟩ := (quotable_eq_some_iff value quoted).mp quotes
    obtain ⟨absent, split⟩ := quoteName_eq_some given
    rw [Option.getD_some, split]
    have reading := readNames_quoted absent
    refine ⟨by rw [reading], ?_⟩
    rw [reading, String.ofList_toList]
    exact List.forall_mem_singleton.mpr (trimmed name rfl)

theorem unmarked_of_quoted {value : Value} {text : String} (quoted : quote value = .ok text) :
    mark ∉ value.display.toList := by
  obtain ⟨name, rfl, given⟩ := (quotable_eq_some_iff value text).mp ((quote_eq_ok_iff value text).mp quoted)
  intro member
  exact (quoteName_eq_some given).1 (Text.mem_trim member (by decide))

theorem unmarked_place {opening name ending : String} (opens : mark ∉ opening.toList)
    (absent : mark ∉ name.toList) (ends : mark ∉ ending.toList) (value : Value) :
    mark ∉ (Piece.place (opening ++ name ++ ending) value).chars := by
  simp only [Piece.chars, String.toList_append, List.mem_cons, List.mem_append, not_or]
  exact ⟨by decide, ⟨opens, absent⟩, ends⟩

theorem unmarked_slot {column : Value} (absent : mark ∉ column.display.toList) (many : Bool) (row : Nat)
    (value : Value) : mark ∉ (Piece.place (slot many row column) value).chars := by
  have digits : mark ∉ ("_" ++ toString row).toList := by
    rw [String.toList_append, List.mem_append, not_or]
    refine ⟨by decide, fun member => ?_⟩
    cases word_of_repr row mark member
  have none : mark ∉ "".toList := by decide
  unfold slot
  split
  · have place := unmarked_place none absent digits value
    rwa [String.empty_append, ← String.append_assoc] at place
  · have place := unmarked_place none absent none value
    rwa [String.empty_append, String.append_empty] at place

variable {command : Command} {query : Query}

/-- Every identifier of a statement is a name that its caller gave, trimmed, or the alias. -/
theorem Command.reads (written : command.write = .ok query) :
    Reads command.Identifies query.sql.toList := by
  have quoted := Command.quoted written
  have texts : ∀ column ∈ command.columns, IsText column := fun column given =>
    (quoted column given).elim fun _ => text_of_quoted
  have wordingsUnmarked : ∀ text ∈ wordings, mark ∉ text.toList := by decide
  have openingsUnmarked : ∀ opening ∈ openings, mark ∉ opening.toList := by decide
  have aliasingsRead : ∀ text ∈ aliasings, readNames none text.toList = (["new"], none) := by decide
  rw [(Command.written written).text]
  refine reads_chars fun piece member => ?_
  cases command.from_layout texts piece member with
  | words known => exact reads_outside (wordingsUnmarked _ known)
  | aliased aliases known =>
    have reading := aliasingsRead _ known
    refine ⟨by rw [Piece.chars, reading], ?_⟩
    rw [Piece.chars, reading]
    exact List.forall_mem_singleton.mpr (.aliased aliases)
  | table => exact reads_quoted fun name same => .given (same ▸ List.mem_cons_self)
  | column given => exact reads_quoted fun name same => .given (same ▸ List.mem_cons_of_mem _ given)
  | @assigned _ column value opens given =>
    obtain ⟨_, named⟩ := quoted column given
    have none : mark ∉ "".toList := by decide
    have place := unmarked_place (openingsUnmarked _ opens) (unmarked_of_quoted named) none value
    rw [String.append_empty] at place
    exact reads_outside place
  | @numbered many row column value given =>
    obtain ⟨_, named⟩ := quoted column given
    exact reads_outside (unmarked_slot (unmarked_of_quoted named) many row value)

end SqlGateway.Query
