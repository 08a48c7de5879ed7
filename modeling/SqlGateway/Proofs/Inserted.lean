import SqlGateway.Proofs.Written

/-!
What is written to insert rows. Each place of many rows tells its row and its column, and what a conflict
assigns travels with the row already.
-/

namespace SqlGateway.Query

open Layout

theorem readRows_eq_ok {input : Value} {rows : Rows} (read : readRows input = .ok rows) :
    Rows.ofValue input = .ok rows := by
  unfold readRows at read
  cases held : Rows.ofValue input with
  | error problem => rw [held] at read; cases read
  | ok other => rw [held] at read; cases read; rfl

theorem chars_tuple (rows : Rows) (row : Nat) (record : Record) :
    chars (tuple rows row record) = (rowTuple rows row).toList := by
  simp [rowTuple, tuple, chars_separated, Piece.chars, Function.comp_def]

theorem entries_tuple (rows : Rows) (row : Nat) (record : Record) :
    entries (tuple rows row record) = rowParams rows row record := by
  have places : entries (separated "," (rows.columns.map fun column =>
      [.place (slot rows.many row column) (valueIn record column)])) = rowParams rows row record := by
    rw [entries_separated, List.flatMap_map, rowParams, List.map_eq_flatMap]
    rfl
  simp [tuple, places]

theorem entries_tuples (rows : Rows) : entries (tuples rows) =
    rows.all.zipIdx.flatMap fun (record, row) => rowParams rows row record := by
  rw [tuples, entries_separated, List.flatMap_map]
  exact congrArg (rows.all.zipIdx.flatMap ·) (funext fun (record, row) => entries_tuple rows row record)

theorem entries_conflict (rows : Rows) (table primaryKey : Value) :
    entries (conflict rows table primaryKey) = if rows.many then []
      else (updated rows primaryKey).map fun column => (column.display, valueIn rows.first column) := by
  unfold conflict
  split
  · next none => simp [List.isEmpty_iff.mp none]
  · split
    · rw [entries_words, entries_separated, List.flatMap_map]
      exact List.flatMap_eq_nil_iff.mpr fun _ _ => rfl
    · rw [entries_words, entries_separated, List.flatMap_map, List.map_eq_flatMap]
      simp [assigned]

theorem filter_quoted (rows : Rows) (primaryKey : Value) :
    ((rows.columns.zip (rows.columns.map quotedText)).filter fun column => !(column.1 == primaryKey)) =
      (updated rows primaryKey).map fun column => (column, quotedText column) := by
  have paired (names : List Value) :
      names.zip (names.map quotedText) = names.map fun name => (name, quotedText name) := by
    induction names with
    | nil => rfl
    | cons name more ih => simp [ih]
  rw [paired, List.filter_map]
  rfl

theorem conflictClause_written {rows : Rows} {table primaryKey : Value} {clause : String}
    (written : conflictClause rows (quotedText table) (rows.columns.zip (rows.columns.map quotedText))
      primaryKey = .ok clause) : clause.toList = chars (conflict rows table primaryKey) := by
  simp only [conflictClause, filter_quoted, List.isEmpty_map] at written
  unfold conflict
  split at written
  · next none =>
    obtain ⟨key, quoted, rfl⟩ := map_eq_ok written
    simp [none, Piece.chars, eq_quotedText quoted]
  · next some =>
    cases written
    cases many : rows.many with
    | true => simp [some, assignment, many, chars_separated, newRow, Piece.chars, Function.comp_def]
    | false =>
      simp [some, assignment, many, chars_separated, assigned, slot, Piece.chars, Function.comp_def]

/-- What rows were read from: one mapping, or a sequence of mappings with the columns of the first. -/
inductive Given : Value → Rows → Prop
  | one {record : Record} : record.isEmpty = false → Given (.mapping record) ⟨record, [], false⟩
  | many {input : Value} {first : Record} {more : List Record} :
      (input = .list ((first :: more).map .mapping) ∨ input = .tuple ((first :: more).map .mapping)) →
      first.isEmpty = false → Rows.differing? first 1 more = none → Given input ⟨first, more, true⟩

theorem mappings_of_mapM {items : List Value} {records : List Record}
    (all : items.mapM Rows.record? = some records) : items = records.map .mapping := by
  induction items generalizing records with
  | nil => cases all; rfl
  | cons item more ih =>
    rw [List.mapM_cons] at all
    obtain ⟨record, first, all⟩ := Option.bind_eq_some_iff.mp all
    obtain ⟨later, rest, all⟩ := Option.bind_eq_some_iff.mp all
    cases all
    cases item with
    | mapping entries => cases first; rw [List.map_cons, ← ih rest]
    | _ => cases first

theorem given_of_ofItems {items : List Value} {rows : Rows} (read : Rows.ofItems items = .ok rows) :
    ∃ first more, items = (first :: more).map .mapping ∧ first.isEmpty = false ∧
      Rows.differing? first 1 more = none ∧ rows = ⟨first, more, true⟩ := by
  unfold Rows.ofItems at read
  split at read
  · cases read
  · split at read
    · cases read
    · next records all =>
      unfold Rows.ofRecords at read
      split at read
      · cases read
      · next first more =>
        split at read
        · cases read
        · next filled =>
          split at read <;> cases read
          next same => exact ⟨first, more, mappings_of_mapM all, by simpa using filled, same, rfl⟩

theorem given_of_ofValue {input : Value} {rows : Rows} (read : Rows.ofValue input = .ok rows) :
    Given input rows := by
  unfold Rows.ofValue at read
  split at read
  · split at read <;> cases read
    next filled => exact .one (by simpa using filled)
  · obtain ⟨first, more, rfl, filled, same, rfl⟩ := given_of_ofItems read
    exact .many (.inl rfl) filled same
  · obtain ⟨first, more, rfl, filled, same, rfl⟩ := given_of_ofItems read
    exact .many (.inr rfl) filled same
  · cases read

theorem Given.columns_ne_nil {input : Value} {rows : Rows} (given : Given input rows) :
    rows.columns ≠ [] := by
  intro none
  cases given with
  | one filled | many _ filled _ =>
    rw [Rows.columns, Entries.keys, List.map_eq_nil_iff] at none
    cases none
    cases filled

theorem Given.single {input : Value} {rows : Rows} (given : Given input rows) :
    rows.many = true ∨ rows.more = [] := by
  cases given with
  | one filled => exact .inr rfl
  | many _ _ _ => exact .inl rfl

def Functional (params : Params) : Prop :=
  ∀ name first second, (name, first) ∈ params → (name, second) ∈ params → first = second

theorem eq_of_append_mark {first second early late : List Char} {mark : Char} (absent : mark ∉ early)
    (absentToo : mark ∉ late) (same : first ++ mark :: early = second ++ mark :: late) :
    first = second ∧ early = late := by
  rcases List.append_eq_append_iff.mp same with ⟨between, rfl, split⟩ | ⟨between, rfl, split⟩
  · cases between with
    | nil => exact ⟨(List.append_nil first).symm, (List.cons.inj split).2⟩
    | cons c more =>
      refine absurd ?_ absent
      rw [(List.cons.inj split).2]
      exact List.mem_append_right more List.mem_cons_self
  · cases between with
    | nil => exact ⟨List.append_nil second, (List.cons.inj split).2.symm⟩
    | cons c more =>
      refine absurd ?_ absentToo
      rw [(List.cons.inj split).2]
      exact List.mem_append_right more List.mem_cons_self

/-- A place of many rows tells its row and its column. -/
theorem slot_injective {many : Bool} {row other : Nat} {first second : String}
    (same : slot many row (.text first) = slot many other (.text second)) :
    first = second ∧ (many = true → row = other) := by
  unfold slot at same
  cases many with
  | false => exact ⟨same, nofun⟩
  | true =>
    have chars := congrArg String.toList same
    simp only [if_true, Value.display_text, String.toList_append, List.append_assoc,
      Nat.toString_eq_ofList_toDigits, String.toList_ofList] at chars
    obtain ⟨names, rows⟩ := eq_of_append_mark Nat.underscore_not_in_toDigits
      Nat.underscore_not_in_toDigits chars
    refine ⟨String.toList_inj.mp names, fun _ => ?_⟩
    rw [← Nat.ofDigitChars_ten_toDigits (n := row), rows, Nat.ofDigitChars_ten_toDigits]

theorem tuples_functional {rows : Rows} {texts : List String} (single : rows.many = true ∨ rows.more = [])
    (quoted : rows.columns.mapM quote = .ok texts) : Functional (entries (tuples rows)) := by
  rw [entries_tuples]
  intro name first second member memberToo
  obtain ⟨⟨record, row⟩, among, here⟩ := List.mem_flatMap.mp member
  obtain ⟨⟨other, rowToo⟩, amongToo, hereToo⟩ := List.mem_flatMap.mp memberToo
  obtain ⟨column, given, same⟩ := List.mem_map.mp here
  obtain ⟨columnToo, givenToo, sameToo⟩ := List.mem_map.mp hereToo
  obtain ⟨_, named⟩ := forall_of_mapM quoted given
  obtain ⟨_, namedToo⟩ := forall_of_mapM quoted givenToo
  obtain ⟨s, rfl⟩ := text_of_quoted named
  obtain ⟨t, rfl⟩ := text_of_quoted namedToo
  cases same
  obtain ⟨slots, rfl⟩ := Prod.mk.inj sameToo
  obtain ⟨rfl, rowsSame⟩ := slot_injective slots
  have numbered := List.mem_zipIdx_iff_getElem?.mp among
  have numberedToo := List.mem_zipIdx_iff_getElem?.mp amongToo
  have sameRow : rowToo = row := by
    rcases single with many | one
    · exact rowsSame many
    · have bound := (List.getElem?_eq_some_iff.mp numbered).1
      have boundToo := (List.getElem?_eq_some_iff.mp numberedToo).1
      simp only [Rows.all, one, List.length_singleton] at bound boundToo
      omega
  rw [sameRow] at numberedToo
  obtain rfl := Option.some.inj (numberedToo.symm.trans numbered)
  rfl

theorem conflict_subset {rows : Rows} (single : rows.many = true ∨ rows.more = [])
    (table primaryKey : Value) : entries (conflict rows table primaryKey) ⊆ entries (tuples rows) := by
  rw [entries_conflict]
  intro entry member
  split at member
  · exact absurd member List.not_mem_nil
  · next one =>
    obtain ⟨column, assigned, rfl⟩ := List.mem_map.mp member
    rw [entries_tuples, Rows.all, single.resolve_left one]
    simp only [List.zipIdx_cons, List.zipIdx_nil, List.flatMap_cons, List.flatMap_nil, List.append_nil]
    refine List.mem_map.mpr ⟨column, (List.mem_filter.mp assigned).1, ?_⟩
    simp [slot, one, valueIn]

theorem entries_inserted (rows : Rows) (table primaryKey : Value) (upsert : Bool) :
    entries (inserted rows table primaryKey upsert) =
      entries (tuples rows) ++ if upsert then entries (conflict rows table primaryKey) else [] := by
  cases upsert <;> simp [inserted, entries_names]

theorem inserted_subset {rows : Rows} (single : rows.many = true ∨ rows.more = []) (table primaryKey : Value)
    (upsert : Bool) : entries (inserted rows table primaryKey upsert) ⊆ entries (tuples rows) := by
  rw [entries_inserted]
  refine List.append_subset.mpr ⟨fun _ => id, ?_⟩
  cases upsert with
  | true => exact conflict_subset single table primaryKey
  | false => nofun

theorem insert_written {table input primaryKey : Value} {upsert : Bool} {query : Query}
    (written : insert table input primaryKey upsert = .ok query) :
    Written query (Command.insert table input primaryKey upsert).layout := by
  obtain ⟨rows, read, written⟩ := bind_eq_ok written
  obtain ⟨tableSql, quoted, written⟩ := bind_eq_ok written
  obtain ⟨columnSql, columns, written⟩ := bind_eq_ok written
  have given := readRows_eq_ok read
  obtain rfl := eq_quotedText quoted
  have names := quotedTexts columns
  have opening : ("INSERT INTO " ++ quotedText table ++ " (" ++ ",".intercalate columnSql ++ ") VALUES " ++
      ",".intercalate (rows.all.zipIdx.map fun (_, row) => rowTuple rows row)).toList =
        chars ([.words "INSERT INTO ", .quoted table, .words " ("] ++
          separated "," (rows.columns.map fun column => [.quoted column]) ++
          .words ") VALUES " :: tuples rows) := by
    simp [names, tuples, chars_separated, chars_tuple, Piece.chars, Function.comp_def]
  have layout : (Command.insert table input primaryKey upsert).layout =
      inserted rows table primaryKey upsert := by simp [Command.layout, given]
  rw [layout]
  cases upsert with
  | true =>
    obtain ⟨clause, conflicting, written⟩ := bind_eq_ok written
    cases written
    rw [names] at conflicting
    constructor
    · rw [String.toList_append, opening, conflictClause_written conflicting, ← chars_append]
      rfl
    · have single := (given_of_ofValue given).single
      have held : ∀ entry ∈ entries (conflict rows table primaryKey),
          (Entries.ofList (entries (tuples rows))).get? entry.1 = some entry.2 := fun entry member =>
        Entries.get?_ofList _ (conflict_subset single table primaryKey member) fun other among =>
          tuples_functional single columns _ _ _ among (conflict_subset single table primaryKey member)
      rw [entries_inserted, if_pos rfl, Entries.ofList_append_of_held _ _ held, entries_tuples]
  | false =>
    cases written
    constructor
    · rw [String.toList_append, opening]
      simp [inserted]
    · rw [entries_inserted, if_neg Bool.false_ne_true, List.append_nil, entries_tuples]

theorem Command.written {command : Command} {query : Query} (written : command.write = .ok query) :
    Written query command.layout := by
  cases command with
  | insert table input primaryKey upsert => exact insert_written written
  | update table params record conjunction allRows => exact update_written written
  | delete table record conjunction allRows => exact delete_written written
  | select table record conjunction => exact select_written written

end SqlGateway.Query
