import SqlGateway.Proofs.Layout
import SqlGateway.Query.Insert
import SqlGateway.Query.Restricted

/-!
The statements that are written for a caller, and their layouts. Whatever names and values are given,
no place in a layout touches a word character or a colon.
-/

namespace SqlGateway.Query

/-- A statement to write, with what its caller gives. -/
inductive Command
  | insert (table input primaryKey : Value) (upsert : Bool)
  | update (table : Value) (params record : Record) (conjunction : Conjunction) (allRows : Bool)
  | delete (table : Value) (record : Record) (conjunction : Conjunction) (allRows : Bool)
  | select (table : Value) (record : Record) (conjunction : Conjunction)

def Command.write : Command → Except Failure Query
  | .insert table input primaryKey upsert => Query.insert table input primaryKey upsert
  | .update table params record conjunction allRows =>
    Query.update table params record conjunction allRows
  | .delete table record conjunction allRows => Query.delete table record conjunction allRows
  | .select table record conjunction => Query.select table record conjunction

namespace Layout

def assigned (opening : String) (entry : Value × Value) : Layout :=
  [.quoted entry.1, .words " = ", .place (opening ++ entry.1.display) entry.2]

def compared (opening : String) (entry : Value × Value) : Layout :=
  if entry.2.isNull then [.quoted entry.1, .words " IS NULL"] else assigned opening entry

def restricted (opening : String) (record : Record) (conjunction : Conjunction) : Layout :=
  if record.isEmpty then []
  else .words " WHERE " :: separated conjunction.joiner (record.map (compared opening))

def valueIn (record : Record) (column : Value) : Value := (record.get? column).getD .null

def tuple (rows : Rows) (row : Nat) (record : Record) : Layout :=
  .words "(" :: separated "," (rows.columns.map fun column =>
    [.place (slot rows.many row column) (valueIn record column)]) ++ [.words ")"]

def tuples (rows : Rows) : Layout :=
  separated "," (rows.all.zipIdx.map fun (record, row) => tuple rows row record)

def updated (rows : Rows) (primaryKey : Value) : List Value :=
  rows.columns.filter fun column => !(column == primaryKey)

def conflict (rows : Rows) (table primaryKey : Value) : Layout :=
  if (updated rows primaryKey).isEmpty then
    [.words " ON DUPLICATE KEY UPDATE ", .quoted primaryKey, .words " = ", .quoted primaryKey]
  else if rows.many then
    .words " AS `new` ON DUPLICATE KEY UPDATE " :: separated "," ((updated rows primaryKey).map
      fun column => [.quoted table, .words ".", .quoted column, .words " = `new`.", .quoted column])
  else
    .words " ON DUPLICATE KEY UPDATE " :: separated "," ((updated rows primaryKey).map
      fun column => assigned "" (column, valueIn rows.first column))

def inserted (rows : Rows) (table primaryKey : Value) (upsert : Bool) : Layout :=
  [.words "INSERT INTO ", .quoted table, .words " ("] ++
    separated "," (rows.columns.map fun column => [.quoted column]) ++
    .words ") VALUES " :: tuples rows ++ if upsert then conflict rows table primaryKey else []

end Layout

open Layout in
/-- The layout of the statement; of rows that are refused there is none. -/
def Command.layout : Command → Layout
  | .insert table input primaryKey upsert =>
    match Rows.ofValue input with
    | .ok rows => inserted rows table primaryKey upsert
    | .error _ => []
  | .update table params record conjunction _ =>
    [.words "UPDATE ", .quoted table] ++
      .words " SET " :: separated "," (params.map (assigned assignmentOpening)) ++
      restricted restrictionOpening record conjunction
  | .delete table record conjunction _ =>
    [.words "DELETE FROM ", .quoted table] ++ restricted "" record conjunction
  | .select table record conjunction =>
    [.words "SELECT * FROM ", .quoted table] ++ restricted "" record conjunction

namespace Layout

theorem border_comma : Border "," := ⟨by decide, by decide, by decide⟩

theorem border_joiner (conjunction : Conjunction) : Border conjunction.joiner := by
  cases conjunction <;> exact ⟨by decide, by decide, by decide⟩

theorem fits_assigned (opening : String) (entry : Value × Value) : Fits (assigned opening entry) :=
  fits_between ⟨by decide, by decide, by decide⟩ (fits_of_entries_eq_nil rfl : Fits [.quoted entry.1])
    (fits_place _ _)

theorem fits_compared (opening : String) (entry : Value × Value) : Fits (compared opening entry) := by
  unfold compared
  split
  · exact fits_of_entries_eq_nil rfl
  · exact fits_assigned opening entry

theorem fits_restricted {first : Layout} (fits : Fits first) (opening : String) (record : Record)
    (conjunction : Conjunction) : Fits (first ++ restricted opening record conjunction) := by
  unfold restricted
  split
  · rwa [List.append_nil]
  · refine fits_between ⟨by decide, by decide, by decide⟩ fits (fits_separated (border_joiner _) ?_)
    intro part member
    obtain ⟨entry, -, rfl⟩ := List.mem_map.mp member
    exact fits_compared opening entry

theorem fits_tuple (rows : Rows) (row : Nat) (record : Record) : Fits (tuple rows row record) := by
  refine fits_between ⟨by decide, by decide, by decide⟩ (fits_between ⟨by decide, by decide, by decide⟩
    (fits_of_entries_eq_nil rfl : Fits []) (fits_separated border_comma ?_)) (fits_of_entries_eq_nil rfl)
  intro part member
  obtain ⟨column, -, rfl⟩ := List.mem_map.mp member
  exact fits_place _ _

theorem fits_conflict {first : Layout} (fits : Fits first) (rows : Rows) (table primaryKey : Value) :
    Fits (first ++ conflict rows table primaryKey) := by
  unfold conflict
  split
  · exact fits_between ⟨by decide, by decide, by decide⟩ fits (fits_of_entries_eq_nil rfl)
  · split
    · refine fits_between ⟨by decide, by decide, by decide⟩ fits (fits_separated border_comma ?_)
      intro part member
      obtain ⟨column, -, rfl⟩ := List.mem_map.mp member
      exact fits_of_entries_eq_nil rfl
    · refine fits_between ⟨by decide, by decide, by decide⟩ fits (fits_separated border_comma ?_)
      intro part member
      obtain ⟨column, -, rfl⟩ := List.mem_map.mp member
      exact fits_assigned _ _

theorem entries_names (names : List Value) :
    entries (separated "," (names.map fun name => [.quoted name])) = [] := by
  rw [entries_separated, List.flatMap_map]
  exact List.flatMap_eq_nil_iff.mpr fun _ _ => rfl

theorem fits_inserted (rows : Rows) (table primaryKey : Value) (upsert : Bool) :
    Fits (inserted rows table primaryKey upsert) := by
  have fits : Fits ([.words "INSERT INTO ", .quoted table, .words " ("] ++
      separated "," (rows.columns.map fun column => [.quoted column]) ++
      .words ") VALUES " :: tuples rows) := by
    refine fits_between ⟨by decide, by decide, by decide⟩ (fits_of_entries_eq_nil ?_)
      (fits_separated border_comma ?_)
    · rw [entries_append, entries_names]
      rfl
    · intro part member
      obtain ⟨⟨record, row⟩, -, rfl⟩ := List.mem_map.mp member
      exact fits_tuple rows row record
  unfold inserted
  cases upsert with
  | true => exact fits_conflict fits rows table primaryKey
  | false => rwa [if_neg Bool.false_ne_true, List.append_nil]

end Layout

open Layout

theorem Command.fits (command : Command) : Fits command.layout := by
  cases command with
  | insert table input primaryKey upsert =>
    rw [Command.layout]
    split
    · exact fits_inserted _ table primaryKey upsert
    · exact fits_of_entries_eq_nil rfl
  | update table params record conjunction allRows =>
    refine fits_restricted ?_ restrictionOpening record conjunction
    refine fits_between ⟨by decide, by decide, by decide⟩ (fits_of_entries_eq_nil rfl)
      (fits_separated border_comma ?_)
    intro part member
    obtain ⟨entry, -, rfl⟩ := List.mem_map.mp member
    exact fits_assigned assignmentOpening entry
  | delete table record conjunction allRows | select table record conjunction =>
    exact fits_restricted (fits_of_entries_eq_nil rfl) "" record conjunction

end SqlGateway.Query
