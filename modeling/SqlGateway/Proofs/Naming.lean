import SqlGateway.Proofs.Inserted
import SqlGateway.Proofs.Reading

/-!
What a statement is made of: fixed words, the table, and the columns that were given. If these are runs of
word characters every piece is plain: its words and names hold neither a colon nor a backslash, and its
places are spelled.
-/

namespace SqlGateway.Query

open Text (isWord)

def IsName (value : Value) : Prop := ∃ name, value = .text name ∧ Spelled name

instance : DecidablePred IsName
  | .text name => decidable_of_iff (Spelled name)
      ⟨fun spelled => ⟨name, rfl, spelled⟩, fun ⟨_, same, spelled⟩ => by cases same; exact spelled⟩
  | .null | .bool _ | .int _ | .float _ | .decimal _ | .bytes _ | .list _ | .tuple _ | .set _
  | .frozenSet _ | .mapping _ | .bound _ _ => isFalse nofun

def Command.table : Command → Value
  | .insert table _ _ _ | .update table _ _ _ _ | .delete table _ _ _ | .select table _ _ => table

/-- Every column that is given. All rows to insert have the columns of the first. -/
def Command.columns : Command → List Value
  | .insert _ input _ _ =>
    match Rows.ofValue input with
    | .ok rows => rows.columns
    | .error _ => []
  | .update _ params record _ _ => params.keys ++ record.keys
  | .delete _ record _ _ | .select _ record _ => record.keys

structure Command.Named (command : Command) : Prop where
  table : IsName command.table
  columns : ∀ column ∈ command.columns, IsName column

instance (command : Command) : Decidable command.Named :=
  decidable_of_iff (IsName command.table ∧ ∀ column ∈ command.columns, IsName column)
    ⟨fun both => ⟨both.1, both.2⟩, fun named => ⟨named.table, named.columns⟩⟩

theorem word_of_repr (n : Nat) : ∀ c ∈ (toString n).toList, isWord c = true := by
  intro c member
  rw [Nat.toString_eq_ofList_toDigits, String.toList_ofList] at member
  have digit := Nat.isDigit_of_mem_toDigits (by decide) (by decide) member
  exact Text.word_of_alphanum c (by rw [Char.isAlphanum, digit, Bool.or_true])

namespace IsName

variable {name : Value}

theorem plain_quoted (named : IsName name) : (Piece.quoted name).Plain := by
  obtain ⟨s, rfl, spelled⟩ := named
  have held {c : Char} (other : c ≠ mark) (absent : c ∉ s.toList) :
      c ∉ (Piece.quoted (.text s)).chars := by
    intro member
    rw [Piece.chars, quotedText, quotable?] at member
    cases given : quoteName? s with
    | none =>
      rw [given] at member
      exact List.not_mem_nil member
    | some quoted =>
      rw [given] at member
      rcases mem_quoteName given member with same | inside
      · exact other same
      · exact absent inside
  exact ⟨held (by decide) spelled.ne_colon, held (by decide) spelled.ne_backslash⟩

theorem spelled_after (named : IsName name) {opening : String}
    (word : ∀ c ∈ opening.toList, isWord c = true) : Spelled (opening ++ name.display) := by
  obtain ⟨s, rfl, spelled⟩ := named
  rw [Value.display_text]
  constructor
  · rw [String.toList_append]
    exact List.append_ne_nil_of_right_ne_nil _ spelled.filled
  · rw [String.toList_append]
    exact List.forall_mem_append.mpr ⟨word, spelled.word⟩

theorem spelled_slot (named : IsName name) (many : Bool) (row : Nat) : Spelled (slot many row name) := by
  obtain ⟨s, rfl, spelled⟩ := named
  unfold slot
  split
  · simp only [Value.display_text]
    constructor
    · rw [String.toList_append, String.toList_append, List.append_assoc]
      exact List.append_ne_nil_of_left_ne_nil spelled.filled _
    · rw [String.toList_append, String.toList_append]
      refine List.forall_mem_append.mpr ⟨List.forall_mem_append.mpr ⟨spelled.word, ?_⟩, word_of_repr row⟩
      exact List.all_eq_true.mp rfl
  · exact spelled

end IsName

theorem eq_text_of_beq {s : String} {value : Value} (same : (Value.text s == value) = true) :
    value = .text s := by
  change Value.same (.text s) value = true at same
  cases value with
  | text t =>
    simp only [Value.same, beq_iff_eq] at same
    rw [same]
  | _ => simp [Value.same, Value.sameAmount, Value.amount?] at same

def IsText (value : Value) : Prop := ∃ s, value = .text s

theorem IsName.isText {name : Value} (named : IsName name) : IsText name :=
  named.imp fun _ both => both.1

def wordings : List String :=
  ["INSERT INTO ", " (", ") VALUES ", "(", ")", ",", " ON DUPLICATE KEY UPDATE ", " = ", ".", "UPDATE ",
    " SET ", "DELETE FROM ", "SELECT * FROM ", " WHERE ", " IS NULL", " AND ", " OR "]

def aliasings : List String := [" AS `new` ON DUPLICATE KEY UPDATE ", " = `new`."]

def openings : List String := ["", assignmentOpening, restrictionOpening]

/-- Many rows, of which a conflict updates those that are there. -/
def Command.Aliases : Command → Prop
  | .insert _ input _ upsert => upsert = true ∧ ∃ rows, Rows.ofValue input = .ok rows ∧ rows.many = true
  | _ => False

/-- Where a piece of a statement comes from: words, the table, and the columns that are given. -/
inductive Part (command : Command) : Piece → Prop
  | words {text : String} : text ∈ wordings → Part command (.words text)
  | aliased {text : String} : command.Aliases → text ∈ aliasings → Part command (.words text)
  | table : Part command (.quoted command.table)
  | column {column : Value} : column ∈ command.columns → Part command (.quoted column)
  | assigned {opening : String} {column value : Value} : opening ∈ openings →
      column ∈ command.columns → Part command (.place (opening ++ column.display) value)
  | numbered {many : Bool} {row : Nat} {column value : Value} : column ∈ command.columns →
      Part command (.place (slot many row column) value)

namespace Layout

def Plain (layout : Layout) : Prop := ∀ piece ∈ layout, piece.Plain

def From (command : Command) (layout : Layout) : Prop := ∀ piece ∈ layout, Part command piece

variable {command : Command}

theorem from_nil : From command [] := by
  intro piece member
  cases member

theorem from_append {first second : Layout} :
    From command (first ++ second) ↔ From command first ∧ From command second := List.forall_mem_append

theorem from_cons {piece : Piece} {later : Layout} :
    From command (piece :: later) ↔ Part command piece ∧ From command later := List.forall_mem_cons

theorem from_separated {separator : String} {parts : List Layout} (words : separator ∈ wordings)
    (each : ∀ part ∈ parts, From command part) : From command (separated separator parts) := by
  intro piece member
  rcases mem_separated member with rfl | ⟨part, among, here⟩
  · exact .words words
  · exact each part among piece here

theorem from_assigned {opening : String} {entry : Value × Value} (opens : opening ∈ openings)
    (given : entry.1 ∈ command.columns) : From command (assigned opening entry) :=
  from_cons.mpr ⟨.column given, from_cons.mpr ⟨.words (by decide),
    from_cons.mpr ⟨.assigned opens given, from_nil⟩⟩⟩

theorem from_restricted {opening : String} {record : Record} (opens : opening ∈ openings)
    (given : ∀ column ∈ record.keys, column ∈ command.columns) (conjunction : Conjunction) :
    From command (restricted opening record conjunction) := by
  have joiner : conjunction.joiner ∈ wordings := by
    cases conjunction <;> decide
  unfold restricted
  split
  · exact from_nil
  · refine from_cons.mpr ⟨.words (by decide), from_separated joiner fun part member => ?_⟩
    obtain ⟨entry, among, rfl⟩ := List.mem_map.mp member
    have column := given entry.1 (List.mem_map_of_mem among)
    unfold compared
    split
    · exact from_cons.mpr ⟨.column column, from_cons.mpr ⟨.words (by decide), from_nil⟩⟩
    · exact from_assigned opens column

section

variable {rows : Rows} {primaryKey : Value}

theorem from_tuples (given : ∀ column ∈ rows.columns, column ∈ command.columns) :
    From command (tuples rows) := by
  refine from_separated (by decide) fun part member => ?_
  obtain ⟨⟨record, row⟩, -, rfl⟩ := List.mem_map.mp member
  refine from_append.mpr ⟨from_cons.mpr ⟨.words (by decide), ?_⟩,
    from_cons.mpr ⟨.words (by decide), from_nil⟩⟩
  refine from_separated (by decide) fun place among => ?_
  obtain ⟨column, here, rfl⟩ := List.mem_map.mp among
  exact from_cons.mpr ⟨.numbered (given column here), from_nil⟩

theorem primaryKey_mem (filled : rows.columns ≠ []) (texts : ∀ column ∈ rows.columns, IsText column)
    (none : (updated rows primaryKey).isEmpty = true) : primaryKey ∈ rows.columns := by
  obtain ⟨column, given⟩ := List.exists_mem_of_ne_nil rows.columns filled
  obtain ⟨s, rfl⟩ := texts column given
  have key := List.filter_eq_nil_iff.mp (List.isEmpty_iff.mp none) (.text s) given
  rw [Bool.not_eq_true', Bool.not_eq_false] at key
  rwa [eq_text_of_beq key]

theorem from_conflict (filled : rows.columns ≠ []) (texts : ∀ column ∈ rows.columns, IsText column)
    (given : ∀ column ∈ rows.columns, column ∈ command.columns)
    (aliases : rows.many = true → command.Aliases) :
    From command (conflict rows command.table primaryKey) := by
  unfold conflict
  split
  · next none =>
    have key := given primaryKey (primaryKey_mem filled texts none)
    refine from_cons.mpr ⟨.words (by decide), from_cons.mpr ⟨.column key, ?_⟩⟩
    exact from_cons.mpr ⟨.words (by decide), from_cons.mpr ⟨.column key, from_nil⟩⟩
  · split
    · next many =>
      refine from_cons.mpr ⟨.aliased (aliases many) (by decide), from_separated (by decide) ?_⟩
      intro part member
      obtain ⟨column, assigned, rfl⟩ := List.mem_map.mp member
      have here := given column (List.mem_filter.mp assigned).1
      refine from_cons.mpr ⟨.table, from_cons.mpr ⟨.words (by decide), from_cons.mpr ⟨.column here, ?_⟩⟩⟩
      exact from_cons.mpr ⟨.aliased (aliases many) (by decide), from_cons.mpr ⟨.column here, from_nil⟩⟩
    · refine from_cons.mpr ⟨.words (by decide), from_separated (by decide) fun part member => ?_⟩
      obtain ⟨column, assigned, rfl⟩ := List.mem_map.mp member
      exact from_assigned (by decide) (given column (List.mem_filter.mp assigned).1)

theorem from_inserted (filled : rows.columns ≠ []) (texts : ∀ column ∈ rows.columns, IsText column)
    (given : ∀ column ∈ rows.columns, column ∈ command.columns) {upsert : Bool}
    (aliases : upsert = true → rows.many = true → command.Aliases) :
    From command (inserted rows command.table primaryKey upsert) := by
  have names : From command (separated "," (rows.columns.map fun column => [.quoted column])) := by
    refine from_separated (by decide) fun part member => ?_
    obtain ⟨column, here, rfl⟩ := List.mem_map.mp member
    exact from_cons.mpr ⟨.column (given column here), from_nil⟩
  have opening : From command [.words "INSERT INTO ", .quoted command.table, .words " ("] :=
    from_cons.mpr ⟨.words (by decide), from_cons.mpr ⟨.table,
      from_cons.mpr ⟨.words (by decide), from_nil⟩⟩⟩
  refine from_append.mpr ⟨from_append.mpr ⟨from_append.mpr ⟨opening, names⟩,
    from_cons.mpr ⟨.words (by decide), from_tuples given⟩⟩, ?_⟩
  cases upsert with
  | true => exact from_conflict filled texts given (aliases rfl)
  | false => exact from_nil

end

end Layout

open Layout

theorem Command.from_layout (command : Command) (texts : ∀ column ∈ command.columns, IsText column) :
    From command command.layout := by
  cases command with
  | insert table input primaryKey upsert =>
    rw [Command.layout]
    split
    · next rows read =>
      have columns : (Command.insert table input primaryKey upsert).columns = rows.columns := by
        rw [Command.columns, read]
      rw [columns] at texts
      refine from_inserted (given_of_ofValue read).columns_ne_nil texts ?_ ?_
      · exact fun column => columns ▸ id
      · exact fun upserts many => ⟨upserts, rows, read, many⟩
    · exact from_nil
  | update table params record conjunction allRows =>
    refine from_append.mpr ⟨from_append.mpr ⟨?_, ?_⟩, from_restricted (by decide) ?_ conjunction⟩
    · exact from_cons.mpr ⟨.words (by decide), from_cons.mpr ⟨.table, from_nil⟩⟩
    · refine from_cons.mpr ⟨.words (by decide), from_separated (by decide) fun part member => ?_⟩
      obtain ⟨entry, among, rfl⟩ := List.mem_map.mp member
      exact from_assigned (by decide) (List.mem_append_left _ (List.mem_map_of_mem among))
    · exact fun column => List.mem_append_right params.keys
  | delete table record conjunction allRows | select table record conjunction =>
    refine from_append.mpr ⟨?_, from_restricted (by decide) (fun _ => id) conjunction⟩
    exact from_cons.mpr ⟨.words (by decide), from_cons.mpr ⟨.table, from_nil⟩⟩

theorem Command.Named.plain {command : Command} (named : command.Named) : Plain command.layout := by
  have wordingsPlain : ∀ text ∈ wordings ++ aliasings, ':' ∉ text.toList ∧ '\\' ∉ text.toList := by
    decide
  have openingsWord : ∀ opening ∈ openings, opening.toList.all isWord = true := by decide
  intro piece member
  cases command.from_layout (fun column given => (named.columns column given).isText) piece member with
  | words known => exact wordingsPlain _ (List.mem_append_left aliasings known)
  | aliased _ known => exact wordingsPlain _ (List.mem_append_right wordings known)
  | table => exact named.table.plain_quoted
  | column given => exact (named.columns _ given).plain_quoted
  | assigned opens given =>
    exact (named.columns _ given).spelled_after (List.all_eq_true.mp (openingsWord _ opens))
  | @numbered many row _ _ given => exact (named.columns _ given).spelled_slot many row

end SqlGateway.Query
