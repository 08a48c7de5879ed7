import SqlGateway.Proofs.Delivery

/-!
What a caller supplies. Where each key is given once and no value is a collection, every value has a place
in the layout of its statement that belongs to its column, and the statement delivers the values exactly if each
column that has one is named by word characters.
-/

namespace SqlGateway.Query

open Statement Layout

def Distinct (record : Record) : Prop :=
  record.keys.Pairwise fun first second => (first == second) = false

instance (record : Record) : Decidable (Distinct record) :=
  inferInstanceAs (Decidable (record.keys.Pairwise _))

namespace Command

def records : Command → List Record
  | .insert _ input _ _ =>
    match Rows.ofValue input with
    | .ok rows => rows.all
    | .error _ => []
  | .update _ params record _ _ => [params, record]
  | .delete _ record _ _ | .select _ record _ => [record]

/-- What a caller can give: each key once in a record, and no collection as a value. -/
structure Regular (command : Command) : Prop where
  distinct : ∀ record ∈ command.records, Distinct record
  single : ∀ record ∈ command.records, ∀ entry ∈ record, entry.2.single = true

def supplied : Command → Record
  | .insert _ input _ _ =>
    match Rows.ofValue input with
    | .ok rows => rows.all.flatten
    | .error _ => []
  | .update _ params record _ _ => params ++ valued record
  | .delete _ record _ _ | .select _ record _ => valued record

end Command

namespace Layout

/-- The value stands in the layout for the column: it is assigned to it or compared with it, or it has the place
in a row that the column has among the names. -/
inductive Located (layout : Layout) (column : Value) (slot : String) (value : Value) : Prop
  | assigned : [.quoted column, .words " = ", .place slot value] <:+: layout → Located layout column slot value
  | inRow {columns : List Value} {rows : Layout} {row : Params} {i : Nat} :
      .words " (" :: separated "," (columns.map fun name => [.quoted name]) ++ .words ") VALUES " :: rows <:+: layout →
      .words "(" :: separated "," (row.map fun entry => [.place entry.1 entry.2]) ++ [.words ")"] <:+: rows →
      columns[i]? = some column → row[i]? = some (slot, value) → Located layout column slot value

theorem infix_separated {separator : String} {parts : List Layout} {part : Layout} (member : part ∈ parts) :
    part <:+: separated separator parts := by
  induction parts with
  | nil => exact absurd member List.not_mem_nil
  | cons first more ih =>
    cases more with
    | nil =>
      obtain rfl := List.mem_singleton.mp member
      simp [separated]
    | cons second more =>
      rw [separated_cons_cons]
      rcases List.mem_cons.mp member with rfl | later
      · exact (List.prefix_append _ _).isInfix
      · exact (ih later).trans ((List.suffix_cons _ _).trans (List.suffix_append _ _)).isInfix

theorem located_restricted {opening : String} {record : Record} {conjunction : Conjunction} {layout : Layout}
    (within : restricted opening record conjunction <:+: layout) :
    ∀ entry ∈ valued record, Located layout entry.1 (opening ++ entry.1.display) entry.2 := by
  intro entry member
  obtain ⟨among, given⟩ := List.mem_filter.mp member
  rw [Bool.not_eq_true'] at given
  have filled : record.isEmpty = false := List.isEmpty_eq_false_iff.mpr (List.ne_nil_of_mem among)
  have here : assigned opening entry ∈ record.map (compared opening) :=
    List.mem_map.mpr ⟨entry, among, by rw [compared, given, if_neg Bool.false_ne_true]⟩
  have inside : assigned opening entry <:+: restricted opening record conjunction := by
    rw [restricted, filled, if_neg Bool.false_ne_true]
    exact (infix_separated here).trans (List.suffix_cons _ _).isInfix
  exact .assigned (inside.trans within)

end Layout

theorem beq_text (s : String) : (Value.text s == Value.text s) = true := by
  change Value.same (.text s) (.text s) = true
  simp [Value.same]

theorem eq_text_of_beq_text {s : String} {value : Value} (same : (value == Value.text s) = true) :
    value = .text s := by
  change Value.same value (.text s) = true at same
  cases value with
  | text t =>
    simp only [Value.same, beq_iff_eq] at same
    rw [same]
  | _ => simp [Value.same, Value.sameAmount, Value.amount?, Value.members?] at same

theorem Distinct.get? {record : Record} (distinct : Distinct record) {s : String} {value : Value}
    (member : (.text s, value) ∈ record) : record.get? (.text s) = some value := by
  induction record with
  | nil => exact absurd member List.not_mem_nil
  | cons entry more ih =>
    obtain ⟨differs, later⟩ := List.pairwise_cons.mp distinct
    rcases List.mem_cons.mp member with rfl | member
    · rw [Entries.get?, if_pos (beq_text s)]
    · have other : (entry.1 == Value.text s) = false := differs _ (List.mem_map_of_mem member)
      rw [Entries.get?, other, if_neg Bool.false_ne_true]
      exact ih later member

theorem distinct_valued {record : Record} (distinct : Distinct record) : Distinct (valued record) :=
  List.Pairwise.sublist (List.filter_sublist.map Prod.fst) distinct

theorem functional_travelling {record : Record} (distinct : Distinct record)
    (quoted : ∀ column ∈ record.keys, ∃ text, quote column = .ok text) (opening : String) :
    Functional (travelling opening record) := by
  intro name first second member memberToo
  obtain ⟨⟨column, value⟩, among, same⟩ := List.mem_map.mp member
  obtain ⟨⟨other, held⟩, amongToo, sameToo⟩ := List.mem_map.mp memberToo
  obtain ⟨_, named⟩ := quoted column (List.mem_map_of_mem among)
  obtain ⟨_, namedToo⟩ := quoted other (List.mem_map_of_mem amongToo)
  obtain ⟨s, rfl⟩ := text_of_quoted named
  obtain ⟨t, rfl⟩ := text_of_quoted namedToo
  cases same
  obtain ⟨names, rfl⟩ := Prod.mk.inj sameToo
  have chars := congrArg String.toList names
  simp only [Value.display_text, String.toList_append] at chars
  obtain rfl := String.toList_inj.mp (List.append_cancel_left chars)
  exact Option.some.inj ((distinct.get? among).symm.trans (distinct.get? amongToo))

theorem functional_append {first second : Params} (functional : Functional first)
    (functionalToo : Functional second) (apart : ∀ name ∈ second.keys, name ∉ first.keys) :
    Functional (first ++ second) := by
  intro name value other member memberToo
  rcases List.mem_append.mp member with early | late
  · rcases List.mem_append.mp memberToo with earlyToo | lateToo
    · exact functional name value other early earlyToo
    · exact absurd (List.mem_map_of_mem early) (apart name (List.mem_map_of_mem lateToo))
  · rcases List.mem_append.mp memberToo with earlyToo | lateToo
    · exact absurd (List.mem_map_of_mem earlyToo) (apart name (List.mem_map_of_mem late))
    · exact functionalToo name value other late lateToo

theorem differing_eq_none {first : Record} {row : Nat} {more : List Record}
    (none : Rows.differing? first row more = none) : ∀ record ∈ more, Rows.sameColumns first record = true := by
  induction more generalizing row with
  | nil => nofun
  | cons record later ih =>
    unfold Rows.differing? at none
    split at none
    · next same => exact List.forall_mem_cons.mpr ⟨same, ih none⟩
    · cases none

theorem Given.sameColumns {input : Value} {rows : Rows} (given : Given input rows) {record : Record}
    (member : record ∈ rows.all) {column : Value} (among : column ∈ record.keys)
    (texts : ∀ name ∈ rows.columns, ∃ s, name = .text s) : column ∈ rows.columns := by
  rcases List.mem_cons.mp member with rfl | later
  · exact among
  · cases given with
    | one filled => exact absurd later List.not_mem_nil
    | many source filled same =>
      have both := differing_eq_none same record later
      rw [Rows.sameColumns, Bool.and_eq_true, List.all_eq_true, List.all_eq_true] at both
      obtain ⟨name, held, equal⟩ := List.contains_iff_exists_mem_beq.mp (both.2 column among)
      obtain ⟨s, rfl⟩ := texts name held
      rwa [eq_text_of_beq_text equal]

theorem located_inserted {input : Value} {rows : Rows} (given : Given input rows)
    (distinct : ∀ record ∈ rows.all, Distinct record) (texts : ∀ name ∈ rows.columns, ∃ s, name = .text s)
    {record : Record} (member : record ∈ rows.all) {column value : Value} (among : (column, value) ∈ record)
    (table primaryKey : Value) (upsert : Bool) :
    ∃ slot, Located (inserted rows table primaryKey upsert) column slot value := by
  have held := given.sameColumns member (List.mem_map_of_mem among) texts
  obtain ⟨s, rfl⟩ := texts column held
  obtain ⟨row, numbered⟩ := List.mem_iff_getElem?.mp member
  obtain ⟨i, turn⟩ := List.mem_iff_getElem?.mp held
  have here : tuple rows row record <:+: tuples rows :=
    infix_separated (List.mem_map.mpr ⟨(record, row), List.mem_zipIdx_iff_getElem?.mpr numbered, rfl⟩)
  have names : .words " (" :: separated "," (rows.columns.map fun name => [.quoted name]) ++
      .words ") VALUES " :: (tuples rows ++ if upsert then conflict rows table primaryKey else []) <:+:
        inserted rows table primaryKey upsert :=
    ⟨[.words "INSERT INTO ", .quoted table], [], by simp [inserted]⟩
  have own : .words "(" :: separated "," ((rowParams rows row record).map fun entry => [.place entry.1 entry.2]) ++
      [.words ")"] <:+: tuples rows ++ if upsert then conflict rows table primaryKey else [] := by
    rw [rowParams, List.map_map]
    exact here.trans (List.prefix_append _ _).isInfix
  have bound : (rowParams rows row record)[i]? = some (slot rows.many row (.text s), value) := by
    rw [rowParams, List.getElem?_map, turn, Option.map_some, (distinct record member).get? among, Option.getD_some]
  exact ⟨_, .inRow names own turn bound⟩

theorem single_of_get? {record : Record} (single : ∀ entry ∈ record, entry.2.single = true) (column : Value) :
    ((record.get? column).getD .null).single = true := by
  induction record with
  | nil => rfl
  | cons entry more ih =>
    obtain ⟨first, later⟩ := List.forall_mem_cons.mp single
    rw [Entries.get?]
    split
    · exact first
    · exact ih later

variable {command : Command} {query : Query}

namespace Command

theorem Regular.functional (regular : command.Regular) (written : command.write = .ok query) :
    Functional (entries command.layout) := by
  have quoted := Command.quoted written
  obtain ⟨distinct, -⟩ := regular
  cases command with
  | insert table input primaryKey upsert =>
    obtain ⟨rows, read, written⟩ := bind_eq_ok written
    obtain ⟨tableSql, -, written⟩ := bind_eq_ok written
    obtain ⟨columnSql, columns, written⟩ := bind_eq_ok written
    have held := readRows_eq_ok read
    have single := (given_of_ofValue held).single
    have within := inserted_subset single table primaryKey upsert
    simp only [Command.layout, held]
    intro name first second member memberToo
    exact tuples_functional single columns name first second (within member) (within memberToo)
  | update table params record conjunction allRows =>
    obtain ⟨assigning, restricting⟩ := List.forall_mem_append.mp quoted
    have assigned := distinct params List.mem_cons_self
    have restricted := distinct record (List.mem_cons_of_mem _ List.mem_cons_self)
    rw [entries_updated]
    exact functional_append (functional_travelling assigned assigning _)
      (functional_travelling (distinct_valued restricted) (quoted_valued restricting) _)
      (travelling_apart params (valued record))
  | delete table record conjunction allRows | select table record conjunction =>
    have restricted := distinct record List.mem_cons_self
    simp only [entries_deleted, entries_selected]
    exact functional_travelling (distinct_valued restricted) (quoted_valued quoted) _

theorem Regular.single_entries (regular : command.Regular) :
    ∀ entry ∈ entries command.layout, entry.2.single = true := by
  obtain ⟨-, single⟩ := regular
  have travels {record : Record} (all : ∀ entry ∈ record, entry.2.single = true) (opening : String) :
      ∀ entry ∈ travelling opening record, entry.2.single = true :=
    List.forall_mem_map.mpr all
  have keeps {record : Record} (all : ∀ entry ∈ record, entry.2.single = true) :
      ∀ entry ∈ valued record, entry.2.single = true := fun entry member =>
    all entry (List.mem_filter.mp member).1
  cases command with
  | insert table input primaryKey upsert =>
    simp only [Command.layout, Command.records] at single ⊢
    split
    · next rows read =>
      rw [read] at single
      have within := inserted_subset (given_of_ofValue read).single table primaryKey upsert
      intro entry member
      have among := within member
      rw [entries_tuples] at among
      obtain ⟨⟨record, row⟩, numbered, here⟩ := List.mem_flatMap.mp among
      obtain ⟨column, -, rfl⟩ := List.mem_map.mp here
      exact single_of_get? (single record (List.fst_mem_of_mem_zipIdx numbered)) column
    · intro entry member
      cases member
  | update table params record conjunction allRows =>
    have assigned := single params List.mem_cons_self
    have restricted := single record (List.mem_cons_of_mem _ List.mem_cons_self)
    rw [entries_updated]
    exact List.forall_mem_append.mpr ⟨travels assigned _, travels (keeps restricted) _⟩
  | delete table record conjunction allRows | select table record conjunction =>
    simp only [entries_deleted, entries_selected]
    exact travels (keeps (single record List.mem_cons_self)) _

/-- Every value that is supplied has a place for its column. -/
theorem Regular.located (regular : command.Regular) (written : command.write = .ok query) :
    ∀ entry ∈ command.supplied, ∃ slot, Located command.layout entry.1 slot entry.2 := by
  have quoted := Command.quoted written
  obtain ⟨distinct, -⟩ := regular
  cases command with
  | insert table input primaryKey upsert =>
    obtain ⟨rows, read, -⟩ := bind_eq_ok written
    have held := readRows_eq_ok read
    simp only [Command.columns, Command.records, held] at quoted distinct
    simp only [Command.supplied, Command.layout, held]
    intro entry member
    obtain ⟨record, among, here⟩ := List.mem_flatten.mp member
    have texts : ∀ name ∈ rows.columns, ∃ s, name = .text s := fun name given =>
      (quoted name given).elim fun _ => text_of_quoted
    exact located_inserted (given_of_ofValue held) distinct texts among here table primaryKey upsert
  | update table params record conjunction allRows =>
    refine List.forall_mem_append.mpr ⟨fun entry member => ?_, fun entry member => ?_⟩
    · have inside : assigned assignmentOpening entry <:+:
          separated "," (params.map (assigned assignmentOpening)) := infix_separated (List.mem_map_of_mem member)
      refine ⟨_, .assigned (inside.trans ?_)⟩
      exact ((List.suffix_cons _ _).trans (List.suffix_append _ _)).isInfix.trans (List.prefix_append _ _).isInfix
    · exact ⟨_, located_restricted (List.suffix_append _ _).isInfix entry member⟩
  | delete table record conjunction allRows | select table record conjunction =>
    exact fun entry member => ⟨_, located_restricted (List.suffix_append _ _).isInfix entry member⟩

theorem Regular.delivers_iff [Dialect] (regular : command.Regular) (written : command.write = .ok query) :
    Delivers query command.layout ↔ ∀ column ∈ command.bearing, IsName column := by
  rw [delivers_iff_spelled (Command.written written) command.fits (regular.functional written)
    regular.single_entries]
  exact Command.spelled_iff written

end Command

end SqlGateway.Query
