import Mathlib.Data.List.Nodup
import Mathlib.Data.Set.List
import SqlGateway.Proofs.Supplied

/-!
Rows as a table: an insertion writes a tuple for each row and a place for each column in it, and every
place has a name of its own. What is refused is known from the input alone, and a conflict never adds to it.
-/

namespace SqlGateway.Query

inductive Gives : Value → Bool → List Record → Prop
  | one (record : Record) : Gives (.mapping record) false [record]
  | list (records : List Record) : Gives (.list (records.map .mapping)) true records
  | tuple (records : List Record) : Gives (.tuple (records.map .mapping)) true records

def SameKeys (first second : Record) : Prop :=
  (∀ column ∈ first.keys, ∃ other ∈ second.keys, (column == other) = true) ∧
    ∀ column ∈ second.keys, ∃ other ∈ first.keys, (column == other) = true

inductive Uneven : List Record → Prop
  | empty : Uneven []
  | columnless {more : List Record} : Uneven ([] :: more)
  | differs {first record : Record} {more : List Record} :
      record ∈ more → ¬ SameKeys first record → Uneven (first :: more)

/-- A text that is not blank and in which no mark stands. -/
def Nameable (name : Value) : Prop := ∃ s, name = .text s ∧ Text.trim s ≠ "" ∧ mark ∉ s.toList

inductive Malformed (table input : Value) : Prop
  | shapeless : (∀ many records, ¬ Gives input many records) → Malformed table input
  | uneven {many : Bool} {records : List Record} :
      Gives input many records → Uneven records → Malformed table input
  | table : ¬ Nameable table → Malformed table input
  | column {many : Bool} {records : List Record} {record : Record} {column : Value} :
      Gives input many records → record ∈ records → column ∈ record.keys → ¬ Nameable column →
      Malformed table input

theorem sameColumns_iff (first second : Record) :
    Rows.sameColumns first second = true ↔ SameKeys first second := by
  rw [Rows.sameColumns, Bool.and_eq_true, List.all_eq_true, List.all_eq_true]
  simp only [List.contains_iff_exists_mem_beq]
  rfl

theorem quoted_iff_nameable (name : Value) : (∃ text, quote name = .ok text) ↔ Nameable name := by
  have named (s : String) : (∃ text, quoteName? s = some text) ↔ Text.trim s ≠ "" ∧ mark ∉ s.toList := by
    have kept : mark ∈ (Text.trim s).toList ↔ mark ∈ s.toList :=
      ⟨Text.mem_of_mem_trim, fun member => Text.mem_trim member rfl⟩
    rw [← kept]
    simp only [quoteName?]
    split
    · next refused =>
      rw [Bool.or_eq_true, String.isEmpty_iff, List.contains_iff_mem] at refused
      constructor
      · rintro ⟨text, ⟨⟩⟩
      · rintro ⟨filled, absent⟩
        exact (refused.elim filled absent).elim
    · next allowed =>
      rw [Bool.or_eq_true, String.isEmpty_iff, List.contains_iff_mem, not_or] at allowed
      exact ⟨fun _ => allowed, fun _ => ⟨_, rfl⟩⟩
  simp only [quote_eq_ok_iff, quotable_eq_some_iff]
  constructor
  · rintro ⟨text, s, rfl, quoted⟩
    exact ⟨s, rfl, (named s).mp ⟨text, quoted⟩⟩
  · rintro ⟨s, rfl, allowed⟩
    obtain ⟨text, quoted⟩ := (named s).mpr allowed
    exact ⟨text, s, rfl, quoted⟩

theorem mapM_mapping (records : List Record) :
    (records.map Value.mapping).mapM Rows.record? = some records := by
  induction records with
  | nil => rfl
  | cons record more ih => rw [List.map_cons, List.mapM_cons, ih]; rfl

theorem Given.eq_of_gives {input : Value} {rows : Rows} (given : Given input rows) {many : Bool}
    {records : List Record} (gives : Gives input many records) : rows.many = many ∧ rows.all = records := by
  have injective := List.map_injective_iff.mpr fun _ _ => Value.mapping.inj
  cases gives with
  | one record => cases given with
    | one filled => exact ⟨rfl, rfl⟩
    | many source filled same => exact source.elim nofun nofun
  | list records | tuple records => cases given with
    | many source filled same =>
      simp only [Value.list.injEq, Value.tuple.injEq, reduceCtorEq, or_false, false_or] at source
      exact ⟨rfl, injective source.symm⟩

theorem Given.gives {input : Value} {rows : Rows} (given : Given input rows) :
    Gives input rows.many rows.all := by
  cases given with
  | one filled => exact .one _
  | many source filled same =>
    rcases source with rfl | rfl
    · exact .list _
    · exact .tuple _

theorem exists_of_differing {first : Record} {row other : Nat} {more : List Record}
    (differing : Rows.differing? first row more = some other) : ∃ record ∈ more, ¬ SameKeys first record := by
  induction more generalizing row with
  | nil => cases differing
  | cons record later ih =>
    unfold Rows.differing? at differing
    split at differing
    · obtain ⟨found, member, differs⟩ := ih differing
      exact ⟨found, List.mem_cons_of_mem _ member, differs⟩
    · next differs => exact ⟨record, List.mem_cons_self, mt (sameColumns_iff first record).mpr differs⟩

theorem malformed_of_items {table input : Value} {items : List Value} {problem : InputProblem}
    (gives : ∀ records : List Record, items = records.map .mapping → Gives input true records)
    (given : ∀ many records, Gives input many records → items = records.map .mapping)
    (refused : Rows.ofItems items = .error problem) : Malformed table input := by
  unfold Rows.ofItems at refused
  split at refused
  · next none => exact .uneven (gives [] (List.isEmpty_iff.mp none)) .empty
  · split at refused
    · next shapeless =>
      refine .shapeless fun many records found => ?_
      rw [given many records found, mapM_mapping] at shapeless
      cases shapeless
    · next records all =>
      refine .uneven (gives records (mappings_of_mapM all)) ?_
      unfold Rows.ofRecords at refused
      split at refused
      · exact .empty
      · next first more =>
        split at refused
        · next none => exact List.isEmpty_iff.mp none ▸ .columnless
        · split at refused <;> cases refused
          next row differing =>
          obtain ⟨record, member, differs⟩ := exists_of_differing differing
          exact .differs member differs

theorem malformed_of_unread {table input : Value} {problem : InputProblem}
    (refused : Rows.ofValue input = .error problem) : Malformed table input := by
  unfold Rows.ofValue at refused
  split at refused
  · next record =>
    split at refused
    · next none =>
      obtain rfl := List.isEmpty_iff.mp none
      exact .uneven (.one []) .columnless
    · cases refused
  · exact malformed_of_items (fun records same => by subst same; exact .list records)
      (fun many records gives => by cases gives; rfl) refused
  · exact malformed_of_items (fun records same => by subst same; exact .tuple records)
      (fun many records gives => by cases gives; rfl) refused
  · next mapping list tuple =>
    refine .shapeless fun many records gives => ?_
    cases gives with
    | one record => exact mapping record rfl
    | list records => exact list _ rfl
    | tuple records => exact tuple _ rfl

theorem Given.even {input : Value} {rows : Rows} (given : Given input rows) : ¬ Uneven rows.all := by
  cases given with
  | one filled =>
    intro uneven
    cases uneven with
    | columnless => cases filled
    | differs member _ => cases member
  | many source filled same =>
    intro uneven
    cases uneven with
    | columnless => cases filled
    | differs member differs => exact differs ((sameColumns_iff _ _).mp (differing_eq_none same _ member))

theorem wellFormed_of_quoted {table input : Value} {rows : Rows} (given : Given input rows)
    (named : Nameable table) (columns : ∀ column ∈ rows.columns, Nameable column) :
    ¬ Malformed table input := by
  rintro (shapeless | ⟨gives, uneven⟩ | unnamed | ⟨gives, member, among, unnamed⟩)
  · exact shapeless _ _ given.gives
  · obtain ⟨-, rfl⟩ := given.eq_of_gives gives
    exact given.even uneven
  · exact unnamed named
  · obtain ⟨-, rfl⟩ := given.eq_of_gives gives
    have texts : ∀ column ∈ rows.columns, ∃ s, column = .text s := fun column held =>
      (columns column held).imp fun s both => both.1
    exact unnamed (columns _ (given.sameColumns member among texts))

theorem conflictClause_returns {rows : Rows} {texts : List String} (filled : rows.columns ≠ [])
    (quoted : rows.columns.mapM quote = .ok texts) (table : String) (primaryKey : Value) :
    ∃ clause, conflictClause rows table (rows.columns.zip texts) primaryKey = .ok clause := by
  simp only [conflictClause]
  split
  · next none =>
    rw [quotedTexts quoted] at none
    obtain ⟨first, more, split⟩ := List.exists_cons_of_ne_nil filled
    obtain ⟨text, named⟩ := forall_of_mapM quoted (split ▸ List.mem_cons_self : first ∈ rows.columns)
    obtain ⟨s, rfl⟩ := text_of_quoted named
    have same : (Value.text s == primaryKey) = true := by
      simpa [split] using (List.filter_eq_nil_iff.mp (List.isEmpty_iff.mp none))
          (.text s, quotedText (.text s)) (by simp [split])
    rw [eq_text_of_beq same, named]
    exact ⟨_, rfl⟩
  · exact ⟨_, rfl⟩

theorem fails_quote (name : Value) : FailsWith (·.kind = .invalidParameters) (quote name) := by
  unfold quote
  split
  · exact fails_ok _
  · exact fails_error rfl

theorem fails_readRows (input : Value) : FailsWith (·.kind = .invalidParameters) (readRows input) := by
  unfold readRows
  cases Rows.ofValue input with
  | ok rows => exact fails_ok rows
  | error problem => exact fails_error rfl

theorem fails_conflictClause (rows : Rows) (table : String) (columns : List (Value × String))
    (primaryKey : Value) :
    FailsWith (·.kind = .invalidParameters) (conflictClause rows table columns primaryKey) := by
  unfold conflictClause
  dsimp only
  split
  · exact (fails_quote primaryKey).map _
  · exact fails_ok _

theorem fails_insert (table input primaryKey : Value) (upsert : Bool) :
    FailsWith (·.kind = .invalidParameters) (insert table input primaryKey upsert) := by
  refine (fails_readRows input).bind fun rows => (fails_quote table).bind fun tableSql => ?_
  refine (fails_mapM fun name _ => fails_quote name).bind fun columnSql => ?_
  cases upsert with
  | true => exact (fails_conflictClause _ _ _ _).bind fun clause => fails_ok _
  | false => exact fails_ok _

theorem insert_returns_iff (table input primaryKey : Value) (upsert : Bool) :
    (∃ query, insert table input primaryKey upsert = .ok query) ↔ ¬ Malformed table input := by
  constructor
  · rintro ⟨query, written⟩
    obtain ⟨rows, read, written⟩ := bind_eq_ok written
    obtain ⟨tableSql, quoted, written⟩ := bind_eq_ok written
    obtain ⟨columnSql, columns, -⟩ := bind_eq_ok written
    exact wellFormed_of_quoted (given_of_ofValue (readRows_eq_ok read))
      ((quoted_iff_nameable table).mp ⟨tableSql, quoted⟩)
      fun column among => (quoted_iff_nameable column).mp (forall_of_mapM columns among)
  · intro wellFormed
    cases read : Rows.ofValue input with
    | error problem => exact absurd (malformed_of_unread read) wellFormed
    | ok rows =>
      have given := given_of_ofValue read
      obtain ⟨tableSql, quoted⟩ := (quoted_iff_nameable table).mpr
        (by_contra fun unnamed => wellFormed (.table unnamed))
      obtain ⟨columnSql, columns⟩ : ∃ texts, rows.columns.mapM quote = .ok texts := by
        refine mapM_returns fun column among => (quoted_iff_nameable column).mpr ?_
        exact by_contra fun unnamed =>
          wellFormed (.column given.gives List.mem_cons_self among unnamed)
      obtain ⟨clause, conflicting⟩ :=
        conflictClause_returns given.columns_ne_nil columns tableSql primaryKey
      have taken : readRows input = .ok rows := by rw [readRows, read]; rfl
      refine bind_returns taken (bind_returns quoted (bind_returns columns ?_))
      cases upsert with
      | true => exact bind_returns conflicting ⟨_, rfl⟩
      | false => exact ⟨_, rfl⟩

theorem exists_names {columns : List Value} (quoted : ∀ column ∈ columns, ∃ text, quote column = .ok text) :
    ∃ names : List String, names.map .text = columns := by
  change columns ∈ Set.range (List.map Value.text)
  rw [Set.range_list_map]
  intro column among
  obtain ⟨_, text⟩ := quoted column among
  obtain ⟨s, rfl⟩ := text_of_quoted text
  exact ⟨s, rfl⟩

def numbered (row : Nat) (name : String) : String := name ++ "_" ++ toString row

def places (names : List String) (rows : Nat) : List String :=
  (List.range rows).flatMap fun row => names.map (numbered row)

def tupleText (names : List String) (row : Nat) : String :=
  "(" ++ ",".intercalate (names.map fun name => ":" ++ numbered row name) ++ ")"

inductive Concludes : Bool → String → Prop
  | nothing : Concludes false ""
  | assigns (assigned : String) : Concludes true (" ON DUPLICATE KEY UPDATE " ++ assigned)
  | aliased (assigned : String) : Concludes true (" AS " ++ newRow ++ " ON DUPLICATE KEY UPDATE " ++ assigned)

/-- Records as a table, in the columns named. -/
structure Tabulates (table : Value) (upsert : Bool) (names : List String) (records : List Record)
    (query : Query) : Prop where
  text : ∃ clause, Concludes upsert clause ∧ query.sql = "INSERT INTO " ++ quotedText table ++ " (" ++
    ",".intercalate (names.map fun name => quotedText (.text name)) ++ ") VALUES " ++
    ",".intercalate ((List.range records.length).map (tupleText names)) ++ clause
  distinct : (places names records.length).Nodup
  keys : query.params.keys = places names records.length
  count : query.params.length = records.length * names.length
  /-- Each record has a value in each column, and the place of the column stands for it. -/
  bound : ∀ row record, records[row]? = some record → ∀ name ∈ names,
    ∃ value, record.get? (.text name) = some value ∧ query.params.get? (numbered row name) = some value

theorem numbered_injective {row other : Nat} {first second : String}
    (same : numbered row first = numbered other second) : first = second ∧ row = other := by
  have slots : slot true row (.text first) = slot true other (.text second) := by
    simpa [slot, numbered] using same
  obtain ⟨names, rows⟩ := slot_injective slots
  exact ⟨names, rows rfl⟩

/-- No two places have one name, also where names of columns end in numbers. -/
theorem nodup_places {names : List String} (distinct : names.Nodup) (rows : Nat) :
    (places names rows).Nodup := by
  rw [places, List.nodup_flatMap]
  constructor
  · exact fun row _ => distinct.map fun _ _ same => (numbered_injective same).1
  · refine List.nodup_range.imp fun {row other} apart => ?_
    refine List.disjoint_left.mpr ?_
    rintro _ here there
    obtain ⟨name, -, rfl⟩ := List.mem_map.mp here
    obtain ⟨_, -, same⟩ := List.mem_map.mp there
    exact apart (numbered_injective same).2.symm

theorem length_places (names : List String) (rows : Nat) :
    (places names rows).length = rows * names.length := by
  simp [places, List.length_flatMap]

theorem nodup_of_distinct {record : Record} {names : List String} (distinct : Distinct record)
    (keys : record.keys = names.map .text) : names.Nodup := by
  rw [Distinct, keys, List.pairwise_map] at distinct
  refine distinct.imp fun {first second} differ same => ?_
  rw [same, beq_text] at differ
  cases differ

theorem places_of_rows {rows : Rows} {names : List String} (many : rows.many = true)
    (columns : rows.columns = names.map .text) :
    Entries.keys (rows.all.zipIdx.flatMap fun entry => rowParams rows entry.2 entry.1) =
      places names rows.all.length := by
  have each (row : Nat) (record : Record) : (rowParams rows row record).keys = names.map (numbered row) := by
    simp [rowParams, Entries.keys, columns, slot, many, numbered, Function.comp_def]
  rw [places, Entries.keys, List.map_flatMap, List.range_eq_range', ← List.zipIdx_map_snd, List.flatMap_map]
  exact congrArg (rows.all.zipIdx.flatMap ·) (funext fun entry => each entry.2 entry.1)

theorem tuples_of_rows {rows : Rows} {names : List String} (many : rows.many = true)
    (columns : rows.columns = names.map .text) :
    rows.all.zipIdx.map (fun entry => rowTuple rows entry.2) =
      (List.range rows.all.length).map (tupleText names) := by
  have each (row : Nat) : rowTuple rows row = tupleText names row := by
    simp [rowTuple, tupleText, columns, slot, many, numbered, Function.comp_def]
  rw [List.range_eq_range', ← List.zipIdx_map_snd, List.map_map]
  exact congrArg (rows.all.zipIdx.map ·) (funext fun entry => each entry.2)

theorem concludes_of_clause {rows : Rows} {table : String} {columns : List (Value × String)}
    {primaryKey : Value} {clause : String} (written : conflictClause rows table columns primaryKey = .ok clause) :
    Concludes true clause := by
  simp only [conflictClause] at written
  split at written
  · obtain ⟨key, -, rfl⟩ := map_eq_ok written
    rw [String.append_assoc, String.append_assoc]
    exact .assigns _
  · cases written
    split
    · exact .aliased _
    · rw [String.empty_append]
      exact .assigns _

theorem Given.value_in {input : Value} {rows : Rows} (given : Given input rows) {record : Record}
    (distinct : Distinct record) (member : record ∈ rows.all) {name : String}
    (column : .text name ∈ rows.columns) : ∃ value, record.get? (.text name) = some value := by
  have among : .text name ∈ record.keys := by
    rcases List.mem_cons.mp member with rfl | later
    · exact column
    · cases given with
      | one filled => exact absurd later List.not_mem_nil
      | many source filled same =>
        have both := (sameColumns_iff _ _).mp (differing_eq_none same record later)
        obtain ⟨other, held, equal⟩ := both.1 _ column
        rwa [eq_text_of_beq equal] at held
  obtain ⟨⟨key, value⟩, held, same⟩ := List.mem_map.mp among
  cases same
  exact ⟨value, distinct.get? held⟩

theorem tabulates_of_written {table input primaryKey : Value} {upsert : Bool} {query : Query}
    {records : List Record} (written : insert table input primaryKey upsert = .ok query)
    (gives : Gives input true records) (distinct : ∀ record ∈ records, Distinct record) :
    ∃ first more names, records = first :: more ∧ first.keys = names.map .text ∧
      Tabulates table upsert names records query := by
  obtain ⟨rows, read, written⟩ := bind_eq_ok written
  obtain ⟨tableSql, quoted, written⟩ := bind_eq_ok written
  obtain ⟨columnSql, columns, written⟩ := bind_eq_ok written
  have given := given_of_ofValue (readRows_eq_ok read)
  obtain ⟨many, rfl⟩ := given.eq_of_gives gives
  obtain rfl := eq_quotedText quoted
  obtain ⟨names, named⟩ := exists_names fun column among => forall_of_mapM columns among
  obtain ⟨clause, concludes, rfl⟩ : ∃ clause, Concludes upsert clause ∧ query =
      ⟨"INSERT INTO " ++ quotedText table ++ " (" ++ ",".intercalate columnSql ++ ") VALUES " ++
        ",".intercalate (rows.all.zipIdx.map fun entry => rowTuple rows entry.2) ++ clause,
      Entries.ofList (rows.all.zipIdx.flatMap fun entry => rowParams rows entry.2 entry.1)⟩ := by
    cases upsert with
    | true =>
      obtain ⟨clause, conflicting, returned⟩ := bind_eq_ok written
      cases returned
      exact ⟨clause, concludes_of_clause conflicting, rfl⟩
    | false =>
      cases written
      exact ⟨"", .nothing, rfl⟩
  have keys := places_of_rows many named.symm
  have apart := nodup_places (nodup_of_distinct (distinct _ List.mem_cons_self) named.symm) rows.all.length
  have held := Entries.ofList_eq_self _ (keys ▸ apart)
  refine ⟨rows.first, rows.more, names, rfl, named.symm, ⟨clause, concludes, ?_⟩, apart, ?_, ?_, ?_⟩
  · rw [tuples_of_rows many named.symm, quotedTexts columns, ← named, List.map_map]
    rfl
  · rw [held, keys]
  · rw [held, ← length_places, ← keys, Entries.keys, List.length_map]
  · intro row record numbered name among
    have column : .text name ∈ rows.columns := named ▸ List.mem_map_of_mem among
    have member := List.mem_of_getElem? numbered
    obtain ⟨value, found⟩ := given.value_in (distinct record member) member column
    refine ⟨value, found, ?_⟩
    rw [held]
    refine Entries.get?_of_mem _ (keys ▸ apart) (List.mem_flatMap.mpr
      ⟨(record, row), List.mem_zipIdx_iff_getElem?.mpr numbered, List.mem_map.mpr ⟨_, column, ?_⟩⟩)
    rw [found, slot, if_pos many]
    rfl

/-- An insertion is refused exactly for malformed input, always as invalid parameters, and many rows that
are not refused stand in the statement as a table. -/
theorem insert_tabulated (table input primaryKey : Value) (upsert : Bool)
    (distinct : ∀ many records, Gives input many records → ∀ record ∈ records, Distinct record) :
    ((∃ failure, insert table input primaryKey upsert = .error failure) ↔ Malformed table input) ∧
    (∀ failure, insert table input primaryKey upsert = .error failure →
      failure.kind = .invalidParameters) ∧
    ∀ query records, insert table input primaryKey upsert = .ok query → Gives input true records →
      ∃ first more names, records = first :: more ∧ first.keys = names.map .text ∧
        Tabulates table upsert names records query := by
  refine ⟨?_, fails_insert table input primaryKey upsert, fun query records written gives =>
    tabulates_of_written written gives (distinct true records gives)⟩
  have returns := insert_returns_iff table input primaryKey upsert
  cases ended : insert table input primaryKey upsert with
  | error failure =>
    rw [ended] at returns
    exact ⟨fun _ => by_contra fun wellFormed => (returns.mpr wellFormed).elim nofun, fun _ => ⟨failure, rfl⟩⟩
  | ok query =>
    rw [ended] at returns
    exact ⟨nofun, fun malformed => absurd malformed (returns.mp ⟨query, rfl⟩)⟩

def crossed : List Record :=
  [[(.text "a", .int 1), (.text "a_1", .int 2)], [(.text "a_1", .int 3), (.text "a", .int 4)]]

theorem crossed_tabulated : ∃ query,
    insert (.text "t") (.list (crossed.map .mapping)) (.text "a") true = .ok query ∧
      query.params.keys = ["a_0", "a_1_0", "a_1", "a_1_1"] ∧ query.params.get? "a_1" = some (.int 4) := by
  have distinct : ∀ many records, Gives (.list (crossed.map .mapping)) many records →
      ∀ record ∈ records, Distinct record := by
    intro many records gives
    obtain ⟨-, same⟩ := (Given.many (.inl rfl) rfl (by decide +kernel)).eq_of_gives gives
    rw [← same]
    decide +kernel
  have accepted : (insert (.text "t") (.list (crossed.map .mapping)) (.text "a") true).toOption.isSome = true := by
    decide +kernel
  cases written : insert (.text "t") (.list (crossed.map .mapping)) (.text "a") true with
  | error failure => rw [written] at accepted; cases accepted
  | ok query =>
    obtain ⟨first, more, names, same, columns, tabulates⟩ :=
      (insert_tabulated (.text "t") _ (.text "a") true distinct).2.2 query crossed written (.list crossed)
    obtain ⟨rfl, rfl⟩ := List.cons.inj same
    obtain rfl : names = ["a", "a_1"] := List.map_injective_iff.mpr (fun _ _ => Value.text.inj) columns.symm
    obtain ⟨value, found, placed⟩ := tabulates.bound 1 _ rfl "a" List.mem_cons_self
    have given := (distinct true crossed (.list crossed) _ (.tail _ (.head _))).get? (.tail _ (.head _))
    cases found.symm.trans given
    exact ⟨query, rfl, tabulates.keys.trans (by decide +kernel), placed⟩

end SqlGateway.Query
