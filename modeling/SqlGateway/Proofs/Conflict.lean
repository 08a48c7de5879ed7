import SqlGateway.Proofs.Tabulated

/-!
What an upsert adds to an insertion. It is refused for the same input, has the same parameters, and its text
goes on where the text of the insertion ends: every column that is not the key is assigned once, or the key to
itself where there is no other column.
-/

namespace SqlGateway.Query

open Layout

/-- What a conflict assigns to a column: the value of the column in the row that is inserted. A single row has
its place for it, many rows are read under their alias. -/
def assignmentOf (many : Bool) (table : Value) (name : String) : String :=
  if many then
    quotedText table ++ "." ++ quotedText (.text name) ++ " = " ++ newRow ++ "." ++ quotedText (.text name)
  else quotedText (.text name) ++ " = :" ++ name

inductive Updates (table primaryKey : Value) (many : Bool) (names : List String) : String → Prop
  | key {name : String} : names = [name] → primaryKey = .text name → Updates table primaryKey many names
      (" ON DUPLICATE KEY UPDATE " ++ quotedText (.text name) ++ " = " ++ quotedText (.text name))
  | columns {others : List String} : others ≠ [] → others.Sublist names →
      (∀ name, name ∈ others ↔ name ∈ names ∧ primaryKey ≠ .text name) → Updates table primaryKey many names
      ((if many then " AS " ++ newRow else "") ++ " ON DUPLICATE KEY UPDATE " ++
        ",".intercalate (others.map (assignmentOf many table)))

/-- An insertion into the columns named. The places of a single row are named as its columns are. -/
structure Inserts (table : Value) (many : Bool) (names : List String) (query : Query) : Prop where
  text : ∃ values, query.sql = "INSERT INTO " ++ quotedText table ++ " (" ++
      ",".intercalate (names.map fun name => quotedText (.text name)) ++ ") VALUES " ++ values ∧
    (many = false → values = "(" ++ ",".intercalate (names.map (":" ++ ·)) ++ ")")
  keys : many = false → query.params.keys = names

variable {table input primaryKey : Value} {rows : Rows} {names : List String}

def insertion (rows : Rows) (table : Value) : String :=
  "INSERT INTO " ++ quotedText table ++ " (" ++ ",".intercalate (rows.columns.map quotedText) ++ ") VALUES " ++
    ",".intercalate (rows.all.zipIdx.map fun entry => rowTuple rows entry.2)

def insertionParams (rows : Rows) : Params :=
  Entries.ofList (rows.all.zipIdx.flatMap fun entry => rowParams rows entry.2 entry.1)

theorem insert_refused_or_written (table input primaryKey : Value) :
    (∃ failure, ∀ upsert, insert table input primaryKey upsert = .error failure) ∨
      ∃ rows clause, Given input rows ∧ (∀ column ∈ rows.columns, ∃ text, quote column = .ok text) ∧
        conflictClause rows (quotedText table) (rows.columns.zip (rows.columns.map quotedText)) primaryKey =
          .ok clause ∧
        insert table input primaryKey false = .ok ⟨insertion rows table, insertionParams rows⟩ ∧
        insert table input primaryKey true = .ok ⟨insertion rows table ++ clause, insertionParams rows⟩ := by
  cases read : readRows input with
  | error failure => exact .inl ⟨failure, fun upsert => by rw [insert, read]; rfl⟩
  | ok rows =>
    cases quoted : quote table with
    | error failure => exact .inl ⟨failure, fun upsert => by rw [insert, read, quoted]; rfl⟩
    | ok tableSql =>
      cases columns : rows.columns.mapM quote with
      | error failure =>
        refine .inl ⟨failure, fun upsert => ?_⟩
        simp only [insert, read, quoted, columns, Bind.bind, Except.bind]
      | ok columnSql =>
        have given := given_of_ofValue (readRows_eq_ok read)
        obtain ⟨clause, conflicting⟩ :=
          conflictClause_returns given.columns_ne_nil columns tableSql primaryKey
        obtain rfl := eq_quotedText quoted
        obtain rfl := quotedTexts columns
        refine .inr ⟨rows, clause, given, fun _ => forall_of_mapM columns, conflicting, ?_, ?_⟩
        · simp only [insert, read, quoted, columns, Bind.bind, Except.bind, Bool.false_eq_true, if_false,
            Pure.pure, Except.pure, String.append_empty]
          rfl
        · simp only [insert, read, quoted, columns, Bind.bind, Except.bind, if_true, conflicting]
          rfl

theorem inserts_of_given (given : Given input rows) (distinct : names.Nodup)
    (named : rows.columns = names.map .text) :
    Inserts table rows.many names ⟨insertion rows table, insertionParams rows⟩ where
  text := by
    refine ⟨",".intercalate (rows.all.zipIdx.map fun entry => rowTuple rows entry.2), ?_, fun single => ?_⟩
    · -- Its equation lemma is slow to derive over the literals of the text.
      delta insertion
      simp only [named, List.map_map, Function.comp_def]
    · have one : rows.more = [] := given.single.resolve_left (by simp [single])
      simp [Rows.all, one, rowTuple, named, slot, single, Function.comp_def]
  keys single := by
    have one : rows.more = [] := given.single.resolve_left (by simp [single])
    have columns : Entries.keys (rowParams rows 0 rows.first) = names := by
      simp [rowParams, Entries.keys, named, slot, single, Function.comp_def]
    rw [insertionParams, Rows.all, one]
    simp only [List.zipIdx_cons, List.zipIdx_nil, List.flatMap_cons, List.flatMap_nil, List.append_nil]
    rw [Entries.ofList_eq_self _ (columns.symm ▸ distinct), columns]

def others (names : List String) (primaryKey : Value) : List String :=
  names.filter fun name => !(Value.text name == primaryKey)

theorem mem_others {name : String} : name ∈ others names primaryKey ↔ name ∈ names ∧ primaryKey ≠ .text name := by
  rw [others, List.mem_filter, Bool.not_eq_true']
  refine and_congr_right fun _ => ⟨?_, fun differs => ?_⟩
  · rintro differs rfl
    cases differs.symm.trans (beq_text name)
  · exact Bool.eq_false_iff.mpr fun same => differs (eq_text_of_beq same)

theorem eq_key_of_others_eq_nil (distinct : names.Nodup) (filled : names ≠ [])
    (none : others names primaryKey = []) : ∃ name, names = [name] ∧ primaryKey = .text name := by
  have same {name : String} (member : name ∈ names) : primaryKey = .text name := by
    by_contra differs
    have other := mem_others.mpr ⟨member, differs⟩
    rw [none] at other
    cases other
  cases names with
  | nil => exact absurd rfl filled
  | cons name more =>
    have key := same List.mem_cons_self
    cases more with
    | nil => exact ⟨name, rfl, key⟩
    | cons second more =>
      have again := same (List.mem_cons_of_mem _ List.mem_cons_self)
      obtain rfl : name = second := Value.text.inj (key.symm.trans again)
      exact absurd List.mem_cons_self (List.nodup_cons.mp distinct).1

theorem updates_of_written {clause : String} (distinct : names.Nodup) (filled : names ≠ [])
    (named : rows.columns = names.map .text)
    (written : conflictClause rows (quotedText table) (rows.columns.zip (rows.columns.map quotedText))
      primaryKey = .ok clause) : Updates table primaryKey rows.many names clause := by
  have kept : updated rows primaryKey = (others names primaryKey).map .text := by
    rw [updated, named, List.filter_map]
    rfl
  simp only [conflictClause, filter_quoted, kept, List.map_map, List.isEmpty_map, List.isEmpty_iff] at written
  split at written
  · next none =>
    obtain ⟨name, single, rfl⟩ := eq_key_of_others_eq_nil distinct filled none
    obtain ⟨key, quoted, rfl⟩ := map_eq_ok written
    rw [eq_quotedText quoted]
    exact .key single rfl
  · next some =>
    cases written
    have each : (others names primaryKey).map (assignment rows (quotedText table) ∘
        (fun column => (column, quotedText column)) ∘ Value.text) =
          (others names primaryKey).map (assignmentOf rows.many table) := by
      refine List.map_congr_left fun name _ => ?_
      simp only [Function.comp_apply, assignment, assignmentOf, slot, Bool.false_eq_true, if_false,
        Value.display_text]
    rw [each]
    exact .columns some List.filter_sublist fun name => mem_others

/-- An upsert is refused exactly where the insertion alone is refused, with the same failure. Where neither is
refused, the upsert has the parameters of the insertion and its text, and behind it an assignment for each
column but the key, in their order, or of the key to itself if there is no other column. -/
theorem insert_upsert (table input primaryKey : Value)
    (distinct : ∀ many records, Gives input many records → ∀ record ∈ records, Distinct record) :
    (∀ failure, insert table input primaryKey true = .error failure ↔
      insert table input primaryKey false = .error failure) ∧
    ∀ plain, insert table input primaryKey false = .ok plain → ∃ many first more names clause,
      Gives input many (first :: more) ∧ first.keys = names.map .text ∧ names.Nodup ∧
      Inserts table many names plain ∧ Updates table primaryKey many names clause ∧
      insert table input primaryKey true = .ok ⟨plain.sql ++ clause, plain.params⟩ := by
  rcases insert_refused_or_written table input primaryKey with
    ⟨failure, refused⟩ | ⟨rows, clause, given, quoted, conflicting, written, upserted⟩
  · refine ⟨fun other => by rw [refused, refused], fun plain written => ?_⟩
    cases (refused false).symm.trans written
  · refine ⟨fun failure => by rw [written, upserted]; exact ⟨nofun, nofun⟩, fun plain returned => ?_⟩
    cases written.symm.trans returned
    obtain ⟨names, named⟩ := exists_names quoted
    have apart : names.Nodup :=
      nodup_of_distinct (distinct _ _ given.gives rows.first List.mem_cons_self) named.symm
    have filled : names ≠ [] := by
      rintro rfl
      exact given.columns_ne_nil named.symm
    exact ⟨rows.many, rows.first, rows.more, names, clause, given.gives, named.symm, apart,
      inserts_of_given given apart named.symm, updates_of_written apart filled named.symm conflicting, upserted⟩

def spaced : Record := [(.text "id", .int 5), (.text "id ", .int 6)]

theorem spaced_upsert : ∃ plain, insert (.text "t") (.mapping spaced) (.text "id") false = .ok plain ∧
    plain.params.keys = ["id", "id "] ∧
    insert (.text "t") (.mapping spaced) (.text "id") true =
      .ok ⟨plain.sql ++ " ON DUPLICATE KEY UPDATE `id` = :id ", plain.params⟩ := by
  have distinct : ∀ many records, Gives (.mapping spaced) many records → ∀ record ∈ records, Distinct record := by
    intro many records gives
    obtain ⟨-, same⟩ := (Given.one rfl : Given (.mapping spaced) ⟨spaced, [], false⟩).eq_of_gives gives
    rw [← same]
    decide +kernel
  have whole := (insert_upsert (.text "t") (.mapping spaced) (.text "id") distinct).2
  have accepted : (insert (.text "t") (.mapping spaced) (.text "id") false).toOption.isSome = true := by
    decide +kernel
  cases written : insert (.text "t") (.mapping spaced) (.text "id") false with
  | error failure => rw [written] at accepted; cases accepted
  | ok plain =>
    obtain ⟨many, first, more, names, clause, gives, columns, apart, inserts, updates, upserted⟩ :=
      whole plain written
    cases gives
    obtain rfl : names = ["id", "id "] := List.map_injective_iff.mpr (fun _ _ => Value.text.inj) columns.symm
    refine ⟨plain, rfl, inserts.keys rfl, ?_⟩
    cases updates with
    | key single _ => cases single
    | @columns others some sublist member =>
      obtain rfl : others = ["id "] := by
        cases sublist with
        | cons _ rest => exact (List.sublist_singleton.mp rest).resolve_left some
        | cons_cons _ rest => exact absurd rfl ((member "id").mp List.mem_cons_self).2
      exact upserted.trans (congrArg (fun clause => Except.ok (⟨plain.sql ++ clause, plain.params⟩ : Query))
        (by decide +kernel))

end SqlGateway.Query
