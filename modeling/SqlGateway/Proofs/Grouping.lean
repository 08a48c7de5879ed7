import Mathlib.Data.List.Induction
import SqlGateway.Proofs.Results
import SqlGateway.Session.Catalog

/-!
The catalog that is built from the rows of a listing. It holds the tables that the rows name in the order
in which they first do so, for each table the columns that its rows name in the same order, and for each
column the type that its last row gives. A name is found in it exactly if some row lists it.
-/

namespace SqlGateway

namespace Entries

variable {κ α : Type}

/-- Each key once, in the order of its first place, with the value of a function at it. -/
def tabulate [BEq κ] (keys : List κ) (f : κ → α) : Entries κ α :=
  keys.eraseDups.map fun key => (key, f key)

variable [BEq κ]

theorem keys_tabulate (names : List κ) (f : κ → α) : keys (tabulate names f) = names.eraseDups := by
  rw [keys, tabulate, List.map_map]
  exact List.map_id _

variable [LawfulBEq κ]

theorem nodup_eraseDups (names : List κ) : names.eraseDups.Nodup := by
  have paired : keys (names.map fun name => (name, ())) = names := by
    rw [keys, List.map_map]
    exact List.map_id _
  have distinct := nodup_keys_ofList (names.map fun name => (name, ()))
  rwa [keys_ofList, paired] at distinct

theorem eraseDups_snoc_of_mem {names : List κ} {name : κ} (known : name ∈ names) :
    (names ++ [name]).eraseDups = names.eraseDups := by
  rw [List.eraseDups_append, List.removeAll]
  simp [known]

theorem eraseDups_snoc_of_not_mem {names : List κ} {name : κ} (new : name ∉ names) :
    (names ++ [name]).eraseDups = names.eraseDups ++ [name] := by
  rw [List.eraseDups_append, List.removeAll]
  simp [new, List.eraseDups_cons]

theorem get?_tabulate (names : List κ) (f : κ → α) (name : κ) [Decidable (name ∈ names)] :
    get? name (tabulate names f) = if name ∈ names then some (f name) else none := by
  split
  · next known =>
    refine get?_of_mem _ (keys_tabulate names f ▸ nodup_eraseDups names) ?_
    exact List.mem_map_of_mem (List.mem_eraseDups.mpr known)
  · next new =>
    refine get?_of_not_mem _ ?_
    rwa [keys_tabulate, List.mem_eraseDups]

theorem put_map (names : List κ) (distinct : names.Nodup) (f g : κ → α) (name : κ)
    (agree : ∀ other, other ≠ name → g other = f other) (known : name ∈ names) :
    put name (g name) (names.map fun key => (key, f key)) = names.map fun key => (key, g key) := by
  induction names with
  | nil => exact absurd known List.not_mem_nil
  | cons head tail ih =>
    obtain ⟨apart, distinctTail⟩ := List.nodup_cons.mp distinct
    rw [List.map_cons, List.map_cons, put]
    by_cases same : head = name
    · subst same
      have others : tail.map (fun key => (key, f key)) = tail.map fun key => (key, g key) := by
        refine List.map_congr_left fun key member => ?_
        rw [agree key (ne_of_mem_of_not_mem member apart)]
      rw [if_pos (beq_self_eq_true head), others]
    · have later := (List.mem_cons.mp known).resolve_left (Ne.symm same)
      rw [if_neg (by simpa using same), ih distinctTail later, agree head same]

theorem put_tabulate (names : List κ) (f g : κ → α) (name : κ)
    (agree : ∀ other, other ≠ name → g other = f other) :
    put name (g name) (tabulate names f) = tabulate (names ++ [name]) g := by
  by_cases known : name ∈ names
  · rw [tabulate, tabulate, eraseDups_snoc_of_mem known]
    exact put_map _ (nodup_eraseDups names) f g name agree (List.mem_eraseDups.mpr known)
  · have absent : name ∉ keys (tabulate names f) := by rwa [keys_tabulate, List.mem_eraseDups]
    rw [put_of_not_mem _ name (g name) absent, tabulate, tabulate, eraseDups_snoc_of_not_mem known,
      List.map_append, List.map_singleton]
    refine congrArg (· ++ [(name, g name)]) (List.map_congr_left fun key member => ?_)
    rw [agree key (ne_of_mem_of_not_mem (List.mem_eraseDups.mp member) known)]

end Entries

namespace Catalog

def cell (name : String) (row : Row) : String := ((Entries.get? name row).map Value.display).getD ""

def tableName (row : Row) : String := cell "table_name" row

def columnName (row : Row) : String := cell "column_name" row

def typeName (row : Row) : String := cell "data_type" row

/-- The type that the last of the rows gives to a column. -/
def lastType (rows : List Row) (column : String) : String :=
  ((rows.filter (columnName · == column)).getLast?.map typeName).getD ""

def columnsIn (rows : List Row) : Entries String String :=
  Entries.tabulate (rows.map columnName) (lastType rows)

def rowsOf (table : String) (rows : List Row) : List Row := rows.filter (tableName · == table)

/-- The catalog of the rows. -/
def grouping (rows : List Row) : Catalog :=
  Entries.tabulate (rows.map tableName) fun table => columnsIn (rowsOf table rows)

theorem listing_eq_ok {row : Row} {table column type : String}
    (listed : listing row = .ok (table, column, type)) :
    tableName row = table ∧ columnName row = column ∧ typeName row = type := by
  have said {name : String} {value : Value} (found : Session.column name row = .ok value) :
      cell name row = value.display := by
    unfold Session.column at found
    split at found
    · next present =>
      cases found
      rw [cell, present]
      rfl
    · cases found
  unfold listing at listed
  obtain ⟨typeValue, typed, listed⟩ := bind_eq_ok listed
  obtain ⟨tableValue, tabled, listed⟩ := bind_eq_ok listed
  obtain ⟨columnValue, named, listed⟩ := bind_eq_ok listed
  cases listed
  exact ⟨said tabled, said named, said typed⟩

theorem lastType_snoc (rows : List Row) (row : Row) (column : String) :
    lastType (rows ++ [row]) column =
      if columnName row = column then typeName row else lastType rows column := by
  rw [lastType, List.filter_append]
  by_cases same : columnName row = column
  · simp [same]
  · simp [same, lastType]

theorem columnsIn_snoc (rows : List Row) (row : Row) :
    Entries.put (columnName row) (typeName row) (columnsIn rows) = columnsIn (rows ++ [row]) := by
  have here : lastType (rows ++ [row]) (columnName row) = typeName row := by
    rw [lastType_snoc, if_pos rfl]
  rw [columnsIn, columnsIn, ← here, List.map_append, List.map_singleton]
  refine Entries.put_tabulate _ _ _ _ fun other ne => ?_
  rw [lastType_snoc, if_neg (Ne.symm ne)]

theorem rowsOf_snoc_self (rows : List Row) (row : Row) :
    rowsOf (tableName row) (rows ++ [row]) = rowsOf (tableName row) rows ++ [row] := by
  simp [rowsOf, List.filter_append]

theorem rowsOf_snoc_of_ne (rows : List Row) {row : Row} {table : String} (ne : table ≠ tableName row) :
    rowsOf table (rows ++ [row]) = rowsOf table rows := by
  simp [rowsOf, List.filter_append, Ne.symm ne]

theorem columnsOf_grouping (rows : List Row) (table : String) :
    columnsOf (grouping rows) table = columnsIn (rowsOf table rows) := by
  rw [columnsOf, grouping, Entries.get?_tabulate]
  split
  · rfl
  · next new =>
    have none : rowsOf table rows = [] := by
      rw [rowsOf, List.filter_eq_nil_iff]
      intro row member same
      exact new (eq_of_beq same ▸ List.mem_map_of_mem member)
    rw [none]
    rfl

theorem grouping_snoc (rows : List Row) (row : Row) :
    add (grouping rows) (tableName row) (columnName row) (typeName row) = grouping (rows ++ [row]) := by
  have here : columnsIn (rowsOf (tableName row) (rows ++ [row])) =
      Entries.put (columnName row) (typeName row) (columnsIn (rowsOf (tableName row) rows)) := by
    rw [rowsOf_snoc_self, columnsIn_snoc]
  rw [add, columnsOf_grouping, ← here, grouping, grouping, List.map_append, List.map_singleton]
  refine Entries.put_tabulate _ _ (fun table => columnsIn (rowsOf table (rows ++ [row]))) _ fun other ne => ?_
  rw [rowsOf_snoc_of_ne rows ne]

def entryOf (row : Row) : String × String × String := (tableName row, columnName row, typeName row)

theorem foldl_add (rows : List Row) :
    (rows.map entryOf).foldl (fun catalog (table, column, type) => add catalog table column type) [] =
      grouping rows := by
  induction rows using List.reverseRecOn with
  | nil => rfl
  | append_singleton rows row ih =>
    rw [List.map_append, List.foldl_append, ih]
    exact grouping_snoc rows row

/-- A catalog that is built from rows is their grouping. -/
theorem ofRows_eq_grouping {rows : List Row} {catalog : Catalog} (built : ofRows rows = .ok catalog) :
    catalog = grouping rows := by
  unfold ofRows at built
  obtain ⟨listed, all, built⟩ := bind_eq_ok built
  have entries : listed.map id = rows.map entryOf := by
    refine map_of_mapM ?_ all
    intro row ⟨table, column, type⟩ read
    obtain ⟨rfl, rfl, rfl⟩ := listing_eq_ok read
    rfl
  rw [List.map_id] at entries
  rw [entries, foldl_add] at built
  exact (Except.ok.inj built).symm

def spelled? : Value → Option String
  | .text name => some (Text.trim name)
  | _ => none

def ListedBy (table column : Value) (row : Row) : Prop :=
  spelled? table = some (tableName row) ∧ (column = .null ∨ spelled? column = some (columnName row))

/-- Some row lists the table, and the column too unless that is null. -/
def Listed (rows : List Row) (table column : Value) : Prop := ∃ row ∈ rows, ListedBy table column row

/-- The value has ends that can be trimmed. -/
def HasEnds : Value → Prop
  | .text _ | .bytes _ => True
  | _ => False

/-- What the look-up of a table fails with where the value is no name at all. -/
inductive Unnamed (table : Value) : Failure → Prop
  | untrimmable : table.truthy = true → ¬ HasEnds table → Unnamed table (.untrimmable table)
  | unhashable : table.truthy = false → table.unhashable?.isSome = true → Unnamed table (.unhashable table)

/-- What the look-up of a table and a column fails with. The column is only read of a table that is listed. -/
inductive Refused (rows : List Row) (table column : Value) : Failure → Prop
  | table {failure : Failure} : Unnamed table failure → Refused rows table column failure
  | column : Listed rows table .null → column ≠ .null → ¬ HasEnds column →
      Refused rows table column (.untrimmable column)

section

variable {α : Type} {entries : Entries String α} {value : Value} {found : Option α} {failure : Failure}

theorem found_of_named (named : named? entries value = .ok found) :
    found = (spelled? value).bind (Entries.get? · entries) := by
  cases value with
  | text | bytes =>
    cases named
    rfl
  | _ => cases named

theorem named_eq_error_iff : named? entries value = .error failure ↔
    ¬ HasEnds value ∧ failure = .untrimmable value := by
  cases value with
  | text | bytes => exact iff_of_false nofun fun refused => refused.1 trivial
  | _ => exact ⟨fun failed => ⟨id, (Except.error.inj failed).symm⟩, fun refused => congrArg _ refused.2.symm⟩

/-- The only text that is not true has no ends. -/
theorem found_of_under (untrue : value.truthy = false) (under : under? entries value = .ok found) :
    found = (spelled? value).bind (Entries.get? · entries) := by
  unfold under? at under
  split at under
  · next name =>
    cases under
    have empty : name = "" := by simpa [Value.truthy] using untrue
    subst empty
    rfl
  · next unread =>
    split at under
    · cases under
    · cases under
      cases value with
      | text name => exact absurd rfl (unread name)
      | _ => rfl

theorem under_eq_error_iff : under? entries value = .error failure ↔
    value.unhashable?.isSome = true ∧ failure = .unhashable value := by
  unfold under?
  split
  · exact iff_of_false nofun fun refused => Bool.false_ne_true refused.1
  · split
    · next changes =>
      exact ⟨fun failed => ⟨changes, (Except.error.inj failed).symm⟩, fun refused => congrArg _ refused.2.symm⟩
    · next keyed => exact iff_of_false nofun fun refused => keyed refused.1

end

section

variable {catalog : Catalog} {table : Value}

theorem found_of_table {found : Option (Entries String String)} (looked : catalog.table? table = .ok found) :
    found = (spelled? table).bind (Entries.get? · catalog) := by
  unfold table? at looked
  split at looked
  · exact found_of_named looked
  · next untrue => exact found_of_under (Bool.not_eq_true _ ▸ untrue) looked

theorem table_eq_error_iff {failure : Failure} : catalog.table? table = .error failure ↔ Unnamed table failure := by
  unfold table?
  split
  · next true =>
    rw [named_eq_error_iff]
    constructor
    · rintro ⟨endless, rfl⟩
      exact .untrimmable true endless
    · rintro (⟨-, endless⟩ | ⟨untrue, -⟩)
      · exact ⟨endless, rfl⟩
      · cases untrue.symm.trans true
  · next untrue =>
    rw [under_eq_error_iff]
    constructor
    · rintro ⟨changes, rfl⟩
      exact .unhashable (Bool.not_eq_true _ ▸ untrue) changes
    · rintro (⟨true, -⟩ | ⟨-, changes⟩)
      · exact absurd true untrue
      · exact ⟨changes, rfl⟩

end

theorem isSome_columnsIn (rows : List Row) (name : String) :
    (Entries.get? name (columnsIn rows)).isSome = true ↔ ∃ row ∈ rows, columnName row = name := by
  rw [columnsIn, Entries.get?_tabulate, ← List.mem_map]
  split
  · next known => exact iff_of_true rfl known
  · next new => exact iff_of_false Bool.false_ne_true new

theorem listed_text {rows : List Row} {table : Value} {name : String} (spelled : spelled? table = some name)
    (given : String) :
    Listed rows table (.text given) ↔ ∃ row ∈ rowsOf name rows, columnName row = Text.trim given := by
  constructor
  · intro ⟨row, among, named, columned⟩
    have called := columned.resolve_left nofun
    cases spelled.symm.trans named
    exact ⟨row, List.mem_filter.mpr ⟨among, beq_self_eq_true _⟩, (Option.some.inj called).symm⟩
  · intro ⟨row, own, called⟩
    obtain ⟨among, named⟩ := List.mem_filter.mp own
    refine ⟨row, among, ?_, .inr (congrArg some called.symm)⟩
    rw [spelled, eq_of_beq named]

theorem table_of_spelled {catalog : Catalog} {table : Value} {name : String} (spelled : spelled? table = some name) :
    catalog.table? table = .ok (Entries.get? name catalog) := by
  cases table with
  | text given =>
    cases looked : catalog.table? (.text given) with
    | ok found =>
      cases spelled
      rw [found_of_table looked]
      rfl
    | error failure =>
      cases table_eq_error_iff.mp looked with
      | untrimmable _ endless => exact absurd trivial endless
      | unhashable _ changes => cases changes
  | _ => cases spelled

theorem get?_grouping (rows : List Row) (name : String) : Entries.get? name (grouping rows) =
    if name ∈ rows.map tableName then some (columnsIn (rowsOf name rows)) else none := by
  rw [grouping, Entries.get?_tabulate]

theorem listed_null {rows : List Row} {table : Value} :
    Listed rows table .null ↔ ∃ name, spelled? table = some name ∧ name ∈ rows.map tableName := by
  constructor
  · rintro ⟨row, among, named, -⟩
    exact ⟨tableName row, named, List.mem_map_of_mem among⟩
  · rintro ⟨name, spelled, known⟩
    obtain ⟨row, among, named⟩ := List.mem_map.mp known
    exact ⟨row, among, spelled.trans (congrArg some named.symm), .inl rfl⟩

theorem table_grouping {rows : List Row} {table : Value} {found : Option (Entries String String)}
    (looked : (grouping rows).table? table = .ok found) :
    found = none ∧ ¬ Listed rows table .null ∨
      ∃ name, spelled? table = some name ∧ found = some (columnsIn (rowsOf name rows)) ∧ Listed rows table .null := by
  rw [found_of_table looked]
  cases spelled : spelled? table with
  | none =>
    refine .inl ⟨rfl, fun listed => ?_⟩
    obtain ⟨name, named, -⟩ := listed_null.mp listed
    cases spelled.symm.trans named
  | some name =>
    rw [Option.bind_some, get?_grouping]
    by_cases known : name ∈ rows.map tableName
    · rw [if_pos known]
      exact .inr ⟨name, rfl, rfl, listed_null.mpr ⟨name, spelled, known⟩⟩
    · rw [if_neg known]
      refine .inl ⟨rfl, fun listed => ?_⟩
      obtain ⟨other, named, there⟩ := listed_null.mp listed
      cases spelled.symm.trans named
      exact known there

theorem listed_of_contains {rows : List Row} {table column : Value} {answer : Bool}
    (returned : (grouping rows).contains table column = .ok answer) : answer = true ↔ Listed rows table column := by
  obtain ⟨found, looked, returned⟩ := bind_eq_ok returned
  rcases table_grouping looked with ⟨rfl, unlisted⟩ | ⟨name, spelled, rfl, listed⟩
  · cases returned
    refine iff_of_false Bool.false_ne_true ?_
    rintro ⟨row, among, named, -⟩
    exact unlisted ⟨row, among, named, .inl rfl⟩
  · cases column with
    | null =>
      cases returned
      exact iff_of_true rfl listed
    | text given =>
      cases returned
      rw [listed_text spelled]
      exact isSome_columnsIn _ _
    | bytes octets =>
      cases returned
      refine iff_of_false Bool.false_ne_true ?_
      rintro ⟨row, -, -, absent | named⟩
      · cases absent
      · cases named
    | _ => cases returned

theorem not_refused_of_listed {rows : List Row} {table column : Value} (listed : Listed rows table column)
    (failure : Failure) : ¬ Refused rows table column failure := by
  obtain ⟨row, -, named, columned⟩ := listed
  rintro (⟨⟨-, endless⟩ | ⟨-, changes⟩⟩ | ⟨-, given, endless⟩)
  · cases table with
    | text => exact endless trivial
    | _ => cases named
  · cases table with
    | text => cases changes
    | _ => cases named
  · cases column with
    | text => exact endless trivial
    | null => exact given rfl
    | _ => cases columned.resolve_left nofun

theorem contains_eq_error_iff {rows : List Row} {table column : Value} {failure : Failure} :
    (grouping rows).contains table column = .error failure ↔ Refused rows table column failure := by
  constructor
  · intro failed
    rcases bind_eq_error failed with unnamed | ⟨found, looked, failed⟩
    · exact .table (table_eq_error_iff.mp unnamed)
    rcases table_grouping looked with ⟨rfl, -⟩ | ⟨name, -, rfl, listed⟩
    · cases failed
    · cases column with
      | null | text | bytes => cases failed
      | _ =>
        cases failed
        exact .column listed nofun id
  · rintro (unnamed | ⟨listed, given, endless⟩)
    · rw [contains, table_eq_error_iff.mpr unnamed]
      rfl
    · obtain ⟨name, spelled, -⟩ := listed_null.mp listed
      have looked : (grouping rows).table? table = .ok _ := table_of_spelled spelled
      rcases table_grouping looked with ⟨-, unlisted⟩ | ⟨_, -, found, -⟩
      · exact absurd listed unlisted
      · rw [contains, looked, found]
        cases column with
        | null => exact absurd rfl given
        | text | bytes => exact absurd trivial endless
        | _ => rfl

/-- A name is found in the catalog of the rows exactly if some row lists it. -/
theorem contains_grouping (rows : List Row) (table column : Value) :
    (grouping rows).contains table column = .ok true ↔ Listed rows table column := by
  constructor
  · intro returned
    exact (listed_of_contains returned).mp rfl
  · intro listed
    cases returned : (grouping rows).contains table column with
    | ok answer => rw [(listed_of_contains returned).mpr listed]
    | error failure => exact absurd (contains_eq_error_iff.mp returned) (not_refused_of_listed listed failure)

/-- What the look-up of a table and a column comes to: whether a row lists them, if they can be looked up. -/
inductive Answers (rows : List Row) (table column : Value) : Except Failure Bool → Prop
  | answered {answer : Bool} : (∀ failure, ¬ Refused rows table column failure) →
      (answer = true ↔ Listed rows table column) → Answers rows table column (.ok answer)
  | refused {failure : Failure} : Refused rows table column failure → Answers rows table column (.error failure)

/-- What is required of the rows: that they list the table and each of the columns. The first that they do
not list is named. -/
inductive Requires (rows : List Row) (table : Value) (columns : List Value) : Except Failure Unit → Prop
  | noTable : Answers rows table .null (.ok false) →
      Requires rows table columns (.error (.invalidTable table .named))
  | unnamedTable {failure : Failure} : Refused rows table .null failure → Requires rows table columns (.error failure)
  | noColumn (before : List Value) (column : Value) (later : List Value) : Listed rows table .null →
      columns = before ++ column :: later → (∀ earlier ∈ before, Listed rows table earlier) →
      Answers rows table column (.ok false) → Requires rows table columns (.error (.invalidColumn table column none))
  | unnamedColumn (before : List Value) (column : Value) (later : List Value) {failure : Failure} :
      Listed rows table .null → columns = before ++ column :: later → (∀ earlier ∈ before, Listed rows table earlier) →
      Refused rows table column failure → Requires rows table columns (.error failure)
  | allListed : Listed rows table .null → (∀ column ∈ columns, Listed rows table column) →
      Requires rows table columns (.ok ())

theorem answers_grouping (rows : List Row) (table column : Value) :
    Answers rows table column ((grouping rows).contains table column) := by
  cases returned : (grouping rows).contains table column with
  | error failure => exact .refused (contains_eq_error_iff.mp returned)
  | ok answer =>
    refine .answered (fun failure refused => ?_) (listed_of_contains returned)
    cases returned.symm.trans (contains_eq_error_iff.mpr refused)

section

variable {catalog : Catalog} {table column : Value} {missing failure : Failure}

theorem contains_of_check (passed : catalog.check table column missing = .ok ()) :
    catalog.contains table column = .ok true := by
  unfold check at passed
  generalize catalog.contains table column = contained at passed ⊢
  rcases contained with _ | _ | _
  · cases passed
  · cases passed
  · rfl

theorem contains_of_check_error (failed : catalog.check table column missing = .error failure) :
    catalog.contains table column = .error failure ∨
      catalog.contains table column = .ok false ∧ failure = missing := by
  unfold check at failed
  generalize catalog.contains table column = contained at failed ⊢
  rcases contained with _ | _ | _
  · cases failed
    exact .inl rfl
  · cases failed
    exact .inr ⟨rfl, rfl⟩
  · cases failed

theorem contains_of_required {columns : List Value} (passed : catalog.require table columns = .ok ()) :
    catalog.contains table .null = .ok true ∧ ∀ column ∈ columns, catalog.contains table column = .ok true := by
  obtain ⟨_, tabled, rest⟩ := bind_eq_ok passed
  exact ⟨contains_of_check tabled, fun column member => contains_of_check (forall_of_forM rest column member)⟩

end

theorem requires_grouping (rows : List Row) (table : Value) (columns : List Value) :
    Requires rows table columns ((grouping rows).require table columns) := by
  have holds (column : Value) := contains_grouping rows table column
  cases required : (grouping rows).require table columns with
  | ok _ =>
    obtain ⟨tabled, all⟩ := contains_of_required required
    exact .allListed ((holds .null).mp tabled) fun column member => (holds column).mp (all column member)
  | error failure =>
    rcases bind_eq_error required with failed | ⟨_, tabled, failed⟩
    · rcases contains_of_check_error failed with unnamed | ⟨missing, rfl⟩
      · exact .unnamedTable (contains_eq_error_iff.mp unnamed)
      · exact .noTable (missing ▸ answers_grouping rows table .null)
    · have listed := (holds .null).mp (contains_of_check tabled)
      obtain ⟨before, column, later, rfl, passed, failed⟩ := exists_of_forM_error failed
      have earlier (other : Value) (member : other ∈ before) : Listed rows table other :=
        (holds other).mp (contains_of_check (passed other member))
      rcases contains_of_check_error failed with unnamed | ⟨missing, rfl⟩
      · exact .unnamedColumn before column later listed rfl earlier (contains_eq_error_iff.mp unnamed)
      · exact .noColumn before column later listed rfl earlier (missing ▸ answers_grouping rows table column)

def misses (catalog : Catalog) (table : Value) : Bool :=
  match catalog.contains table .null with
  | .ok held => !held
  | .error _ => false

end Catalog

end SqlGateway
