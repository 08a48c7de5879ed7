import SqlGateway.Proofs.Binding
import SqlGateway.Proofs.Naming

/-!
Delivery of the values that a caller gives. A statement that was written delivers every value to the
place of its column exactly if each column that has a value is named by word characters.
-/

namespace SqlGateway

def Value.single : Value → Bool
  | .bound _ value => value.collection?.isNone
  | value => value.collection?.isNone

theorem Bound.infer_of_single {value : Value} (single : value.single = true) :
    ∃ bound, Bound.infer value = .ok bound := by
  unfold Value.single at single
  cases value with
  | bound wire held =>
    rw [Option.isNone_iff_eq_none] at single
    exact ⟨_, by rw [Bound.infer, Bound.checked, single]⟩
  | null | bool flag | int n => exact ⟨_, rfl⟩
  | float x | decimal d | text s | bytes octets => exact ⟨_, rfl⟩
  | list items | tuple items | set members | frozenSet members | mapping entries => cases single

namespace Query

open Statement Layout
open Text (isWord)

namespace Command

def bearing : Command → List Value
  | .insert _ input _ _ =>
    match Rows.ofValue input with
    | .ok rows => rows.columns
    | .error _ => []
  | .update _ params record _ _ => params.keys ++ (valued record).keys
  | .delete _ record _ _ | .select _ record _ => (valued record).keys

end Command

/-- The placeholder that is read at the place has the name of its value, and the value is bound to it as
the type that is inferred. -/
structure Place.Served [Dialect] (sent : Sent) (place : Place) : Prop where
  found : place.Found
  bound : ∃ bound, Bound.infer place.value = .ok bound ∧ ⟨place.slot, some bound⟩ ∈ sent.params

/-- The query can be bound, and what is sent serves every place. -/
def Delivers [Dialect] (query : Query) (layout : Layout) : Prop :=
  ∃ statement, Statement.forQuery query.sql query.params = .ok statement ∧
    statement.sent.sql = sentText query.sql ∧ Everywhere (Place.Served statement.sent) [] layout []

variable {query : Query} {layout : Layout}

namespace Written

theorem holds (written : Written query layout) (functional : Functional (entries layout)) {name : String}
    {value : Value} (member : (name, value) ∈ entries layout) : query.params.get? name = some value := by
  rw [written.params]
  exact Entries.get?_ofList _ member fun other among => functional name other value among member

theorem bound_mem [Dialect] (written : Written query layout) (functional : Functional (entries layout))
    {bounds : Entries String Bound} (bound : boundEach query.params = .ok bounds)
    (placed : ∀ name ∈ query.params.keys, name ∈ Statement.places query.sql) {name : String} {value : Value}
    (member : (name, value) ∈ entries layout) : ∃ bound, Bound.infer value = .ok bound ∧
      ⟨name, some bound⟩ ∈ (Statement.sent { text := query.sql, bound := bounds }).params := by
  obtain ⟨keys, every⟩ := boundEach_ok bound
  have given : name ∈ query.params.keys := by
    rw [written.keys, List.mem_eraseDups]
    exact List.mem_map_of_mem member
  obtain ⟨⟨_, held⟩, among, rfl⟩ := List.mem_map.mp (keys ▸ given : name ∈ bounds.keys)
  obtain ⟨other, parameter, inferred⟩ := every _ among
  have same := (Entries.get?_of_mem _ written.distinct parameter).symm.trans (written.holds functional member)
  obtain rfl := Option.some.inj same
  have looked : bounds.get? _ = some held := Entries.get?_of_mem bounds (keys ▸ written.distinct) among
  rw [sent_of_named rfl]
  refine ⟨held, inferred, List.mem_map.mpr ⟨_, List.mem_eraseDups.mpr (placed _ given), ?_⟩⟩
  exact congrArg (Parameter.mk _) looked

end Written

/-- Where no place stands for two values, a statement delivers exactly if its places are spelled. -/
theorem delivers_iff_spelled [Dialect] (written : Written query layout) (fits : Fits layout)
    (functional : Functional (entries layout))
    (single : ∀ entry ∈ entries layout, entry.2.single = true) :
    Delivers query layout ↔ ∀ name ∈ (entries layout).keys, Spelled name := by
  constructor
  · rintro ⟨statement, -, -, served⟩ name member
    obtain ⟨⟨_, value⟩, among, rfl⟩ := List.mem_map.mp member
    obtain ⟨early, late, here, -⟩ := Layout.exists_place served among
    exact here.found.spelled
  · intro spelled
    have spelledParams : ∀ name ∈ query.params.keys, Spelled name := by
      rw [written.keys]
      exact fun name member => spelled name (List.mem_eraseDups.mp member)
    have fit := written.fit fits spelledParams
    have bindings := forQuery_of_fit written.distinct fit
    cases each : boundEach query.params with
    | error failure =>
      obtain ⟨name, value, given, -, cause, refused⟩ := boundEach_error each
      have among : (name, value) ∈ entries layout :=
        Entries.mem_of_mem_ofList (written.params ▸ given)
      obtain ⟨bound, inferred⟩ := Bound.infer_of_single (single _ among)
      cases refused.symm.trans inferred
    | ok bounds =>
      rw [each] at bindings
      refine ⟨_, bindings, rfl, ?_⟩
      refine everywhere_mono fits.framed fun place member framed => ?_
      refine ⟨framed.found_iff.mpr (spelled _ (List.mem_map_of_mem member)), ?_⟩
      exact written.bound_mem functional each
        (fun name given => written.mem_places fits given (spelledParams name given)) member

theorem quoted_valued {record : Record} (quoted : ∀ column ∈ record.keys, ∃ text, quote column = .ok text) :
    ∀ column ∈ (valued record).keys, ∃ text, quote column = .ok text := fun column member =>
  quoted column (List.map_subset Prod.fst List.filter_sublist.subset member)

theorem restriction_quoted {table : Value} {record : Record} {conjunction : Conjunction} {allRows : Bool}
    {opening : String} {result : String × Params}
    (written : restriction table record conjunction allRows opening = .ok result) :
    ∀ column ∈ record.keys, ∃ text, quote column = .ok text := by
  intro column member
  obtain ⟨entry, among, rfl⟩ := List.mem_map.mp member
  unfold restriction at written
  split at written
  · next none =>
    rw [List.isEmpty_iff.mp none] at among
    exact absurd among List.not_mem_nil
  · obtain ⟨_, compared, -⟩ := map_eq_ok written
    obtain ⟨parts, all, -⟩ := bind_eq_ok compared
    obtain ⟨part, one⟩ := forall_of_mapM all among
    obtain ⟨text, quoted, -⟩ := bind_eq_ok one
    exact ⟨text, quoted⟩

theorem Command.quoted {command : Command} {query : Query} (written : command.write = .ok query) :
    ∀ column ∈ command.columns, ∃ text, quote column = .ok text := by
  cases command with
  | insert table input primaryKey upsert =>
    obtain ⟨rows, read, written⟩ := bind_eq_ok written
    obtain ⟨tableSql, quoted, written⟩ := bind_eq_ok written
    obtain ⟨columnSql, columns, written⟩ := bind_eq_ok written
    rw [Command.columns, readRows_eq_ok read]
    exact fun column member => forall_of_mapM columns member
  | update table params record conjunction allRows =>
    obtain ⟨assignments, text, restricting, all, restricted, rfl⟩ := update_parts written
    refine List.forall_mem_append.mpr ⟨fun column member => ?_, restriction_quoted restricted⟩
    obtain ⟨entry, among, rfl⟩ := List.mem_map.mp member
    obtain ⟨part, one⟩ := forall_of_mapM all among
    obtain ⟨text, quoted, -⟩ := map_eq_ok one
    exact ⟨text, quoted⟩
  | delete table record conjunction allRows | select table record conjunction =>
    obtain ⟨_, restricted, -⟩ := bind_eq_ok written
    exact restriction_quoted restricted

theorem filled_of_quoted {s text : String} (quoted : quote (.text s) = .ok text) : s.toList ≠ [] := by
  intro none
  rw [String.toList_eq_nil_iff] at none
  rw [none] at quoted
  cases quoted

theorem spelled_after_iff {column : Value} {text opening : String} (quoted : quote column = .ok text)
    (word : ∀ c ∈ opening.toList, isWord c = true) :
    Spelled (opening ++ column.display) ↔ IsName column := by
  refine ⟨fun spelled => ?_, fun named => named.spelled_after word⟩
  obtain ⟨s, rfl⟩ := text_of_quoted quoted
  refine ⟨s, rfl, filled_of_quoted quoted, fun c member => spelled.word c ?_⟩
  rw [String.toList_append]
  exact List.mem_append_right _ member

theorem spelled_slot_iff {column : Value} {text : String} (quoted : quote column = .ok text) (many : Bool)
    (row : Nat) : Spelled (slot many row column) ↔ IsName column := by
  refine ⟨fun spelled => ?_, fun named => named.spelled_slot many row⟩
  obtain ⟨s, rfl⟩ := text_of_quoted quoted
  refine ⟨s, rfl, filled_of_quoted quoted, fun c member => spelled.word c ?_⟩
  unfold slot
  split
  · rw [String.toList_append, String.toList_append]
    exact List.mem_append_left _ (List.mem_append_left _ member)
  · exact member

theorem spelled_travelling_iff {record : Record} {opening : String}
    (quoted : ∀ column ∈ record.keys, ∃ text, quote column = .ok text)
    (word : ∀ c ∈ opening.toList, isWord c = true) :
    (∀ name ∈ (travelling opening record).keys, Spelled name) ↔ ∀ column ∈ record.keys, IsName column := by
  simp only [travelling, Entries.keys, List.map_map, List.forall_mem_map, Function.comp_apply]
  refine forall₂_congr fun entry member => ?_
  obtain ⟨text, named⟩ := quoted entry.1 (List.mem_map_of_mem member)
  exact spelled_after_iff named word

theorem spelled_tuples_iff {rows : Rows}
    (quoted : ∀ column ∈ rows.columns, ∃ text, quote column = .ok text) :
    (∀ name ∈ (entries (tuples rows)).keys, Spelled name) ↔ ∀ column ∈ rows.columns, IsName column := by
  rw [entries_tuples]
  constructor
  · intro spelled column given
    obtain ⟨text, named⟩ := quoted column given
    refine (spelled_slot_iff named rows.many 0).mp (spelled _ ?_)
    have first : (rows.first, 0) ∈ rows.all.zipIdx := by
      rw [Rows.all, List.zipIdx_cons]
      exact List.mem_cons_self
    have here : (slot rows.many 0 column, (rows.first.get? column).getD .null) ∈
        rowParams rows 0 rows.first := List.mem_map_of_mem given
    exact List.mem_map.mpr ⟨_, List.mem_flatMap.mpr ⟨(rows.first, 0), first, here⟩, rfl⟩
  · intro named name member
    obtain ⟨entry, among, rfl⟩ := List.mem_map.mp member
    obtain ⟨⟨record, row⟩, -, here⟩ := List.mem_flatMap.mp among
    obtain ⟨column, given, rfl⟩ := List.mem_map.mp here
    exact (named column given).spelled_slot rows.many row

theorem spelled_inserted_iff {input : Value} {rows : Rows} (read : Rows.ofValue input = .ok rows)
    (quoted : ∀ column ∈ rows.columns, ∃ text, quote column = .ok text) (table primaryKey : Value)
    (upsert : Bool) : (∀ name ∈ (entries (inserted rows table primaryKey upsert)).keys, Spelled name) ↔
      ∀ column ∈ rows.columns, IsName column := by
  have within := inserted_subset (given_of_ofValue read).single table primaryKey upsert
  rw [← spelled_tuples_iff quoted]
  refine ⟨fun spelled name member => ?_, fun spelled name member => ?_⟩
  · refine spelled name (List.map_subset Prod.fst ?_ member)
    rw [entries_inserted]
    exact List.subset_append_left _ _
  · exact spelled name (List.map_subset Prod.fst within member)

theorem Command.spelled_iff {command : Command} {query : Query} (written : command.write = .ok query) :
    (∀ name ∈ (entries command.layout).keys, Spelled name) ↔ ∀ column ∈ command.bearing, IsName column := by
  have quoted := Command.quoted written
  cases command with
  | insert table input primaryKey upsert =>
    obtain ⟨rows, read, -⟩ := bind_eq_ok written
    have held := readRows_eq_ok read
    simp only [Command.columns, held] at quoted
    simp only [Command.layout, Command.bearing, held]
    exact spelled_inserted_iff held quoted table primaryKey upsert
  | update table params record conjunction allRows =>
    obtain ⟨assigning, restricting⟩ := List.forall_mem_append.mp quoted
    rw [entries_updated, Entries.keys, List.map_append, List.forall_mem_append, Command.bearing,
      List.forall_mem_append]
    exact and_congr (spelled_travelling_iff assigning (List.all_eq_true.mp rfl))
      (spelled_travelling_iff (quoted_valued restricting) (List.all_eq_true.mp rfl))
  | delete table record conjunction allRows | select table record conjunction =>
    simp only [entries_deleted, entries_selected, Command.bearing]
    exact spelled_travelling_iff (quoted_valued quoted) (List.all_eq_true.mp rfl)

end Query

end SqlGateway
