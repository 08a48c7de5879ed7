import Mathlib.Data.List.Basic
import SqlGateway.Proofs.Command
import SqlGateway.Proofs.Results

/-!
What is written for a caller: the text is that of the layout, and the parameters are the values of the
places, entered in the order of the text. Here for the statements with a restriction.
-/

namespace SqlGateway.Query

theorem quotedTexts {names : List Value} {texts : List String} (quoted : names.mapM quote = .ok texts) :
    texts = names.map quotedText := by
  rw [← map_of_mapM (fun _ _ => eq_quotedText) quoted, List.map_id']

theorem text_of_quoted {name : Value} {text : String} (quoted : quote name = .ok text) :
    ∃ s, name = .text s := by
  obtain ⟨s, rfl, -⟩ := (quotable_eq_some_iff name text).mp ((quote_eq_ok_iff name text).mp quoted)
  exact ⟨s, rfl⟩

open Layout

/-- The text of the statement is that of the layout, and its parameters are the values of the places. -/
structure Written (query : Query) (layout : Layout) : Prop where
  text : query.sql.toList = chars layout
  params : query.params = Entries.ofList (entries layout)

theorem chars_joined (separator : String) (texts : List String) (parts : List Layout)
    (same : texts.map String.toList = parts.map chars) :
    (separator.intercalate texts).toList = chars (separated separator parts) := by
  rw [String.toList_intercalate, chars_separated, same]

theorem setClause_written {entry : Value × Value} {text : String}
    (written : setClause entry = .ok text) : text.toList = chars (assigned assignmentOpening entry) := by
  obtain ⟨column, quoted, rfl⟩ := map_eq_ok written
  simp [assigned, Piece.chars, eq_quotedText quoted]

theorem ofEntry_written {opening : String} {entry : Value × Value} {part : Comparison}
    (written : Comparison.ofEntry opening entry = .ok part) :
    part.text.toList = chars (compared opening entry) ∧
      part.param.toList = entries (compared opening entry) := by
  obtain ⟨column, quoted, written⟩ := bind_eq_ok written
  cases written
  by_cases null : entry.2.isNull = true
  · simp [compared, null, Piece.chars, eq_quotedText quoted]
  · simp [compared, null, assigned, Piece.chars, eq_quotedText quoted]

theorem comparisons_written {record : Record} {conjunction : Conjunction} {opening text : String}
    {params : Params} (written : comparisons record conjunction opening = .ok (text, params)) :
    text.toList = chars (separated conjunction.joiner (record.map (compared opening))) ∧
      params = Entries.ofList (entries (separated conjunction.joiner (record.map (compared opening)))) := by
  obtain ⟨parts, all, written⟩ := bind_eq_ok written
  cases written
  have texts := map_of_mapM (fun _ _ part => (ofEntry_written part).1) all
  have params := map_of_mapM (fun _ _ part => (ofEntry_written part).2) all
  constructor
  · apply chars_joined
    rw [List.map_map, List.map_map]
    exact texts
  · rw [entries_separated, List.flatMap_map, List.flatMap_def, ← params, ← List.flatMap_def,
      List.filterMap_eq_flatMap_toList]

theorem restriction_written {table : Value} {record : Record} {conjunction : Conjunction}
    {allRows : Bool} {opening text : String} {params : Params}
    (written : restriction table record conjunction allRows opening = .ok (text, params)) :
    text.toList = chars (restricted opening record conjunction) ∧
      params = Entries.ofList (entries (restricted opening record conjunction)) := by
  unfold restriction at written
  unfold restricted
  split at written
  · next none =>
    rw [if_pos none]
    split at written
    · cases written
      exact ⟨rfl, rfl⟩
    · cases written
  · next some =>
    rw [if_neg some]
    obtain ⟨⟨inner, found⟩, parts, same⟩ := map_eq_ok written
    cases same
    obtain ⟨texts, params⟩ := comparisons_written parts
    exact ⟨by simp [texts, Piece.chars], by rw [entries_words]; exact params⟩

theorem select_written {table : Value} {record : Record} {conjunction : Conjunction} {query : Query}
    (written : select table record conjunction = .ok query) :
    Written query (Command.select table record conjunction).layout := by
  obtain ⟨⟨text, params⟩, restricting, written⟩ := bind_eq_ok written
  obtain ⟨tableSql, quoted, written⟩ := bind_eq_ok written
  cases written
  obtain ⟨texts, held⟩ := restriction_written restricting
  exact ⟨by simp [Command.layout, texts, Piece.chars, eq_quotedText quoted],
    by simpa [Command.layout] using held⟩

theorem delete_written {table : Value} {record : Record} {conjunction : Conjunction} {allRows : Bool}
    {query : Query} (written : delete table record conjunction allRows = .ok query) :
    Written query (Command.delete table record conjunction allRows).layout := by
  obtain ⟨⟨text, params⟩, restricting, written⟩ := bind_eq_ok written
  obtain ⟨tableSql, quoted, written⟩ := bind_eq_ok written
  cases written
  obtain ⟨texts, held⟩ := restriction_written restricting
  exact ⟨by simp [Command.layout, texts, Piece.chars, eq_quotedText quoted],
    by simpa [Command.layout] using held⟩

def travelling (opening : String) (record : Record) : Params :=
  record.map fun entry => (opening ++ entry.1.display, entry.2)

def valued (record : Record) : Record := record.filter fun entry => !entry.2.isNull

theorem entries_assigned (opening : String) (record : Record) :
    entries (separated "," (record.map (assigned opening))) = travelling opening record := by
  rw [entries_separated, List.flatMap_map, travelling, List.map_eq_flatMap]
  rfl

theorem entries_compared (opening : String) (entry : Value × Value) :
    entries (compared opening entry) =
      if entry.2.isNull then [] else [(opening ++ entry.1.display, entry.2)] := by
  unfold compared
  split <;> rfl

theorem entries_restricted (opening : String) (record : Record) (conjunction : Conjunction) :
    entries (restricted opening record conjunction) = travelling opening (valued record) := by
  have each : record.flatMap (fun entry => entries (compared opening entry)) =
      travelling opening (valued record) := by
    simp only [entries_compared, travelling, valued]
    induction record with
    | nil => rfl
    | cons entry more ih => by_cases null : entry.2.isNull = true <;> simp [null, ih]
  unfold restricted
  split
  · next none => rw [List.isEmpty_iff.mp none]; rfl
  · rw [entries_words, entries_separated, List.flatMap_map]
    exact each

theorem entries_updated (table : Value) (params record : Record) (conjunction : Conjunction)
    (allRows : Bool) : entries (Command.update table params record conjunction allRows).layout =
      travelling assignmentOpening params ++ travelling restrictionOpening (valued record) := by
  simp [Command.layout, entries_assigned, entries_restricted]

theorem entries_deleted (table : Value) (record : Record) (conjunction : Conjunction) (allRows : Bool) :
    entries (Command.delete table record conjunction allRows).layout = travelling "" (valued record) := by
  simp [Command.layout, entries_restricted]

theorem entries_selected (table : Value) (record : Record) (conjunction : Conjunction) :
    entries (Command.select table record conjunction).layout = travelling "" (valued record) := by
  simp [Command.layout, entries_restricted]

theorem openings_differ (first second : String) :
    assignmentOpening ++ first ≠ restrictionOpening ++ second := by
  intro same
  have heads := congrArg (fun name : String => name.toList.head?) same
  simp [assignmentOpening, restrictionOpening] at heads

theorem travelling_apart (params record : Record) :
    ∀ name ∈ (travelling restrictionOpening record).keys,
      name ∉ (travelling assignmentOpening params).keys := by
  intro name member present
  simp only [Entries.keys, travelling, List.map_map, List.mem_map, Function.comp_apply] at member present
  obtain ⟨_, -, rfl⟩ := member
  obtain ⟨_, -, same⟩ := present
  exact openings_differ _ _ same

theorem update_parts {table : Value} {params record : Record} {conjunction : Conjunction}
    {allRows : Bool} {query : Query}
    (written : update table params record conjunction allRows = .ok query) :
    ∃ assignments text restricting, params.mapM setClause = .ok assignments ∧
      restriction table record conjunction allRows restrictionOpening = .ok (text, restricting) ∧
      query = ⟨"UPDATE " ++ quotedText table ++ " SET " ++ ",".intercalate assignments ++ text,
        Entries.putAll (Entries.ofList (setParams params)) restricting⟩ := by
  unfold update at written
  split at written
  · cases written
  · obtain ⟨assignments, all, written⟩ := bind_eq_ok written
    obtain ⟨tableSql, quoted, written⟩ := bind_eq_ok written
    obtain ⟨⟨text, restricting⟩, restricted, written⟩ := bind_eq_ok written
    cases written
    exact ⟨assignments, text, restricting, all, restricted, by rw [eq_quotedText quoted]⟩

theorem update_written {table : Value} {params record : Record} {conjunction : Conjunction}
    {allRows : Bool} {query : Query}
    (written : update table params record conjunction allRows = .ok query) :
    Written query (Command.update table params record conjunction allRows).layout := by
  obtain ⟨assignments, text, restricting, all, restricted, rfl⟩ := update_parts written
  obtain ⟨texts, held⟩ := restriction_written restricted
  have clauses := chars_joined "," assignments (params.map (assigned assignmentOpening)) (by
    rw [List.map_map]
    exact map_of_mapM (fun _ _ => setClause_written) all)
  constructor
  · simp [Command.layout, Piece.chars, texts, clauses]
  · have apart := Entries.putAll_ofList_of_disjoint _ _ (travelling_apart params (valued record))
    rw [entries_updated, held, entries_restricted]
    exact apart

end SqlGateway.Query
