import SqlGateway.Proofs.Tabulated
import SqlGateway.Proofs.Naming
import SqlGateway.Text.Pieces

/-!
The clauses of an update, a delete or a select, and what they say. Cut at its fixed words the text of such a
statement falls into one piece for each assignment and for each comparison, in their order, and with the
parameters it gives back the columns and values that it was written for.
-/

namespace SqlGateway.Query

open Text (isWord pieces Free)

def marked (column : Value) : String := "`" ++ column.display ++ "`"

def assignmentText (opening : String) (entry : Value × Value) : String :=
  marked entry.1 ++ " = :" ++ opening ++ entry.1.display

def comparisonText (opening : String) (entry : Value × Value) : String :=
  if entry.2.isNull then marked entry.1 ++ " IS NULL" else assignmentText opening entry

inductive Separates (asked : Value) : String → Prop
  | or {text : String} : asked = .text text → Conjunction.upper (Text.trim text) = "OR" → Separates asked " OR "
  | and : (∀ text, asked = .text text → Conjunction.upper (Text.trim text) ≠ "OR") → Separates asked " AND "

/-- The column and the value of one assignment or comparison; without a placeholder the value is null. -/
def readEntry (params : Params) (text : String) : Value × Value :=
  match pieces "`" text with
  | [_, column, rest] => (.text column, ((pieces ":" rest)[1]?.bind fun slot => params.get? slot).getD .null)
  | _ => (.null, .null)

/-- What the statement assigns and what it compares. -/
def readBack (query : Query) : Record × Record :=
  match pieces " WHERE " query.sql with
  | [] => ([], [])
  | head :: clauses =>
    (((pieces " SET " head).tail.flatMap (pieces ",")).map (readEntry query.params),
      ((clauses.flatMap (pieces " AND ")).flatMap (pieces " OR ")).map (readEntry query.params))

/-- The statements that assign `params` and are restricted by `record`. -/
inductive Restricts (table asked : Value) (record : Record) : Record → Bool → String → Command → Prop
  | update {params : Record} (allRows : Bool) : params ≠ [] →
      Restricts table asked record params allRows restrictionOpening
        (.update table params record (.ofValue asked) allRows)
  | delete (allRows : Bool) :
      Restricts table asked record [] allRows "" (.delete table record (.ofValue asked) allRows)
  | select : Restricts table asked record [] true "" (.select table record (.ofValue asked))

/-- The clauses of the query are those of the assignments and of the comparisons, and its parameters are
their values. -/
structure Legible (table asked : Value) (params record : Record) (opening : String) (query : Query) :
    Prop where
  unrestricted : (∃ head, pieces " WHERE " query.sql = [head]) ↔ record = []
  restricted : record ≠ [] → ∃ head clause separator, pieces " WHERE " query.sql = [head, clause] ∧
    Separates asked separator ∧ pieces separator clause = record.map (comparisonText opening)
  assigned : params ≠ [] → ∃ list clauses,
    pieces " WHERE " query.sql = ("UPDATE " ++ marked table ++ " SET " ++ list) :: clauses ∧
      pieces "," list = params.map (assignmentText assignmentOpening)
  keys : query.params.keys = (params.keys.map fun column => assignmentOpening ++ column.display) ++
    (valued record).keys.map fun column => opening ++ column.display
  distinct : query.params.keys.Nodup
  assigns : ∀ entry ∈ params, query.params.get? (assignmentOpening ++ entry.1.display) = some entry.2
  compares : ∀ entry ∈ record,
    query.params.get? (opening ++ entry.1.display) = if entry.2.isNull then none else some entry.2
  recalled : readBack query = (params, record)

theorem quote_of_isName {name : Value} (named : IsName name) : quote name = .ok (marked name) := by
  obtain ⟨s, rfl, spelled⟩ := named
  have trimmed : Text.trim s = s :=
    Text.trim_eq_self fun c member => Text.visible_of_word (spelled.word c member)
  have filled : s.isEmpty = false := by simpa [String.toList_eq_nil_iff] using spelled.filled
  have unmarked : mark ∉ s.toList := fun member => by cases spelled.word _ member
  have quoted : quoteName? s = some (marked (.text s)) := by
    rw [quoteName?, trimmed, filled, List.contains_eq_mem, decide_eq_false unmarked]
    refine congrArg some (String.toList_inj.mp ?_)
    simp [marked, mark]
  rw [quote, quotable?, quoted]

theorem quotedText_of_isName {name : Value} (named : IsName name) : quotedText name = marked name :=
  (eq_quotedText (quote_of_isName named)).symm

def headText : Command → String
  | .update table params _ _ _ =>
    "UPDATE " ++ marked table ++ " SET " ++ ",".intercalate (params.map (assignmentText assignmentOpening))
  | .delete table _ _ _ => "DELETE FROM " ++ marked table
  | .select table _ _ => "SELECT * FROM " ++ marked table
  | .insert _ _ _ _ => ""

def restrictionText (opening : String) (record : Record) (conjunction : Conjunction) : String :=
  if record.isEmpty then ""
  else " WHERE " ++ conjunction.joiner.intercalate (record.map (comparisonText opening))

section

open Layout

variable {opening : String} {entry : Value × Value}

theorem chars_assigned (named : IsName entry.1) :
    chars (assigned opening entry) = (assignmentText opening entry).toList := by
  simp [assigned, assignmentText, Piece.chars, quotedText_of_isName named]

theorem chars_compared (named : IsName entry.1) :
    chars (compared opening entry) = (comparisonText opening entry).toList := by
  unfold compared comparisonText
  split
  · simp [Piece.chars, quotedText_of_isName named]
  · exact chars_assigned named

theorem chars_clauses {part : Value × Value → Layout} {text : Value × Value → String} {record : Record}
    (same : ∀ entry ∈ record, chars (part entry) = (text entry).toList) (separator : String) :
    chars (separated separator (record.map part)) = (separator.intercalate (record.map text)).toList := by
  rw [chars_separated, String.toList_intercalate, List.map_map, List.map_map]
  exact congrArg (separator.toList.intercalate ·) (List.map_congr_left same)

theorem chars_restricted {record : Record} (named : ∀ column ∈ record.keys, IsName column)
    (conjunction : Conjunction) :
    chars (restricted opening record conjunction) = (restrictionText opening record conjunction).toList := by
  unfold restricted restrictionText
  split
  · rfl
  · rw [chars_cons, String.toList_append, chars_clauses fun entry member =>
      chars_compared (named entry.1 (List.mem_map_of_mem member))]
    rfl

end

variable {table asked : Value} {params record : Record} {entry : Value × Value} {allRows : Bool} {opening : String}
  {command : Command} {query : Query}

theorem Restricts.sql (restricts : Restricts table asked record params allRows opening command)
    (named : command.Named) (written : command.write = .ok query) :
    query.sql = headText command ++ restrictionText opening record (.ofValue asked) := by
  have text := (Command.written written).text
  have quoted := quotedText_of_isName named.table
  apply String.toList_inj.mp
  cases restricts with
  | update allRows some =>
    obtain ⟨assigning, restricting⟩ := List.forall_mem_append.mp named.columns
    have assignments := chars_clauses (fun entry member =>
      @chars_assigned assignmentOpening entry (assigning entry.1 (List.mem_map_of_mem member))) ","
    simp only [Command.table] at quoted
    simp [text, headText, Command.layout, Piece.chars, quoted, assignments, chars_restricted restricting]
  | delete allRows =>
    simp only [Command.table] at quoted
    simp [text, headText, Command.layout, Piece.chars, quoted, chars_restricted named.columns]
  | select =>
    simp only [Command.table] at quoted
    simp [text, headText, Command.layout, Piece.chars, quoted, chars_restricted named.columns]

def separators : List String := [" WHERE ", " SET ", ",", " AND ", " OR "]

def Clause (text : String) : Prop :=
  ∃ rest, text.toList = mark :: rest ∧ ∀ separator ∈ separators, Free separator.toList rest

theorem free_word {separator : String} (among : separator ∈ separators) {word : List Char}
    (spelled : ∀ c ∈ word, isWord c = true) : Free separator.toList word := by
  have starts : ∀ separator ∈ separators, ∃ c more, separator.toList = c :: more ∧ isWord c = false := by
    simp only [separators, List.forall_mem_cons]
    exact ⟨⟨' ', _, rfl, rfl⟩, ⟨' ', _, rfl, rfl⟩, ⟨',', _, rfl, rfl⟩, ⟨' ', _, rfl, rfl⟩, ⟨' ', _, rfl, rfl⟩, nofun⟩
  obtain ⟨first, more, split, wordless⟩ := starts separator among
  rw [split]
  refine Text.free_of_not_mem fun member => ?_
  cases wordless.symm.trans (spelled first member)

theorem free_marked {separator : String} (among : separator ∈ separators) {table : Value} (named : IsName table)
    (lead trail : String) (before : Free separator.toList (lead.toList ++ [mark]))
    (after : Free separator.toList (mark :: trail.toList)) :
    Free separator.toList (lead ++ marked table ++ trail).toList := by
  obtain ⟨s, rfl, spelled⟩ := named
  have whole := (before.append (free_word among spelled.word)).append after
  simpa [marked, mark] using whole

theorem clause_assignment (named : IsName entry.1) (opens : ∀ c ∈ opening.toList, isWord c = true) :
    Clause (assignmentText opening entry) := by
  obtain ⟨column, value⟩ := entry
  obtain ⟨s, rfl, spelled⟩ := named
  refine ⟨s.toList ++ ("` = :".toList ++ (opening.toList ++ s.toList)), ?_, fun separator among => ?_⟩
  · simp [assignmentText, marked, mark]
  · have equates : ∀ separator ∈ separators, Free separator.toList "` = :".toList := by decide
    exact (free_word among spelled.word).append ((equates separator among).append
      ((free_word among opens).append (free_word among spelled.word)))

theorem clause_comparison (named : IsName entry.1) (opens : ∀ c ∈ opening.toList, isWord c = true) :
    Clause (comparisonText opening entry) := by
  unfold comparisonText
  split
  · obtain ⟨column, value⟩ := entry
    obtain ⟨s, rfl, spelled⟩ := named
    refine ⟨s.toList ++ "` IS NULL".toList, by simp [marked, mark], fun separator among => ?_⟩
    have nulls : ∀ separator ∈ separators, Free separator.toList "` IS NULL".toList := by decide
    exact (free_word among spelled.word).append (nulls separator among)
  · exact clause_assignment named opens

theorem Clause.free {text separator : String} (clause : Clause text) (among : separator ∈ separators) :
    Free separator.toList text.toList := by
  have marks : ∀ separator ∈ separators, Free separator.toList [mark] := by decide
  obtain ⟨rest, split, free⟩ := clause
  rw [split]
  exact (marks separator among).append (free separator among)

theorem free_clauses {separator lead joiner : String} {parts : List String} (among : separator ∈ separators)
    (leads : Free separator.toList (lead.toList ++ [mark]))
    (joins : Free separator.toList (joiner.toList ++ [mark])) (some : parts ≠ [])
    (clauses : ∀ part ∈ parts, Clause part) :
    Free separator.toList (lead ++ joiner.intercalate parts).toList := by
  have behind {text : List Char} (opens : Free separator.toList (text ++ [mark])) :
      ∀ part ∈ parts.map String.toList, Free separator.toList (text ++ part) := by
    refine List.forall_mem_map.mpr fun part member => ?_
    obtain ⟨rest, split, free⟩ := clauses part member
    rw [split, List.append_cons]
    exact opens.append (free separator among)
  rw [String.toList_append, String.toList_intercalate]
  exact Text.free_intercalate (mt List.map_eq_nil_iff.mp some) (behind leads) (behind joins)

theorem pieces_clauses {separator : String} {parts : List String} (among : separator ∈ separators)
    (some : parts ≠ []) (clauses : ∀ part ∈ parts, Clause part) :
    pieces separator (separator.intercalate parts) = parts := by
  have filled : ∀ separator ∈ separators, separator ≠ "" := by decide
  exact Text.pieces_intercalate (filled separator among) some fun part member => (clauses part member).free among

theorem separates_joiner (asked : Value) : Separates asked (Conjunction.ofValue asked).joiner := by
  unfold Conjunction.ofValue
  split
  · next text =>
    split
    · next or => exact .or rfl or
    · next other => exact .and fun _ same => Value.text.inj same ▸ other
  · next other => exact .and fun text same => absurd same (other text)

/-- Cut at both joiners, clauses that are joined by one of them are found again. -/
theorem pieces_joined {parts : List String} (conjunction : Conjunction) (some : parts ≠ [])
    (clauses : ∀ part ∈ parts, Clause part) :
    ((pieces " AND " (conjunction.joiner.intercalate parts)).flatMap (pieces " OR ")) = parts := by
  cases conjunction with
  | and =>
    have each : parts.flatMap (pieces " OR ") = parts.flatMap fun part => [part] :=
      List.flatMap_congr fun part member =>
        Text.pieces_of_free ((clauses part member).free (by decide : " OR " ∈ separators))
    rw [Conjunction.joiner, Conjunction.name]
    change (pieces " AND " (" AND ".intercalate parts)).flatMap (pieces " OR ") = parts
    rw [pieces_clauses (by decide) some clauses, each, List.flatMap_singleton']
  | or =>
    have whole := @free_clauses " AND " "" " OR " parts (by decide) (by decide) (by decide) some clauses
    rw [Conjunction.joiner, Conjunction.name]
    change (pieces " AND " (" OR ".intercalate parts)).flatMap (pieces " OR ") = parts
    rw [String.empty_append] at whole
    rw [Text.pieces_of_free whole, List.flatMap_singleton, pieces_clauses (by decide) some clauses]

theorem word_assignmentOpening : ∀ c ∈ assignmentOpening.toList, isWord c = true :=
  List.all_eq_true.mp (by decide)

theorem word_restrictionOpening : ∀ c ∈ restrictionOpening.toList, isWord c = true :=
  List.all_eq_true.mp (by decide)

theorem Restricts.opens (restricts : Restricts table asked record params allRows opening command) :
    ∀ c ∈ opening.toList, isWord c = true := by
  cases restricts with
  | update allRows some => exact word_restrictionOpening
  | delete allRows | select => nofun

theorem Restricts.columns (restricts : Restricts table asked record params allRows opening command) :
    command.columns = params.keys ++ record.keys := by
  cases restricts <;> rfl

theorem Restricts.table_eq (restricts : Restricts table asked record params allRows opening command) :
    command.table = table := by
  cases restricts <;> rfl

theorem Restricts.named_table (restricts : Restricts table asked record params allRows opening command)
    (named : command.Named) : IsName table := restricts.table_eq ▸ named.table

theorem Restricts.named_columns (restricts : Restricts table asked record params allRows opening command)
    (named : command.Named) : (∀ entry ∈ params, IsName entry.1) ∧ ∀ entry ∈ record, IsName entry.1 := by
  have each := named.columns
  rw [restricts.columns, List.forall_mem_append] at each
  exact ⟨List.forall_mem_map.mp each.1, List.forall_mem_map.mp each.2⟩

theorem Restricts.assignments (restricts : Restricts table asked record params allRows opening command)
    (named : command.Named) : ∀ part ∈ params.map (assignmentText assignmentOpening), Clause part :=
  List.forall_mem_map.mpr fun entry member =>
    clause_assignment ((restricts.named_columns named).1 entry member) word_assignmentOpening

theorem Restricts.comparisons (restricts : Restricts table asked record params allRows opening command)
    (named : command.Named) : ∀ part ∈ record.map (comparisonText opening), Clause part :=
  List.forall_mem_map.mpr fun entry member =>
    clause_comparison ((restricts.named_columns named).2 entry member) restricts.opens

theorem Restricts.free_head (restricts : Restricts table asked record params allRows opening command)
    (named : command.Named) : Free " WHERE ".toList (headText command).toList := by
  have name := restricts.named_table named
  have among : " WHERE " ∈ separators := by decide
  have clauses := restricts.assignments named
  cases restricts with
  | update allRows some =>
    refine free_clauses among ?_ (by decide) (mt List.map_eq_nil_iff.mp some) clauses
    have lead := free_marked among name "UPDATE " " SET `" (by decide) (by decide)
    simpa [mark] using lead
  | delete allRows =>
    have lead := free_marked among name "DELETE FROM " "" (by decide) (by decide)
    simpa [headText] using lead
  | select =>
    have lead := free_marked among name "SELECT * FROM " "" (by decide) (by decide)
    simpa [headText] using lead

theorem Restricts.pieces_sql (restricts : Restricts table asked record params allRows opening command)
    (named : command.Named) (written : command.write = .ok query) :
    pieces " WHERE " query.sql = headText command :: if record.isEmpty then []
      else [(Conjunction.ofValue asked).joiner.intercalate (record.map (comparisonText opening))] := by
  have head := restricts.free_head named
  rw [restricts.sql named written, restrictionText]
  split
  · rw [String.append_empty, Text.pieces_of_free head]
  · next filled =>
    have some : record.map (comparisonText opening) ≠ [] :=
      mt List.map_eq_nil_iff.mp (mt List.isEmpty_iff.mpr filled)
    have joins : ∀ conjunction : Conjunction, Free " WHERE ".toList (conjunction.joiner.toList ++ [mark]) := by
      intro conjunction
      cases conjunction <;> decide
    have clause := @free_clauses " WHERE " "" _ _ (by decide) (by decide) (joins (.ofValue asked)) some
      (restricts.comparisons named)
    rw [String.empty_append] at clause
    rw [← String.append_assoc, Text.pieces_at (by decide) head, Text.pieces_of_free clause]

theorem Restricts.pieces_head (restricts : Restricts table asked record params allRows opening command)
    (named : command.Named) :
    (pieces " SET " (headText command)).tail.flatMap (pieces ",") =
      params.map (assignmentText assignmentOpening) := by
  have name := restricts.named_table named
  have among : " SET " ∈ separators := by decide
  have clauses := restricts.assignments named
  cases restricts with
  | update allRows filled =>
    have some : params.map (assignmentText assignmentOpening) ≠ [] := mt List.map_eq_nil_iff.mp filled
    have lead := free_marked among name "UPDATE " "" (by decide) (by decide)
    have list := @free_clauses " SET " "" "," _ among (by decide) (by decide) some clauses
    rw [String.append_empty] at lead
    rw [String.empty_append] at list
    rw [headText, Text.pieces_at (by decide) lead, Text.pieces_of_free list, List.tail_cons,
      List.flatMap_singleton, pieces_clauses (by decide) some clauses]
  | delete allRows =>
    have lead := free_marked among name "DELETE FROM " "" (by decide) (by decide)
    rw [String.append_empty] at lead
    rw [headText, Text.pieces_of_free lead]
    rfl
  | select =>
    have lead := free_marked among name "SELECT * FROM " "" (by decide) (by decide)
    rw [String.append_empty] at lead
    rw [headText, Text.pieces_of_free lead]
    rfl

theorem free_wordless {c : Char} (wordless : isWord c = false) {word : List Char}
    (spelled : ∀ d ∈ word, isWord d = true) : Free [c] word := by
  refine Text.free_of_not_mem fun member => ?_
  cases wordless.symm.trans (spelled c member)

theorem pieces_marked {s rest : String} (spelled : Spelled s) (free : Free "\x60".toList rest.toList) :
    pieces "`" (marked (.text s) ++ rest) = ["", s, rest] := by
  have split : marked (.text s) ++ rest = "" ++ "`" ++ (s ++ "`" ++ rest) := by
    rw [← String.toList_inj]
    simp [marked]
  have column : Free "\x60".toList s.toList := free_wordless (c := mark) (by decide) spelled.word
  rw [split, Text.pieces_at (by decide) (by decide), Text.pieces_at (by decide) column, Text.pieces_of_free free]

theorem readEntry_assignment (named : IsName entry.1) (opens : ∀ c ∈ opening.toList, isWord c = true)
    {held : Params} (found : held.get? (opening ++ entry.1.display) = some entry.2) :
    readEntry held (assignmentText opening entry) = entry := by
  obtain ⟨column, value⟩ := entry
  obtain ⟨s, rfl, spelled⟩ := named
  have slot : ∀ c ∈ (opening ++ s).toList, isWord c = true := by
    rw [String.toList_append]
    exact List.forall_mem_append.mpr ⟨opens, spelled.word⟩
  have text : assignmentText opening (.text s, value) = marked (.text s) ++ (" = " ++ ":" ++ (opening ++ s)) := by
    rw [← String.toList_inj]
    simp [assignmentText]
  have unmarked : Free "\x60".toList (" = " ++ ":" ++ (opening ++ s)).toList := by
    rw [String.toList_append]
    exact Text.Free.append (by decide) (free_wordless (c := mark) (by decide) slot)
  have place : pieces ":" (" = " ++ ":" ++ (opening ++ s)) = [" = ", opening ++ s] := by
    have name : Free ":".toList (opening ++ s).toList := free_wordless (c := ':') (by decide) slot
    rw [Text.pieces_at (by decide) (by decide), Text.pieces_of_free name]
  rw [text, readEntry, pieces_marked spelled unmarked]
  simp only [place, List.getElem?_cons_succ, List.getElem?_cons_zero, Option.bind_some]
  exact congrArg (fun held : Option Value => (Value.text s, held.getD .null)) found

theorem readEntry_comparison (named : IsName entry.1) (opens : ∀ c ∈ opening.toList, isWord c = true)
    {held : Params} (found : held.get? (opening ++ entry.1.display) = if entry.2.isNull then none else some entry.2) :
    readEntry held (comparisonText opening entry) = entry := by
  unfold comparisonText
  split
  · next null =>
    obtain ⟨column, value⟩ := entry
    obtain ⟨s, rfl, spelled⟩ := named
    obtain rfl : value = .null := by
      cases value with
      | null => rfl
      | _ => cases null
    rw [readEntry, pieces_marked spelled (by decide)]
    simp only
    rw [Text.pieces_of_free (by decide)]
    rfl
  · next valued =>
    rw [if_neg valued] at found
    exact readEntry_assignment named opens found

theorem map_readEntry {held : Params} {text : Value × Value → String}
    (read : ∀ entry ∈ record, readEntry held (text entry) = entry) :
    (record.map text).map (readEntry held) = record := by
  rw [List.map_map]
  conv_rhs => rw [← List.map_id record]
  exact List.map_congr_left read

theorem nodup_travelling (distinct : Distinct record) (named : ∀ entry ∈ record, IsName entry.1) (opening : String) :
    (travelling opening record).keys.Nodup := by
  rw [Entries.keys, travelling, List.map_map, List.Nodup, List.pairwise_map]
  refine (List.pairwise_map.mp distinct).imp_of_mem fun {first second} member memberToo differ same => ?_
  obtain ⟨s, text, -⟩ := named first member
  obtain ⟨t, textToo, -⟩ := named second memberToo
  simp only [Function.comp_apply, text, textToo, Value.display_text, ← String.toList_inj, String.toList_append] at same
  have names := String.toList_inj.mp (List.append_cancel_left same)
  rw [text, textToo, names, beq_text] at differ
  cases differ

theorem Restricts.apart (restricts : Restricts table asked record params allRows opening command) :
    ∀ entry ∈ params, ∀ column, assignmentOpening ++ entry.1.display ≠ opening ++ column := by
  cases restricts with
  | update allRows some => exact fun entry _ column => openings_differ _ column
  | delete allRows | select => nofun

theorem not_mem_of_null (distinct : Distinct record) (named : ∀ entry ∈ record, IsName entry.1)
    (member : entry ∈ record) (null : entry.2.isNull = true) (opening : String) :
    opening ++ entry.1.display ∉ (travelling opening (valued record)).keys := by
  have apart := nodup_travelling distinct named opening
  rw [Entries.keys, travelling, List.map_map] at apart ⊢
  intro present
  obtain ⟨other, among, same⟩ := List.mem_map.mp present
  obtain ⟨memberToo, valued⟩ := List.mem_filter.mp among
  rw [List.inj_on_of_nodup_map apart memberToo member same, null] at valued
  cases valued

theorem Restricts.params_eq (restricts : Restricts table asked record params allRows opening command)
    (named : command.Named) (distinct : Distinct params) (distinctToo : Distinct record)
    (written : command.write = .ok query) :
    query.params = travelling assignmentOpening params ++ travelling opening (valued record) ∧
      query.params.keys.Nodup := by
  obtain ⟨assigning, comparing⟩ := restricts.named_columns named
  have first := nodup_travelling distinct assigning assignmentOpening
  have second := nodup_travelling (distinct_valued distinctToo)
    (fun entry member => comparing entry (List.mem_of_mem_filter member)) opening
  have places : Layout.entries command.layout =
      travelling assignmentOpening params ++ travelling opening (valued record) := by
    cases restricts with
    | update allRows some => exact entries_updated _ _ _ _ _
    | delete allRows => exact entries_deleted _ _ _ _
    | select => exact entries_selected _ _ _
  have apart : (Layout.entries command.layout).keys.Nodup := by
    rw [places, Entries.keys, List.map_append]
    refine List.nodup_append.mpr ⟨first, second, fun name member other memberToo same => ?_⟩
    obtain ⟨_, early, rfl⟩ := List.mem_map.mp member
    obtain ⟨assigned, among, rfl⟩ := List.mem_map.mp early
    obtain ⟨_, late, rfl⟩ := List.mem_map.mp memberToo
    obtain ⟨compared, -, rfl⟩ := List.mem_map.mp late
    exact restricts.apart assigned among _ same
  have held := (Command.written written).params
  rw [Entries.ofList_eq_self _ apart] at held
  exact ⟨held.trans places, held ▸ apart⟩

theorem setClause_returns (named : ∀ entry ∈ params, IsName entry.1) :
    ∃ assignments, params.mapM setClause = .ok assignments :=
  mapM_returns fun entry member => ⟨_, by rw [setClause, quote_of_isName (named entry member)]; rfl⟩

theorem restriction_returns (named : ∀ entry ∈ record, IsName entry.1) (conjunction : Conjunction)
    (bounded : record ≠ [] ∨ allRows = true) :
    ∃ result, restriction table record conjunction allRows opening = .ok result := by
  unfold restriction
  split
  · next none =>
    rw [if_pos (bounded.resolve_left (not_not_intro (List.isEmpty_iff.mp none)))]
    exact ⟨_, rfl⟩
  · obtain ⟨parts, all⟩ : ∃ parts, record.mapM (Comparison.ofEntry opening) = .ok parts :=
      mapM_returns fun entry member => bind_returns (quote_of_isName (named entry member)) ⟨_, rfl⟩
    obtain ⟨result, returned⟩ : ∃ result, Query.comparisons record conjunction opening = .ok result :=
      bind_returns all ⟨_, rfl⟩
    rw [returned]
    exact ⟨_, rfl⟩

theorem Restricts.returns (restricts : Restricts table asked record params allRows opening command)
    (named : command.Named) (bounded : record ≠ [] ∨ allRows = true) : ∃ query, command.write = .ok query := by
  obtain ⟨assigning, comparing⟩ := restricts.named_columns named
  have tableSql := quote_of_isName (restricts.named_table named)
  obtain ⟨restricting, restricted⟩ :=
    @restriction_returns table record allRows opening comparing (.ofValue asked) bounded
  cases restricts with
  | update allRows some =>
    obtain ⟨assignments, all⟩ := setClause_returns assigning
    have filled : ¬ params.isEmpty = true := mt List.isEmpty_iff.mp some
    rw [Command.write, Query.update, if_neg filled]
    exact bind_returns all (bind_returns tableSql (bind_returns restricted ⟨_, rfl⟩))
  | delete allRows | select => exact bind_returns restricted (bind_returns tableSql ⟨_, rfl⟩)

theorem Restricts.refused (restricts : Restricts table asked [] params false opening command)
    (named : command.Named) : command.write = .error (.unrestricted table) := by
  have tableSql := quote_of_isName (restricts.named_table named)
  obtain ⟨assigning, -⟩ := restricts.named_columns named
  cases restricts with
  | update allRows some =>
    obtain ⟨assignments, all⟩ := setClause_returns assigning
    have filled : ¬ params.isEmpty = true := mt List.isEmpty_iff.mp some
    rw [Command.write, Query.update, if_neg filled, all, tableSql]
    rfl
  | delete allRows => rfl

/-- With the parameters the text gives back what is assigned and what is compared. -/
theorem Restricts.recalled (restricts : Restricts table asked record params allRows opening command)
    (named : command.Named) (written : command.write = .ok query)
    (assigns : ∀ entry ∈ params, query.params.get? (assignmentOpening ++ entry.1.display) = some entry.2)
    (compares : ∀ entry ∈ record,
      query.params.get? (opening ++ entry.1.display) = if entry.2.isNull then none else some entry.2) :
    readBack query = (params, record) := by
  obtain ⟨assigning, comparing⟩ := restricts.named_columns named
  have assignments : (params.map (assignmentText assignmentOpening)).map (readEntry query.params) = params :=
    map_readEntry fun entry member =>
      readEntry_assignment (assigning entry member) word_assignmentOpening (assigns entry member)
  have comparisons : (record.map (comparisonText opening)).map (readEntry query.params) = record :=
    map_readEntry fun entry member =>
      readEntry_comparison (comparing entry member) restricts.opens (compares entry member)
  rw [readBack, restricts.pieces_sql named written]
  simp only
  rw [restricts.pieces_head named, assignments]
  cases record with
  | nil => rfl
  | cons entry more =>
    have some : (entry :: more).map (comparisonText opening) ≠ [] := List.cons_ne_nil _ _
    have clauses := pieces_joined (.ofValue asked) some (restricts.comparisons named)
    rw [if_neg (by simp), List.flatMap_singleton, clauses, comparisons]

theorem Restricts.compared (restricts : Restricts table asked record params allRows opening command)
    (named : command.Named) (distinct : Distinct params) (distinctToo : Distinct record)
    (written : command.write = .ok query) (member : entry ∈ record) :
    query.params.get? (opening ++ entry.1.display) = if entry.2.isNull then none else some entry.2 := by
  obtain ⟨-, comparing⟩ := restricts.named_columns named
  obtain ⟨held, apart⟩ := restricts.params_eq named distinct distinctToo written
  split
  · next null =>
    refine Entries.get?_of_not_mem _ ?_
    rw [held, Entries.keys, List.map_append, List.mem_append, not_or]
    refine ⟨fun present => ?_, not_mem_of_null distinctToo comparing member null opening⟩
    obtain ⟨_, early, same⟩ := List.mem_map.mp present
    obtain ⟨assigned, among, rfl⟩ := List.mem_map.mp early
    exact restricts.apart assigned among _ same
  · next given =>
    refine Entries.get?_of_mem _ apart ?_
    rw [held]
    refine List.mem_append_right _ (List.mem_map_of_mem (List.mem_filter.mpr ⟨member, ?_⟩))
    simpa using given

theorem Restricts.legible (restricts : Restricts table asked record params allRows opening command)
    (named : command.Named) (distinct : Distinct params) (distinctToo : Distinct record)
    (written : command.write = .ok query) : Legible table asked params record opening query := by
  obtain ⟨held, apart⟩ := restricts.params_eq named distinct distinctToo written
  have cut := restricts.pieces_sql named written
  have assigns : ∀ entry ∈ params,
      query.params.get? (assignmentOpening ++ entry.1.display) = some entry.2 := by
    intro entry member
    refine Entries.get?_of_mem _ apart ?_
    rw [held]
    exact List.mem_append_left _ (List.mem_map_of_mem member)
  have compares : ∀ entry ∈ record,
      query.params.get? (opening ++ entry.1.display) = if entry.2.isNull then none else some entry.2 :=
    fun entry member => restricts.compared named distinct distinctToo written member
  refine ⟨?_, fun some => ?_, fun some => ?_, ?_, apart, assigns, compares, ?_⟩
  · rw [cut]
    cases record with
    | nil => exact ⟨fun _ => rfl, fun _ => ⟨_, rfl⟩⟩
    | cons entry more => simp
  · have filled : ¬ record.isEmpty = true := mt List.isEmpty_iff.mp some
    rw [if_neg filled] at cut
    refine ⟨_, _, _, cut, separates_joiner asked, ?_⟩
    refine pieces_clauses ?_ (mt List.map_eq_nil_iff.mp some) (restricts.comparisons named)
    cases Conjunction.ofValue asked <;> decide
  · have clauses := restricts.assignments named
    cases restricts with
    | update allRows filled =>
      exact ⟨_, _, cut, pieces_clauses (by decide) (mt List.map_eq_nil_iff.mp some) clauses⟩
    | delete allRows | select => exact absurd rfl some
  · rw [held]
    simp [Entries.keys, travelling, Function.comp_def]
  · exact restricts.recalled named written assigns compares

/-- A statement is refused exactly where it is restricted by nothing and this was not asked for; any other is
written so that what it assigns and what it compares can be read in it. -/
theorem restricted_read_back (restricts : Restricts table asked record params allRows opening command)
    (named : command.Named) (distinct : Distinct params) (distinctToo : Distinct record) :
    (record = [] ∧ allRows = false → command.write = .error (.unrestricted table)) ∧
      (record ≠ [] ∨ allRows = true →
        ∃ query, command.write = .ok query ∧ Legible table asked params record opening query) := by
  constructor
  · rintro ⟨rfl, rfl⟩
    exact restricts.refused named
  · intro bounded
    obtain ⟨query, written⟩ := restricts.returns named bounded
    exact ⟨query, written, restricts.legible named distinct distinctToo written⟩

/-- A column that is named like the parameter of another, on both sides. -/
theorem restricted_read_back_crossed : ∃ query,
    update (.text "t") [(.text "id", .int 1), (.text "where_id", .int 2)]
      [(.text "id", .int 3), (.text "set_id", .null)] (.ofValue (.text " or ")) false = .ok query ∧
        query.params.keys = ["set_id", "set_where_id", "where_id"] := by
  have accepted : Restricts (.text "t") (.text " or ") [(.text "id", .int 3), (.text "set_id", .null)]
      [(.text "id", .int 1), (.text "where_id", .int 2)] false restrictionOpening _ :=
    .update false (List.cons_ne_nil _ _)
  obtain ⟨query, written, legible⟩ :=
    (restricted_read_back accepted (by decide +kernel) (by decide +kernel) (by decide +kernel)).2
      (.inl (List.cons_ne_nil _ _))
  exact ⟨query, written, legible.keys.trans (by decide +kernel)⟩

end SqlGateway.Query
