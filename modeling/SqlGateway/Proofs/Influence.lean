import SqlGateway.Proofs.Tabulated

/-!
What a statement is written from. Two calls that give the same names, rows of the same columns, and nulls in
the same places are written alike: they fail alike, or they give one text and the same names of parameters,
whatever values are given. The conjunction counts for no more than whether it is `or`.
-/

namespace SqlGateway

inductive Parallel {ε α β : Type} (related : α → β → Prop) : Except ε α → Except ε β → Prop
  | failed (failure : ε) : Parallel related (.error failure) (.error failure)
  | returned {x : α} {y : β} : related x y → Parallel related (.ok x) (.ok y)

namespace Parallel

variable {ε α β γ δ : Type} {related : α → β → Prop} {after : γ → δ → Prop}

theorem same (result : Except ε α) : Parallel (· = ·) result result := by
  cases result with
  | error failure => exact .failed failure
  | ok value => exact .returned rfl

theorem bind {first : Except ε α} {second : Except ε β} {next : α → Except ε γ} {nextToo : β → Except ε δ}
    (alike : Parallel related first second)
    (later : ∀ x y, related x y → Parallel after (next x) (nextToo y)) :
    Parallel after (first >>= next) (second >>= nextToo) := by
  cases alike with
  | failed failure => exact .failed failure
  | returned both => exact later _ _ both

theorem map {first : Except ε α} {second : Except ε β} {f : α → γ} {g : β → δ}
    (alike : Parallel related first second) (later : ∀ x y, related x y → after (f x) (g y)) :
    Parallel after (first.map f) (second.map g) := by
  cases alike with
  | failed failure => exact .failed failure
  | returned both => exact .returned (later _ _ both)

theorem mapError {ζ : Type} {first : Except ε α} {second : Except ε β} (alike : Parallel related first second)
    (f : ε → ζ) : Parallel related (first.mapError f) (second.mapError f) := by
  cases alike with
  | failed failure => exact .failed (f failure)
  | returned both => exact .returned both

theorem mapM {f : α → Except ε γ} {g : β → Except ε δ} {xs : List α} {ys : List β}
    (along : List.Forall₂ related xs ys) (each : ∀ x y, related x y → Parallel after (f x) (g y)) :
    Parallel (List.Forall₂ after) (xs.mapM f) (ys.mapM g) := by
  induction along with
  | nil => exact .returned .nil
  | cons first more ih =>
    rw [List.mapM_cons, List.mapM_cons]
    refine (each _ _ first).bind fun head headToo heads => ih.bind fun tail tailToo tails => ?_
    exact .returned (.cons heads tails)

end Parallel

namespace Query

/-- The text and the names of the parameters, without the values. -/
def Outlined (first second : Query) : Prop :=
  first.sql = second.sql ∧ first.params.keys = second.params.keys

/-- Entries of one column, null in both or in neither. -/
def SameEntry (first second : Value × Value) : Prop :=
  first.1 = second.1 ∧ first.2.isNull = second.2.isNull

/-- Tables of the same columns: the first rows have them in the same order, the others in any. -/
inductive SameTable : List Record → List Record → Prop
  | none : SameTable [] []
  | rows {first second : Record} {more moreToo : List Record} : first.keys = second.keys →
      List.Forall₂ (fun record other => ∀ column, column ∈ Entries.keys record ↔ column ∈ Entries.keys other)
        more moreToo → SameTable (first :: more) (second :: moreToo)

def Outside (asked : Value) : Prop :=
  ∀ text, asked = .text text → Conjunction.upper (Text.trim text) ≠ "AND" ∧
    Conjunction.upper (Text.trim text) ≠ "OR"

/-- The same conjunction but for blanks and case, or none in both. -/
inductive SameConjunction : Value → Value → Prop
  | form {text other : String} : Conjunction.upper (Text.trim text) = Conjunction.upper (Text.trim other) →
      SameConjunction (.text text) (.text other)
  | outside {asked other : Value} : Outside asked → Outside other → SameConjunction asked other

/-- Two calls of one kind that differ in no more than their values and in how the conjunction is spelled. -/
inductive Alike : Command → Command → Prop
  | insert {input other : Value} {many : Bool} {records others : List Record} (table primaryKey : Value)
      (upsert : Bool) : Gives input many records → Gives other many others → SameTable records others →
      Alike (.insert table input primaryKey upsert) (.insert table other primaryKey upsert)
  | update {params others record recordToo : Record} {asked other : Value} (table : Value) (allRows : Bool) :
      params.keys = others.keys → List.Forall₂ SameEntry record recordToo → SameConjunction asked other →
      Alike (.update table params record (.ofValue asked) allRows)
        (.update table others recordToo (.ofValue other) allRows)
  | delete {record recordToo : Record} {asked other : Value} (table : Value) (allRows : Bool) :
      List.Forall₂ SameEntry record recordToo → SameConjunction asked other →
      Alike (.delete table record (.ofValue asked) allRows) (.delete table recordToo (.ofValue other) allRows)
  | select {record recordToo : Record} {asked other : Value} (table : Value) :
      List.Forall₂ SameEntry record recordToo → SameConjunction asked other →
      Alike (.select table record (.ofValue asked)) (.select table recordToo (.ofValue other))

def Command.joinedBy (asked : Value) : Command → Command
  | .insert table input primaryKey upsert => .insert table input primaryKey upsert
  | .update table params record _ allRows => .update table params record (.ofValue asked) allRows
  | .delete table record _ allRows => .delete table record (.ofValue asked) allRows
  | .select table record _ => .select table record (.ofValue asked)

theorem Outside.and {asked : Value} (outside : Outside asked) : Conjunction.ofValue asked = .and := by
  unfold Conjunction.ofValue
  split
  · next text => exact if_neg (outside text rfl).2
  · rfl

theorem SameConjunction.ofValue {asked other : Value} (same : SameConjunction asked other) :
    Conjunction.ofValue asked = Conjunction.ofValue other := by
  cases same with
  | form upper => rw [Conjunction.ofValue, Conjunction.ofValue, upper]
  | outside first second => rw [first.and, second.and]

theorem isEmpty_of_forall {record recordToo : Record} (along : List.Forall₂ SameEntry record recordToo) :
    record.isEmpty = recordToo.isEmpty := by
  cases along <;> rfl

def SameComparison (first second : Comparison) : Prop :=
  first.text = second.text ∧ first.param.map Prod.fst = second.param.map Prod.fst

theorem comparison_parallel (opening : String) {entry other : Value × Value} (same : SameEntry entry other) :
    Parallel SameComparison (Comparison.ofEntry opening entry) (Comparison.ofEntry opening other) := by
  obtain ⟨columns, nulls⟩ := same
  unfold Comparison.ofEntry
  rw [columns]
  refine (Parallel.same _).bind fun column _ same => ?_
  subst same
  refine .returned ?_
  rw [nulls]
  split
  · exact ⟨rfl, rfl⟩
  · exact ⟨rfl, rfl⟩

def SamePart (first second : String × Params) : Prop :=
  first.1 = second.1 ∧ first.2.keys = second.2.keys

theorem keys_ofList_congr {pairs others : Params} (same : pairs.keys = others.keys) :
    (Entries.ofList pairs).keys = (Entries.ofList others).keys := by
  rw [Entries.keys_ofList, Entries.keys_ofList, same]

theorem comparisons_parallel {record recordToo : Record} (along : List.Forall₂ SameEntry record recordToo)
    (conjunction : Conjunction) (opening : String) :
    Parallel SamePart (comparisons record conjunction opening) (comparisons recordToo conjunction opening) := by
  unfold comparisons
  refine (Parallel.mapM along fun _ _ => comparison_parallel opening).bind fun parts others same => ?_
  have texts : parts.map Comparison.text = others.map Comparison.text := by
    induction same with
    | nil => rfl
    | cons first _ ih => rw [List.map_cons, List.map_cons, first.1, ih]
  have names : (parts.filterMap Comparison.param).map Prod.fst = (others.filterMap Comparison.param).map Prod.fst := by
    rw [List.map_filterMap, List.map_filterMap]
    clear texts
    induction same with
    | nil => rfl
    | cons first _ ih => rw [List.filterMap_cons, List.filterMap_cons, first.2, ih]
  refine .returned ⟨?_, keys_ofList_congr names⟩
  rw [texts]

theorem restriction_parallel {record recordToo : Record} (along : List.Forall₂ SameEntry record recordToo)
    (table : Value) (conjunction : Conjunction) (allRows : Bool) (opening : String) :
    Parallel SamePart (restriction table record conjunction allRows opening)
      (restriction table recordToo conjunction allRows opening) := by
  unfold restriction
  rw [isEmpty_of_forall along]
  split
  · split
    · exact .returned ⟨rfl, rfl⟩
    · exact .failed _
  · refine (comparisons_parallel along conjunction opening).map fun part other same => ?_
    exact ⟨congrArg (" WHERE " ++ ·) same.1, same.2⟩

theorem isEmpty_of_keys {first second : Record} (heads : first.keys = second.keys) :
    first.isEmpty = second.isEmpty := by
  have lengths := congrArg List.isEmpty heads
  rwa [Entries.keys, Entries.keys, List.isEmpty_map, List.isEmpty_map] at lengths

theorem setClauses_parallel {params others : Record} (columns : params.keys = others.keys) :
    Parallel (· = ·) (params.mapM setClause) (others.mapM setClause) := by
  have equal : List.Forall₂ (· = ·) (params.map Prod.fst) (others.map Prod.fst) := by
    rw [List.forall₂_eq_eq_eq]
    exact columns
  have along := List.forall₂_map_right_iff.mp (List.forall₂_map_left_iff.mp equal)
  have each : ∀ entry other : Value × Value, entry.1 = other.1 →
      Parallel (· = ·) (setClause entry) (setClause other) := by
    intro entry other same
    rw [setClause, setClause, same]
    exact .same _
  have all := Parallel.mapM along each
  rwa [List.forall₂_eq_eq_eq] at all

theorem update_parallel {params others record recordToo : Record} (columns : params.keys = others.keys)
    (along : List.Forall₂ SameEntry record recordToo) (table : Value) (conjunction : Conjunction)
    (allRows : Bool) : Parallel Outlined (update table params record conjunction allRows)
      (update table others recordToo conjunction allRows) := by
  have names : (setParams params).keys = (setParams others).keys := by
    have named (record : Record) :
        (setParams record).keys = record.keys.map fun column => assignmentOpening ++ column.display := by
      simp [setParams, Entries.keys]
    rw [named, named, columns]
  unfold update
  rw [isEmpty_of_keys columns]
  split
  · exact .failed _
  refine (setClauses_parallel columns).bind fun assignments _ same => ?_
  subst same
  refine (Parallel.same _).bind fun tableSql _ same => ?_
  subst same
  refine (restriction_parallel along table conjunction allRows _).bind fun part other same => ?_
  refine .returned ⟨congrArg (_ ++ ·) same.1, ?_⟩
  rw [Entries.keys_putAll, Entries.keys_putAll, keys_ofList_congr names, same.2]

theorem delete_parallel {record recordToo : Record} (along : List.Forall₂ SameEntry record recordToo)
    (table : Value) (conjunction : Conjunction) (allRows : Bool) :
    Parallel Outlined (delete table record conjunction allRows) (delete table recordToo conjunction allRows) := by
  unfold delete
  refine (restriction_parallel along table conjunction allRows "").bind fun part other same => ?_
  refine (Parallel.same _).bind fun tableSql _ equal => ?_
  subst equal
  exact .returned ⟨congrArg (_ ++ ·) same.1, same.2⟩

theorem select_parallel {record recordToo : Record} (along : List.Forall₂ SameEntry record recordToo)
    (table : Value) (conjunction : Conjunction) :
    Parallel Outlined (select table record conjunction) (select table recordToo conjunction) := by
  unfold select
  refine (restriction_parallel along table conjunction true "").bind fun part other same => ?_
  refine (Parallel.same _).bind fun tableSql _ equal => ?_
  subst equal
  exact .returned ⟨congrArg (_ ++ ·) same.1, same.2⟩

structure SameRows (rows other : Rows) : Prop where
  columns : rows.columns = other.columns
  count : rows.more.length = other.more.length
  many : rows.many = other.many

theorem sameColumns_congr {first second record other : Record} (heads : first.keys = second.keys)
    (members : ∀ column, column ∈ record.keys ↔ column ∈ other.keys) :
    Rows.sameColumns first record = Rows.sameColumns second other := by
  rw [Bool.eq_iff_iff, sameColumns_iff, sameColumns_iff, SameKeys, SameKeys, heads]
  simp only [members]

theorem differing_congr {first second : Record} {more moreToo : List Record} (heads : first.keys = second.keys)
    (along : List.Forall₂ (fun record other => ∀ column, column ∈ Entries.keys record ↔ column ∈ Entries.keys other)
      more moreToo) (row : Nat) : Rows.differing? first row more = Rows.differing? second row moreToo := by
  induction along generalizing row with
  | nil => rfl
  | cons members _ ih =>
    rw [Rows.differing?, Rows.differing?, sameColumns_congr heads members, ih]

theorem ofRecords_parallel {records others : List Record} (same : SameTable records others) :
    Parallel SameRows (Rows.ofRecords records) (Rows.ofRecords others) := by
  cases same with
  | none => exact .failed _
  | rows heads along =>
    rw [Rows.ofRecords, Rows.ofRecords, isEmpty_of_keys heads, differing_congr heads along]
    split
    · exact .failed _
    · split
      · exact .failed _
      · exact .returned ⟨heads, along.length_eq, rfl⟩

theorem ofItems_mapping (records : List Record) : Rows.ofItems (records.map .mapping) = Rows.ofRecords records := by
  rw [Rows.ofItems, mapM_mapping]
  cases records <;> rfl

theorem Gives.ofValue {input : Value} {records : List Record} (gives : Gives input true records) :
    Rows.ofValue input = Rows.ofRecords records := by
  cases gives with
  | list | tuple => exact ofItems_mapping records

theorem ofValue_parallel {input other : Value} {many : Bool} {records others : List Record}
    (gives : Gives input many records) (givesToo : Gives other many others) (same : SameTable records others) :
    Parallel SameRows (Rows.ofValue input) (Rows.ofValue other) := by
  cases many with
  | false =>
    cases gives with | one record =>
    cases givesToo with | one recordToo =>
    cases same with | rows heads along =>
    rw [Rows.ofValue, Rows.ofValue, isEmpty_of_keys heads]
    split
    · exact .failed _
    · exact .returned ⟨heads, rfl, rfl⟩
  | true =>
    rw [gives.ofValue, givesToo.ofValue]
    exact ofRecords_parallel same

theorem SameRows.numbers {rows other : Rows} (same : SameRows rows other) :
    rows.all.zipIdx.map Prod.snd = other.all.zipIdx.map Prod.snd := by
  have lengths : rows.all.length = other.all.length := congrArg (· + 1) same.count
  rw [List.zipIdx_map_snd, List.zipIdx_map_snd, lengths]

theorem SameRows.tuples {rows other : Rows} (same : SameRows rows other) :
    rows.all.zipIdx.map (fun entry => rowTuple rows entry.2) =
      other.all.zipIdx.map fun entry => rowTuple other entry.2 := by
  have each : rowTuple rows = rowTuple other := by
    funext row
    rw [rowTuple, rowTuple, same.columns, same.many]
  have numbers := congrArg (List.map (rowTuple other)) same.numbers
  rw [List.map_map, List.map_map] at numbers
  rw [each]
  exact numbers

theorem keys_rowParams (rows : Rows) :
    Entries.keys (rows.all.zipIdx.flatMap fun entry => rowParams rows entry.2 entry.1) =
      (rows.all.zipIdx.map Prod.snd).flatMap fun row => rows.columns.map (slot rows.many row) := by
  rw [Entries.keys, List.map_flatMap, List.flatMap_map]
  refine congrArg (rows.all.zipIdx.flatMap ·) (funext fun entry => ?_)
  simp [rowParams, Function.comp_def]

theorem SameRows.names {rows other : Rows} (same : SameRows rows other) :
    Entries.keys (rows.all.zipIdx.flatMap fun entry => rowParams rows entry.2 entry.1) =
      Entries.keys (other.all.zipIdx.flatMap fun entry => rowParams other entry.2 entry.1) := by
  rw [keys_rowParams, keys_rowParams, same.numbers, same.columns, same.many]

theorem SameRows.conflict {rows other : Rows} (same : SameRows rows other) (table : String)
    (columns : List (Value × String)) (primaryKey : Value) :
    conflictClause rows table columns primaryKey = conflictClause other table columns primaryKey := by
  have each : assignment rows table = assignment other table := by
    funext column
    rw [assignment, assignment, same.many]
  rw [conflictClause, conflictClause, same.many, each]

theorem insert_parallel {input other : Value} {many : Bool} {records others : List Record}
    (gives : Gives input many records) (givesToo : Gives other many others) (same : SameTable records others)
    (table primaryKey : Value) (upsert : Bool) :
    Parallel Outlined (insert table input primaryKey upsert) (insert table other primaryKey upsert) := by
  unfold insert
  have read := (ofValue_parallel gives givesToo same).mapError Failure.invalidParameters
  refine read.bind fun rows rowsToo same => ?_
  rw [same.columns]
  refine (Parallel.same _).bind fun tableSql _ equal => ?_
  subst equal
  refine (Parallel.same _).bind fun columnSql _ equal => ?_
  subst equal
  have written (clause : String) : Outlined
      ⟨"INSERT INTO " ++ tableSql ++ " (" ++ ",".intercalate columnSql ++ ") VALUES " ++
          ",".intercalate (rows.all.zipIdx.map fun entry => rowTuple rows entry.2) ++ clause,
        Entries.ofList (rows.all.zipIdx.flatMap fun entry => rowParams rows entry.2 entry.1)⟩
      ⟨"INSERT INTO " ++ tableSql ++ " (" ++ ",".intercalate columnSql ++ ") VALUES " ++
          ",".intercalate (rowsToo.all.zipIdx.map fun entry => rowTuple rowsToo entry.2) ++ clause,
        Entries.ofList (rowsToo.all.zipIdx.flatMap fun entry => rowParams rowsToo entry.2 entry.1)⟩ :=
    ⟨by rw [same.tuples], keys_ofList_congr same.names⟩
  cases upsert with
  | true =>
    rw [same.conflict]
    refine (Parallel.same _).bind fun clause _ equal => ?_
    subst equal
    exact .returned (written clause)
  | false => exact .returned (written "")

/-- Calls that are alike are written alike, and a conjunction that names none is `and`. -/
theorem values_uninfluential :
    (∀ command other, Alike command other → Parallel Outlined command.write other.write) ∧
      ∀ asked, Outside asked → ∀ command : Command,
        (command.joinedBy asked).write = (command.joinedBy (.text "AND")).write := by
  constructor
  · intro command other alike
    cases alike with
    | insert table primaryKey upsert gives givesToo same =>
      exact insert_parallel gives givesToo same table primaryKey upsert
    | update table allRows columns along same =>
      rw [same.ofValue]
      exact update_parallel columns along table _ allRows
    | delete table allRows along same =>
      rw [same.ofValue]
      exact delete_parallel along table _ allRows
    | select table along same =>
      rw [same.ofValue]
      exact select_parallel along table _
  · intro asked outside command
    have and : Conjunction.ofValue asked = Conjunction.ofValue (.text "AND") := outside.and.trans (by decide)
    cases command with
    | insert table input primaryKey upsert => rfl
    | update | delete | select => rw [Command.joinedBy, Command.joinedBy, and]

/-- A value that reads like a statement, and conjunctions in other spellings. -/
theorem values_uninfluential_spliced :
    Parallel Outlined
      (update (.text "t") [(.text "a", .int 1)] [(.text "b", .int 2), (.text "c", .null)]
        (.ofValue (.text " or ")) false)
      (update (.text "t") [(.text "a", .null)] [(.text "b", .text "1 OR 1 = 1"), (.text "c", .null)]
        (.ofValue (.text "Or")) false) ∧
    select (.text "t") [(.text "a", .int 1), (.text "b", .int 2)] (.ofValue (.text "OR 1 = 1 OR")) =
      select (.text "t") [(.text "a", .int 1), (.text "b", .int 2)] (.ofValue (.text "AND")) := by
  have outside : Outside (.text "OR 1 = 1 OR") := by
    intro text same
    obtain rfl := Value.text.inj same
    decide
  have alike : Alike
      (.update (.text "t") [(.text "a", .int 1)] [(.text "b", .int 2), (.text "c", .null)]
        (.ofValue (.text " or ")) false)
      (.update (.text "t") [(.text "a", .null)] [(.text "b", .text "1 OR 1 = 1"), (.text "c", .null)]
        (.ofValue (.text "Or")) false) :=
    .update _ _ rfl (.cons ⟨rfl, rfl⟩ (.cons ⟨rfl, rfl⟩ .nil)) (.form (by decide))
  constructor
  · exact values_uninfluential.1 _ _ alike
  · exact values_uninfluential.2 _ outside (.select (.text "t") [(.text "a", .int 1), (.text "b", .int 2)] .and)

end Query

end SqlGateway
