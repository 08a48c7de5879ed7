import SqlGateway.Proofs.Scanning
import SqlGateway.Toml.Document

/-!
What is read of a document and what is given up. In a document that is read, every table gives each of its keys
once. A text that is given up although it is not malformed has an integer of too many digits, or opens more arrays
and inline tables than there is room for.
-/

namespace SqlGateway.Toml

variable {cs rest : List Char} {room : Nat}

/-- Every table in it, at any depth, gives each of its keys once. -/
inductive Keyed : Toml → Prop
  | plain {item : Toml} : isContainer item = false → Keyed item
  | array {items : List Toml} : (∀ item ∈ items, Keyed item) → Keyed (.array items)
  | table {held : Table} : (Entries.keys held).Nodup → (∀ entry ∈ held, Keyed entry.2) → Keyed (.table held)

theorem keyed_nil : Keyed (.table []) := .table List.nodup_nil nofun

theorem Keyed.items {items : List Toml} (keyed : Keyed (.array items)) : ∀ item ∈ items, Keyed item := by
  cases keyed with
  | plain plain => cases plain
  | array each => exact each

theorem Keyed.nodup {held : Table} (keyed : Keyed (.table held)) : (Entries.keys held).Nodup := by
  cases keyed with
  | plain plain => cases plain
  | table distinct _ => exact distinct

theorem Keyed.entry {held : Table} (keyed : Keyed (.table held)) : ∀ entry ∈ held, Keyed entry.2 := by
  cases keyed with
  | plain plain => cases plain
  | table _ each => exact each

theorem Keyed.get {held : Table} (keyed : Keyed (.table held)) {key : String} {item : Toml}
    (found : Entries.get? key held = some item) : Keyed item :=
  keyed.entry (key, item) (Entries.mem_of_get? found)

theorem Keyed.put {held : Table} (keyed : Keyed (.table held)) (key : String) {item : Toml} (fresh : Keyed item) :
    Keyed (.table (Entries.put key item held)) := by
  refine .table (Entries.nodup_keys_put held key item keyed.nodup) fun entry member => ?_
  rcases Entries.mem_of_mem_put held member with rfl | early
  · exact fresh
  · exact keyed.entry entry early

def Keeping (change : Table → Option Table) : Prop :=
  ∀ held changed, Keyed (.table held) → change held = some changed → Keyed (.table changed)

theorem keeping_enter {key : String} {item : Toml} (keyed : Keyed item) : Keeping (enter key item) := by
  intro held changed before entered
  unfold enter at entered
  split at entered
  · cases entered
    exact before.put key keyed
  · cases entered

theorem keeping_extend (key : String) : Keeping (extend key) := by
  intro held changed before extended
  unfold extend at extended
  split at extended
  · cases extended
    exact before.put key (.array (by simpa using keyed_nil))
  · rename_i items found
    cases extended
    refine before.put key (.array fun item member => ?_)
    rcases List.mem_append.mp member with early | last
    · exact (before.get found).items item early
    · rw [List.mem_singleton.mp last]
      exact keyed_nil
  · cases extended

theorem keeping_within {throughArrays : Bool} {path : Path} {change : Table → Option Table}
    (keeping : Keeping change) : Keeping (within throughArrays path change) := by
  induction path with
  | nil => exact keeping
  | cons key path ih =>
    intro held changed before changing
    simp only [within] at changing
    split at changing
    · obtain ⟨inside, made, rfl⟩ := Option.map_eq_some_iff.mp changing
      exact before.put key (ih _ _ keyed_nil made)
    · rename_i found there
      obtain ⟨inside, made, rfl⟩ := Option.map_eq_some_iff.mp changing
      exact before.put key (ih _ _ (before.get there) made)
    · rename_i items there
      split at changing
      · rename_i found last
        obtain ⟨inside, made, rfl⟩ := Option.map_eq_some_iff.mp changing
        have each := (before.get there).items
        refine before.put key (.array fun item member => ?_)
        rcases List.mem_append.mp member with early | final
        · exact each item ((List.dropLast_sublist items).subset early)
        · rw [List.mem_singleton.mp final]
          exact ih _ _ (each _ (List.mem_of_getLast? last)) made
      · cases changing
    · cases changing

/-- An item stands at a path of keys, of which all but the last lead to tables. -/
inductive Stands : Path → Toml → Table → Prop
  | here {key : String} {item : Toml} {held : Table} : (key, item) ∈ held → Stands [key] item held
  | inside {key : String} {path : Path} {item : Toml} {inner held : Table} :
    (key, .table inner) ∈ held → Stands path item inner → Stands (key :: path) item held

namespace Keyed

variable {held : Table} (keyed : Keyed (.table held)) {key : String} {item : Toml}

include keyed

theorem get_iff : Entries.get? key held = some item ↔ (key, item) ∈ held :=
  Entries.get?_eq_some_iff held keyed.nodup

theorem stands_here : Stands [key] item held ↔ Entries.get? key held = some item := by
  rw [keyed.get_iff]
  refine ⟨fun stands => ?_, .here⟩
  cases stands with
  | here member => exact member
  | inside _ nowhere => cases nowhere

theorem stands_below {next : String} {path : Path} : Stands (key :: next :: path) item held ↔
    ∃ inner, Entries.get? key held = some (.table inner) ∧ Stands (next :: path) item inner := by
  constructor
  · intro stands
    cases stands with
    | inside member later => exact ⟨_, keyed.get_iff.mpr member, later⟩
  · rintro ⟨inner, found, later⟩
    exact .inside (Entries.mem_of_get? found) later

end Keyed

theorem Stands.unique {path : Path} {first second : Toml} {held : Table} (keyed : Keyed (.table held))
    (one : Stands path first held) (other : Stands path second held) : first = second := by
  induction one with
  | here member =>
    have found := keyed.stands_here.mp other
    rw [keyed.get_iff.mpr member] at found
    exact Option.some.inj found
  | @inside key path item inner held member later ih =>
    cases path with
    | nil => cases later
    | cons next path =>
      obtain ⟨found, there, otherLater⟩ := keyed.stands_below.mp other
      have same := keyed.get_iff.mpr member
      rw [same] at there
      cases there
      exact ih (keyed.get same) otherLater

theorem joinLineBreaks_sublist (cs : List Char) : (joinLineBreaks cs).Sublist cs := by
  fun_induction joinLineBreaks cs with
  | case1 rest ih => exact (ih.cons_cons '\n').cons '\r'
  | case2 c rest _ ih => exact ih.cons_cons c
  | case3 => exact List.Sublist.refl _

theorem prefix_of_joinLineBreaks {row : List Char} (unbroken : '\n' ∉ row) (begins : row <+: joinLineBreaks cs) :
    row <+: cs := by
  induction row generalizing cs with
  | nil => exact List.nil_prefix
  | cons first more ih =>
    have parts : '\n' ≠ first ∧ '\n' ∉ more := by simpa using unbroken
    unfold joinLineBreaks at begins
    split at begins
    · exact absurd (List.cons_prefix_cons.mp begins).1 parts.1.symm
    · obtain ⟨rfl, later⟩ := List.cons_prefix_cons.mp begins
      exact List.cons_prefix_cons.mpr ⟨rfl, ih parts.2 later⟩
    · exact absurd begins (by simp)

theorem suffix_of_joinLineBreaks (left : rest <:+ joinLineBreaks cs) :
    ∃ tail, tail <:+ cs ∧ rest = joinLineBreaks tail := by
  fun_induction joinLineBreaks cs with
  | case1 after ih =>
    rcases List.suffix_cons_iff.mp left with rfl | later
    · exact ⟨_, List.suffix_rfl, (joinLineBreaks.eq_1 after).symm⟩
    · obtain ⟨tail, inside, same⟩ := ih later
      exact ⟨tail, inside.trans (List.suffix_append ['\r', '\n'] after), same⟩
  | case2 c after apart ih =>
    rcases List.suffix_cons_iff.mp left with rfl | later
    · exact ⟨c :: after, List.suffix_rfl, by rw [joinLineBreaks.eq_2 c after apart]⟩
    · obtain ⟨tail, inside, same⟩ := ih later
      exact ⟨tail, inside.trans (List.suffix_cons _ _), same⟩
  | case3 => exact ⟨[], List.suffix_rfl, List.suffix_nil.mp left⟩

theorem infix_of_joinLineBreaks {row : List Char} (unbroken : '\n' ∉ row) (inside : row <:+: joinLineBreaks cs) :
    row <:+: cs := by
  obtain ⟨rest, begins, left⟩ := List.infix_iff_prefix_suffix.mp inside
  obtain ⟨tail, within, rfl⟩ := suffix_of_joinLineBreaks left
  exact (prefix_of_joinLineBreaks unbroken begins).isInfix.trans within.isInfix

variable [Stack]

theorem weight_mono (left : rest.Sublist cs) : weight rest ≤ weight cs :=
  Nat.add_le_add_right (Nat.add_le_add (Nat.mul_le_mul_left _ (left.count_le '['))
    (Nat.mul_le_mul_left _ (left.count_le '{'))) _

theorem most_le_weight (cs : List Char) : Stack.most ≤ weight cs := Nat.le_add_left _ _

theorem weight_array (rest : List Char) : weight ('[' :: rest) = Stack.array + weight rest := by
  rw [weight, weight, List.count_cons_self, List.count_cons_of_ne (by decide), Nat.mul_succ]
  omega

theorem weight_table (rest : List Char) : weight ('{' :: rest) = Stack.table + weight rest := by
  rw [weight, weight, List.count_cons_self, List.count_cons_of_ne (by decide), Nat.mul_succ]
  omega

theorem GivenUp.mono {problem : Problem} (up : GivenUp room rest problem) (left : rest <:+ cs) :
    GivenUp room cs problem := by
  cases up with
  | malformed => exact .malformed
  | tooManyDigits long => exact .tooManyDigits (long.mono left.isInfix)
  | tooDeep heavy => exact .tooDeep (Nat.lt_of_lt_of_le heavy (weight_mono left.sublist))

theorem GivenUp.inside {share : Nat} {problem : Problem} (up : GivenUp (room - share) rest problem)
    (left : rest <:+ cs) (opened : share + weight rest ≤ weight cs) : GivenUp room cs problem := by
  cases up with
  | malformed => exact .malformed
  | tooManyDigits long => exact .tooManyDigits (long.mono left.isInfix)
  | tooDeep heavy => exact .tooDeep (by omega)

theorem answers_of_suffix {α : Type} {returned : α → Prop} {result : Except Problem α}
    (either : EitherWay returned (GivenUp room rest) result) (left : rest <:+ cs) :
    EitherWay returned (GivenUp room cs) result :=
  either.mono (fun _ => id) fun _ up => up.mono left

theorem ofOption_answers {α : Type} {returned : α → Prop} {read? : Option α}
    (found : ∀ read, read? = some read → returned read) :
    EitherWay returned (GivenUp room cs) (ofOption read?) := by
  cases read? with
  | none => exact GivenUp.malformed
  | some read => exact found read rfl

def Reads {α : Type} (room : Nat) (cs : List Char) (returned : α → Prop) (result : Except Problem (α × List Char)) :
    Prop :=
  EitherWay (fun read => returned read.1 ∧ read.2 <:+ cs) (GivenUp room cs) result

theorem keyPart_reads (room : Nat) (cs : List Char) : Reads room cs (fun _ => True) (keyPart cs) := by
  unfold keyPart
  split
  · refine ofOption_answers fun read found => ⟨trivial, ?_⟩
    obtain ⟨line, lineRead, rfl⟩ := Option.map_eq_some_iff.mp found
    exact (suffix_of_basicLine lineRead).trans (List.suffix_cons _ _)
  · refine ofOption_answers fun read found => ⟨trivial, ?_⟩
    obtain ⟨line, lineRead, rfl⟩ := Option.map_eq_some_iff.mp found
    exact (suffix_of_literalLine lineRead).trans (List.suffix_cons _ _)
  · dsimp only
    split
    · exact GivenUp.malformed
    · exact ⟨trivial, List.dropWhile_suffix _⟩

theorem keyPath_reads (steps room : Nat) (cs : List Char) : Reads room cs (fun _ => True) (keyPath steps cs) := by
  induction steps generalizing cs with
  | zero => exact GivenUp.malformed
  | succ steps ih =>
    unfold keyPath
    refine (keyPart_reads room cs).bind ?_
    rintro ⟨part, rest⟩ ⟨_, left⟩
    dsimp only at left ⊢
    have gap : skipGap rest <:+ cs := (List.dropWhile_suffix _).trans left
    split
    · rename_i after point
      have behind : skipGap after <:+ cs :=
        (List.dropWhile_suffix _).trans ((List.suffix_cons _ _).trans (point ▸ gap))
      refine (answers_of_suffix (ih (skipGap after)) behind).bind ?_
      rintro more ⟨_, tail⟩
      exact ⟨trivial, tail.trans behind⟩
    · exact ⟨trivial, gap⟩

theorem skipAll_answers (room : Nat) (cs : List Char) :
    EitherWay (fun rest => rest <:+ cs) (GivenUp room cs) (skipAll cs) := by
  fun_induction skipAll cs with
  | case1 => exact GivenUp.malformed
  | case2 cs rest found shorter printable ih =>
    have gap : '#' :: rest <:+ cs := found ▸ List.dropWhile_suffix _
    have line : rest.dropWhile (· != '\n') <:+ cs :=
      (List.dropWhile_suffix _).trans ((List.suffix_cons _ _).trans gap)
    exact (answers_of_suffix ih line).mono (fun _ tail => tail.trans line) fun _ => id
  | case3 cs => exact List.dropWhile_suffix _

theorem inner_answers {share : Nat} (room : Nat) (opened : share + weight rest ≤ weight cs) :
    EitherWay (fun inside => inside = room - share) (GivenUp room cs) (inner room share) := by
  unfold inner
  split
  · exact GivenUp.tooDeep (by omega)
  · rfl

structure Reading (steps : Nat) : Prop where
  value : ∀ room cs, Reads room cs Keyed (value steps room cs)
  items : ∀ room cs, Reads room cs (fun items => ∀ item ∈ items, Keyed item) (arrayItems steps room cs)
  entries : ∀ room closed held cs, Keyed (.table held) →
    Reads room cs (fun held => Keyed (.table held)) (inlineEntries steps room closed held cs)
  keyValue : ∀ room cs, EitherWay (fun read => Keyed read.2.1 ∧ read.2.2 <:+ cs) (GivenUp room cs)
    (keyValue steps room cs)

theorem reading_zero : Reading 0 where
  value _ _ := by rw [Toml.value]; exact GivenUp.malformed
  items _ _ := by rw [arrayItems]; exact GivenUp.malformed
  entries _ _ _ _ _ := by rw [inlineEntries]; exact GivenUp.malformed
  keyValue _ _ := by rw [Toml.keyValue]; exact GivenUp.malformed

namespace Reading

variable {steps : Nat} (reading : Reading steps)

include reading

theorem array (room : Nat) (rest : List Char) : Reads room ('[' :: rest) Keyed (do
    let room ← inner room Stack.array
    let (items, rest) ← arrayItems steps room (← skipAll rest)
    return (.array items, rest)) := by
  have opened : Stack.array + weight rest ≤ weight ('[' :: rest) := Nat.le_of_eq (weight_array rest).symm
  refine (inner_answers room opened).bind ?_
  rintro _ rfl
  refine (answers_of_suffix (skipAll_answers room rest) (List.suffix_cons _ _)).bind fun start left => ?_
  have heavier : Stack.array + weight start ≤ weight ('[' :: rest) :=
    Nat.le_trans (Nat.add_le_add_left (weight_mono left.sublist) _) opened
  have items := (reading.items (room - Stack.array) start).mono (fun _ => id)
    fun _ up => up.inside (left.trans (List.suffix_cons _ _)) heavier
  refine items.bind ?_
  rintro ⟨items, after⟩ ⟨each, tail⟩
  exact ⟨.array each, tail.trans (left.trans (List.suffix_cons _ _))⟩

theorem table (room : Nat) {gap : List Char} (left : gap <:+ rest) : Reads room ('{' :: rest) Keyed (do
    let room ← inner room Stack.table
    let (held, rest) ← inlineEntries steps room [] [] gap
    return (.table held, rest)) := by
  have opened : Stack.table + weight gap ≤ weight ('{' :: rest) :=
    Nat.le_trans (Nat.add_le_add_left (weight_mono left.sublist) _) (Nat.le_of_eq (weight_table rest).symm)
  refine (inner_answers room opened).bind ?_
  rintro _ rfl
  have entries := (reading.entries (room - Stack.table) [] [] gap keyed_nil).mono (fun _ => id)
    fun _ up => up.inside (left.trans (List.suffix_cons _ _)) opened
  refine entries.bind ?_
  rintro ⟨held, after⟩ ⟨keyed, tail⟩
  exact ⟨keyed, tail.trans (left.trans (List.suffix_cons _ _))⟩

theorem value_succ (room : Nat) (cs : List Char) : Reads room cs Keyed (Toml.value (steps + 1) room cs) := by
  unfold Toml.value
  split
  · rename_i scarce
    exact GivenUp.tooDeep (Nat.lt_of_lt_of_le scarce (Nat.le_trans (Stack.own_le cs) (most_le_weight cs)))
  split
  · rename_i found
    refine ofOption_answers fun read same => ?_
    obtain ⟨body, rfl, rfl⟩ := Option.map_eq_some_iff.mp same
    exact ⟨.plain rfl, suffix_of_quotedText found⟩
  split
  · exact ⟨.plain rfl, List.suffix_append ['t', 'r', 'u', 'e'] _⟩
  · exact ⟨.plain rfl, List.suffix_append ['f', 'a', 'l', 's', 'e'] _⟩
  · exact reading.array room _
  · rename_i rest _ _
    have gap : skipGap rest <:+ rest := List.dropWhile_suffix _
    split
    · rename_i after closing
      exact ⟨keyed_nil, (List.suffix_cons _ _).trans ((closing ▸ gap).trans (List.suffix_cons _ _))⟩
    · exact reading.table room gap
  · refine (scalar_answers room cs).mono ?_ fun _ => id
    rintro _ ⟨plain, left⟩
    exact ⟨.plain plain, left⟩

theorem items_succ (room : Nat) (cs : List Char) :
    Reads room cs (fun items => ∀ item ∈ items, Keyed item) (arrayItems (steps + 1) room cs) := by
  unfold arrayItems
  split
  · exact GivenUp.malformed
  · exact ⟨fun _ nothing => absurd nothing List.not_mem_nil, List.suffix_cons _ _⟩
  rename_i room cs _ _ _ _ same _
  cases same
  refine (reading.value room _).bind ?_
  rintro ⟨first, rest⟩ ⟨keyed, left⟩
  refine (answers_of_suffix (skipAll_answers room rest) left).bind fun start skipped => ?_
  have begun := skipped.trans left
  split
  · exact ⟨by simpa using keyed, (List.suffix_cons _ _).trans begun⟩
  · rename_i after
    have behind := (List.suffix_cons _ _).trans begun
    refine (answers_of_suffix (skipAll_answers room after) behind).bind fun next nextLeft => ?_
    have later := nextLeft.trans behind
    refine (answers_of_suffix (reading.items room next) later).bind ?_
    rintro ⟨more, after⟩ ⟨each, tail⟩
    exact ⟨List.forall_mem_cons.mpr ⟨keyed, each⟩, tail.trans later⟩
  · exact GivenUp.malformed

theorem entries_succ (room : Nat) (closed : List Path) {held : Table} (cs : List Char) (keyed : Keyed (.table held)) :
    Reads room cs (fun held => Keyed (.table held)) (inlineEntries (steps + 1) room closed held cs) := by
  unfold inlineEntries
  refine (reading.keyValue room cs).bind ?_
  rintro ⟨path, item, rest⟩ ⟨itemKeyed, left⟩
  dsimp only at itemKeyed left ⊢
  split
  · exact GivenUp.malformed
  refine (ofOption_answers fun changed =>
    keeping_within (keeping_enter itemKeyed) held changed keyed).bind fun changed changedKeyed => ?_
  have gap : skipGap rest <:+ cs := (List.dropWhile_suffix _).trans left
  split
  · rename_i after closing
    exact ⟨changedKeyed, (List.suffix_cons _ _).trans (closing ▸ gap)⟩
  · rename_i after comma
    have behind : skipGap after <:+ cs :=
      (List.dropWhile_suffix _).trans ((List.suffix_cons _ _).trans (comma ▸ gap))
    refine (answers_of_suffix (reading.entries room _ changed (skipGap after) changedKeyed) behind).mono ?_ fun _ => id
    rintro _ ⟨more, tail⟩
    exact ⟨more, tail.trans behind⟩
  · exact GivenUp.malformed

theorem keyValue_succ (room : Nat) (cs : List Char) :
    EitherWay (fun read => Keyed read.2.1 ∧ read.2.2 <:+ cs) (GivenUp room cs)
      (Toml.keyValue (steps + 1) room cs) := by
  unfold Toml.keyValue
  refine (keyPath_reads (cs.length + 1) room cs).bind ?_
  rintro ⟨path, rest⟩ ⟨_, left⟩
  dsimp only at left ⊢
  split
  · rename_i after
    have behind : skipGap after <:+ cs := (List.dropWhile_suffix _).trans ((List.suffix_cons _ _).trans left)
    have value := answers_of_suffix (reading.value room (skipGap after)) behind
    refine value.bind ?_
    rintro ⟨item, tail⟩ ⟨keyed, further⟩
    exact ⟨keyed, further.trans behind⟩
  · exact GivenUp.malformed

theorem succ : Reading (steps + 1) where
  value := reading.value_succ
  items := reading.items_succ
  entries room closed _ cs := reading.entries_succ room closed cs
  keyValue := reading.keyValue_succ

end Reading

theorem reads (steps : Nat) : Reading steps := by
  induction steps with
  | zero => exact reading_zero
  | succ steps ih => exact ih.succ

namespace Outline

variable {outline : Outline}

theorem declareTable_answers (keyed : Keyed (.table outline.root)) (path : Path) :
    EitherWay (fun outline => Keyed (.table outline.root)) (GivenUp room cs) (outline.declareTable path) := by
  unfold declareTable
  split
  · exact GivenUp.malformed
  · have empty : Keeping some := fun _ _ before same => Option.some.inj same ▸ before
    exact (ofOption_answers fun root => keeping_within empty outline.root root keyed).bind fun _ => id

theorem declareItem_answers (keyed : Keyed (.table outline.root)) (path : Path) :
    EitherWay (fun outline => Keyed (.table outline.root)) (GivenUp room cs) (outline.declareItem path) := by
  unfold declareItem
  split
  · exact GivenUp.malformed
  · exact (ofOption_answers fun root => keeping_within (keeping_extend _) outline.root root keyed).bind fun _ => id

theorem addEntry_answers (keyed : Keyed (.table outline.root)) (path : Path) {item : Toml} (itemKeyed : Keyed item) :
    EitherWay (fun outline => Keyed (.table outline.root)) (GivenUp room cs) (outline.addEntry path item) := by
  unfold addEntry
  dsimp only
  split
  · exact GivenUp.malformed
  · exact (ofOption_answers fun root =>
      keeping_within (keeping_enter itemKeyed) outline.root root keyed).bind fun _ => id

end Outline

theorem headerPath_reads (room : Nat) (cs : List Char) : Reads room cs (fun _ => True) (headerPath cs) := by
  have gap : skipGap cs <:+ cs := List.dropWhile_suffix _
  refine (answers_of_suffix (keyPath_reads (cs.length + 1) room (skipGap cs)) gap).mono ?_ fun _ => id
  rintro _ ⟨_, left⟩
  exact ⟨trivial, left.trans gap⟩

theorem skipComment_answers (room : Nat) (cs : List Char) :
    EitherWay (fun rest => rest <:+ cs) (GivenUp room cs) (skipComment cs) := by
  unfold skipComment
  split
  · split
    · exact GivenUp.malformed
    · exact (List.dropWhile_suffix _).trans (List.suffix_cons _ _)
  · exact List.suffix_rfl

theorem statement_reads {outline : Outline} (keyed : Keyed (.table outline.root)) (cs : List Char) :
    Reads Stack.room cs (fun outline => Keyed (.table outline.root)) (statement outline cs) := by
  have settled : Keyed (.table outline.settle.root) := keyed
  unfold statement
  split
  · rename_i rest
    have opened : rest <:+ '[' :: '[' :: rest := List.suffix_append ['[', '['] rest
    refine (answers_of_suffix (headerPath_reads Stack.room rest) opened).bind ?_
    rintro ⟨path, after⟩ ⟨_, left⟩
    dsimp only at left ⊢
    refine (Outline.declareItem_answers settled path).bind fun declared declaredKeyed => ?_
    split
    · exact ⟨declaredKeyed, (List.dropWhile_suffix _).trans
        ((List.suffix_append [']', ']'] _).trans (left.trans opened))⟩
    · exact GivenUp.malformed
  · rename_i rest _
    have opened : rest <:+ '[' :: rest := List.suffix_cons _ _
    refine (answers_of_suffix (headerPath_reads Stack.room rest) opened).bind ?_
    rintro ⟨path, after⟩ ⟨_, left⟩
    dsimp only at left ⊢
    refine (Outline.declareTable_answers settled path).bind fun declared declaredKeyed => ?_
    split
    · exact ⟨declaredKeyed, (List.dropWhile_suffix _).trans ((List.suffix_cons _ _).trans (left.trans opened))⟩
    · exact GivenUp.malformed
  · exact ⟨keyed, List.suffix_rfl⟩
  · split
    · refine ((reads _).keyValue Stack.room _).bind ?_
      rintro ⟨path, item, rest⟩ ⟨itemKeyed, left⟩
      exact (Outline.addEntry_answers keyed path itemKeyed).bind fun added addedKeyed =>
        ⟨addedKeyed, (List.dropWhile_suffix _).trans left⟩
    · exact GivenUp.malformed
  · exact ⟨keyed, List.suffix_rfl⟩

theorem statements_answers (steps : Nat) {outline : Outline} (keyed : Keyed (.table outline.root)) (cs : List Char) :
    EitherWay (fun outline => Keyed (.table outline.root)) (GivenUp Stack.room cs) (statements steps outline cs) := by
  induction steps generalizing outline cs with
  | zero => exact GivenUp.malformed
  | succ steps ih =>
    have gap : skipGap cs <:+ cs := List.dropWhile_suffix _
    unfold statements
    split
    · exact keyed
    · rename_i rest line
      exact answers_of_suffix (ih keyed rest) ((List.suffix_cons _ _).trans (line ▸ gap))
    · refine (answers_of_suffix (statement_reads keyed _) gap).bind ?_
      rintro ⟨next, rest⟩ ⟨nextKeyed, left⟩
      have behind := left.trans gap
      refine (answers_of_suffix (skipComment_answers Stack.room rest) behind).bind fun after tail => ?_
      split
      · exact nextKeyed
      · exact answers_of_suffix (ih nextKeyed _) ((List.suffix_cons _ _).trans (tail.trans behind))
      · exact GivenUp.malformed

theorem GivenUp.of_joinLineBreaks {problem : Problem} (up : GivenUp room (joinLineBreaks cs) problem) :
    GivenUp room cs problem := by
  cases up with
  | malformed => exact .malformed
  | tooManyDigits long =>
    obtain ⟨row, inside, all, many⟩ := long
    have unbroken : '\n' ∉ row := fun broken => absurd (all '\n' broken) (by decide)
    exact .tooManyDigits ⟨row, infix_of_joinLineBreaks unbroken inside, all, many⟩
  | tooDeep heavy => exact .tooDeep (Nat.lt_of_lt_of_le heavy (weight_mono (joinLineBreaks_sublist cs)))

/-- A text is read as tables that give each key once, or it is given up for one of its problems. -/
theorem parse_answers (text : String) :
    EitherWay (fun root => Keyed (.table root)) (GivenUp Stack.room text.toList) (parse text) :=
  have begun : Keyed (.table ({} : Outline).root) := keyed_nil
  have answered := statements_answers ((joinLineBreaks text.toList).length + 1) begun (joinLineBreaks text.toList)
  (answered.mono (fun _ => id) fun _ up => up.of_joinLineBreaks).map fun _ => id

end SqlGateway.Toml
