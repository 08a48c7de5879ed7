import SqlGateway.Proofs.Quoting
import SqlGateway.Toml.Document

/-!
Documents of entries and one table. Where every entry stands on a line of its own, under a bare key, the
document is read as exactly these entries, in their order.
-/

namespace SqlGateway.Toml

def isBare (key : String) : Bool := !key.toList.isEmpty && key.toList.all isBareKeyChar

theorem exists_cons_of_bare {key : String} (bare : isBare key = true) :
    ∃ first more, key.toList = first :: more ∧ ∀ c ∈ first :: more, isBareKeyChar c = true := by
  simp only [isBare, Bool.and_eq_true, Bool.not_eq_true', List.all_eq_true] at bare
  cases chars : key.toList with
  | nil =>
    rw [chars] at bare
    cases bare.1
  | cons first more => exact ⟨first, more, rfl, by rw [← chars]; exact bare.2⟩

theorem ne_of_bareKeyChar {c mark : Char} (bare : isBareKeyChar c = true) (other : isBareKeyChar mark = false) :
    c ≠ mark := by
  rintro rfl
  cases bare.symm.trans other

theorem isGap_of_bareKeyChar {c : Char} (bare : isBareKeyChar c = true) : isGap c = false := by
  simp [isGap, ne_of_bareKeyChar bare (by decide : isBareKeyChar ' ' = false),
    ne_of_bareKeyChar bare (by decide : isBareKeyChar '\t' = false)]

theorem keyPart_bare {key : String} (bare : isBare key = true) {mark : Char}
    (stops : isBareKeyChar mark = false) (rest : List Char) :
    keyPart (key.toList ++ mark :: rest) = .ok (key, mark :: rest) := by
  obtain ⟨first, more, chars, all⟩ := exists_cons_of_bare bare
  have front := all first List.mem_cons_self
  have taken : (first :: more ++ mark :: rest).takeWhile isBareKeyChar = first :: more := by
    rw [List.takeWhile_append_of_pos all, List.takeWhile_cons_of_neg (by simp [stops]), List.append_nil]
  have left : (first :: more ++ mark :: rest).dropWhile isBareKeyChar = mark :: rest := by
    rw [List.dropWhile_append_of_pos all, List.dropWhile_cons_of_neg (by simp [stops])]
  rw [chars]
  unfold keyPart
  split
  · next same => exact absurd (List.cons.inj same).1 (ne_of_bareKeyChar front (by decide))
  · next same => exact absurd (List.cons.inj same).1 (ne_of_bareKeyChar front (by decide))
  · rw [taken, left, ← chars]
    dsimp only
    rw [String.ofList_toList, chars, if_neg (by simp)]

theorem keyPath_bare {key : String} (bare : isBare key = true) {mark : Char}
    (stops : isBareKeyChar mark = false) (rest : List Char) (steps : Nat)
    (apart : ∀ after, skipGap (mark :: rest) ≠ '.' :: after) :
    keyPath (steps + 1) (key.toList ++ mark :: rest) = .ok ([key], skipGap (mark :: rest)) := by
  rw [keyPath, keyPart_bare bare stops]
  dsimp only [Bind.bind, Except.bind]
  split
  · next after same => exact absurd same (apart after)
  · rfl

theorem skipGap_of_head {cs : List Char} (visible : ∀ c ∈ cs.head?, isGap c = false) : skipGap cs = cs := by
  cases cs with
  | nil => rfl
  | cons c rest => exact List.dropWhile_cons_of_neg (by simp [visible c rfl])

theorem forall_head_append {holds : Char → Prop} {cs : List Char} {mark : Char} (rest : List Char)
    (start : ∀ c ∈ cs.head?, holds c) (next : holds mark) : ∀ c ∈ (cs ++ mark :: rest).head?, holds c := by
  intro c member
  cases cs with
  | nil =>
    obtain rfl : mark = c := Option.some.inj member
    exact next
  | cons first more => exact start c member

theorem statements_step [Stack] {c : Char} (visible : isGap c = false) (other : c ≠ '\n') {outline : Outline}
    {tail rest : List Char} {result : Except Problem Outline}
    (read : statement outline (c :: tail) = result.map (·, '\n' :: rest)) (steps : Nat) :
    statements (steps + 1) outline (c :: tail) = result >>= fun after => statements steps after rest := by
  have start : skipGap (c :: tail) = c :: tail := List.dropWhile_cons_of_neg (by simp [visible])
  rw [statements, start]
  split
  · next same => cases same
  · next same => exact absurd (List.cons.inj same).1 other
  · rw [read]
    cases result <;> rfl

/-- An entry on a line of its own: its key, its value as it is written, and what that is read as. -/
structure Line where
  key : String
  written : List Char
  item : Toml

namespace Line

def chars (line : Line) : List Char := line.key.toList ++ ' ' :: '=' :: ' ' :: (line.written ++ ['\n'])

def entry (line : Line) : String × Toml := (line.key, line.item)

structure Fit [Stack] (line : Line) : Prop where
  bare : isBare line.key = true
  visible : ∀ c ∈ line.written.head?, isGap c = false
  unbroken : '\r' ∉ line.written
  plain : isContainer line.item = false
  reads : ∀ steps rest,
    value (steps + 1) Stack.room (line.written ++ '\n' :: rest) = .ok (line.item, '\n' :: rest)

variable [Stack] {line : Line}

theorem Fit.chars_append (fit : line.Fit) (rest : List Char) :
    ∃ first tail, line.chars ++ rest = first :: tail ∧ isBareKeyChar first = true := by
  obtain ⟨first, more, key, all⟩ := exists_cons_of_bare fit.bare
  exact ⟨first, _, by rw [chars, key]; rfl, all first List.mem_cons_self⟩

theorem Fit.skipGap (fit : line.Fit) (rest : List Char) :
    skipGap (' ' :: (line.written ++ '\n' :: rest)) = line.written ++ '\n' :: rest := by
  change Toml.skipGap (line.written ++ '\n' :: rest) = _
  exact skipGap_of_head (forall_head_append rest fit.visible rfl)

theorem Fit.keyValue (fit : line.Fit) (steps : Nat) (rest : List Char) :
    keyValue (steps + 2) Stack.room (line.chars ++ rest) = .ok ([line.key], line.item, '\n' :: rest) := by
  have whole : line.chars ++ rest =
      line.key.toList ++ ' ' :: '=' :: ' ' :: (line.written ++ '\n' :: rest) := by simp [chars]
  have path := keyPath_bare fit.bare (by decide : isBareKeyChar ' ' = false)
    ('=' :: ' ' :: (line.written ++ '\n' :: rest)) (line.chars ++ rest).length nofun
  rw [← whole] at path
  rw [Toml.keyValue, path]
  change (value (steps + 1) Stack.room (Toml.skipGap (' ' :: (line.written ++ '\n' :: rest))) >>= fun read =>
    Except.ok ([line.key], read.1, read.2)) = _
  rw [fit.skipGap, fit.reads]
  rfl

theorem Fit.statement (fit : line.Fit) (outline : Outline) (rest : List Char) :
    statement outline (line.chars ++ rest) =
      (outline.addEntry [line.key] line.item).map (·, '\n' :: rest) := by
  obtain ⟨first, tail, whole, bare⟩ := fit.chars_append rest
  have start : isKeyStart first = true := by simp [isKeyStart, bare]
  have read := fit.keyValue (2 * (line.chars ++ rest).length + 1) rest
  rw [whole] at read ⊢
  unfold Toml.statement
  split
  · next same => exact absurd (List.cons.inj same).1 (ne_of_bareKeyChar bare (by decide))
  · next same => exact absurd (List.cons.inj same).1 (ne_of_bareKeyChar bare (by decide))
  · next same => exact absurd (List.cons.inj same).1 (ne_of_bareKeyChar bare (by decide))
  · next same =>
    obtain ⟨rfl, rfl⟩ := List.cons.inj same
    rw [if_pos start, read]
    change (outline.addEntry [line.key] line.item >>= fun after =>
      Except.ok (after, Toml.skipGap ('\n' :: rest))) = _
    cases outline.addEntry [line.key] line.item <;> rfl
  · next same => cases same

theorem Fit.statements (fit : line.Fit) (steps : Nat) (outline : Outline) (rest : List Char) :
    statements (steps + 1) outline (line.chars ++ rest) =
      outline.addEntry [line.key] line.item >>= fun after => statements steps after rest := by
  obtain ⟨first, tail, whole, bare⟩ := fit.chars_append rest
  have read := fit.statement outline rest
  rw [whole] at read ⊢
  exact statements_step (isGap_of_bareKeyChar bare) (ne_of_bareKeyChar bare (by decide)) read steps

end Line

theorem within_nil (change : Table → Option Table) (held : Table) :
    within true [] change held = (change held).map id := by
  rw [within, Option.map_id_fun, id]

theorem within_last {front : Table} {name : String} (fresh : name ∉ Entries.keys front)
    (change : Table → Option Table) (held : Table) :
    within true [name] change (front ++ [(name, .table held)]) =
      (change held).map fun held => front ++ [(name, .table held)] := by
  have here : Entries.get? name (front ++ [(name, .table held)]) = some (.table held) := by
    rw [Entries.get?_append, Entries.get?_of_not_mem front fresh]
    simp [Entries.get?]
  have changed (held' : Table) : Entries.put name (.table held') (front ++ [(name, Toml.table held)]) =
      front ++ [(name, .table held')] := by
    rw [Entries.put_append_of_not_mem front _ name _ fresh]
    simp [Entries.put]
  simp only [within, here, changed]

namespace Outline

def addEntries (outline : Outline) (entries : Table) : Except Problem Outline :=
  entries.foldlM (fun outline entry => outline.addEntry [entry.1] entry.2) outline

section

variable {header : Path} {wrap : Table → Table} (declared : List Path)
  (found : ∀ change held, within true header change (wrap held) = (change held).map wrap)

include found

theorem addEntry_fresh {held : Table} {key : String} {item : Toml} (plain : isContainer item = false)
    (fresh : key ∉ Entries.keys held) :
    addEntry { root := wrap held, header, declared } [key] item =
      .ok { root := wrap (held ++ [(key, item)]), header, declared } := by
  have taken : enter key item held = some (held ++ [(key, item)]) := by
    rw [enter, Entries.get?_of_not_mem held fresh, Entries.put_of_not_mem held key item fresh]
  have placed : within true header (enter key item) (wrap held) = some (wrap (held ++ [(key, item)])) := by
    rw [found, taken]
    rfl
  simp only [addEntry, passed, isClosed, List.dropLast_singleton, List.append_nil, List.getLastD_cons,
    List.getLastD_nil, placed, plain]
  rfl

theorem addEntries_fresh (held entries : Table) (plain : ∀ entry ∈ entries, isContainer entry.2 = false)
    (distinct : (Entries.keys (held ++ entries)).Nodup) :
    addEntries { root := wrap held, header, declared } entries =
      .ok { root := wrap (held ++ entries), header, declared } := by
  induction entries generalizing held with
  | nil =>
    rw [List.append_nil]
    rfl
  | cons entry more ih =>
    obtain ⟨first, later⟩ := List.forall_mem_cons.mp plain
    have fresh : entry.1 ∉ Entries.keys held := by
      intro present
      simp only [Entries.keys, List.map_append, List.map_cons] at distinct present
      exact (List.nodup_append.mp distinct).2.2 _ present _ List.mem_cons_self rfl
    have joined : held ++ [(entry.1, entry.2)] ++ more = held ++ entry :: more := by simp
    have rest := ih (held ++ [(entry.1, entry.2)]) later (by rwa [joined])
    rw [joined] at rest
    rw [addEntries, List.foldlM_cons, addEntry_fresh declared found first fresh]
    exact rest

end

theorem declareTable_fresh {root : Table} {name : String} (fresh : name ∉ Entries.keys root) :
    declareTable { root } [name] =
      .ok { root := root ++ [(name, .table [])], header := [name], declared := [[name]] } := by
  have made : within true [name] some root = some (root ++ [(name, .table [])]) := by
    rw [within, Entries.get?_of_not_mem root fresh]
    exact congrArg some (Entries.put_of_not_mem root name _ fresh)
  simp only [declareTable, made]
  rfl

theorem addEntries_table {above inside : Table} {name : String}
    (plain : ∀ entry ∈ above ++ inside, isContainer entry.2 = false)
    (aboveKeys : (Entries.keys above).Nodup) (fresh : name ∉ Entries.keys above)
    (insideKeys : (Entries.keys inside).Nodup) :
    (do
      let front ← addEntries {} above
      let opened ← front.settle.declareTable [name]
      opened.addEntries inside) =
      .ok { root := above ++ [(name, .table inside)], header := [name], declared := [[name]] } := by
  obtain ⟨plainAbove, plainInside⟩ := List.forall_mem_append.mp plain
  have front := addEntries_fresh [] within_nil [] above plainAbove aboveKeys
  have opened := declareTable_fresh fresh
  have held := addEntries_fresh [[name]] (within_last fresh) [] inside plainInside insideKeys
  rw [List.nil_append] at front held
  rw [front]
  change (declareTable { root := above } [name] >>= _) = _
  rw [opened]
  exact held

end Outline

theorem statements_lines [Stack] {lines : List Line} (fit : ∀ line ∈ lines, line.Fit) (steps : Nat) (outline : Outline)
    (rest : List Char) : statements (lines.length + steps) outline (lines.flatMap Line.chars ++ rest) =
      outline.addEntries (lines.map Line.entry) >>= fun after => statements steps after rest := by
  induction lines generalizing outline with
  | nil =>
    rw [List.length_nil, Nat.zero_add]
    rfl
  | cons line more ih =>
    obtain ⟨first, later⟩ := List.forall_mem_cons.mp fit
    rw [List.flatMap_cons, List.append_assoc, List.length_cons, Nat.add_right_comm, first.statements,
      List.map_cons, Outline.addEntries, List.foldlM_cons, bind_assoc]
    exact bind_congr fun after => ih later after

theorem statements_blank [Stack] (steps : Nat) (outline : Outline) (rest : List Char) :
    statements (steps + 1) outline ('\n' :: rest) = statements steps outline rest := rfl

theorem statements_nil [Stack] (steps : Nat) (outline : Outline) :
    statements (steps + 1) outline [] = .ok outline := rfl

theorem statements_header [Stack] {name : String} (bare : isBare name = true) (steps : Nat) (outline : Outline)
    (rest : List Char) : statements (steps + 1) outline ('[' :: (name.toList ++ ']' :: '\n' :: rest)) =
      outline.settle.declareTable [name] >>= fun after => statements steps after rest := by
  obtain ⟨first, more, chars, all⟩ := exists_cons_of_bare bare
  have front := all first List.mem_cons_self
  have path : headerPath (name.toList ++ ']' :: '\n' :: rest) = .ok ([name], ']' :: '\n' :: rest) := by
    have start : skipGap (name.toList ++ ']' :: '\n' :: rest) = name.toList ++ ']' :: '\n' :: rest := by
      apply skipGap_of_head
      intro c member
      rw [chars] at member
      obtain rfl : first = c := Option.some.inj member
      exact isGap_of_bareKeyChar front
    rw [headerPath, start]
    exact keyPath_bare bare (by decide) _ _ nofun
  have header : statement outline ('[' :: (name.toList ++ ']' :: '\n' :: rest)) =
      (outline.settle.declareTable [name]).map (·, '\n' :: rest) := by
    unfold statement
    split
    · next same =>
      rw [chars] at same
      exact absurd (List.cons.inj (List.cons.inj same).2).1 (ne_of_bareKeyChar front (by decide))
    · next same =>
      rw [← (List.cons.inj same).2, path]
      change (outline.settle.declareTable [name] >>= fun after => Except.ok (after, skipGap ('\n' :: rest))) = _
      cases outline.settle.declareTable [name] <;> rfl
    · next same => cases (List.cons.inj same).1
    · next unlike _ same => exact (unlike (List.cons.inj same).1.symm).elim
    · next same => cases same
  exact statements_step rfl (by decide) header steps

theorem joinLineBreaks_of_not_mem {cs : List Char} (unbroken : '\r' ∉ cs) : joinLineBreaks cs = cs := by
  induction cs with
  | nil => rfl
  | cons c rest ih =>
    obtain ⟨other, later⟩ := not_or.mp (mt List.mem_cons.mpr unbroken)
    rw [joinLineBreaks]
    · rw [ih later]
    · exact fun _ same _ => other same.symm

def document (front : List Line) (name : String) (lines : List Line) : List Char :=
  front.flatMap Line.chars ++ '\n' :: '[' :: (name.toList ++ ']' :: '\n' :: lines.flatMap Line.chars)

/-- The document is read from top to bottom; the section of the table opens where its header stands. -/
theorem statements_document [Stack] {front lines : List Line} {name : String} (bare : isBare name = true)
    (fit : ∀ line ∈ front ++ lines, line.Fit) (steps : Nat) :
    statements (front.length + (lines.length + steps + 3)) {} (document front name lines) = (do
      let above ← Outline.addEntries {} (front.map Line.entry)
      let opened ← above.settle.declareTable [name]
      opened.addEntries (lines.map Line.entry)) := by
  obtain ⟨first, later⟩ := List.forall_mem_append.mp fit
  rw [document, statements_lines first]
  apply bind_congr
  intro above
  rw [statements_blank, statements_header bare]
  apply bind_congr
  intro opened
  have read := statements_lines later (steps + 1) opened []
  rw [List.append_nil] at read
  rw [Nat.add_assoc, read]
  simp only [statements_nil]
  exact bind_pure _

theorem return_not_mem_of_bare {key : String} (bare : isBare key = true) : '\r' ∉ key.toList := by
  obtain ⟨first, more, chars, all⟩ := exists_cons_of_bare bare
  rw [chars]
  exact fun member => absurd (all _ member) (by decide)

theorem return_not_mem_document [Stack] {front lines : List Line} {name : String} (bare : isBare name = true)
    (fit : ∀ line ∈ front ++ lines, line.Fit) : '\r' ∉ document front name lines := by
  have each : ∀ line ∈ front ++ lines, '\r' ∉ line.chars := by
    intro line member
    have fit := fit line member
    simp [Line.chars, return_not_mem_of_bare fit.bare, fit.unbroken]
  have first : '\r' ∉ front.flatMap Line.chars := by
    simpa using fun line member => each line (List.mem_append_left lines member)
  have later : '\r' ∉ lines.flatMap Line.chars := by
    simpa using fun line member => each line (List.mem_append_right front member)
  simp only [document, List.mem_append, List.mem_cons, first, later, return_not_mem_of_bare bare]
  decide

theorem length_le_flatMap_chars (lines : List Line) : lines.length ≤ (lines.flatMap Line.chars).length := by
  induction lines with
  | nil => exact Nat.le_refl _
  | cons line more ih =>
    rw [List.flatMap_cons, List.length_append, List.length_cons, Line.chars]
    simp only [List.length_append, List.length_cons, List.length_nil]
    omega

/-- The reading of a document never runs out of steps. -/
theorem exists_steps (front lines : List Line) (name : String) : ∃ steps,
    (document front name lines).length + 1 = front.length + (lines.length + steps + 3) := by
  have frontLength := length_le_flatMap_chars front
  have linesLength := length_le_flatMap_chars lines
  refine ⟨(document front name lines).length - (front.length + lines.length + 2), ?_⟩
  simp only [document, List.length_append, List.length_cons]
  omega

theorem keys_entries (lines : List Line) : Entries.keys (lines.map Line.entry) = lines.map Line.key := by
  simp [Entries.keys, Line.entry]

/-- A document is read as its entries and its table, whose entries stand in their order. -/
theorem parse_document [Stack] {front lines : List Line} {name : String} (bare : isBare name = true)
    (fit : ∀ line ∈ front ++ lines, line.Fit)
    (above : (front.map Line.key ++ [name]).Nodup) (inside : (lines.map Line.key).Nodup) :
    parse (String.ofList (document front name lines)) =
      .ok (front.map Line.entry ++ [(name, .table (lines.map Line.entry))]) := by
  obtain ⟨aboveKeys, -, apart⟩ := List.nodup_append.mp above
  rw [← keys_entries] at aboveKeys apart inside
  have fresh : name ∉ Entries.keys (front.map Line.entry) := by
    intro present
    exact apart name present name List.mem_cons_self rfl
  have plain : ∀ entry ∈ front.map Line.entry ++ lines.map Line.entry, isContainer entry.2 = false := by
    rw [← List.map_append]
    exact List.forall_mem_map.mpr fun line member => (fit line member).plain
  have table := Outline.addEntries_table plain aboveKeys fresh inside
  have unbroken := joinLineBreaks_of_not_mem (return_not_mem_document bare fit)
  obtain ⟨steps, enough⟩ := exists_steps front lines name
  rw [parse, String.toList_ofList, unbroken, enough, statements_document bare fit, table]
  rfl

end SqlGateway.Toml
