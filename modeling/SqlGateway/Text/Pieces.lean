/-!
A text cut at a separator, from left to right. Parts are found again where they were joined if the separator
cannot begin in any of them.
-/

namespace SqlGateway.Text

/-- The characters of a separator that was found are still to be skipped. -/
def cuts (separator : List Char) : Nat → List Char → List (List Char)
  | _, [] => [[]]
  | skipped + 1, _ :: rest => cuts separator skipped rest
  | 0, c :: rest =>
    if separator.isPrefixOf (c :: rest) then [] :: cuts separator (separator.length - 1) rest
    else (cuts separator 0 rest).modifyHead (c :: ·)

def pieces (separator text : String) : List String :=
  (cuts separator.toList 0 text.toList).map String.ofList

example : pieces ", " "a, b,c, " = ["a", "b,c", ""] := by decide

/-- Neither does the separator begin in the text, nor does the text end as the separator begins. -/
def Free (separator : List Char) : List Char → Prop
  | [] => True
  | c :: rest => ¬ separator <+: c :: rest ∧ ¬ c :: rest <+: separator ∧ Free separator rest

def decideFree (separator : List Char) : (text : List Char) → Decidable (Free separator text)
  | [] => .isTrue trivial
  | c :: rest =>
    have := decideFree separator rest
    inferInstanceAs (Decidable (¬ separator <+: c :: rest ∧ ¬ c :: rest <+: separator ∧ Free separator rest))

instance (separator text : List Char) : Decidable (Free separator text) := decideFree separator text

variable {separator : List Char}

theorem not_prefix_of_free {c : Char} {text : List Char} (free : Free separator (c :: text)) (rest : List Char) :
    ¬ separator <+: c :: text ++ rest := by
  intro here
  rcases List.prefix_or_prefix_of_prefix here (List.prefix_append (c :: text) rest) with inside | across
  · exact free.1 inside
  · exact free.2.1 across

theorem Free.append {first second : List Char} (free : Free separator first) (freeToo : Free separator second) :
    Free separator (first ++ second) := by
  induction first with
  | nil => exact freeToo
  | cons c more ih =>
    refine ⟨not_prefix_of_free free second, fun across => free.2.1 ?_, ih free.2.2⟩
    exact (List.prefix_append (c :: more) second).trans across

theorem free_of_not_mem {first : Char} {more text : List Char} (absent : first ∉ text) :
    Free (first :: more) text := by
  induction text with
  | nil => trivial
  | cons c rest ih =>
    obtain ⟨other, later⟩ := not_or.mp (mt List.mem_cons.mpr absent)
    refine ⟨fun here => ?_, fun across => ?_, ih later⟩
    · exact other (List.cons_prefix_cons.mp here).1
    · exact other (List.cons_prefix_cons.mp across).1.symm

theorem cuts_append {text : List Char} (free : Free separator text) (rest : List Char) :
    cuts separator 0 (text ++ rest) = (cuts separator 0 rest).modifyHead (text ++ ·) := by
  induction text with
  | nil =>
    rw [List.nil_append]
    cases cuts separator 0 rest <;> rfl
  | cons c more ih =>
    have absent := not_prefix_of_free free rest
    rw [← List.isPrefixOf_iff_prefix, Bool.not_eq_true, List.cons_append] at absent
    rw [List.cons_append, cuts, absent, if_neg Bool.false_ne_true, ih free.2.2]
    cases cuts separator 0 rest <;> rfl

theorem cuts_skip (skipped rest : List Char) :
    cuts separator skipped.length (skipped ++ rest) = cuts separator 0 rest := by
  induction skipped with
  | nil => rfl
  | cons c more ih => exact ih

theorem cuts_separator (filled : separator ≠ []) (rest : List Char) :
    cuts separator 0 (separator ++ rest) = [] :: cuts separator 0 rest := by
  obtain ⟨first, more, rfl⟩ := List.exists_cons_of_ne_nil filled
  have here : (first :: more).isPrefixOf (first :: (more ++ rest)) = true :=
    List.isPrefixOf_iff_prefix.mpr (List.prefix_append (first :: more) rest)
  rw [List.cons_append, cuts, if_pos here, List.length_cons, Nat.add_sub_cancel, cuts_skip]

theorem cuts_of_free {text : List Char} (free : Free separator text) : cuts separator 0 text = [text] := by
  have whole := cuts_append free []
  rwa [List.append_nil, cuts, List.modifyHead_cons, List.append_nil] at whole

theorem cuts_at {text : List Char} (filled : separator ≠ []) (free : Free separator text) (rest : List Char) :
    cuts separator 0 (text ++ separator ++ rest) = text :: cuts separator 0 rest := by
  rw [List.append_assoc, cuts_append free, cuts_separator filled, List.modifyHead_cons, List.append_nil]

theorem cuts_intercalate {parts : List (List Char)} (filled : separator ≠ []) (some : parts ≠ [])
    (free : ∀ part ∈ parts, Free separator part) : cuts separator 0 (separator.intercalate parts) = parts := by
  induction parts with
  | nil => exact absurd rfl some
  | cons first more ih =>
    obtain ⟨freeFirst, freeMore⟩ := List.forall_mem_cons.mp free
    cases more with
    | nil => simpa using cuts_of_free freeFirst
    | cons second more =>
      rw [List.intercalate_cons_cons, cuts_at filled freeFirst, ih (List.cons_ne_nil _ _) freeMore]

theorem free_intercalate {lead joiner : List Char} {parts : List (List Char)} (some : parts ≠ [])
    (leads : ∀ part ∈ parts, Free separator (lead ++ part))
    (joins : ∀ part ∈ parts, Free separator (joiner ++ part)) :
    Free separator (lead ++ joiner.intercalate parts) := by
  induction parts generalizing lead with
  | nil => exact absurd rfl some
  | cons part more ih =>
    have here := leads part List.mem_cons_self
    have joinsMore := (List.forall_mem_cons.mp joins).2
    cases more with
    | nil => simpa using here
    | cons second more =>
      rw [List.intercalate_cons_cons, List.append_assoc, ← List.append_assoc]
      exact here.append (ih (List.cons_ne_nil _ _) joinsMore joinsMore)

theorem pieces_intercalate {separator : String} {parts : List String} (filled : separator ≠ "")
    (some : parts ≠ []) (free : ∀ part ∈ parts, Free separator.toList part.toList) :
    pieces separator (separator.intercalate parts) = parts := by
  rw [pieces, String.toList_intercalate, cuts_intercalate]
  · simp [Function.comp_def, String.ofList_toList]
  · exact mt String.toList_eq_nil_iff.mp filled
  · exact mt List.map_eq_nil_iff.mp some
  · exact List.forall_mem_map.mpr free

theorem pieces_at {separator first : String} (filled : separator ≠ "")
    (free : Free separator.toList first.toList) (rest : String) :
    pieces separator (first ++ separator ++ rest) = first :: pieces separator rest := by
  rw [pieces, String.toList_append, String.toList_append,
    cuts_at (mt String.toList_eq_nil_iff.mp filled) free, List.map_cons, String.ofList_toList, pieces]

theorem pieces_of_free {separator text : String} (free : Free separator.toList text.toList) :
    pieces separator text = [text] := by
  rw [pieces, cuts_of_free free, List.map_singleton, String.ofList_toList]

end SqlGateway.Text
