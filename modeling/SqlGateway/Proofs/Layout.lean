import SqlGateway.Proofs.Finding
import SqlGateway.Query.Identifier
import SqlGateway.Statement.Mention

/-!
The layout of a statement: fixed words, quoted names and places for values, in the order of the text.
A place that no character of names touches is read as a placeholder exactly if its name is a run of word
characters, whatever the dialect.
-/

namespace SqlGateway.Query

open Statement
open Text (isWord)

/-- A part of the text of a statement. A place is where a value stands, with the name it travels under. -/
inductive Piece
  | words (text : String)
  | quoted (name : Value)
  | place (slot : String) (value : Value)

abbrev Layout := List Piece

structure Place where
  before : List Char
  slot : String
  value : Value
  rest : List Char

/-- Neither a colon nor, in any dialect, a character of names. -/
def Loose (c : Char) : Prop := isWord c = false ∧ c ≠ '$' ∧ c ≠ ':'

instance (c : Char) : Decidable (Loose c) := inferInstanceAs (Decidable (_ ∧ _ ∧ _))

def Open (before : List Char) : Prop := ∀ c ∈ before.getLast?, Loose c ∧ c ≠ '\\'

def Clear (rest : List Char) : Prop := ∀ c ∈ rest.head?, Loose c

instance (before : List Char) : Decidable (Open before) :=
  decidable_of_iff (before.getLast?.all (fun c => decide (Loose c ∧ c ≠ '\\')) = true)
    (by cases last : before.getLast? <;> simp [Open, last])

instance (rest : List Char) : Decidable (Clear rest) :=
  decidable_of_iff (rest.head?.all (fun c => decide (Loose c)) = true) (by cases rest <;> simp [Clear])

/-- The place stands apart from what is around it. -/
structure Place.Framed (place : Place) : Prop where
  opens : Open place.before
  ends : Clear place.rest

def Place.ReadBy (name? : Option Char → List Char → Option (List Char)) (place : Place) : Prop :=
  name? place.before.getLast? (place.slot.toList ++ place.rest) = some place.slot.toList

/-- The placeholder at the place, as it is bound and as it is sent, has the name of its value. -/
structure Place.Found [Dialect] (place : Place) : Prop where
  bound : place.ReadBy boundName?
  sent : place.ReadBy sentName?

structure Spelled (name : String) : Prop where
  filled : name.toList ≠ []
  word : ∀ c ∈ name.toList, isWord c = true

instance (name : String) : Decidable (Spelled name) :=
  decidable_of_iff (name.toList.isEmpty = false ∧ name.toList.all isWord = true)
    ⟨fun both => ⟨List.isEmpty_eq_false_iff.mp both.1, List.all_eq_true.mp both.2⟩,
      fun spelled => ⟨List.isEmpty_eq_false_iff.mpr spelled.filled, List.all_eq_true.mpr spelled.word⟩⟩

theorem Spelled.ne_colon {name : String} (spelled : Spelled name) : ':' ∉ name.toList := by
  intro member
  cases spelled.word _ member

theorem Spelled.ne_backslash {name : String} (spelled : Spelled name) : '\\' ∉ name.toList := by
  intro member
  cases spelled.word _ member

theorem Spelled.bareName {name : String} (spelled : Spelled name) : bareName name = name := by
  unfold Statement.bareName
  split
  · next rest text => exact absurd (text ▸ List.mem_cons_self) spelled.ne_colon
  · rfl

theorem Open.opensAfter {before : List Char} (isOpen : Open before) {isNameChar : Char → Bool}
    (loose : ∀ c, Loose c → isNameChar c = false) : opensAfter isNameChar before.getLast? = true := by
  cases last : before.getLast? with
  | none => rfl
  | some c =>
    obtain ⟨apart, other⟩ := isOpen c last
    simp [Statement.opensAfter, loose c apart, apart.2.2, other]

section

variable [Dialect]

theorem isSentChar_of_word {c : Char} (word : isWord c = true) : isSentChar c = true := by
  rw [isSentChar, word, Bool.true_or]

theorem isSentChar_of_loose {c : Char} (loose : Loose c) : isSentChar c = false := by
  rw [isSentChar, loose.1, beq_false_of_ne loose.2.1, Bool.and_false, Bool.or_false]

theorem Place.Found.spelled {place : Place} (found : place.Found) : Spelled place.slot := by
  obtain ⟨-, filled, word, -⟩ := (boundName?_eq_some_iff _ _ _).mp found.bound
  exact ⟨filled, word⟩

theorem Place.Framed.found_iff {place : Place} (framed : place.Framed) :
    place.Found ↔ Spelled place.slot := by
  refine ⟨Place.Found.spelled, fun spelled => ⟨?_, ?_⟩⟩
  · refine (boundName?_eq_some_iff _ _ _).mpr ⟨framed.opens.opensAfter fun _ loose => loose.1, ?_⟩
    refine ⟨spelled.filled, spelled.word, place.rest, rfl, .apart fun c head => ?_⟩
    exact ⟨(framed.ends c head).1, (framed.ends c head).2.2⟩
  · have opens := framed.opens.opensAfter fun _ => isSentChar_of_loose
    have sent : ∀ c ∈ place.slot.toList, isSentChar c = true := fun c member =>
      isSentChar_of_word (spelled.word c member)
    obtain ⟨taken, dropped⟩ := takeWhile_stops fun c head => isSentChar_of_loose (framed.ends c head)
    have apart : place.rest.head? ≠ some ':' := fun colon => (framed.ends ':' colon).2.2 rfl
    rw [ReadBy, sentName?, List.takeWhile_append_of_pos sent, List.dropWhile_append_of_pos sent, taken, dropped,
      List.append_nil]
    simp [opens, apart, spelled.filled]

end

def quotedText (name : Value) : String := (quotable? name).getD ""

theorem eq_quotedText {name : Value} {text : String} (quoted : quote name = .ok text) :
    text = quotedText name := by
  rw [quotedText, (quote_eq_ok_iff name text).mp quoted, Option.getD_some]

def Piece.chars : Piece → List Char
  | .words text => text.toList
  | .quoted name => (quotedText name).toList
  | .place slot _ => ':' :: slot.toList

namespace Layout

def chars (layout : Layout) : List Char := layout.flatMap Piece.chars

def entries : Layout → Params
  | [] => []
  | .place slot value :: later => (slot, value) :: entries later
  | _ :: later => entries later

/-- Every place has the property, in the text as it stands before and after the layout. -/
def Everywhere (holds : Place → Prop) : List Char → Layout → List Char → Prop
  | _, [], _ => True
  | before, .place slot value :: later, rest =>
    holds ⟨before, slot, value, chars later ++ rest⟩ ∧
      Everywhere holds (before ++ ':' :: slot.toList) later rest
  | before, piece :: later, rest => Everywhere holds (before ++ piece.chars) later rest

@[simp] theorem chars_nil : chars [] = [] := rfl

@[simp] theorem chars_cons (piece : Piece) (later : Layout) :
    chars (piece :: later) = piece.chars ++ chars later := rfl

@[simp] theorem chars_append (first second : Layout) :
    chars (first ++ second) = chars first ++ chars second := List.flatMap_append

@[simp] theorem entries_nil : entries [] = [] := rfl

@[simp] theorem entries_words (text : String) (later : Layout) :
    entries (.words text :: later) = entries later := rfl

@[simp] theorem entries_quoted (name : Value) (later : Layout) :
    entries (.quoted name :: later) = entries later := rfl

@[simp] theorem entries_place (slot : String) (value : Value) (later : Layout) :
    entries (.place slot value :: later) = (slot, value) :: entries later := rfl

@[simp] theorem entries_append (first second : Layout) :
    entries (first ++ second) = entries first ++ entries second := by
  induction first with
  | nil => rfl
  | cons piece later ih => cases piece <;> simp [ih]

variable {holds : Place → Prop}

theorem everywhere_append (first second : Layout) (before rest : List Char) :
    Everywhere holds before (first ++ second) rest ↔
      Everywhere holds before first (chars second ++ rest) ∧
        Everywhere holds (before ++ chars first) second rest := by
  induction first generalizing before with
  | nil => simp [Everywhere]
  | cons piece later ih =>
    cases piece with
    | words text | quoted name => simp [Everywhere, ih]
    | place slot value => simp [Everywhere, ih, Piece.chars, and_assoc]

theorem everywhere_mono {other : Place → Prop} {layout : Layout} {before rest : List Char}
    (everywhere : Everywhere holds before layout rest)
    (follows : ∀ place, (place.slot, place.value) ∈ entries layout → holds place → other place) :
    Everywhere other before layout rest := by
  induction layout generalizing before with
  | nil => trivial
  | cons piece later ih =>
    cases piece with
    | words text | quoted name => exact ih everywhere follows
    | place slot value =>
      refine ⟨follows _ List.mem_cons_self everywhere.1, ih everywhere.2 fun place member => ?_⟩
      exact follows place (List.mem_cons_of_mem _ member)

theorem everywhere_of_entries_eq_nil {layout : Layout} (none : entries layout = [])
    (before rest : List Char) : Everywhere holds before layout rest := by
  induction layout generalizing before with
  | nil => trivial
  | cons piece later ih =>
    cases piece with
    | words text | quoted name => exact ih none _
    | place slot value => cases none

theorem exists_place {layout : Layout} {before rest : List Char} {slot : String} {value : Value}
    (everywhere : Everywhere holds before layout rest) (member : (slot, value) ∈ entries layout) :
    ∃ early late, holds ⟨early, slot, value, late⟩ ∧
      before ++ chars layout ++ rest = early ++ ':' :: slot.toList ++ late := by
  induction layout generalizing before with
  | nil => exact absurd member List.not_mem_nil
  | cons piece later ih =>
    cases piece with
    | words text | quoted name =>
      obtain ⟨early, late, here, split⟩ := ih everywhere member
      exact ⟨early, late, here, by rw [← split]; simp [Piece.chars]⟩
    | place other held =>
      rcases List.mem_cons.mp member with same | member
      · cases same
        exact ⟨before, chars later ++ rest, everywhere.1, by simp [Piece.chars]⟩
      · obtain ⟨early, late, here, split⟩ := ih everywhere.2 member
        exact ⟨early, late, here, by rw [← split]; simp [Piece.chars]⟩

def separated (separator : String) (parts : List Layout) : Layout :=
  List.intercalate [.words separator] parts

theorem separated_cons_cons (separator : String) (first second : Layout) (more : List Layout) :
    separated separator (first :: second :: more) =
      first ++ .words separator :: separated separator (second :: more) := by
  simp [separated, List.intercalate_cons_cons]

theorem chars_separated (separator : String) (parts : List Layout) :
    chars (separated separator parts) = separator.toList.intercalate (parts.map chars) := by
  induction parts with
  | nil => rfl
  | cons first more ih =>
    cases more with
    | nil => simp [separated]
    | cons second more =>
      rw [separated_cons_cons, chars_append, chars_cons, ih]
      simp [List.intercalate_cons_cons, Piece.chars]

theorem entries_separated (separator : String) (parts : List Layout) :
    entries (separated separator parts) = parts.flatMap entries := by
  induction parts with
  | nil => rfl
  | cons first more ih =>
    cases more with
    | nil => simp [separated]
    | cons second more =>
      rw [separated_cons_cons, entries_append, entries_words, ih]
      rfl

theorem mem_separated {separator : String} {parts : List Layout} {piece : Piece}
    (member : piece ∈ separated separator parts) :
    piece = .words separator ∨ ∃ part ∈ parts, piece ∈ part := by
  induction parts with
  | nil => exact absurd member List.not_mem_nil
  | cons first more ih =>
    cases more with
    | nil => exact .inr ⟨first, List.mem_cons_self, by simpa [separated] using member⟩
    | cons second more =>
      rw [separated_cons_cons, List.mem_append, List.mem_cons] at member
      rcases member with early | rfl | late
      · exact .inr ⟨first, List.mem_cons_self, early⟩
      · exact .inl rfl
      · exact (ih late).imp id fun ⟨part, among, here⟩ => ⟨part, List.mem_cons_of_mem _ among, here⟩

/-- Wherever a place may begin before the layout and end after it, its own places are framed. -/
def Fits (layout : Layout) : Prop :=
  ∀ before rest, Open before → Clear rest → Everywhere Place.Framed before layout rest

structure Border (text : String) : Prop where
  filled : text.toList ≠ []
  opens : Open text.toList
  ends : Clear text.toList

theorem fits_of_entries_eq_nil {layout : Layout} (none : entries layout = []) : Fits layout :=
  fun before rest _ _ => everywhere_of_entries_eq_nil none before rest

theorem fits_place (slot : String) (value : Value) : Fits [.place slot value] :=
  fun _ _ opens clear => ⟨⟨opens, clear⟩, trivial⟩

theorem fits_between {first second : Layout} {text : String} (border : Border text) (fits : Fits first)
    (fitsToo : Fits second) : Fits (first ++ .words text :: second) := by
  intro before rest opens clear
  obtain ⟨c, last⟩ := Option.ne_none_iff_exists'.mp
    (mt List.getLast?_eq_none_iff.mp border.filled)
  obtain ⟨d, head⟩ := Option.ne_none_iff_exists'.mp (mt List.head?_eq_none_iff.mp border.filled)
  rw [everywhere_append]
  constructor
  · refine fits before _ opens fun e same => border.ends e ?_
    simpa [Piece.chars, head] using same
  · refine fitsToo _ rest ?_ clear
    rw [Open, List.getLast?_append, Piece.chars, last, Option.some_or, ← last]
    exact border.opens

theorem fits_separated {separator : String} {parts : List Layout} (border : Border separator)
    (fits : ∀ part ∈ parts, Fits part) : Fits (separated separator parts) := by
  induction parts with
  | nil => exact fits_of_entries_eq_nil rfl
  | cons first more ih =>
    obtain ⟨fitsFirst, fitsMore⟩ := List.forall_mem_cons.mp fits
    cases more with
    | nil => simpa [separated] using fitsFirst
    | cons second more =>
      rw [separated_cons_cons]
      exact fits_between border fitsFirst (ih fitsMore)

theorem Fits.framed {layout : Layout} (fits : Fits layout) :
    Everywhere Place.Framed [] layout [] := fits [] [] nofun nofun

end Layout

end SqlGateway.Query
