import SqlGateway.Proofs.Layout

/-!
Reading a statement back. The readings for placeholders and the search for mentions agree on the text of a
layout whose words hold neither a colon nor a backslash.
-/

namespace SqlGateway

open Text (isWord)

namespace Statement

theorem mentions_append {name text : List Char} (mentioned : mentions name text = true)
    (before : List Char) : mentions name (before ++ text) = true := by
  induction before with
  | nil => exact mentioned
  | cons c more ih => simp [mentions, ih]

theorem mentioned_eq_self {query : String} {params : Params} (distinct : params.keys.Nodup)
    (bare : ∀ name ∈ params.keys, bareName name = name)
    (every : ∀ name ∈ params.keys, mentions name.toList query.toList = true) :
    mentioned query params = params := by
  have named : params.map (fun entry => (bareName entry.1, entry.2)) = params.map id :=
    List.map_congr_left fun entry member => Prod.ext (bare entry.1 (List.mem_map_of_mem member)) rfl
  have kept : params.filter (fun entry => mentions entry.1.toList query.toList) = params :=
    List.filter_eq_self.mpr fun entry member => every entry.1 (List.mem_map_of_mem member)
  rw [mentioned, named, List.map_id, kept, Entries.ofList_eq_self params distinct]

end Statement

namespace Query

open Statement

theorem Place.Framed.mentions {place : Place} (framed : place.Framed) (spelled : Spelled place.slot) :
    mentions place.slot.toList (place.before ++ ':' :: place.slot.toList ++ place.rest) = true := by
  have last : isWord (place.slot.toList.getLast?.getD ':') = true := by
    rw [List.getLast?_eq_some_getLast spelled.filled]
    exact spelled.word _ (List.getLast_mem spelled.filled)
  have next : (place.rest.head?.map isWord).getD false = false := by
    cases followed : place.rest.head? with
    | none => rfl
    | some c => exact (framed.ends c followed).1
  rw [List.append_assoc]
  apply mentions_append
  simp [Statement.mentions, beginsWith, border, last, next]

section

variable [Dialect] {place : Place} {text : String} (found : place.Found)
  (split : text.toList = place.before ++ ':' :: (place.slot.toList ++ place.rest))

include found split

theorem Place.Found.mem_placeholders : place.slot ∈ placeholders text := by
  rw [placeholders, List.mem_eraseDups, split, List.mem_map]
  exact ⟨place.slot.toList, mem_scan [] found.bound, String.ofList_toList⟩

theorem Place.Found.mem_places : place.slot ∈ places text := by
  rw [places, List.mem_filter, List.contains_iff_mem]
  refine ⟨?_, found.mem_placeholders split⟩
  rw [split, List.mem_map]
  exact ⟨place.slot.toList, mem_scan [] found.sent, String.ofList_toList⟩

end

/-- Neither a colon nor a backslash; where a value stands, a name that is spelled. -/
def Piece.Plain : Piece → Prop
  | .place slot _ => Spelled slot
  | piece => ':' ∉ piece.chars ∧ '\\' ∉ piece.chars

namespace Layout

theorem spelled_of_plain {layout : Layout} (plain : ∀ piece ∈ layout, piece.Plain) :
    ∀ name ∈ (entries layout).keys, Spelled name := by
  induction layout with
  | nil => nofun
  | cons piece later ih =>
    obtain ⟨plainHere, plainLater⟩ := List.forall_mem_cons.mp plain
    cases piece with
    | words text | quoted name => exact ih plainLater
    | place slot value => exact List.forall_mem_cons.mpr ⟨plainHere, ih plainLater⟩

theorem not_mem_backslash {layout : Layout} (plain : ∀ piece ∈ layout, piece.Plain) :
    '\\' ∉ chars layout := by
  rw [chars, List.mem_flatMap]
  rintro ⟨piece, member, here⟩
  have plainHere := plain piece member
  cases piece with
  | words text | quoted name => exact plainHere.2 here
  | place slot value =>
    rcases List.mem_cons.mp here with colon | here
    · cases colon
    · exact plainHere.ne_backslash here

theorem scan_chars {name? : Option Char → List Char → Option (List Char)} {layout : Layout}
    {before rest : List Char} (plain : ∀ piece ∈ layout, piece.Plain)
    (found : Everywhere (Place.ReadBy name?) before layout rest) :
    scan name? before.getLast? (chars layout ++ rest) =
      (entries layout).keys.map String.toList ++ scan name? (before ++ chars layout).getLast? rest := by
  induction layout generalizing before with
  | nil => simp [entries, Entries.keys]
  | cons piece later ih =>
    obtain ⟨plainHere, plainLater⟩ := List.forall_mem_cons.mp plain
    cases piece with
    | words text | quoted name =>
      rw [chars_cons, List.append_assoc, scan_skip _ plainHere.1, ih plainLater found, ← List.append_assoc]
      rfl
    | place slot value =>
      have here : name? before.getLast? (slot.toList ++ (chars later ++ rest)) = some slot.toList := found.1
      have skipped := scan_skip name? plainHere.ne_colon (before ++ [':']) (chars later ++ rest)
      rw [List.getLast?_concat, List.append_assoc, List.singleton_append] at skipped
      rw [chars_cons, List.append_assoc, Piece.chars, List.cons_append, scan, if_pos rfl, here, skipped,
        ih plainLater found.2]
      simp [Entries.keys]

end Layout

end Query

end SqlGateway
