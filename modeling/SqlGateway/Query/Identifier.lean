import SqlGateway.Failure
import SqlGateway.Text.Blank

/-!
Quoted identifiers. A table or column cannot be sent as a parameter, so its name stands in the text
of a statement, between two marks that the name itself must not hold.
-/

namespace SqlGateway.Query

def mark : Char := '\x60'

def quoteName? (name : String) : Option String :=
  let cleaned := Text.trim name
  if cleaned.isEmpty || cleaned.toList.contains mark then none
  else some (String.ofList (mark :: cleaned.toList ++ [mark]))

/-- What is no text is no name. -/
def quotable? : Value → Option String
  | .text s => quoteName? s
  | _ => none

def quote (name : Value) : Except Failure String :=
  match quotable? name with
  | some quoted => .ok quoted
  | none => .error (.invalidParameters (.unquotable name))

theorem mem_quoteName {name quoted : String} (given : quoteName? name = some quoted) {c : Char}
    (member : c ∈ quoted.toList) : c = mark ∨ c ∈ name.toList := by
  simp only [quoteName?] at given
  split at given
  · cases given
  · obtain rfl := Option.some.inj given
    simp only [String.toList_ofList, List.mem_append, List.mem_cons, List.not_mem_nil, or_false] at member
    rcases member with (first | inside) | last
    · exact .inl first
    · exact .inr (Text.mem_of_mem_trim inside)
    · exact .inl last

theorem quote_eq_ok_iff (name : Value) (quoted : String) :
    quote name = .ok quoted ↔ quotable? name = some quoted := by
  unfold quote
  cases quotable? name with
  | none => exact ⟨nofun, nofun⟩
  | some other => exact ⟨fun same => by cases same; rfl, fun same => by cases same; rfl⟩

theorem quotable_eq_some_iff (name : Value) (quoted : String) :
    quotable? name = some quoted ↔ ∃ s, name = .text s ∧ quoteName? s = some quoted := by
  cases name with
  | text s => simp [quotable?]
  | _ => simp [quotable?]

end SqlGateway.Query
