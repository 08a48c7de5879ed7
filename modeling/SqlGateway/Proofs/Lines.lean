import SqlGateway.Proofs.Document
import SqlGateway.Proofs.Printed

/-!
Lines of a document that hold one text, flag, integer or floating-point number, each as it is printed.
-/

namespace SqlGateway.Toml

def valueMarks : List Char := ['"', '\'', 't', 'f', '[', '{']

section

variable [Stack]

/-- A value that is not inside another has the room that it needs by itself. -/
theorem not_scarce (cs : List Char) : ¬ Stack.room < Stack.own cs :=
  Nat.not_lt.mpr (Nat.le_trans (Stack.own_le cs) Stack.most_le)

theorem value_quote (s : String) {rest : List Char} (apart : rest.head? ≠ some '"') (steps : Nat) :
    value (steps + 1) Stack.room ((quote s).toList ++ rest) = .ok (.text s, rest) := by
  unfold value
  rw [if_neg (not_scarce _), quotedText_quote s apart]
  simp [asText, ofOption]

theorem value_flag (flag : Bool) (rest : List Char) (steps : Nat) :
    value (steps + 1) Stack.room ((if flag then "true" else "false").toList ++ rest) =
      .ok (.boolean flag, rest) := by
  unfold value
  rw [if_neg (not_scarce _)]
  cases flag <;> rfl

theorem value_scalar {room : Nat} {cs : List Char} (start : ∀ c ∈ cs.head?, c ∉ valueMarks)
    (enough : ¬ room < Stack.own cs) (steps : Nat) : value (steps + 1) room cs = scalar cs := by
  have quoteless : quotedText? cs = none := by
    unfold quotedText?
    split
    · exact absurd (start _ rfl) (by decide)
    · exact absurd (start _ rfl) (by decide)
    · exact absurd (start _ rfl) (by decide)
    · exact absurd (start _ rfl) (by decide)
    · rfl
  unfold value
  rw [if_neg enough, quoteless]
  dsimp only
  split
  · exact absurd (start _ rfl) (by decide)
  · exact absurd (start _ rfl) (by decide)
  · exact absurd (start _ rfl) (by decide)
  · exact absurd (start _ rfl) (by decide)
  · rfl

end

theorem Numeral.mem_chars {numeral : Numeral} (proper : numeral.Proper) {c : Char} (member : c ∈ numeral.chars) :
    c.isDigit = true ∨ c ∈ ['-', '+', '.', 'e'] := by
  have unsigned : ∀ c ∈ numeral.unsigned, c.isDigit = true ∨ c ∈ ['-', '+', '.', 'e'] := by
    intro c member
    rcases List.mem_append.mp member with whole | later
    · exact .inl (proper.whole c whole)
    rcases List.mem_append.mp later with fraction | power
    · unfold point at fraction
      split at fraction
      · cases fraction
      · rcases List.mem_cons.mp fraction with rfl | digit
        · exact .inr (by decide)
        · exact .inl (proper.fraction c digit)
    · cases raised : numeral.power? with
      | none =>
        rw [raised] at power
        cases power
      | some sign =>
        obtain ⟨negative, digits⟩ := sign
        rw [raised] at power
        rcases List.mem_cons.mp power with rfl | power
        · exact .inr (by decide)
        rcases List.mem_cons.mp power with rfl | digit
        · exact .inr (by cases negative <;> decide)
        · exact .inl ((proper.power negative digits raised).2 c digit)
  unfold chars at member
  split at member
  · rcases List.mem_cons.mp member with rfl | later
    · exact .inr (by decide)
    · exact unsigned c later
  · exact unsigned c member

/-- What is written begins neither a gap nor a text, a flag, an array or a table, and stays on its line. -/
structure Plain (written : List Char) : Prop where
  start : ∀ c ∈ written.head?, c ∉ ' ' :: '\t' :: valueMarks
  unbroken : '\r' ∉ written

theorem Numeral.plain_chars {numeral : Numeral} (proper : numeral.Proper) : Plain numeral.chars := by
  have barred : ('\r' :: ' ' :: '\t' :: valueMarks).all
      (fun c => !c.isDigit && !List.contains ['-', '+', '.', 'e'] c) = true := by decide
  have each : ∀ c ∈ numeral.chars, c ∉ '\r' :: ' ' :: '\t' :: valueMarks := by
    intro c member mark
    have other := List.all_eq_true.mp barred c mark
    rw [Bool.and_eq_true, Bool.not_eq_true', Bool.not_eq_true', List.contains_eq_mem,
      decide_eq_false_iff_not] at other
    rcases mem_chars proper member with digit | sign
    · cases digit.symm.trans other.1
    · exact other.2 sign
  exact ⟨fun c head mark => each c (List.mem_of_mem_head? head) (List.mem_cons_of_mem _ mark),
    fun member => each _ member List.mem_cons_self⟩

theorem plain_of_head {written : List Char} {first : Char} (head : written.head? = some first)
    (start : first ∉ ' ' :: '\t' :: valueMarks) (unbroken : '\r' ∉ written) : Plain written := by
  refine ⟨?_, unbroken⟩
  intro c here
  obtain rfl : first = c := Option.some.inj (head.symm.trans here)
  exact start

theorem plain_text (x : Binary64) : Plain x.text.toList := by
  cases x with
  | nan => exact plain_of_head rfl (by decide) (by decide)
  | infinity negative =>
    cases negative with
    | true => exact plain_of_head rfl (by decide) (by decide)
    | false => exact plain_of_head rfl (by decide) (by decide)
  | finite negative mantissa exponent =>
    obtain ⟨numeral, printed, proper, -⟩ := Binary64.text_finite negative mantissa exponent
    rw [printed]
    exact Numeral.plain_chars proper

namespace Line

theorem fit_of_plain [Stack] {key : String} {written : List Char} {item : Toml} (plain : Plain written)
    (bare : isBare key = true) (single : isContainer item = false)
    (reads : ∀ rest, scalar (written ++ '\n' :: rest) = .ok (item, '\n' :: rest)) :
    Fit ⟨key, written, item⟩ := by
  constructor
  · exact bare
  · intro c head
    have start := plain.start c head
    simp only [List.mem_cons, not_or] at start
    simp [isGap, start.1, start.2.1]
  · exact plain.unbroken
  · exact single
  · intro steps rest
    have start : ∀ c ∈ written.head?, c ∉ valueMarks := by
      intro c head mark
      exact plain.start c head (List.mem_cons_of_mem _ (List.mem_cons_of_mem _ mark))
    have next : '\n' ∉ valueMarks := by decide
    rw [← reads rest]
    exact value_scalar (forall_head_append rest start next) (not_scarce _) steps

def text (key s : String) : Line := ⟨key, (quote s).toList, .text s⟩

def flag (key : String) (flag : Bool) : Line := ⟨key, (if flag then "true" else "false").toList, .boolean flag⟩

def integer (key : String) (n : Int) : Line := ⟨key, (toString n).toList, .integer n⟩

def float (key : String) (x : Binary64) : Line := ⟨key, x.text.toList, .float x⟩

variable {key : String}

theorem text_fit [Stack] (bare : isBare key = true) (s : String) : (text key s).Fit := by
  unfold text
  constructor
  · exact bare
  · intro c head
    rw [toList_quote] at head
    cases head
    rfl
  · simp only [return_not_mem_quote, not_false_eq_true]
  · rfl
  · intro steps rest
    simp only [value_quote s (by simp : ('\n' :: rest).head? ≠ some '"')]

theorem flag_fit [Stack] (bare : isBare key = true) (value : Bool) : (flag key value).Fit := by
  unfold flag
  constructor
  · exact bare
  · intro c head
    cases value <;> cases head <;> rfl
  · cases value <;> simp only <;> decide
  · rfl
  · intro steps rest
    simp only [value_flag]

theorem integer_fit [Stack] (bare : isBare key = true) {n : Int}
    (short : (Nat.toDigits 10 n.natAbs).length ≤ mostDigits) : (integer key n).Fit := by
  have proper := integerNumeral_proper n
  have printed := toList_toString n
  have plain : Plain (toString n).toList := by
    rw [printed]
    exact Numeral.plain_chars proper
  apply fit_of_plain plain bare rfl
  intro rest
  rw [printed, Numeral.scalar_chars proper (atEnd_newline rest), integerNumeral_item short]
  rfl

theorem float_fit [Stack] (bare : isBare key = true) {x : Binary64} (same : x.ReadsBack) : (float key x).Fit := by
  apply fit_of_plain (plain_text x) bare rfl
  intro rest
  exact same.scalar (atEnd_newline rest)

end Line

end SqlGateway.Toml
