import SqlGateway.Number.Shortest
import SqlGateway.Toml.Number

/-!
Numerals of a document. A number that is written out is read back up to its end: an integer as itself, a
floating-point number as the number that its digits stand for.
-/

namespace SqlGateway

theorem toDigits_head {n : Nat} (positive : n ≠ 0) :
    ∃ first more, Nat.toDigits 10 n = first :: more ∧ first ≠ '0' := by
  induction n using Nat.strongRecOn with
  | ind n ih =>
    by_cases small : n < 10
    · have digits : ∀ k : Fin 10, k ≠ 0 → Nat.digitChar k ≠ '0' := by decide
      rw [Nat.toDigits_of_lt_base small]
      refine ⟨_, [], rfl, digits ⟨n, small⟩ fun zero => positive (Fin.val_eq_of_eq zero)⟩
    · obtain ⟨first, more, front, other⟩ := ih (n / 10) (by omega) (by omega)
      have whole := Nat.toDigits_append_toDigits (b := 10) (n := n / 10) (d := n % 10) (by decide) (by omega)
        (Nat.mod_lt n (by decide))
      rw [Nat.div_add_mod n 10, front] at whole
      exact ⟨first, _, whole.symm, other⟩

theorem digit_of_toDigits {n : Nat} {c : Char} (member : c ∈ Nat.toDigits 10 n) : c.isDigit = true :=
  Nat.isDigit_of_mem_toDigits (by decide) (by decide) member

namespace Toml

/-- A number as it is written: a sign, the digits before the point, those after it, of which there may be
none, and the sign and digits of a power. -/
structure Numeral where
  negative : Bool
  whole : List Char
  fraction : List Char := []
  power? : Option (Bool × List Char) := none

namespace Numeral

def point (fraction : List Char) : List Char := if fraction.isEmpty then [] else '.' :: fraction

def powerChars : Option (Bool × List Char) → List Char
  | none => []
  | some (negative, digits) => 'e' :: (if negative then '-' else '+') :: digits

def unsigned (numeral : Numeral) : List Char :=
  numeral.whole ++ (point numeral.fraction ++ powerChars numeral.power?)

def chars (numeral : Numeral) : List Char :=
  if numeral.negative then '-' :: numeral.unsigned else numeral.unsigned

/-- Only digits stand where digits belong, and a zero in front stands alone. -/
structure Proper (numeral : Numeral) : Prop where
  whole : ∀ c ∈ numeral.whole, c.isDigit = true
  lead : numeral.whole = ['0'] ∨ ∃ first more, numeral.whole = first :: more ∧ first ≠ '0'
  fraction : ∀ c ∈ numeral.fraction, c.isDigit = true
  power : ∀ negative digits, numeral.power? = some (negative, digits) →
    digits ≠ [] ∧ ∀ c ∈ digits, c.isDigit = true

def exponent (numeral : Numeral) : Int :=
  match numeral.power? with
  | none => 0
  | some (negative, digits) =>
    if negative then -(Scientific.digitsValue digits : Int) else Scientific.digitsValue digits

def item (numeral : Numeral) : Except Problem Toml :=
  if numeral.fraction.isEmpty && numeral.power?.isNone then integerOf numeral.negative numeral.whole
  else .ok (floatOf numeral.negative numeral.whole numeral.fraction numeral.exponent)

end Numeral

def AtEnd (rest : List Char) : Prop := ∀ c ∈ rest.head?, c = '\n'

theorem atEnd_newline (rest : List Char) : AtEnd ('\n' :: rest) := by
  intro c head
  exact (Option.some.inj head).symm

theorem moreDigits_append {digits rest : List Char} (all : ∀ c ∈ digits, c.isDigit = true)
    (stops : ∀ c ∈ rest.head?, c.isDigit = false ∧ c ≠ '_') :
    moreDigits Char.isDigit (digits ++ rest) = (digits, rest) := by
  induction digits with
  | nil =>
    cases rest with
    | nil => rfl
    | cons c more =>
      obtain ⟨other, mark⟩ := stops c rfl
      rw [List.nil_append, moreDigits]
      · rw [other, if_neg Bool.false_ne_true]
      · exact fun _ _ same _ => mark same
  | cons digit more ih =>
    obtain ⟨first, later⟩ := List.forall_mem_cons.mp all
    have mark : digit ≠ '_' := by rintro rfl; cases first
    rw [List.cons_append, moreDigits]
    · rw [first, if_pos rfl, ih later]
      rfl
    · exact fun _ _ same _ => mark same

theorem digits_append {digits rest : List Char} (filled : digits ≠ [])
    (all : ∀ c ∈ digits, c.isDigit = true) (stops : ∀ c ∈ rest.head?, c.isDigit = false ∧ c ≠ '_') :
    digits? Char.isDigit (digits ++ rest) = some (digits, rest) := by
  obtain ⟨first, more, rfl⟩ := List.exists_cons_of_ne_nil filled
  obtain ⟨digit, later⟩ := List.forall_mem_cons.mp all
  rw [List.cons_append, digits?, digit, if_pos rfl, moreDigits_append later stops]
  rfl

theorem bounded_append {width least most n : Nat} {digits tail after : List Char} (wide : 0 < width)
    (apart : ∀ c ∈ tail.head?, c.isDigit = false)
    (read : bounded? width least most (digits ++ tail) = some (n, after)) :
    digits ≠ [] ∧ after = digits.drop width ++ tail := by
  simp only [bounded?] at read
  split at read
  · next conditions =>
    simp only [Bool.and_eq_true, decide_eq_true_eq, List.all_eq_true] at conditions
    obtain ⟨⟨⟨long, all⟩, -⟩, -⟩ := conditions
    have within : width ≤ digits.length := by
      refine Nat.le_of_not_lt fun short => ?_
      cases tail with
      | nil =>
        rw [List.append_nil, List.length_take] at long
        omega
      | cons c more =>
        have taken : c ∈ (digits ++ c :: more).take width := by
          rw [List.take_append, List.mem_append]
          refine .inr ?_
          rw [← Nat.succ_pred_eq_of_pos (Nat.sub_pos_of_lt short), List.take_succ_cons]
          exact List.mem_cons_self
        cases (apart c rfl).symm.trans (all c taken)
    cases read
    refine ⟨fun none => ?_, List.drop_append_of_le_length within⟩
    rw [none, List.length_nil] at within
    omega
  · cases read

theorem expect_append {mark : Char} (other : mark.isDigit = false) {digits tail : List Char}
    (all : ∀ c ∈ digits, c.isDigit = true) (apart : ∀ c ∈ tail.head?, c ≠ mark) :
    expect? mark (digits ++ tail) = none := by
  cases digits with
  | nil =>
    cases tail with
    | nil => rfl
    | cons c more => exact if_neg (apart c rfl)
  | cons digit more =>
    refine if_neg fun same => ?_
    cases (same ▸ other).symm.trans (all digit List.mem_cons_self)

/-- Digits that neither a hyphen nor a colon follows begin no date and no time. -/
theorem moment_append {digits tail : List Char} (all : ∀ c ∈ digits, c.isDigit = true)
    (apart : ∀ c ∈ tail.head?, c.isDigit = false)
    (unmarked : digits ≠ [] → ∀ c ∈ tail.head?, c ≠ '-' ∧ c ≠ ':') : moment? (digits ++ tail) = none := by
  have rest (width : Nat) : ∀ c ∈ digits.drop width, c.isDigit = true := fun c member =>
    all c (List.mem_of_mem_drop member)
  have date : date? (digits ++ tail) = none := by
    unfold date?
    cases read : bounded? 4 0 9999 (digits ++ tail) with
    | none => rfl
    | some year =>
      obtain ⟨filled, same⟩ := bounded_append (by decide) apart read
      have marked : ∀ c ∈ tail.head?, c ≠ '-' := fun c member => (unmarked filled c member).1
      simp [same, expect_append (by decide : '-'.isDigit = false) (rest 4) marked]
  have time : time? (digits ++ tail) = none := by
    unfold time?
    cases read : bounded? 2 0 23 (digits ++ tail) with
    | none => rfl
    | some hour =>
      obtain ⟨filled, same⟩ := bounded_append (by decide) apart read
      have marked : ∀ c ∈ tail.head?, c ≠ ':' := fun c member => (unmarked filled c member).2
      simp [same, expect_append (by decide : ':'.isDigit = false) (rest 2) marked]
  rw [moment?, date, time]
  rfl

theorem moment_of_head {cs : List Char} (apart : ∀ c ∈ cs.head?, c.isDigit = false) :
    moment? cs = none := by
  have joined : moment? ([] ++ cs) = none := moment_append nofun apart fun filled => absurd rfl filled
  rwa [List.nil_append] at joined

theorem radix_none {cs : List Char}
    (apart : ∀ c more, cs = '0' :: c :: more → c ≠ 'x' ∧ c ≠ 'o' ∧ c ≠ 'b') : radixInteger? cs = none := by
  unfold radixInteger?
  split
  · next more => exact absurd rfl (apart 'x' more rfl).1
  · next more => exact absurd rfl (apart 'o' more rfl).2.1
  · next more => exact absurd rfl (apart 'b' more rfl).2.2
  · rfl

namespace Numeral

variable {numeral : Numeral} {rest : List Char}

theorem head_power (power? : Option (Bool × List Char)) (atEnd : AtEnd rest) :
    ∀ c ∈ (powerChars power? ++ rest).head?, c = 'e' ∨ c = '\n' := by
  cases power? with
  | none => exact fun c member => .inr (atEnd c member)
  | some power => exact fun c member => .inl (Option.some.inj member).symm

theorem head_point (fraction : List Char) (power? : Option (Bool × List Char)) (atEnd : AtEnd rest) :
    ∀ c ∈ (point fraction ++ (powerChars power? ++ rest)).head?, c = '.' ∨ c = 'e' ∨ c = '\n' := by
  unfold point
  split
  · exact fun c member => .inr (head_power power? atEnd c member)
  · exact fun c member => .inl (Option.some.inj member).symm

theorem stops_power (power? : Option (Bool × List Char)) (atEnd : AtEnd rest) :
    ∀ c ∈ (powerChars power? ++ rest).head?, c.isDigit = false ∧ c ≠ '_' := by
  intro c member
  rcases head_power power? atEnd c member with rfl | rfl <;> decide

theorem stops_point (fraction : List Char) (power? : Option (Bool × List Char)) (atEnd : AtEnd rest) :
    ∀ c ∈ (point fraction ++ (powerChars power? ++ rest)).head?, c.isDigit = false ∧ c ≠ '_' := by
  intro c member
  rcases head_point fraction power? atEnd c member with rfl | rfl | rfl <;> decide

theorem Proper.filled (proper : numeral.Proper) : numeral.whole ≠ [] := by
  rcases proper.lead with same | ⟨first, more, same, -⟩ <;> simp [same]

theorem whole_append (proper : numeral.Proper) {rest : List Char}
    (stops : ∀ c ∈ rest.head?, c.isDigit = false ∧ c ≠ '_') :
    whole? (numeral.whole ++ rest) = some (numeral.whole, rest) := by
  rcases proper.lead with same | ⟨first, more, same, other⟩
  · rw [same]
    rfl
  · have read := digits_append proper.filled proper.whole stops
    rw [same, List.cons_append] at read ⊢
    rw [whole?]
    · exact read
    · exact fun _ zero => other (List.cons.inj zero).1

theorem fraction_append (proper : numeral.Proper) (atEnd : AtEnd rest) :
    fraction? (point numeral.fraction ++ (powerChars numeral.power? ++ rest)) =
      if numeral.fraction.isEmpty then none
      else some (numeral.fraction, powerChars numeral.power? ++ rest) := by
  unfold point
  split
  · have head := head_power numeral.power? atEnd
    cases tail : powerChars numeral.power? ++ rest with
    | nil => rfl
    | cons c more =>
      rw [tail] at head
      rcases head c rfl with rfl | rfl <;> rfl
  · next filled =>
    refine digits_append (fun none => filled ?_) proper.fraction (stops_power numeral.power? atEnd)
    rw [none]
    rfl

theorem exponent_append (proper : numeral.Proper) (atEnd : AtEnd rest) :
    exponent? (powerChars numeral.power? ++ rest) =
      numeral.power?.map fun _ => (numeral.exponent, rest) := by
  have digits := proper.power
  unfold exponent
  cases power : numeral.power? with
  | none =>
    cases rest with
    | nil => rfl
    | cons c more =>
      obtain rfl := atEnd c rfl
      rfl
  | some sign =>
    obtain ⟨negative, written⟩ := sign
    obtain ⟨filled, all⟩ := digits negative written power
    have stops : ∀ c ∈ rest.head?, c.isDigit = false ∧ c ≠ '_' := by
      intro c member
      rw [atEnd c member]
      decide
    have read := digits_append filled all stops
    cases negative <;> simp [powerChars, exponent?, Scientific.readSign, read]

theorem readSign_chars (proper : numeral.Proper) (rest : List Char) :
    Scientific.readSign (numeral.chars ++ rest) = (numeral.negative, numeral.unsigned ++ rest) := by
  unfold chars
  cases numeral.negative with
  | true => rfl
  | false =>
    obtain ⟨first, more, same⟩ := List.exists_cons_of_ne_nil proper.filled
    have digit := proper.whole first (by rw [same]; exact List.mem_cons_self)
    have front : numeral.unsigned ++ rest =
        first :: (more ++ (point numeral.fraction ++ powerChars numeral.power?) ++ rest) := by
      rw [unsigned, same]
      rfl
    rw [if_neg Bool.false_ne_true, front, Scientific.readSign]
    · intro _ equal
      rw [(List.cons.inj equal).1] at digit
      cases digit
    · intro _ equal
      rw [(List.cons.inj equal).1] at digit
      cases digit

theorem decimal_chars (proper : numeral.Proper) (atEnd : AtEnd rest) :
    decimal? (numeral.chars ++ rest) = some (numeral.item.map (·, rest)) := by
  have whole := whole_append proper (stops_point numeral.fraction numeral.power? atEnd)
  have split : numeral.unsigned ++ rest =
      numeral.whole ++ (point numeral.fraction ++ (powerChars numeral.power? ++ rest)) := by
    simp [unsigned]
  unfold decimal?
  rw [readSign_chars proper]
  simp only [split, whole, Option.map_some, fraction_append proper atEnd]
  have raised := exponent_append proper atEnd
  have pointless : point [] = [] := rfl
  unfold item
  cases power : numeral.power? with
  | none =>
    have ended : exponent? rest = none := by simpa [power, powerChars] using raised
    have zero : numeral.exponent = 0 := by rw [exponent, power]
    cases empty : numeral.fraction with
    | nil => simp [pointless, powerChars, ended]
    | cons digit more => simp [powerChars, ended, zero, Except.map]
  | some sign =>
    rw [power, Option.map_some] at raised
    cases empty : numeral.fraction with
    | nil => simp [pointless, raised, Except.map]
    | cons digit more => simp [raised, Except.map]

theorem moment_chars (proper : numeral.Proper) (atEnd : AtEnd rest) :
    moment? (numeral.chars ++ rest) = none := by
  have head := head_point numeral.fraction numeral.power? atEnd
  unfold chars unsigned
  cases numeral.negative with
  | true =>
    refine moment_of_head fun c member => ?_
    cases member
    rfl
  | false =>
    rw [if_neg Bool.false_ne_true, List.append_assoc, List.append_assoc]
    refine moment_append proper.whole (fun c member => ?_) fun _ c member => ?_
    · exact (stops_point numeral.fraction numeral.power? atEnd c member).1
    · rcases head c member with rfl | rfl | rfl <;> decide

theorem radix_chars (proper : numeral.Proper) (atEnd : AtEnd rest) :
    radixInteger? (numeral.chars ++ rest) = none := by
  have head := head_point numeral.fraction numeral.power? atEnd
  refine radix_none fun c more same => ?_
  unfold chars unsigned at same
  cases sign : numeral.negative with
  | true =>
    rw [sign, if_pos rfl] at same
    cases (List.cons.inj same).1
  | false =>
    rw [sign, if_neg Bool.false_ne_true, List.append_assoc, List.append_assoc] at same
    rcases proper.lead with zero | ⟨first, digits, lead, other⟩
    · rw [zero] at same
      have second : point numeral.fraction ++ (powerChars numeral.power? ++ rest) = c :: more :=
        (List.cons.inj same).2
      rcases head c (by rw [second]; rfl) with rfl | rfl | rfl <;> decide
    · rw [lead] at same
      exact absurd (List.cons.inj same).1 other

theorem scalar_chars (proper : numeral.Proper) (atEnd : AtEnd rest) :
    scalar (numeral.chars ++ rest) = numeral.item.map (·, rest) := by
  rw [scalar, moment_chars proper atEnd, radix_chars proper atEnd, decimal_chars proper atEnd]

end Numeral

end Toml

end SqlGateway
