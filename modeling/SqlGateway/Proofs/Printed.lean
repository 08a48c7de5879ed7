import SqlGateway.Proofs.Numerals

/-!
Numbers as they are printed. An integer and a floating-point number are printed as numerals, so that a
document that holds them is read up to their end.
-/

namespace SqlGateway

open Toml

theorem lead_toDigits (n : Nat) : Nat.toDigits 10 n = ['0'] ∨
    ∃ first more, Nat.toDigits 10 n = first :: more ∧ first ≠ '0' := by
  by_cases zero : n = 0
  · subst zero
    exact .inl rfl
  · exact .inr (toDigits_head zero)

def integerNumeral (n : Int) : Numeral := { negative := n < 0, whole := Nat.toDigits 10 n.natAbs }

theorem integerNumeral_proper (n : Int) : (integerNumeral n).Proper where
  whole := fun _ => digit_of_toDigits
  lead := lead_toDigits n.natAbs
  fraction := nofun
  power := nofun

theorem toList_toString (n : Int) : (toString n).toList = (integerNumeral n).chars := by
  have digits : (integerNumeral n).unsigned = Nat.toDigits 10 n.natAbs := by
    simp [Numeral.unsigned, Numeral.point, Numeral.powerChars, integerNumeral]
  rw [Numeral.chars, digits]
  cases n with
  | ofNat m =>
    have sign : (integerNumeral (Int.ofNat m)).negative = false := by simp [integerNumeral]
    rw [sign, if_neg Bool.false_ne_true]
    exact String.toList_ofList
  | negSucc m =>
    have sign : (integerNumeral (Int.negSucc m)).negative = true := by simp [integerNumeral]
    rw [sign, if_pos rfl]
    have text : toString (Int.negSucc m) = "-" ++ String.ofList (Nat.toDigits 10 (m + 1)) := rfl
    rw [text, String.toList_append, String.toList_ofList, String.toList_ofList]
    rfl

theorem integerNumeral_item {n : Int} (short : (Nat.toDigits 10 n.natAbs).length ≤ Toml.mostDigits) :
    (integerNumeral n).item = .ok (.integer n) := by
  have value : Scientific.digitsValue (Nat.toDigits 10 n.natAbs) = n.natAbs := Nat.ofDigitChars_ten_toDigits
  have item : (integerNumeral n).item = integerOf (decide (n < 0)) (Nat.toDigits 10 n.natAbs) := rfl
  rw [item, integerOf, if_neg (Nat.not_lt.mpr short), value]
  by_cases negative : n < 0
  · have same : -(n.natAbs : Int) = n := by omega
    simp only [decide_eq_true negative, if_true, same]
  · have same : (n.natAbs : Int) = n := by omega
    simp only [decide_eq_false negative, Bool.false_eq_true, if_false, same]

/-- The numeral has a point or a power, and so it is no integer. -/
def Toml.Numeral.Broken (numeral : Numeral) : Prop := numeral.fraction ≠ [] ∨ numeral.power? ≠ none

theorem item_of_broken {numeral : Numeral} (broken : numeral.Broken) :
    ∃ x, numeral.item = .ok (.float x) := by
  unfold Numeral.item
  split
  · next whole =>
    rw [Bool.and_eq_true, List.isEmpty_iff, Option.isNone_iff_eq_none] at whole
    exact broken.elim (absurd whole.1) (absurd whole.2)
  · exact ⟨_, rfl⟩

theorem stripTens_ne_zero (n : Nat) (exponent : Int) (positive : n ≠ 0) :
    (Scientific.stripTens n exponent).1 ≠ 0 := by
  fun_induction Scientific.stripTens n exponent with
  | case1 n exponent tens ih => exact ih (by omega)
  | case2 n exponent tens => exact positive

theorem exponent_normal {x : Scientific} (zero : x.normal.coefficient = 0) : x.normal.exponent = 0 := by
  unfold Scientific.normal at zero ⊢
  split
  · rfl
  · next positive =>
    rw [if_neg positive] at zero
    exact absurd zero (stripTens_ne_zero _ _ positive)

namespace Binary64

structure Printed (chars : List Char) (numeral : Numeral) : Prop where
  chars : numeral.unsigned = chars
  proper : numeral.Proper
  broken : numeral.Broken

theorem digit_of_replicate {n : Nat} {c : Char} (member : c ∈ List.replicate n '0') : c.isDigit = true := by
  rw [List.eq_of_mem_replicate member]
  rfl

theorem printed_pointed {whole fraction : List Char} (digits : ∀ c ∈ whole ++ fraction, c.isDigit = true)
    (lead : whole = ['0'] ∨ ∃ first more, whole = first :: more ∧ first ≠ '0') (filled : fraction ≠ [])
    (negative : Bool) :
    ∃ numeral, numeral.negative = negative ∧ Printed (whole ++ '.' :: fraction) numeral := by
  obtain ⟨wholeDigits, fractionDigits⟩ := List.forall_mem_append.mp digits
  have pointed : Numeral.point fraction = '.' :: fraction := if_neg (mt List.isEmpty_iff.mp filled)
  refine ⟨⟨negative, whole, fraction, none⟩, rfl, ?_, ?_, .inl filled⟩
  · rw [Numeral.unsigned, pointed]
    simp [Numeral.powerChars]
  · constructor
    · exact wholeDigits
    · exact lead
    · exact fractionDigits
    · intro sign written power
      cases power

theorem printed_positional {digits : List Char} {places : Int} (all : ∀ c ∈ digits, c.isDigit = true)
    (lead : digits = ['0'] ∧ places = 1 ∨ ∃ first more, digits = first :: more ∧ first ≠ '0')
    (negative : Bool) : ∃ numeral, numeral.negative = negative ∧ Printed (positional digits places) numeral := by
  have filled : digits ≠ [] := by rcases lead with ⟨same, -⟩ | ⟨first, more, same, -⟩ <;> simp [same]
  have zeros (count : Nat) : ∀ c ∈ List.replicate count '0', c.isDigit = true := by
    intro c member
    exact digit_of_replicate member
  unfold positional
  split
  · have below : ∀ c ∈ ['0'] ++ (List.replicate (-places).toNat '0' ++ digits), c.isDigit = true :=
      List.forall_mem_append.mpr ⟨zeros 1, List.forall_mem_append.mpr ⟨zeros _, all⟩⟩
    exact printed_pointed below (.inl rfl) (List.append_ne_nil_of_right_ne_nil _ filled) negative
  · next large =>
    dsimp only
    have taken : ∀ c ∈ digits.take places.toNat, c.isDigit = true := by
      intro c member
      exact all c (List.mem_of_mem_take member)
    have dropped : ∀ c ∈ digits.drop places.toNat, c.isDigit = true := by
      intro c member
      exact all c (List.mem_of_mem_drop member)
    have whole := List.forall_mem_append.mpr
      ⟨taken, zeros (places.toNat - (digits.take places.toNat).length)⟩
    apply printed_pointed
    · rw [List.forall_mem_append]
      constructor
      · exact whole
      · split
        · exact zeros 1
        · exact dropped
    · rcases lead with ⟨rfl, rfl⟩ | ⟨first, more, rfl, other⟩
      · exact .inl rfl
      · obtain ⟨count, steps⟩ : ∃ count, places.toNat = count + 1 := ⟨places.toNat - 1, by omega⟩
        rw [steps, List.take_succ_cons, List.cons_append]
        exact .inr ⟨first, _, rfl, other⟩
    · split
      · exact List.cons_ne_nil _ _
      · next some => exact mt List.isEmpty_iff.mpr some

theorem printed_exponential {digits : List Char} (width : Nat) (exponent : Int)
    (all : ∀ c ∈ digits, c.isDigit = true) (filled : digits ≠ []) (negative : Bool) :
    ∃ numeral, numeral.negative = negative ∧ Printed (exponential width digits exponent) numeral := by
  obtain ⟨first, more, rfl⟩ := List.exists_cons_of_ne_nil filled
  obtain ⟨digit, later⟩ := List.forall_mem_cons.mp all
  refine ⟨⟨negative, [first], more, some (exponent < 0, padLeft width (Nat.toDigits 10 exponent.natAbs))⟩,
    rfl, ?_, ?_, .inr nofun⟩
  · cases more <;> simp [exponential, Numeral.unsigned, Numeral.point, Numeral.powerChars]
  · refine ⟨fun c member => ?_, ?_, later, fun sign written power => ?_⟩
    · rwa [List.mem_singleton.mp member]
    · by_cases zero : first = '0'
      · exact .inl (congrArg (fun c => [c]) zero)
      · exact .inr ⟨first, [], rfl, zero⟩
    · obtain ⟨-, rfl⟩ := Prod.mk.inj (Option.some.inj power)
      refine ⟨fun none => ?_, fun c member => ?_⟩
      · exact Nat.toDigits_ne_nil (List.append_eq_nil_iff.mp none).2
      · exact (List.mem_append.mp member).elim digit_of_replicate digit_of_toDigits

theorem printed_layOut {x : Scientific} (normal : x.coefficient = 0 → x.exponent = 0) (negative : Bool) :
    ∃ numeral, numeral.negative = negative ∧ Printed (layOut layout x) numeral := by
  unfold layOut
  dsimp only
  split
  · refine printed_positional (fun _ => digit_of_toDigits) ?_ negative
    by_cases zero : x.coefficient = 0
    · rw [zero, normal zero]
      exact .inl ⟨rfl, rfl⟩
    · exact .inr (toDigits_head zero)
  · exact printed_exponential _ _ (fun _ => digit_of_toDigits) Nat.toDigits_ne_nil negative

theorem text_finite (negative : Bool) (mantissa : Nat) (exponent : Int) :
    ∃ numeral : Numeral, (text (.finite negative mantissa exponent)).toList = numeral.chars ∧
      numeral.Proper ∧ numeral.Broken := by
  have body : ∃ numeral, numeral.negative = negative ∧ Printed (if mantissa = 0 then ['0', '.', '0']
      else layOut layout (shortest negative mantissa exponent)) numeral := by
    split
    · refine ⟨⟨negative, ['0'], ['0'], none⟩, rfl, rfl, ?_, .inl nofun⟩
      refine ⟨fun c member => ?_, .inl rfl, fun c member => ?_, nofun⟩
      all_goals
        rw [List.mem_singleton.mp member]
        rfl
    · exact printed_layOut exponent_normal negative
  obtain ⟨numeral, sign, printed⟩ := body
  refine ⟨numeral, ?_, printed.proper, printed.broken⟩
  rw [Numeral.chars, sign, printed.chars, text, String.toList_ofList]

theorem scalar_of_word {cs rest : List Char} {item : Toml} (apart : ∀ c ∈ cs.head?, c.isDigit = false)
    (numberless : decimal? cs = none) (word : wordNumber? cs = some (item, rest)) :
    scalar cs = .ok (item, rest) := by
  have radix : radixInteger? cs = none := radix_none fun c more same => by
    cases apart '0' (by rw [same]; rfl)
  rw [scalar, moment_of_head apart, radix, numberless, word]

theorem scalar_infinity (negative : Bool) (rest : List Char) :
    scalar ((text (.infinity negative)).toList ++ rest) = .ok (.float (.infinity negative), rest) := by
  cases negative with
  | true => exact scalar_of_word (fun c member => by cases member; rfl) rfl rfl
  | false => exact scalar_of_word (fun c member => by cases member; rfl) rfl rfl

theorem scalar_nan (rest : List Char) : scalar ((text .nan).toList ++ rest) = .ok (.float .nan, rest) :=
  scalar_of_word (fun c member => by cases member; rfl) rfl rfl

/-- Whatever number is printed, a document reads a number there and nothing else. -/
theorem scalar_text (x : Binary64) : ∃ y, ∀ rest, AtEnd rest →
    scalar (x.text.toList ++ rest) = .ok (.float y, rest) := by
  cases x with
  | nan => exact ⟨.nan, fun rest _ => scalar_nan rest⟩
  | infinity negative => exact ⟨.infinity negative, fun rest _ => scalar_infinity negative rest⟩
  | finite negative mantissa exponent =>
    obtain ⟨numeral, printed, proper, broken⟩ := text_finite negative mantissa exponent
    obtain ⟨y, item⟩ := item_of_broken broken
    refine ⟨y, fun rest atEnd => ?_⟩
    rw [printed, Numeral.scalar_chars proper atEnd, item]
    rfl

/-- The number is the one that a document holds where the number is printed. -/
def ReadsBack (x : Binary64) : Prop := ∀ y rest, scalar x.text.toList = .ok (.float y, rest) → y = x

theorem ReadsBack.scalar {x : Binary64} (same : ReadsBack x) {rest : List Char} (atEnd : AtEnd rest) :
    scalar (x.text.toList ++ rest) = .ok (.float x, rest) := by
  obtain ⟨y, read⟩ := scalar_text x
  have alone := read [] nofun
  rw [List.append_nil] at alone
  rw [read rest atEnd, same y [] alone]

end Binary64

end SqlGateway
