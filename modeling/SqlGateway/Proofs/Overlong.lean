import SqlGateway.Proofs.Scanning

/-!
Decimal integers of more digits than are read. A text that begins with one begins with nothing else that a value
could be, neither a date nor a time nor a number in another base.
-/

namespace SqlGateway.Toml

variable {cs rest : List Char}

/-- The text begins with a decimal integer, and the integer has more digits than are read. -/
inductive LongInteger (cs : List Char) : Prop
  | mk {negative : Bool} {body digits rest : List Char} : Scientific.readSign cs = (negative, body) →
    whole? body = some (digits, rest) → fraction? rest = none → exponent? rest = none →
    mostDigits < digits.length → LongInteger cs

theorem readSign_eq {negative : Bool} {body : List Char} (signed : Scientific.readSign cs = (negative, body)) :
    cs = body ∨ ∃ sign, (sign = '-' ∨ sign = '+') ∧ cs = sign :: body := by
  unfold Scientific.readSign at signed
  split at signed
  · cases signed
    exact .inr ⟨'-', .inl rfl, rfl⟩
  · cases signed
    exact .inr ⟨'+', .inr rfl, rfl⟩
  · cases signed
    exact .inl rfl

theorem expect_of_row {row : List Char} (all : ∀ c ∈ row, c.isDigit = true ∨ c = '_') {n : Nat}
    (within : n < row.length) {mark : Char} (other : mark.isDigit = false ∧ mark ≠ '_') (rest : List Char) :
    expect? mark ((row ++ rest).drop n) = none := by
  have here : (row ++ rest).drop n = row[n] :: (row ++ rest).drop (n + 1) := by
    rw [List.drop_eq_getElem_cons (by simp; omega), List.getElem_append_left within]
  rw [here, expect?, if_neg]
  rintro rfl
  rcases all _ (List.getElem_mem within) with digit | underscore
  · cases other.1.symm.trans digit
  · exact other.2 underscore

theorem bounded_eq_none {width least most : Nat} (wide : 0 < width) {c : Char} (other : c.isDigit = false) :
    bounded? width least most (c :: rest) = none := by
  obtain ⟨more, rfl⟩ := Nat.exists_eq_succ_of_ne_zero (Nat.ne_of_gt wide)
  simp [bounded?, other]

theorem drop_of_bounded {width least most n : Nat} (read : bounded? width least most cs = some (n, rest)) :
    rest = cs.drop width := by
  simp only [bounded?] at read
  split at read
  · cases read
    rfl
  · cases read

theorem moment_of_sign {sign : Char} (other : sign.isDigit = false) : moment? (sign :: rest) = none := by
  simp [moment?, date?, time?, bounded_eq_none, other]

theorem moment_of_row {row : List Char} (all : ∀ c ∈ row, c.isDigit = true ∨ c = '_') (long : 4 < row.length)
    (rest : List Char) : moment? (row ++ rest) = none := by
  have date : date? (row ++ rest) = none := by
    cases year : bounded? 4 0 9999 (row ++ rest) with
    | none => simp [date?, year]
    | some read =>
      obtain ⟨n, after⟩ := read
      obtain rfl := drop_of_bounded year
      simp [date?, year, expect_of_row all long (by decide : '-'.isDigit = false ∧ '-' ≠ '_') rest]
  have time : time? (row ++ rest) = none := by
    cases hour : bounded? 2 0 23 (row ++ rest) with
    | none => simp [time?, hour]
    | some read =>
      obtain ⟨n, after⟩ := read
      obtain rfl := drop_of_bounded hour
      have inside : 2 < row.length := by omega
      simp [time?, hour, expect_of_row all inside (by decide : ':'.isDigit = false ∧ ':' ≠ '_') rest]
  rw [moment?, date, time]
  rfl

namespace LongInteger

theorem start (long : LongInteger cs) : ∃ first more, cs = first :: more ∧
    (first.isDigit = true ∧ first ≠ '0' ∨ first = '-' ∨ first = '+') ∧ moment? cs = none := by
  obtain ⟨signed, read, -, -, many⟩ := long
  rename_i negative body digits rest
  obtain ⟨row, same, found⟩ := row_of_whole read
  have least : 4 < digits.length := Nat.lt_trans (by decide) many
  have wide : 4 < row.length := Nat.lt_of_lt_of_le least (found.digits ▸ List.length_filter_le _ _)
  rcases readSign_eq signed with rfl | ⟨sign, which, rfl⟩
  · obtain ⟨first, more, rfl⟩ : ∃ first more, cs = first :: more := by
      cases cs with
      | nil => cases read
      | cons first more => exact ⟨first, more, rfl⟩
    have moment : moment? (first :: more) = none := by
      rw [← same]
      exact moment_of_row found.all wide rest
    refine ⟨first, more, rfl, .inl ?_, moment⟩
    unfold whole? at read
    split at read
    · cases read
      exact absurd least (by decide)
    · rename_i other
      refine ⟨?_, fun zero => other more (zero ▸ rfl)⟩
      unfold digits? at read
      dsimp only at read
      split at read
      · rename_i digit
        exact digit
      · cases read
  · refine ⟨sign, body, rfl, .inr which, moment_of_sign ?_⟩
    rcases which with rfl | rfl <;> decide

theorem scalar (long : LongInteger cs) : Toml.scalar cs = .error .tooManyDigits := by
  obtain ⟨first, more, rfl, begins, moment⟩ := long.start
  have radix : radixInteger? (first :: more) = none := by
    have other : first ≠ '0' := by
      rcases begins with ⟨-, other⟩ | rfl | rfl
      · exact other
      · decide
      · decide
    unfold radixInteger?
    split
    · next same => exact absurd (List.cons.inj same).1 other
    · next same => exact absurd (List.cons.inj same).1 other
    · next same => exact absurd (List.cons.inj same).1 other
    · rfl
  obtain ⟨signed, read, fraction, exponent, many⟩ := long
  have decimal : decimal? (first :: more) = some (.error .tooManyDigits) := by
    simp [decimal?, signed, read, fraction, exponent, integerOf, many, Except.map]
  rw [Toml.scalar, moment, radix, decimal]

end LongInteger

theorem longInteger_of_scalar {problem : Problem} (given : problem ≠ .malformed)
    (failed : scalar cs = .error problem) : problem = .tooManyDigits ∧ LongInteger cs := by
  unfold scalar at failed
  split at failed
  · rename_i found
    have malformed := moment_answers found
    rw [failed] at malformed
    exact absurd malformed given
  · cases failed
  · rename_i found
    unfold decimal? at found
    rcases signed : Scientific.readSign cs with ⟨negative, body⟩
    rw [signed] at found
    obtain ⟨⟨whole, rest⟩, read, same⟩ := Option.map_eq_some_iff.mp found
    subst same
    dsimp only at failed
    split at failed
    · rename_i integral
      obtain ⟨fraction, exponent⟩ := (Bool.and_eq_true _ _).mp integral
      rw [Option.isNone_iff_eq_none] at fraction exponent
      rw [fraction] at exponent
      have failed := map_eq_error failed
      unfold integerOf at failed
      split at failed
      · rename_i many
        cases failed
        exact ⟨rfl, .mk signed read fraction exponent many⟩
      · cases failed
    · cases failed
  · cases failed
  · cases failed
    exact absurd rfl given

end SqlGateway.Toml
