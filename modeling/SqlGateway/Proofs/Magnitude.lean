import SqlGateway.Number.Binary64

/-!
Which integers have a nearest floating-point number. The greatest finite number is `2 ^ 53 - 1` units of
`2 ^ 971`; half a unit above it begin the integers that are too large.
-/

namespace SqlGateway.Binary64

/-- Half a unit above the greatest finite number. -/
def leastExcess : Nat := (Nat.pow 2 54 - 1) * Nat.pow 2 970

theorem halfEven_eq_succ_iff {num den n : Nat} (odd : n % 2 = 1) (below : num < den * (n + 1)) :
    halfEven num den = n + 1 ↔ den * (2 * n + 1) ≤ 2 * num := by
  have positive : 0 < den := Nat.pos_of_mul_pos_right (Nat.zero_lt_of_lt below)
  have whole := Nat.div_add_mod num den
  have rest := Nat.mod_lt num positive
  have atMost : num / den ≤ n := Nat.le_of_lt_succ (Nat.div_lt_of_lt_mul below)
  have doubled : den * (2 * n + 1) = 2 * (den * n) + den := by
    rw [Nat.mul_add, Nat.mul_one, Nat.mul_left_comm]
  rw [doubled]
  unfold halfEven
  by_cases least : num / den = n
  · rw [least] at whole ⊢
    have tie : ¬ n % 2 = 0 := by omega
    simp only [tie, decide_false, Bool.and_false, Bool.or_false, decide_eq_true_eq]
    split <;> omega
  · have lower : den * (num / den) + den ≤ den * n := by
      rw [← Nat.mul_succ]
      exact Nat.mul_le_mul_left den (by omega)
    refine iff_of_false ?_ (by omega)
    dsimp only
    split <;> omega

variable {num : Nat} (filled : num ≠ 0)

include filled

theorem ofRatio_one (negative : Bool) : ∃ mantissa,
    (∀ k, num.log2 = k + 53 → mantissa = halfEven num (Nat.pow 2 (k + 1))) ∧
      ofRatio negative num 1 =
        if mantissa = Nat.pow 2 53 then pack negative (Nat.pow 2 52) (num.log2 - 51)
        else pack negative mantissa (num.log2 - 52) := by
  have least : Nat.pow 2 num.log2 ≤ num := Nat.log2_self_le filled
  have guess : (num.log2 : Int) - Nat.log2 1 - 53 = num.log2 - 53 := by
    rw [show Nat.log2 1 = 0 by decide]
    omega
  have enough : ¬ num * Nat.pow 2 (-(num.log2 - 53 : Int)).toNat / (1 * Nat.pow 2 (num.log2 - 53 : Int).toNat) <
      Nat.pow 2 53 := by
    have unit : 0 < 1 * Nat.pow 2 (num.log2 - 53 : Int).toNat := by
      rw [Nat.one_mul]
      exact Nat.pow_pos (by decide)
    have exponents : 53 + (num.log2 - 53 : Int).toNat = num.log2 + (-(num.log2 - 53 : Int)).toNat := by omega
    rw [Nat.not_lt, Nat.le_div_iff_mul_le unit, Nat.one_mul]
    calc
      Nat.pow 2 53 * Nat.pow 2 (num.log2 - 53 : Int).toNat = Nat.pow 2 (53 + (num.log2 - 53 : Int).toNat) :=
        (Nat.pow_add 2 _ _).symm
      _ = Nat.pow 2 num.log2 * Nat.pow 2 (-(num.log2 - 53 : Int)).toNat := by
        rw [exponents]
        exact Nat.pow_add 2 _ _
      _ ≤ num * Nat.pow 2 (-(num.log2 - 53 : Int)).toNat := Nat.mul_le_mul_right _ least
  have exponent : max (num.log2 - 53 + 1 : Int) leastExponent = num.log2 - 52 := by
    unfold leastExponent
    omega
  have next : (num.log2 - 52 + 1 : Int) = num.log2 - 51 := by omega
  refine ⟨halfEven (num * Nat.pow 2 (-(num.log2 - 52 : Int)).toNat) (1 * Nat.pow 2 (num.log2 - 52 : Int).toNat),
    fun k large => ?_, ?_⟩
  · rw [show (-(num.log2 - 52 : Int)).toNat = 0 by omega, show (num.log2 - 52 : Int).toNat = k + 1 by omega,
      Nat.one_mul]
    exact congrArg (halfEven · _) (Nat.mul_one num)
  · unfold ofRatio
    simp only [filled, if_false, guess, enough, exponent, next]

variable {k : Nat}

omit filled in
theorem lt_of_log2 (small : num.log2 < k + 53) : num < (Nat.pow 2 54 - 1) * Nat.pow 2 k := by
  have above : num < Nat.pow 2 (num.log2 + 1) := Nat.lt_log2_self
  have power : Nat.pow 2 (53 + k) = Nat.pow 2 53 * Nat.pow 2 k := Nat.pow_add 2 53 k
  calc
    num < Nat.pow 2 (53 + k) := Nat.lt_of_lt_of_le above (Nat.pow_le_pow_right (by decide) (by omega))
    _ = Nat.pow 2 53 * Nat.pow 2 k := power
    _ ≤ (Nat.pow 2 54 - 1) * Nat.pow 2 k := Nat.mul_le_mul_right _ (by decide)

theorem le_of_log2 (large : k + 53 < num.log2) : (Nat.pow 2 54 - 1) * Nat.pow 2 k ≤ num := by
  have power : Nat.pow 2 (54 + k) = Nat.pow 2 54 * Nat.pow 2 k := Nat.pow_add 2 54 k
  calc
    (Nat.pow 2 54 - 1) * Nat.pow 2 k ≤ Nat.pow 2 54 * Nat.pow 2 k := Nat.mul_le_mul_right _ (by decide)
    _ = Nat.pow 2 (54 + k) := power.symm
    _ ≤ Nat.pow 2 num.log2 := Nat.pow_le_pow_right (by decide) (by omega)
    _ ≤ num := Nat.log2_self_le filled

omit filled in
/-- Between two powers of two, the upper one is reached from half a unit below it. -/
theorem halfEven_eq_pow_iff (between : num.log2 = k + 53) :
    halfEven num (Nat.pow 2 (k + 1)) = Nat.pow 2 53 ↔ (Nat.pow 2 54 - 1) * Nat.pow 2 k ≤ num := by
  have twice : Nat.pow 2 (k + 1) = 2 * Nat.pow 2 k := Nat.pow_succ'
  have below : num < Nat.pow 2 (k + 1) * (9007199254740991 + 1) := by
    have above : num < Nat.pow 2 (num.log2 + 1) := Nat.lt_log2_self
    rw [between, show k + 53 + 1 = k + 1 + 53 by omega] at above
    exact Nat.lt_of_lt_of_eq above (Nat.pow_add 2 (k + 1) 53)
  rw [show Nat.pow 2 53 = 9007199254740991 + 1 by rfl, show Nat.pow 2 54 - 1 = 18014398509481983 by rfl,
    halfEven_eq_succ_iff (by decide) below, twice]
  omega

theorem ofInt_eq_none_of_log2 {n : Int} (same : n.natAbs = num) : ∃ mantissa,
    (∀ k, num.log2 = k + 53 → mantissa = halfEven num (Nat.pow 2 (k + 1))) ∧
      (ofInt? n = none ↔ 1023 < num.log2 ∨ mantissa = Nat.pow 2 53 ∧ 1022 < num.log2) := by
  obtain ⟨mantissa, rounded, ratio⟩ := ofRatio_one filled (n < 0)
  refine ⟨mantissa, rounded, ?_⟩
  rw [ofInt?, same, ratio]
  unfold pack greatestExponent
  by_cases next : mantissa = Nat.pow 2 53
  · by_cases large : (num.log2 - 51 : Int) > 971 <;> simp [next, large] <;> omega
  · by_cases large : (num.log2 - 52 : Int) > 971 <;> simp [next, large] <;> omega

omit filled in
/-- An integer has no nearest number from half a unit above the greatest one on. -/
theorem ofInt_eq_none_iff (n : Int) : ofInt? n = none ↔ leastExcess ≤ n.natAbs := by
  -- The exponent stays a variable, since `2 ^ 970` is not to be computed.
  obtain ⟨k, excess, top⟩ : ∃ k, leastExcess = (Nat.pow 2 54 - 1) * Nat.pow 2 k ∧ k = 970 := ⟨_, rfl, rfl⟩
  rw [excess]
  by_cases filled : n.natAbs = 0
  · have small : ¬ (Nat.pow 2 54 - 1) * Nat.pow 2 k ≤ n.natAbs := by
      rw [filled, Nat.not_le]
      exact Nat.mul_pos (by decide) (Nat.pow_pos (by decide))
    refine iff_of_false ?_ small
    rw [ofInt?, filled]
    exact nofun
  obtain ⟨mantissa, rounded, tooLarge⟩ := ofInt_eq_none_of_log2 filled rfl
  rw [tooLarge]
  rcases Nat.lt_trichotomy n.natAbs.log2 (k + 53) with less | equal | greater
  · exact iff_of_false (by omega) (Nat.not_le.mpr (lt_of_log2 less))
  · rw [← halfEven_eq_pow_iff equal, ← rounded k equal]
    omega
  · exact iff_of_true (by omega) (le_of_log2 filled greater)

end SqlGateway.Binary64
