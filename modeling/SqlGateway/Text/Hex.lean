/-!
Hexadecimal digits of a fixed width, written in lower case and read in either case. The main
statement is that what is written is read back, as long as it fits its width.
-/

namespace SqlGateway.Text

def hexFixed : Nat → Nat → List Char
  | 0, _ => []
  | width + 1, n => hexFixed width (n / 16) ++ [Nat.digitChar (n % 16)]

def hexValue? (c : Char) : Option Nat :=
  if c.isDigit then some (c.toNat - 48)
  else if 'a' ≤ c && c ≤ 'f' then some (c.toNat - 87)
  else if 'A' ≤ c && c ≤ 'F' then some (c.toNat - 55)
  else none

def hexNumber? (cs : List Char) : Option Nat :=
  cs.foldl (fun total c => total.bind fun n => (hexValue? c).map (16 * n + ·)) (some 0)

theorem length_hexFixed (width n : Nat) : (hexFixed width n).length = width := by
  induction width generalizing n with
  | zero => rfl
  | succ width ih => simp [hexFixed, ih]

theorem hexValue_digitChar (n : Nat) (below : n < 16) : hexValue? (Nat.digitChar n) = some n := by
  have all : ∀ k : Fin 16, hexValue? (Nat.digitChar k) = some k.val := by decide
  exact all ⟨n, below⟩

theorem hexNumber_hexFixed (width n : Nat) (fits : n < Nat.pow 16 width) :
    hexNumber? (hexFixed width n) = some n := by
  induction width generalizing n with
  | zero => simp only [Nat.pow_eq, Nat.pow_zero, Nat.lt_one_iff] at fits; simp [hexFixed, hexNumber?, fits]
  | succ width ih =>
    have quotient : n / 16 < Nat.pow 16 width := by
      change n < Nat.pow 16 width * 16 at fits
      exact Nat.div_lt_of_lt_mul (by omega)
    have step := ih (n / 16) quotient
    unfold hexNumber? at step ⊢
    rw [hexFixed, List.foldl_append, step]
    simp [hexValue_digitChar _ (Nat.mod_lt n (by decide : 0 < 16))]
    omega

end SqlGateway.Text
