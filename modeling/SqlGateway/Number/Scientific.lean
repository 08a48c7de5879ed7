/-!
Numbers written as a coefficient and a power of ten. The form with no trailing zero in its
coefficient is unique, so two numbers are equal exactly when their normal forms are.
-/

namespace SqlGateway

/-- The number `coefficient * 10 ^ exponent`, with a sign that zero has too. -/
structure Scientific where
  negative : Bool
  coefficient : Nat
  exponent : Int
  deriving DecidableEq, Repr, Inhabited

namespace Scientific

def ofInt (n : Int) : Scientific := ⟨n < 0, n.natAbs, 0⟩

def stripTens (n : Nat) (exponent : Int) : Nat × Int :=
  if n ≠ 0 ∧ n % 10 = 0 then stripTens (n / 10) (exponent + 1) else (n, exponent)
termination_by n
decreasing_by omega

def normal (x : Scientific) : Scientific :=
  if x.coefficient = 0 then ⟨false, 0, 0⟩
  else
    let (coefficient, exponent) := stripTens x.coefficient x.exponent
    ⟨x.negative, coefficient, exponent⟩

def readSign : List Char → Bool × List Char
  | '-' :: rest => (true, rest)
  | '+' :: rest => (false, rest)
  | rest => (false, rest)

def digitsValue (digits : List Char) : Nat := Nat.ofDigitChars 10 digits 0

def readExponent? : List Char → Option Int
  | [] => some 0
  | mark :: rest =>
    let (negative, digits) := readSign rest
    if (mark = 'e' || mark = 'E') && !digits.isEmpty && digits.all Char.isDigit then
      some (if negative then -(digitsValue digits : Int) else digitsValue digits)
    else none

/-- Digits with an optional point, of which at least one digit is there, and an exponent. -/
def readUnsigned? (negative : Bool) (cs : List Char) : Option Scientific :=
  let whole := cs.takeWhile Char.isDigit
  let rest := cs.dropWhile Char.isDigit
  let afterPoint := match rest with
    | '.' :: tail => tail
    | _ => []
  let fraction := afterPoint.takeWhile Char.isDigit
  let tail := match rest with
    | '.' :: tail => tail.dropWhile Char.isDigit
    | _ => rest
  if whole.isEmpty && fraction.isEmpty then none
  else (readExponent? tail).map fun exponent =>
    ⟨negative, digitsValue (whole ++ fraction), exponent - fraction.length⟩

def read? (cs : List Char) : Option Scientific :=
  let (negative, rest) := readSign cs
  readUnsigned? negative rest

/-- The greatest power of ten that is not above `num / den`, for positive operands. -/
def scale (num den : Nat) : Int :=
  let gap : Int := (Nat.toDigits 10 num).length - (Nat.toDigits 10 den).length
  -- `Nat.pow` by name, here and below: `^` means another instance where Mathlib is imported.
  if den * Nat.pow 10 gap.toNat ≤ num * Nat.pow 10 (-gap).toNat then gap else gap - 1

end Scientific

end SqlGateway
