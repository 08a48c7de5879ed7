import SqlGateway.Number.Scientific

/-!
Binary floating-point numbers of 53 significant bits. A ratio is rounded to the nearest of them, and
a tie to the even mantissa; the arithmetic is exact on naturals throughout.
-/

namespace SqlGateway

/-- A finite number is `mantissa * 2 ^ exponent`, where rounding gives a mantissa below `2 ^ 53`. -/
inductive Binary64
  | nan
  | infinity (negative : Bool)
  | finite (negative : Bool) (mantissa : Nat) (exponent : Int)
  deriving DecidableEq, Repr, Inhabited

namespace Binary64

def leastExponent : Int := -1074

def greatestExponent : Int := 971

def zero (negative : Bool) : Binary64 := .finite negative 0 leastExponent

/-- The integer nearest to `num / den`; of two equally near, the even one. -/
def halfEven (num den : Nat) : Nat :=
  let floor := num / den
  let rest := num % den
  if 2 * rest < den || (2 * rest = den && floor % 2 = 0) then floor else floor + 1

def pack (negative : Bool) (mantissa : Nat) (exponent : Int) : Binary64 :=
  if exponent > greatestExponent then .infinity negative else .finite negative mantissa exponent

/-- The number nearest to `num / den`. The first guess at the exponent leaves 53 or 54 bits. -/
def ofRatio (negative : Bool) (num den : Nat) : Binary64 :=
  if num = 0 then zero negative
  else
    let guess : Int := (num.log2 : Int) - den.log2 - 53
    let wide := num * Nat.pow 2 (-guess).toNat / (den * Nat.pow 2 guess.toNat)
    let exponent := max (if wide < Nat.pow 2 53 then guess else guess + 1) leastExponent
    let mantissa :=
      halfEven (num * Nat.pow 2 (-exponent).toNat) (den * Nat.pow 2 exponent.toNat)
    if mantissa = Nat.pow 2 53 then pack negative (Nat.pow 2 52) (exponent + 1)
    else pack negative mantissa exponent

/-- Exponents far outside the range are answered before any power is computed. -/
def ofScientific (x : Scientific) : Binary64 :=
  let bits := x.coefficient.log2
  if x.coefficient = 0 then zero x.negative
  else if x.exponent + (bits / 4 : Nat) > 310 then .infinity x.negative
  else if x.exponent + (bits / 3 + 1 : Nat) < -330 then zero x.negative
  else ofRatio x.negative (x.coefficient * Nat.pow 10 x.exponent.toNat)
    (Nat.pow 10 (-x.exponent).toNat)

/-- None if the integer rounds to a magnitude of `2 ^ 1024` or more. -/
def ofInt? (n : Int) : Option Binary64 :=
  match ofRatio (n < 0) n.natAbs 1 with
  | .infinity _ => none
  | x => some x

def toScientific? : Binary64 → Option Scientific
  | .finite negative mantissa exponent =>
    let coefficient := mantissa * Nat.pow 2 exponent.toNat * Nat.pow 5 (-exponent).toNat
    some ⟨negative, coefficient, min exponent 0⟩
  | _ => none

def isZero : Binary64 → Bool
  | .finite _ mantissa _ => mantissa == 0
  | _ => false

/-- A decimal number with an optional sign, or one of the words `inf`, `infinity` and `nan`. -/
def read? (cs : List Char) : Option Binary64 :=
  let (negative, rest) := Scientific.readSign cs
  let word := String.ofList (rest.map Char.toLower)
  if word = "inf" || word = "infinity" then some (.infinity negative)
  else if word = "nan" then some .nan
  else (Scientific.readUnsigned? negative rest).map ofScientific

end Binary64

end SqlGateway
