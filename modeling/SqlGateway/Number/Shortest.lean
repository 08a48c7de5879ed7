import SqlGateway.Number.Binary64

/-!
The text of a binary floating-point number: the fewest digits that read back as the number, and of
those the nearest to it.
-/

namespace SqlGateway.Binary64

/-- Of the two neighbours of `num / den` on the grid of `10 ^ unit`, the one that reads back as
`target`; the nearer if both do, and the even one if they are equally near. -/
def onGrid? (target : Binary64) (negative : Bool) (num den : Nat) (unit : Int) : Option Scientific :=
  let num := num * Nat.pow 10 (-unit).toNat
  let den := den * Nat.pow 10 unit.toNat
  let below : Scientific := ⟨negative, num / den, unit⟩
  let above : Scientific := ⟨negative, num / den + 1, unit⟩
  let nearest : Scientific := ⟨negative, halfEven num den, unit⟩
  if ofScientific nearest = target then some nearest
  else [below, above].find? fun x => ofScientific x = target

/-- Seventeen digits always suffice; the exact value stands behind them. -/
def shortest (negative : Bool) (mantissa : Nat) (exponent : Int) : Scientific :=
  let target : Binary64 := .finite negative mantissa exponent
  let num := mantissa * Nat.pow 2 exponent.toNat
  let den := Nat.pow 2 (-exponent).toNat
  let top := Scientific.scale num den
  let found := (List.range 17).findSome? fun (more : Nat) =>
    onGrid? target negative num den (top - more)
  (found.getD (target.toScientific?.getD ⟨negative, 0, 0⟩)).normal

structure Layout where
  positionalFrom : Int
  positionalBelow : Int
  exponentWidth : Nat

/-- Between `1e-04` and `1e+16` a number is written positionally and keeps a digit after the point. -/
def layout : Layout := ⟨-4, 16, 2⟩

def padLeft (width : Nat) (digits : List Char) : List Char :=
  List.replicate (width - digits.length) '0' ++ digits

/-- The digits with a point after the first `places` of them, filled with zeros where they end. -/
def positional (digits : List Char) (places : Int) : List Char :=
  if places ≤ 0 then '0' :: '.' :: List.replicate (-places).toNat '0' ++ digits
  else
    let whole := digits.take places.toNat
    let fraction := digits.drop places.toNat
    whole ++ List.replicate (places.toNat - whole.length) '0' ++ '.' ::
      (if fraction.isEmpty then ['0'] else fraction)

def exponential (width : Nat) (digits : List Char) (exponent : Int) : List Char :=
  let point := if digits.length ≤ 1 then [] else ['.']
  digits.take 1 ++ point ++ digits.drop 1 ++ 'e' :: (if exponent < 0 then '-' else '+') ::
    padLeft width (Nat.toDigits 10 exponent.natAbs)

def layOut (style : Layout) (x : Scientific) : List Char :=
  let digits := Nat.toDigits 10 x.coefficient
  let first := x.exponent + digits.length - 1
  if style.positionalFrom ≤ first && first < style.positionalBelow then positional digits (first + 1)
  else exponential style.exponentWidth digits first

def text : Binary64 → String
  | .nan => "nan"
  | .infinity negative => if negative then "-inf" else "inf"
  | .finite negative mantissa exponent =>
    let body := if mantissa = 0 then ['0', '.', '0'] else layOut layout (shortest negative mantissa exponent)
    String.ofList (if negative then '-' :: body else body)

end SqlGateway.Binary64
