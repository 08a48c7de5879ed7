import SqlGateway.Number.Scientific

/-!
Decimal numbers that keep the zeros they were written with, and the text of them: positional where
the exponent is not positive and the number is not far below one, otherwise with a signed exponent.
-/

namespace SqlGateway

inductive Decimal
  | finite (x : Scientific)
  | infinity (negative : Bool)
  /-- A number that is none, with the digits it carries; a signalling one may not be computed with. -/
  | nan (negative signalling : Bool) (payload : Nat)
  deriving DecidableEq, Repr, Inhabited

namespace Decimal

def leastPlaces : Int := -5

def signed (negative : Bool) (body : List Char) : String :=
  String.ofList (if negative then '-' :: body else body)

def splitAt (digits : List Char) (places : Int) : List Char :=
  if places ≤ 0 then '0' :: '.' :: List.replicate (-places).toNat '0' ++ digits
  else if digits.length ≤ places then
    digits ++ List.replicate (places.toNat - digits.length) '0'
  else digits.take places.toNat ++ '.' :: digits.drop places.toNat

def finiteText (x : Scientific) : List Char :=
  let digits := Nat.toDigits 10 x.coefficient
  let places := x.exponent + digits.length
  if x.exponent ≤ 0 && leastPlaces ≤ places then splitAt digits places
  else
    let exponent := places - 1
    splitAt digits 1 ++ 'E' :: (if exponent < 0 then '-' else '+') ::
      Nat.toDigits 10 exponent.natAbs

def text : Decimal → String
  | .finite x => signed x.negative (finiteText x)
  | .infinity negative => signed negative "Infinity".toList
  | .nan negative signalling payload =>
    let word := if signalling then "sNaN" else "NaN"
    signed negative (word.toList ++ if payload = 0 then [] else Nat.toDigits 10 payload)

def readNan? (negative signalling : Bool) (payload : List Char) : Option Decimal :=
  if payload.all Char.isDigit then
    some (.nan negative signalling (Scientific.digitsValue payload))
  else none

/-- A number, `inf` or `infinity`, or `nan` or `snan` with digits behind it, in any case. -/
def read? (cs : List Char) : Option Decimal :=
  let (negative, rest) := Scientific.readSign cs
  match rest.map Char.toLower with
  | ['i', 'n', 'f'] | ['i', 'n', 'f', 'i', 'n', 'i', 't', 'y'] => some (.infinity negative)
  | 'n' :: 'a' :: 'n' :: payload => readNan? negative false payload
  | 's' :: 'n' :: 'a' :: 'n' :: payload => readNan? negative true payload
  | _ => (Scientific.readUnsigned? negative rest).map .finite

def isSignalling : Decimal → Bool
  | .nan _ signalling _ => signalling
  | _ => false

def isZero : Decimal → Bool
  | .finite x => x.coefficient == 0
  | _ => false

end Decimal

end SqlGateway
