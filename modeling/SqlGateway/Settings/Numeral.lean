import SqlGateway.Number.Binary64
import SqlGateway.Text.Blank

/-!
Numerals as settings give them. Spaces around a numeral do not count, and underscores may group its
digits. An integer may have leading zeros and a fraction of zeros; what is left of it is plain.
-/

namespace SqlGateway.Settings

/-- An underscore may stand between two other characters. -/
def withoutUnderscores? (cs : List Char) : Option (List Char) :=
  let rec separated : List Char → Bool
    | [] => true
    | ['_'] => false
    | '_' :: '_' :: _ => false
    | _ :: rest => separated rest
  if cs.head? = some '_' || !separated cs then none else some (cs.filter (· ≠ '_'))

/-- What stands behind leading zeros, of which `last` was read last. Underscores among the zeros do
not count, a sign may follow them, and the last of them stays before a point or at the end. -/
def afterZeros? (last : Char) : List Char → Option (List Char)
  | [] => some [last]
  | c :: rest =>
    if c = '0' || c = '_' then afterZeros? c rest
    else if c.isDigit || c = '-' then some (c :: rest)
    else if c = '.' then some (last :: c :: rest)
    else none

def withoutLeadingZeros? : List Char → Option (List Char)
  | [] => none
  | c :: rest =>
    if c = '0' then afterZeros? c rest else if c.isDigit then some (c :: rest) else none

def withoutZeroFraction (cs : List Char) : List Char :=
  match cs.dropWhile (· ≠ '.') with
  | '.' :: zero :: zeros =>
    if (zero :: zeros).all (· = '0') then cs.takeWhile (· ≠ '.') else cs
  | _ => cs

/-- How many digits an integer may have; its sign is none of them. -/
def longestInteger : Nat := 4300

/-- Digits that do not begin with a zero, or a zero alone, behind an optional minus sign. -/
def plainInteger? (cs : List Char) : Option Int :=
  let (negative, digits) := Scientific.readSign cs
  if digits.length ≤ longestInteger && !digits.isEmpty && digits.all Char.isDigit &&
      (digits.head? ≠ some '0' || digits.length = 1) then
    let n : Int := Scientific.digitsValue digits
    some (if negative then -n else n)
  else none

def integerOfText? (s : String) : Option Int := do
  let (negative, body) := Scientific.readSign (Text.trimBoth Text.isSpace s.toList)
  let digits ← withoutUnderscores? (withoutZeroFraction (← withoutLeadingZeros? body))
  plainInteger? (if negative then '-' :: digits else digits)

def realOfText? (s : String) : Option Binary64 :=
  (Binary64.read? (Text.trimBoth Text.isSpace s.toList)).or
    ((withoutUnderscores? s.toList).bind Binary64.read?)

end SqlGateway.Settings
