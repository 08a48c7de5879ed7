import SqlGateway.Text.Hex
import SqlGateway.Toml.Quoted

/-!
Numbers, dates and times of a document. A number ends where its grammar ends, which may leave text
that nothing else takes.
-/

namespace SqlGateway.Toml

/-- Digits up to the first character that is none; an underscore may stand between two digits. -/
def moreDigits (isDigit : Char → Bool) : List Char → List Char × List Char
  | '_' :: c :: rest =>
    if isDigit c then consTo c (moreDigits isDigit rest) else ([], '_' :: c :: rest)
  | c :: rest => if isDigit c then consTo c (moreDigits isDigit rest) else ([], c :: rest)
  | [] => ([], [])

def digits? (isDigit : Char → Bool) : List Char → Option (List Char × List Char)
  | c :: rest => if isDigit c then some (consTo c (moreDigits isDigit rest)) else none
  | [] => none

def isHexDigit (c : Char) : Bool := (Text.hexValue? c).isSome

def radixInteger? : List Char → Option (Toml × List Char)
  | '0' :: 'x' :: rest => (digits? isHexDigit rest).map fun (digits, rest) =>
      (.integer ((Text.hexNumber? digits).getD 0 : Nat), rest)
  | '0' :: 'o' :: rest => (digits? (fun c => '0' ≤ c && c ≤ '7') rest).map fun (digits, rest) =>
      (.integer (Nat.ofDigitChars 8 digits 0 : Nat), rest)
  | '0' :: 'b' :: rest => (digits? (fun c => c == '0' || c == '1') rest).map fun (digits, rest) =>
      (.integer (Nat.ofDigitChars 2 digits 0 : Nat), rest)
  | _ => none

/-- The digits in front of the point. A zero stands alone. -/
def whole? : List Char → Option (List Char × List Char)
  | '0' :: rest => some (['0'], rest)
  | cs => digits? Char.isDigit cs

def fraction? : List Char → Option (List Char × List Char)
  | '.' :: rest => digits? Char.isDigit rest
  | _ => none

def exponent? : List Char → Option (Int × List Char)
  | mark :: rest =>
    if mark = 'e' || mark = 'E' then
      let (negative, body) := Scientific.readSign rest
      (digits? Char.isDigit body).map fun (digits, rest) =>
        let n : Int := Scientific.digitsValue digits
        (if negative then -n else n, rest)
    else none
  | [] => none

/-- How many digits a decimal integer may have. -/
def mostDigits : Nat := 4300

def integerOf (negative : Bool) (digits : List Char) : Except Problem Toml :=
  if digits.length > mostDigits then .error .tooManyDigits
  else
    let n : Int := Scientific.digitsValue digits
    .ok (.integer (if negative then -n else n))

def floatOf (negative : Bool) (whole fraction : List Char) (exponent : Int) : Toml :=
  .float (.ofScientific
    ⟨negative, Scientific.digitsValue (whole ++ fraction), exponent - fraction.length⟩)

/-- A number is an integer unless it has a fraction or an exponent. -/
def decimal? (cs : List Char) : Option (Except Problem (Toml × List Char)) :=
  let (negative, body) := Scientific.readSign cs
  (whole? body).map fun (whole, rest) =>
    let fraction := fraction? rest
    let afterFraction := (fraction.map Prod.snd).getD rest
    let exponent := exponent? afterFraction
    let afterExponent := (exponent.map Prod.snd).getD afterFraction
    if fraction.isNone && exponent.isNone then
      (integerOf negative whole).map (·, rest)
    else
      .ok (floatOf negative whole ((fraction.map Prod.fst).getD []) ((exponent.map Prod.fst).getD 0),
        afterExponent)

def wordNumber? (cs : List Char) : Option (Toml × List Char) :=
  let (negative, body) := Scientific.readSign cs
  match body with
  | 'i' :: 'n' :: 'f' :: rest => some (.float (.infinity negative), rest)
  | 'n' :: 'a' :: 'n' :: rest => some (.float .nan, rest)
  | _ => none

def bounded? (width least most : Nat) (cs : List Char) : Option (Nat × List Char) :=
  let digits := cs.take width
  let n := Scientific.digitsValue digits
  if digits.length = width && digits.all Char.isDigit && least ≤ n && n ≤ most then
    some (n, cs.drop width)
  else none

def expect? (c : Char) : List Char → Option (List Char)
  | first :: rest => if first = c then some rest else none
  | [] => none

def skipSecondFraction : List Char → List Char
  | '.' :: c :: rest => if c.isDigit then rest.dropWhile Char.isDigit else '.' :: c :: rest
  | cs => cs

def time? (cs : List Char) : Option (List Char) := do
  let (_, cs) ← bounded? 2 0 23 cs
  let (_, cs) ← bounded? 2 0 59 (← expect? ':' cs)
  let (_, cs) ← bounded? 2 0 59 (← expect? ':' cs)
  return skipSecondFraction cs

def zone? : List Char → Option (List Char)
  | c :: rest =>
    if c = 'Z' || c = 'z' then some rest
    else if c = '+' || c = '-' then do
      let (_, cs) ← bounded? 2 0 23 rest
      let (_, cs) ← bounded? 2 0 59 (← expect? ':' cs)
      return cs
    else none
  | [] => none

def isLeap (year : Nat) : Bool := year % 4 = 0 && (year % 100 ≠ 0 || year % 400 = 0)

def daysIn (year month : Nat) : Nat :=
  if month = 2 then (if isLeap year then 29 else 28)
  else if month = 4 || month = 6 || month = 9 || month = 11 then 30 else 31

/-- The text after a date, and whether the calendar has it. -/
def date? (cs : List Char) : Option (Bool × List Char) := do
  let (year, cs) ← bounded? 4 0 9999 cs
  let (month, cs) ← bounded? 2 1 12 (← expect? '-' cs)
  let (day, cs) ← bounded? 2 1 31 (← expect? '-' cs)
  return (1 ≤ year && day ≤ daysIn year month, cs)

def skipTime : List Char → List Char
  | c :: rest =>
    if c = 'T' || c = 't' || c = ' ' then
      match time? rest with
      | some after => (zone? after).getD after
      | none => c :: rest
    else c :: rest
  | [] => []

def moment? (cs : List Char) : Option (Except Problem (Toml × List Char)) :=
  match date? cs with
  | some (valid, rest) => some (if valid then .ok (.moment, skipTime rest) else .error .malformed)
  | none => (time? cs).map fun rest => .ok (.moment, rest)

/-- A number, date or time. Dates come first, since a year alone would be a number. -/
def scalar (cs : List Char) : Except Problem (Toml × List Char) :=
  match moment? cs, radixInteger? cs, decimal? cs, wordNumber? cs with
  | some result, _, _, _ => result
  | none, some read, _, _ => .ok read
  | none, none, some result, _ => result
  | none, none, none, some read => .ok read
  | none, none, none, none => .error .malformed

end SqlGateway.Toml
