import SqlGateway.Text.Hex
import SqlGateway.Text.Printable

/-!
Quoted literals for text and for octets, as they stand in messages. A literal is delimited by an
apostrophe, or by a quotation mark if the content holds an apostrophe and no quotation mark. The
delimiter and the backslash are escaped by a backslash, and what cannot be printed by its number.
-/

namespace SqlGateway.Text

def delimiter (cs : List Char) : Char :=
  if cs.contains '\'' && !cs.contains '"' then '"' else '\''

def shortEscape? (mark c : Char) : Option (List Char) :=
  if c = mark || c = '\\' then some ['\\', c]
  else if c = '\t' then some ['\\', 't']
  else if c = '\n' then some ['\\', 'n']
  else if c = '\r' then some ['\\', 'r']
  else none

/-- Two, four or eight digits, the fewest that hold the number. -/
def numberEscape (n : Nat) : List Char :=
  if n < 0x100 then '\\' :: 'x' :: hexFixed 2 n
  else if n < 0x10000 then '\\' :: 'u' :: hexFixed 4 n
  else '\\' :: 'U' :: hexFixed 8 n

def escapeChar (mark c : Char) : List Char :=
  (shortEscape? mark c).getD (if isPrintable c then [c] else numberEscape c.toNat)

def escapeOctet (mark : Char) (octet : UInt8) : List Char :=
  let c := Char.ofNat octet.toNat
  (shortEscape? mark c).getD
    (if 0x20 ≤ octet && octet < 0x7F then [c] else numberEscape octet.toNat)

def quoted (s : String) : String :=
  let mark := delimiter s.toList
  String.ofList (mark :: s.toList.flatMap (escapeChar mark) ++ [mark])

def quotedOctets (octets : List UInt8) : String :=
  let mark := delimiter (octets.map fun octet => Char.ofNat octet.toNat)
  String.ofList ('b' :: mark :: octets.flatMap (escapeOctet mark) ++ [mark])

end SqlGateway.Text
