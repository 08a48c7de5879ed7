import SqlGateway.Text.Word

/-!
Placeholders in the text of a statement: a colon and a name behind it. Two readings of the text decide about
them, which are those of the toolkit that compiles statements. A value can be bound to the names that the pattern
(?<![:\w\\]):(\w+)(?!:) finds; it is greedy, so that a run which a further colon ends is read without its last
character. What is sent has the placeholders that (?<![:\w\\]):(\w+)(?![:\w]) finds, and no backslash that
\\(:\w*)(?![:\w]) finds in front of a colon. Toolkits differ in whether either of these last two reads a dollar sign
as a character of names, which \w does not hold.
-/

namespace SqlGateway.Statement

open Text (isWord)

/-- What a toolkit chooses when it compiles a text. -/
class Dialect where
  /-- Whether a dollar sign belongs to the name of a placeholder that is sent. -/
  dollar : Bool
  /-- Whether a dollar sign belongs to a name behind a backslash and a colon. -/
  escapedDollar : Bool

instance : Dialect := ⟨false, false⟩

/-- Whether a colon after this character, or at the very beginning, can open a placeholder. -/
def opensAfter (isNameChar : Char → Bool) : Option Char → Bool
  | none => true
  | some c => !(c == ':' || c == '\\' || isNameChar c)

/-- The name behind a colon that a value can be bound to. -/
def boundName? (before : Option Char) (rest : List Char) : Option (List Char) :=
  let run := rest.takeWhile isWord
  let name := if (rest.dropWhile isWord).head? = some ':' then run.dropLast else run
  if opensAfter isWord before && !name.isEmpty then some name else none

/-- The names that a reading finds in order, repetitions included. -/
def scan (name? : Option Char → List Char → Option (List Char)) : Option Char → List Char → List (List Char)
  | _, [] => []
  | before, c :: rest =>
    let found := if c = ':' then name? before rest else none
    found.toList ++ scan name? (some c) rest

/-- Each name that a value can be bound to once, in order of first appearance. -/
def placeholders (text : String) : List String :=
  ((scan boundName? none text.toList).map String.ofList).eraseDups

section

variable [Dialect]

def isSentChar (c : Char) : Bool := isWord c || (Dialect.dollar && c == '$')

def isEscapedChar (c : Char) : Bool := isWord c || (Dialect.escapedDollar && c == '$')

/-- The name of the placeholder that is sent with a colon. -/
def sentName? (before : Option Char) (rest : List Char) : Option (List Char) :=
  let name := rest.takeWhile isSentChar
  if opensAfter isSentChar before && !name.isEmpty && (rest.dropWhile isSentChar).head? != some ':' then some name
  else none

/-- The placeholders that are sent and can be bound to, in the order of the text. -/
def places (text : String) : List String :=
  ((scan sentName? none text.toList).map String.ofList).filter (placeholders text).contains

/-- The text with the placeholders of one name under another name. The characters of a name that
has been exchanged are still to be skipped. -/
def relabel (name other : List Char) : Nat → Option Char → List Char → List Char
  | _, _, [] => []
  | skipped + 1, _, c :: rest => relabel name other skipped (some c) rest
  | 0, before, c :: rest =>
    if c = ':' && sentName? before rest = some name then
      c :: other ++ relabel name other name.length (some c) rest
    else c :: relabel name other 0 (some c) rest

def escapes : List Char → Bool
  | ':' :: rest => (rest.dropWhile isEscapedChar).head? != some ':'
  | _ => false

def unescape : List Char → List Char
  | [] => []
  | c :: rest => if c = '\\' && escapes rest then unescape rest else c :: unescape rest

def sentText (text : String) : String := String.ofList (unescape text.toList)

end

end SqlGateway.Statement
