import SqlGateway.Entries
import SqlGateway.Number.Binary64

/-!
Documents of the settings file as data, and what a reader of such a document answers: a result and
the text that is left, or a problem.
-/

namespace SqlGateway

inductive Toml
  | boolean (flag : Bool)
  | integer (n : Int)
  | float (x : Binary64)
  | text (s : String)
  /-- A date, a time or both; no setting is one. -/
  | moment
  | array (items : List Toml)
  | table (entries : List (String × Toml))
  deriving Repr, Inhabited

namespace Toml

inductive Problem
  | malformed
  /-- A decimal integer of more digits than are read. -/
  | tooManyDigits
  /-- Values inside values, more of them than are followed. -/
  | tooDeep
  deriving DecidableEq, Repr

abbrev Table := Entries String Toml

abbrev Path := List String

abbrev Reader (α : Type) := List Char → Except Problem (α × List Char)

def isGap (c : Char) : Bool := c == ' ' || c == '\t'

def isGapOrNewline (c : Char) : Bool := isGap c || c == '\n'

/-- Controls other than the tab stand neither in a text nor in a comment. -/
def isControl (c : Char) : Bool := (c.toNat < 0x20 && c != '\t') || c.toNat == 0x7F

def isBlockControl (c : Char) : Bool := isControl c && c != '\n'

def skipGap (cs : List Char) : List Char := cs.dropWhile isGap

def skipComment : List Char → Except Problem (List Char)
  | '#' :: rest =>
    if (rest.takeWhile (· != '\n')).any isControl then .error .malformed
    else .ok (rest.dropWhile (· != '\n'))
  | cs => .ok cs

/-- The table at a path is changed, and made on the way if it is not there yet. A path may lead
through the last table of an array if `throughArrays` is set; it leads through nothing else. -/
def within (throughArrays : Bool) : Path → (Table → Option Table) → Table → Option Table
  | [], change, held => change held
  | key :: path, change, held =>
    let inside := within throughArrays path change
    match Entries.get? key held with
    | none => (inside []).map fun found => Entries.put key (.table found) held
    | some (.table found) => (inside found).map fun found => Entries.put key (.table found) held
    | some (.array items) =>
      match throughArrays, items.getLast? with
      | true, some (.table found) =>
        (inside found).map fun found =>
          Entries.put key (.array (items.dropLast ++ [.table found])) held
      | _, _ => none
    | some _ => none

def enter (key : String) (value : Toml) (held : Table) : Option Table :=
  match Entries.get? key held with
  | none => some (Entries.put key value held)
  | some _ => none

def extend (key : String) (held : Table) : Option Table :=
  match Entries.get? key held with
  | none => some (Entries.put key (.array [.table []]) held)
  | some (.array items) => some (Entries.put key (.array (items ++ [.table []])) held)
  | some _ => none

end Toml

end SqlGateway
