import SqlGateway.Entries
import SqlGateway.Number.Binary64
import SqlGateway.Number.Decimal

/-!
Values as they travel between a caller and the server. Two numbers are the same key when they are
numerically equal, whatever their kinds; a truth value counts as zero or one.
-/

namespace SqlGateway

inductive Wire
  | int
  | bool
  | null
  | text
  deriving DecidableEq, Repr

def Wire.name : Wire → String
  | .int => "int"
  | .bool => "bool"
  | .null => "null"
  | .text => "text"

inductive Value
  | null
  | bool (flag : Bool)
  | int (n : Int)
  | float (x : Binary64)
  | decimal (d : Decimal)
  | text (s : String)
  | bytes (octets : List UInt8)
  | list (items : List Value)
  | tuple (items : List Value)
  | set (members : List Value)
  | frozenSet (members : List Value)
  | mapping (entries : List (Value × Value))
  /-- A value for which the caller has chosen the type it is sent with. -/
  | bound (wire : Wire) (value : Value)
  deriving Repr, Inhabited

namespace Value

/-- What a number amounts to: a finite amount in normal form, or an infinity. -/
inductive Amount
  | finite (x : Scientific)
  | infinity (negative : Bool)
  deriving DecidableEq, Repr

def amount? : Value → Option Amount
  | .bool flag => some (.finite (Scientific.ofInt (if flag then 1 else 0)).normal)
  | .int n => some (.finite (Scientific.ofInt n).normal)
  | .float (.infinity negative) => some (.infinity negative)
  | .float x => x.toScientific?.map fun exact => .finite exact.normal
  | .decimal (.finite x) => some (.finite x.normal)
  | .decimal (.infinity negative) => some (.infinity negative)
  | _ => none

def sameAmount (x y : Value) : Bool :=
  match x.amount?, y.amount? with
  | some a, some b => a = b
  | _, _ => false

/-- The members of a collection whose order and repetitions do not count. -/
def members? : Value → Option (List Value)
  | .set members | .frozenSet members => some members
  | _ => none

mutual

/-- Equality of keys. Collections are equal member by member, and a number that is none equals
nothing. -/
def same : Value → Value → Bool
  | .null, .null => true
  | .text s, .text t => s == t
  | .bytes a, .bytes b => a == b
  | .list xs, .list ys => sameAll xs ys
  | .tuple xs, .tuple ys => sameAll xs ys
  | .set xs, other => (members? other).any fun ys => xs.length == ys.length && within xs ys
  | .frozenSet xs, other => (members? other).any fun ys => xs.length == ys.length && within xs ys
  | .mapping xs, .mapping ys => xs.length == ys.length && entriesWithin xs ys
  | .bound kind x, .bound other y => kind == other && same x y
  | x, y => sameAmount x y

def sameAll : List Value → List Value → Bool
  | [], [] => true
  | x :: xs, y :: ys => same x y && sameAll xs ys
  | _, _ => false

def within : List Value → List Value → Bool
  | [], _ => true
  | x :: xs, ys => ys.any (same x) && within xs ys

def entriesWithin : List (Value × Value) → List (Value × Value) → Bool
  | [], _ => true
  | (key, value) :: rest, ys =>
    (ys.any fun other => same key other.1 && same value other.2) && entriesWithin rest ys

end

instance : BEq Value := ⟨same⟩

/-- Zero, the empty text, the empty collection and null are not true. -/
def truthy : Value → Bool
  | .null => false
  | .bool flag => flag
  | .int n => n ≠ 0
  | .float x => !x.isZero
  | .decimal d => !d.isZero
  | .text s => !s.isEmpty
  | .bytes octets => !octets.isEmpty
  | .list items | .tuple items => !items.isEmpty
  | .set members | .frozenSet members => !members.isEmpty
  | .mapping entries => !entries.isEmpty
  | .bound _ _ => true

def collection? : Value → Option String
  | .list _ => some "list"
  | .tuple _ => some "tuple"
  | .set _ => some "set"
  | .frozenSet _ => some "frozenset"
  | .mapping _ => some "dict"
  | _ => none

def typeName : Value → String
  | .null => "NoneType"
  | .bool _ => "bool"
  | .int _ => "int"
  | .float _ => "float"
  | .decimal _ => "decimal.Decimal"
  | .text _ => "str"
  | .bytes _ => "bytes"
  | .list _ => "list"
  | .tuple _ => "tuple"
  | .set _ => "set"
  | .frozenSet _ => "frozenset"
  | .mapping _ => "dict"
  | .bound _ _ => "BindValue"

mutual

/-- Why a value is no key: what can change is none, nor is a signalling number. -/
def unhashable? : Value → Option String
  | .list _ => some "unhashable type: 'list'"
  | .set _ => some "unhashable type: 'set'"
  | .mapping _ => some "unhashable type: 'dict'"
  | .decimal (.nan _ true _) => some "Cannot hash a signaling NaN value"
  | .tuple items => firstUnhashable? items
  | .bound _ value => unhashable? value
  | _ => none

def firstUnhashable? : List Value → Option String
  | [] => none
  | item :: items => (unhashable? item).or (firstUnhashable? items)

end

def isNull : Value → Bool
  | .null => true
  | _ => false

def distinct (members : List Value) : List Value :=
  members.foldl (fun kept x => if kept.any (same · x) then kept else kept ++ [x]) []

end Value

/-- Columns and values as a caller gives them; a column may turn out not to be a name. -/
abbrev Record := Entries Value Value

abbrev Row := Entries String Value

abbrev Params := Entries String Value

end SqlGateway
