import SqlGateway.Settings.Basic
import SqlGateway.Settings.Numeral
import SqlGateway.Value

/-!
Checking given values as settings. The checks themselves are those of a library that validates records by the types of
their fields. A field takes a value of its own type as it is; what else it takes is left to that library, whose lenient
checks also take what says the same in another type. All fields that cannot be taken are named together.
-/

namespace SqlGateway

/-- The checks of a validating library, by the type of the field. -/
class Validation where
  text? : Value → Option String
  integer? : Value → Option Int
  real? : Value → Option Binary64
  flag? : Value → Option Bool
  text_text : ∀ s, text? (.text s) = some s
  integer_int : ∀ n, integer? (.int n) = some n
  /-- A flag is an integer too. -/
  integer_bool : ∀ flag, integer? (.bool flag) = some (if flag then 1 else 0)
  real_float : ∀ x, real? (.float x) = some x
  flag_bool : ∀ flag, flag? (.bool flag) = some flag

namespace Settings

/-- Octets count as the text that they encode. -/
def textOf? : Value → Option String
  | .text s => some s
  | .bytes octets => String.fromUTF8? ⟨octets.toArray⟩
  | _ => none

/-- A number without a fraction, of at most 64 bits with its sign. -/
def integerOfFloat? : Binary64 → Option Int
  | .finite negative mantissa exponent =>
    let unit := Nat.pow 2 (-exponent).toNat
    let n : Int := mantissa * Nat.pow 2 exponent.toNat / unit
    if mantissa % unit = 0 && n < Nat.pow 2 63 then some (if negative then -n else n) else none
  | _ => none

/-- A decimal number of any size, as long as it has no fraction. -/
def integerOfDecimal? : Decimal → Option Int
  | .finite x =>
    let exact := x.normal
    if exact.exponent < 0 then none
    else
      let n : Int := exact.coefficient * Nat.pow 10 exact.exponent.toNat
      some (if exact.negative then -n else n)
  | _ => none

def integer? : Value → Option Int
  | .int n => some n
  | .bool flag => some (if flag then 1 else 0)
  | .float x => integerOfFloat? x
  | .decimal d => integerOfDecimal? d
  | value => (textOf? value).bind integerOfText?

/-- The nearest number; a signalling number that is none has no nearest one. -/
def realOfDecimal? : Decimal → Option Binary64
  | .finite x => some (.ofScientific x)
  | .infinity negative => some (.infinity negative)
  | .nan _ signalling _ => if signalling then none else some .nan

def real? : Value → Option Binary64
  | .float x => some x
  | .int n => Binary64.ofInt? n
  | .bool flag => Binary64.ofInt? (if flag then 1 else 0)
  | .decimal d => realOfDecimal? d
  | value => (textOf? value).bind realOfText?

def yesWords : List String := ["1", "on", "t", "true", "y", "yes"]

def noWords : List String := ["0", "off", "f", "false", "n", "no"]

def flagOfText? (s : String) : Option Bool :=
  let word := String.ofList (s.toList.map Char.toLower)
  if yesWords.contains word then some true
  else if noWords.contains word then some false else none

def flagOfInteger? (n : Int) : Option Bool :=
  if n = 0 then some false else if n = 1 then some true else none

def flag? : Value → Option Bool
  | .bool flag => some flag
  | .int n => flagOfInteger? n
  | .float x => (integerOfFloat? x).bind flagOfInteger?
  | .decimal d => ((realOfDecimal? d).bind integerOfFloat?).bind flagOfInteger?
  | value => (textOf? value).bind flagOfText?

/-- The lenient checks. -/
instance : Validation where
  text? := textOf?
  integer? := integer?
  real? := real?
  flag? := flag?
  text_text _ := rfl
  integer_int _ := rfl
  integer_bool _ := rfl
  real_float _ := rfl
  flag_bool _ := rfl

def given {α : Type} (fields : Entries String Value) (name : String) (check : Value → Option α)
    (standing : α) : Option α :=
  match Entries.get? name fields with
  | none => some standing
  | some value => check value

section

variable [Validation]

open Validation

def textOrNull? : Value → Option (Option String)
  | .null => some none
  | value => (text? value).map some

/-- The names of the fields whose values are refused, in alphabetical order. -/
def refused (fields : Entries String Value) : List String :=
  let bad {α : Type} (name : String) (check : Value → Option α) : List String :=
    match Entries.get? name fields with
    | none => []
    | some value => if (check value).isNone then [name] else []
  bad "charset" text? ++ bad "connect_timeout" Validation.real? ++ bad "database" textOrNull? ++
    bad "driver" text? ++ bad "host" textOrNull? ++ bad "password" textOrNull? ++
    bad "port" Validation.integer? ++ bad "user" textOrNull?

def ofFields (fields : Entries String Value) : Except (List String) Settings :=
  let standing : Settings := {}
  let checked : Option Settings := do
    return {
      host := ← given fields "host" textOrNull? standing.host
      user := ← given fields "user" textOrNull? standing.user
      password := ← given fields "password" textOrNull? standing.password
      database := ← given fields "database" textOrNull? standing.database
      port := ← given fields "port" Validation.integer? standing.port
      driver := ← given fields "driver" text? standing.driver
      charset := ← given fields "charset" text? standing.charset
      connectTimeout := ← given fields "connect_timeout" Validation.real? standing.connectTimeout }
  match checked with
  | some settings => .ok settings
  | none => .error (refused fields)

end

end Settings

namespace Config

variable [Validation]

/-- Settings that are checked are not checked again. -/
def ofSettings (connection : Settings) (echoSql? : Option Value) : Except (List String) Config :=
  match echoSql? with
  | none => .ok { connection }
  | some value =>
    match Validation.flag? value with
    | some echoSql => .ok { connection, echoSql }
    | none => .error ["echo_sql"]

/-- The connection is checked before the flag. -/
def ofFields (connection : Entries String Value) (echoSql? : Option Value) : Except (List String) Config := do
  ofSettings (← Settings.ofFields connection) echoSql?

end Config

end SqlGateway
