import SqlGateway.Failure
import SqlGateway.Statement.Mention
import SqlGateway.Statement.Placeholder

/-!
Statements with bound values. A value is bound with the type inferred from it unless it carries one;
a collection cannot be bound, nor can a name that is no placeholder of the statement. A value without a
name takes the placeholder `param`, which is then sent under a label of its own.
-/

namespace SqlGateway

structure Bound where
  wire : Wire
  value : Value
  deriving Repr

namespace Bound

def checked (wire : Wire) (value : Value) : Except Failure Bound :=
  match value.collection? with
  | some kind => .error (.collection kind)
  | none => .ok ⟨wire, value⟩

/-- A truth value is no number here. -/
def infer : Value → Except Failure Bound
  | .bound wire value => checked wire value
  | .bool flag => .ok ⟨.bool, .bool flag⟩
  | .int n => .ok ⟨.int, .int n⟩
  | .null => .ok ⟨.null, .null⟩
  | value => checked .text value

def inferFor (name : String) (value : Value) : Except Failure Bound :=
  (infer value).mapError fun _ => .collectionBound name

end Bound

/-- A parameter as it is sent; none if nothing was bound to it. -/
structure Parameter where
  name : String
  bound? : Option Bound
  deriving Repr

structure Sent where
  sql : String
  params : List Parameter
  deriving Repr

structure Statement where
  text : String
  bound : Entries String Bound
  /-- Whether the value at `param` was given without a name. -/
  unnamed : Bool := false
  deriving Repr

namespace Statement

/-- The placeholder of a value that is given without a name. -/
def unnamedPlace : String := "param"

/-- What that placeholder is called when such a value is sent. -/
def unnamedLabel : String := "param_1"

/-- The key that such a value is listed under as well. The number of the value, which is another in every run,
is left out of it. -/
def unnamedKey : String := "%(param)s"

def ofText (text : String) : Statement := { text, bound := [] }

def place (key : String) : String := if key.isEmpty then unnamedPlace else key

/-- A value that is bound again takes the place of the one before it, whichever of the two has a name. -/
def hold (statement : Statement) (key : String) (bound : Bound) : Statement :=
  { statement with
    bound := Entries.put (place key) bound statement.bound
    unnamed := if place key = unnamedPlace then key.isEmpty else statement.unnamed }

def bind (statement : Statement) (name : String) (value : Value) : Except Failure Statement := do
  let key := bareName name
  let bound ← Bound.inferFor key value
  if (placeholders statement.text).contains (place key) then return statement.hold key bound
  else throw (.bindFailed (.text key) bound.value bound.wire.name)

/-- What the value at a placeholder is listed under when it is sent. -/
def labels (statement : Statement) (name : String) : List String :=
  if statement.unnamed && name = unnamedPlace then [unnamedKey, unnamedLabel] else [name]

variable [Dialect]

def labelled (statement : Statement) : String :=
  if statement.unnamed then
    String.ofList (relabel unnamedPlace.toList unnamedLabel.toList 0 none statement.text.toList)
  else statement.text

/-- Under each label the value of the placeholder that comes last with it. -/
def listed (statement : Statement) : Entries String (Option Bound) :=
  Entries.ofList ((places statement.text).flatMap fun name =>
    (statement.labels name).map fun label => (label, statement.bound.get? name))

def sent (statement : Statement) : Sent :=
  ⟨sentText statement.labelled, statement.listed.map fun entry => ⟨entry.1, entry.2⟩⟩

end Statement

end SqlGateway
