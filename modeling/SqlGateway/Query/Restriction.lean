import SqlGateway.Query.Identifier

/-!
Restrictions: one comparison for each column, joined by a conjunction. Null is compared without a
parameter; every other value travels as a parameter named after its column.
-/

namespace SqlGateway.Query

inductive Conjunction
  | and
  | or
  deriving DecidableEq, Repr

namespace Conjunction

/-- Upper case of the letters a to z. No other letter has A, D, N, O or R for its upper case. -/
def upper (s : String) : String := String.ofList (s.toList.map Char.toUpper)

/-- All that is not `or`, blanks and case apart, is a conjunction by `and`. -/
def ofValue : Value → Conjunction
  | .text s => if upper (Text.trim s) = "OR" then .or else .and
  | _ => .and

def name : Conjunction → String
  | .and => "AND"
  | .or => "OR"

def joiner (conjunction : Conjunction) : String := " " ++ conjunction.name ++ " "

end Conjunction

structure Comparison where
  text : String
  param : Option (String × Value)

def Comparison.ofEntry (opening : String) (entry : Value × Value) : Except Failure Comparison := do
  let column ← quote entry.1
  let name := opening ++ entry.1.display
  return if entry.2.isNull then ⟨column ++ " IS NULL", none⟩
    else ⟨column ++ " = :" ++ name, some (name, entry.2)⟩

def comparisons (record : Record) (conjunction : Conjunction) (opening : String) :
    Except Failure (String × Params) := do
  let parts ← record.mapM (Comparison.ofEntry opening)
  return (conjunction.joiner.intercalate (parts.map Comparison.text),
    Entries.ofList (parts.filterMap Comparison.param))

/-- An empty record restricts nothing, which has to be asked for. -/
def restriction (table : Value) (record : Record) (conjunction : Conjunction) (allRows : Bool)
    (opening : String) : Except Failure (String × Params) :=
  if record.isEmpty then
    if allRows then .ok ("", []) else .error (.unrestricted table)
  else (comparisons record conjunction opening).map fun (text, params) => (" WHERE " ++ text, params)

end SqlGateway.Query
