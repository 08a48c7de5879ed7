import SqlGateway.Value
import SqlGateway.Number.Shortest
import SqlGateway.Text.Quoted

/-!
The texts of a value: `literal`, in which text is quoted, and `display`, which is the literal except
that text and decimal numbers stand for themselves.
-/

namespace SqlGateway.Value

def kindLiteral : Wire → String
  | .int => "<ParamKind.INT: 'int'>"
  | .bool => "<ParamKind.BOOL: 'bool'>"
  | .null => "<ParamKind.NULL: 'null'>"
  | .text => "<ParamKind.TEXT: 'text'>"

def enclose (opening closing : String) (parts : List String) : String :=
  opening ++ ", ".intercalate parts ++ closing

mutual

def literal : Value → String
  | .null => "None"
  | .bool flag => if flag then "True" else "False"
  | .int n => toString n
  | .float x => x.text
  | .decimal d => "Decimal('" ++ d.text ++ "')"
  | .text s => Text.quoted s
  | .bytes octets => Text.quotedOctets octets
  | .list items => enclose "[" "]" (literals items)
  | .tuple [] => "()"
  | .tuple [item] => "(" ++ literal item ++ ",)"
  | .tuple items => enclose "(" ")" (literals items)
  | .set [] => "set()"
  | .set members => enclose "\x7b" "\x7d" (literals members)
  | .frozenSet [] => "frozenset()"
  | .frozenSet members => enclose "frozenset(\x7b" "\x7d)" (literals members)
  | .mapping entries => enclose "\x7b" "\x7d" (entryLiterals entries)
  | .bound wire value => "BindValue(kind=" ++ kindLiteral wire ++ ", value=" ++ literal value ++ ")"

def literals : List Value → List String
  | [] => []
  | item :: items => literal item :: literals items

def entryLiterals : List (Value × Value) → List String
  | [] => []
  | (key, value) :: rest => (literal key ++ ": " ++ literal value) :: entryLiterals rest

end

def display : Value → String
  | .text s => s
  | .decimal d => d.text
  | value => value.literal

@[simp] theorem display_text (s : String) : display (.text s) = s := rfl

@[simp] theorem display_int (n : Int) : display (.int n) = toString n := by
  unfold display literal
  rfl

@[simp] theorem display_float (x : Binary64) : display (.float x) = x.text := by
  unfold display literal
  rfl

end SqlGateway.Value
