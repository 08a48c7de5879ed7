import SqlGateway.Text.Word
import SqlGateway.Value

/-!
Mentions of a name in the text of a query: a colon, the name, and a border between a word character
and none. Parameters that are not mentioned are left out before a statement is bound.
-/

namespace SqlGateway.Statement

open Text (isWord)

/-- A name may be given with one colon in front of it. -/
def bareName (name : String) : String :=
  match name.toList with
  | ':' :: rest => String.ofList rest
  | _ => name

/-- Whether exactly one of the two neighbours is a word character; the end of the text is none. -/
def border (before : Char) (after : Option Char) : Bool :=
  isWord before != (after.map isWord).getD false

/-- Whether the text begins with the name and a border stands behind it. Behind an empty name that
border follows the colon. -/
def beginsWith (name text : List Char) : Bool :=
  name.isPrefixOf text && border (name.getLastD ':') (text.drop name.length).head?

def mentions (name : List Char) : List Char → Bool
  | [] => false
  | c :: rest => (c == ':' && beginsWith name rest) || mentions name rest

def mentioned (query : String) (params : Params) : Params :=
  Entries.ofList ((params.map fun entry => (bareName entry.1, entry.2)).filter fun entry =>
    mentions entry.1.toList query.toList)

end SqlGateway.Statement
