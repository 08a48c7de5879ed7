import SqlGateway.Toml.Number

/-!
Keys and values of a document. Arrays and inline tables hold further values. Every value has some room on the
call stack of its reader, of which each level of nesting takes a share. The count that goes down with every step
is above twice the length of the text, so that it never runs out.
-/

namespace SqlGateway.Toml

def ofOption {α : Type} : Option α → Except Problem α
  | some x => .ok x
  | none => .error .malformed

def asText (read : List Char × List Char) : String × List Char := (String.ofList read.1, read.2)

def isBareKeyChar (c : Char) : Bool := c.isAlphanum || c == '-' || c == '_'

def keyPart : Reader String
  | '"' :: rest => ofOption ((basicLine? rest).map asText)
  | '\'' :: rest => ofOption ((literalLine? rest).map asText)
  | cs =>
    let name := cs.takeWhile isBareKeyChar
    if name.isEmpty then .error .malformed
    else .ok (String.ofList name, cs.dropWhile isBareKeyChar)

/-- The parts of a key are separated by points; gaps around them do not count. -/
def keyPath : Nat → Reader Path
  | 0, _ => .error .malformed
  | steps + 1, cs => do
    let (part, rest) ← keyPart cs
    match skipGap rest with
    | '.' :: rest => do
      let (parts, rest) ← keyPath steps (skipGap rest)
      return (part :: parts, rest)
    | rest => return ([part], rest)

theorem length_dropWhile_lt {p q : Char → Bool} {cs rest : List Char} {c : Char}
    (found : cs.dropWhile p = c :: rest) : (rest.dropWhile q).length < cs.length := by
  have first := length_dropWhile_le p cs
  rw [found, List.length_cons] at first
  exact Nat.lt_of_le_of_lt (length_dropWhile_le q rest) first

def skipAll (cs : List Char) : Except Problem (List Char) :=
  match found : cs.dropWhile isGapOrNewline with
  | '#' :: rest =>
    have := length_dropWhile_lt (q := (· != '\n')) found
    if (rest.takeWhile (· != '\n')).any isControl then .error .malformed
    else skipAll (rest.dropWhile (· != '\n'))
  | rest => .ok rest
termination_by cs.length

/-- Whether a path or one of the paths it leads through is closed. -/
def isClosed (closed : List Path) (path : Path) : Bool := closed.any (·.isPrefixOf path)

/-- Arrays and tables that are written as values take no further entries. -/
def isContainer : Toml → Bool
  | .array _ | .table _ => true
  | _ => false

/-- The call stack that a document is read on, in whatever unit it is measured. How much of it is left, and what
the values of a text take of it, depends on the program that reads and on who calls it. -/
class Stack where
  /-- What is left for a value that is not inside another. -/
  room : Nat
  /-- The share of an array. -/
  array : Nat
  /-- The share of an inline table, which reads a key first. -/
  table : Nat
  /-- What the value that a text begins with needs by itself, without those inside it. -/
  own : List Char → Nat
  /-- No value needs more than this by itself, and a value that is not inside another has it. -/
  most : Nat
  own_le : ∀ cs, own cs ≤ most
  most_le : most ≤ room

/-- What one caller was seen to leave. Programs run with it, and no general statement rests on the numbers. -/
instance : Stack := ⟨982, 2, 3, fun _ => 0, 0, fun _ => Nat.le_refl 0, Nat.zero_le 982⟩

def inner (room share : Nat) : Except Problem Nat :=
  if room < share then .error .tooDeep else .ok (room - share)

variable [Stack]

mutual

def value : Nat → Nat → Reader Toml
  | 0, _, _ => .error .malformed
  | steps + 1, room, cs =>
    if room < Stack.own cs then .error .tooDeep
    else match quotedText? cs with
    | some read => ofOption (read.map fun read => (.text (asText read).1, read.2))
    | none =>
      match cs with
      | 't' :: 'r' :: 'u' :: 'e' :: rest => .ok (.boolean true, rest)
      | 'f' :: 'a' :: 'l' :: 's' :: 'e' :: rest => .ok (.boolean false, rest)
      | '[' :: rest => do
        let room ← inner room Stack.array
        let (items, rest) ← arrayItems steps room (← skipAll rest)
        return (.array items, rest)
      | '{' :: rest =>
        match skipGap rest with
        | '}' :: rest => .ok (.table [], rest)
        | rest => do
          let room ← inner room Stack.table
          let (held, rest) ← inlineEntries steps room [] [] rest
          return (.table held, rest)
      | cs => scalar cs

/-- The items of an array up to its end; a comma may stand behind the last. -/
def arrayItems : Nat → Nat → Reader (List Toml)
  | 0, _, _ => .error .malformed
  | _ + 1, _, ']' :: rest => .ok ([], rest)
  | steps + 1, room, cs => do
    let (first, rest) ← value steps room cs
    match ← skipAll rest with
    | ']' :: rest => return ([first], rest)
    | ',' :: rest => do
      let (more, rest) ← arrayItems steps room (← skipAll rest)
      return (first :: more, rest)
    | _ => throw .malformed

/-- The entries of an inline table up to its end, on one line and without a comma behind the last. -/
def inlineEntries : Nat → Nat → List Path → Table → Reader Table
  | 0, _, _, _, _ => .error .malformed
  | steps + 1, room, closed, held, cs => do
    let (path, item, rest) ← keyValue steps room cs
    if isClosed closed path then throw .malformed
    let held ← ofOption (within false path.dropLast (enter (path.getLastD "") item) held)
    match skipGap rest with
    | '}' :: rest => return (held, rest)
    | ',' :: rest =>
      inlineEntries steps room (if isContainer item then path :: closed else closed) held
        (skipGap rest)
    | _ => throw .malformed

def keyValue : Nat → Nat → List Char → Except Problem (Path × Toml × List Char)
  | 0, _, _ => .error .malformed
  | steps + 1, room, cs => do
    let (path, rest) ← keyPath (cs.length + 1) cs
    match rest with
    | '=' :: rest => do
      let (item, rest) ← value steps room (skipGap rest)
      return (path, item, rest)
    | _ => throw .malformed

end

end SqlGateway.Toml
