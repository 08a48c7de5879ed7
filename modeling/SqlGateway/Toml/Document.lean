import SqlGateway.Toml.Value

/-!
A document: headers, entries and comments, one to a line. A table is declared once, an entry is given
once, and what was written as a value takes no further entries.
-/

namespace SqlGateway.Toml

structure Outline where
  root : Table := []
  /-- The table that entries go to. -/
  header : Path := []
  /-- Tables that no header may declare again. -/
  declared : List Path := []
  /-- Values that take no further entries. -/
  closed : List Path := []
  /-- Tables made by the keys of the current section; they count as declared from the next on. -/
  pending : List Path := []
  deriving Inhabited

namespace Outline

def settle (outline : Outline) : Outline :=
  { outline with declared := outline.pending ++ outline.declared, pending := [] }

def declareTable (outline : Outline) (path : Path) : Except Problem Outline := do
  if outline.declared.contains path || isClosed outline.closed path then throw .malformed
  let root ← ofOption (within true path some outline.root)
  return { outline with root, header := path, declared := path :: outline.declared }

/-- A further table of an array; what earlier ones declared below it is free again. -/
def declareItem (outline : Outline) (path : Path) : Except Problem Outline := do
  if isClosed outline.closed path then throw .malformed
  let outside (paths : List Path) := paths.filter fun other => !path.isPrefixOf other
  let root ← ofOption (within true path.dropLast (extend (path.getLastD "")) outline.root)
  return { outline with
    root
    header := path
    declared := path :: outside outline.declared
    closed := outside outline.closed }

/-- The tables that a dotted key leads through, from the header downwards. -/
def passed (header path : Path) : List Path :=
  (List.range (path.length - 1)).map fun n => header ++ path.take (n + 1)

def addEntry (outline : Outline) (path : Path) (item : Toml) : Except Problem Outline := do
  let through := passed outline.header path
  let parent := outline.header ++ path.dropLast
  if through.any outline.declared.contains || isClosed outline.closed parent then throw .malformed
  let root ← ofOption (within true parent (enter (path.getLastD "") item) outline.root)
  return { outline with
    root
    pending := through ++ outline.pending
    closed := if isContainer item then (outline.header ++ path) :: outline.closed else outline.closed }

end Outline

def headerPath (cs : List Char) : Except Problem (Path × List Char) :=
  keyPath (cs.length + 1) (skipGap cs)

def isKeyStart (c : Char) : Bool := isBareKeyChar c || c == '"' || c == '\''

/-- A carriage return before a line feed does not count. -/
def joinLineBreaks : List Char → List Char
  | '\r' :: '\n' :: rest => '\n' :: joinLineBreaks rest
  | c :: rest => c :: joinLineBreaks rest
  | [] => []

variable [Stack]

def statement (outline : Outline) (cs : List Char) : Except Problem (Outline × List Char) :=
  match cs with
  | '[' :: '[' :: rest => do
    let (path, rest) ← headerPath rest
    let outline ← outline.settle.declareItem path
    match rest with
    | ']' :: ']' :: rest => return (outline, skipGap rest)
    | _ => throw .malformed
  | '[' :: rest => do
    let (path, rest) ← headerPath rest
    let outline ← outline.settle.declareTable path
    match rest with
    | ']' :: rest => return (outline, skipGap rest)
    | _ => throw .malformed
  | '#' :: rest => .ok (outline, '#' :: rest)
  | c :: rest =>
    if isKeyStart c then do
      let (path, item, rest) ← keyValue (2 * cs.length + 3) Stack.room (c :: rest)
      return (← outline.addEntry path item, skipGap rest)
    else .error .malformed
  | [] => .ok (outline, [])

/-- One statement to a line. Every step takes at least one character. -/
def statements : Nat → Outline → List Char → Except Problem Outline
  | 0, _, _ => .error .malformed
  | steps + 1, outline, cs =>
    match skipGap cs with
    | [] => .ok outline
    | '\n' :: rest => statements steps outline rest
    | cs => do
      let (outline, rest) ← statement outline cs
      match ← skipComment rest with
      | [] => return outline
      | '\n' :: rest => statements steps outline rest
      | _ => throw .malformed

def parse (text : String) : Except Problem Table :=
  let cs := joinLineBreaks text.toList
  (statements (cs.length + 1) {} cs).map Outline.root

end SqlGateway.Toml
