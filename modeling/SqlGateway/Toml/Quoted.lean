import SqlGateway.Text.Hex
import SqlGateway.Toml.Basic

/-!
Text in a document: basic, where a backslash escapes, or literal, each on one line or as a block over
several. A basic text is written by `quote`.
-/

namespace SqlGateway.Toml

def letterOf? (c : Char) : Option Char :=
  if c = '\\' || c = '"' then some c
  else if c = '\n' then some 'n'
  else if c = '\r' then some 'r'
  else if c = '\t' then some 't'
  else if c = '\x08' then some 'b'
  else if c = '\x0c' then some 'f'
  else none

def ofLetter? (letter : Char) : Option Char :=
  if letter = '\\' || letter = '"' then some letter
  else if letter = 'n' then some '\n'
  else if letter = 'r' then some '\r'
  else if letter = 't' then some '\t'
  else if letter = 'b' then some '\x08'
  else if letter = 'f' then some '\x0c'
  else none

def escapeNumber (n : Nat) : List Char := '\\' :: 'u' :: Text.hexFixed 4 n

def escapeChar (c : Char) : List Char :=
  match letterOf? c with
  | some letter => ['\\', letter]
  | none => if isControl c then escapeNumber c.toNat else [c]

def enclose (body : List Char) : String := String.ofList ('"' :: body ++ ['"'])

def quote (s : String) : String := enclose (s.toList.flatMap escapeChar)

/-- A character by its number, in so many hexadecimal digits. -/
def numbered? (width : Nat) (cs : List Char) : Option (Char × List Char) :=
  let digits := cs.take width
  if digits.length = width then
    (Text.hexNumber? digits).bind fun n =>
      if n.isValidChar then some (Char.ofNat n, cs.drop width) else none
  else none

def escaped? : List Char → Option (Char × List Char)
  | 'u' :: rest => numbered? 4 rest
  | 'U' :: rest => numbered? 8 rest
  | letter :: rest => (ofLetter? letter).map (·, rest)
  | [] => none

theorem length_of_numbered {width : Nat} {cs rest : List Char} {c : Char}
    (read : numbered? width cs = some (c, rest)) : rest.length ≤ cs.length := by
  simp only [numbered?] at read
  split at read
  · obtain ⟨n, _, chosen⟩ := Option.bind_eq_some_iff.mp read
    split at chosen
    · cases chosen; simp
    · cases chosen
  · cases read

theorem length_of_escaped {cs rest : List Char} {c : Char} (read : escaped? cs = some (c, rest)) :
    rest.length < cs.length := by
  unfold escaped? at read
  split at read
  · have := length_of_numbered read; simp; omega
  · have := length_of_numbered read; simp; omega
  · obtain ⟨_, _, same⟩ := Option.map_eq_some_iff.mp read
    cases same; simp
  · cases read

def consTo (c : Char) (read : List Char × List Char) : List Char × List Char :=
  (c :: read.1, read.2)

def basicLine? (cs : List Char) : Option (List Char × List Char) :=
  match cs with
  | [] => none
  | '"' :: rest => some ([], rest)
  | '\\' :: rest =>
    match found : escaped? rest with
    | none => none
    | some (c, after) =>
      have := length_of_escaped found
      (basicLine? after).map (consTo c)
  | c :: rest =>
    if isControl c then none else (basicLine? rest).map (consTo c)
termination_by cs.length
decreasing_by all_goals simp_all <;> omega

/-- Behind a backslash at the end of a line: the line break and all gaps after it. -/
def lineEnd? (cs : List Char) : Option (List Char) :=
  match skipGap cs with
  | '\n' :: rest => some (rest.dropWhile isGapOrNewline)
  | _ => none

theorem length_dropWhile_le (p : Char → Bool) (cs : List Char) :
    (cs.dropWhile p).length ≤ cs.length := (List.dropWhile_suffix p).length_le

theorem length_of_lineEnd {cs rest : List Char} (read : lineEnd? cs = some rest) :
    rest.length < cs.length := by
  unfold lineEnd? at read
  split at read
  · rename_i found
    cases read
    have first := length_dropWhile_le isGap cs
    unfold skipGap at found
    rw [found] at first
    simp only [List.length_cons] at first
    have second := length_dropWhile_le isGapOrNewline ‹List Char›
    omega
  · cases read

def basicBlock? (cs : List Char) : Option (List Char × List Char) :=
  match cs with
  | [] => none
  | '"' :: '"' :: '"' :: rest => some ([], rest)
  | '\\' :: rest =>
    match joined : lineEnd? rest with
    | some after =>
      have := length_of_lineEnd joined
      basicBlock? after
    | none =>
      match found : escaped? rest with
      | none => none
      | some (c, after) =>
        have := length_of_escaped found
        (basicBlock? after).map (consTo c)
  | c :: rest =>
    if isBlockControl c then none else (basicBlock? rest).map (consTo c)
termination_by cs.length
decreasing_by all_goals simp_all <;> omega

def literalLine? : List Char → Option (List Char × List Char)
  | [] => none
  | '\'' :: rest => some ([], rest)
  | c :: rest =>
    if isControl c then none else (literalLine? rest).map (consTo c)

def literalBlock? : List Char → Option (List Char × List Char)
  | [] => none
  | '\'' :: '\'' :: '\'' :: rest => some ([], rest)
  | c :: rest =>
    if isBlockControl c then none else (literalBlock? rest).map (consTo c)

/-- Up to two marks in front of the closing ones belong to a block. -/
def withMarks (mark : Char) (read : List Char × List Char) : List Char × List Char :=
  let marks := (read.2.take 2).takeWhile (· = mark)
  (read.1 ++ marks, read.2.drop marks.length)

def skipNewline : List Char → List Char
  | '\n' :: rest => rest
  | cs => cs

def quotedText? : List Char → Option (Option (List Char × List Char))
  | '"' :: '"' :: '"' :: rest => some ((basicBlock? (skipNewline rest)).map (withMarks '"'))
  | '\'' :: '\'' :: '\'' :: rest => some ((literalBlock? (skipNewline rest)).map (withMarks '\''))
  | '"' :: rest => some (basicLine? rest)
  | '\'' :: rest => some (literalLine? rest)
  | _ => none

end SqlGateway.Toml
