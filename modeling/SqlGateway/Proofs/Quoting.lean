import SqlGateway.Toml.Quoted

/-!
Quoted text of a document. What is written between quotation marks is read back as it was, whatever
characters it holds, and no character of it breaks the line.
-/

namespace SqlGateway.Toml

theorem escaped_letter {c letter : Char} (written : letterOf? c = some letter) (rest : List Char) :
    escaped? (letter :: rest) = some (c, rest) := by
  unfold letterOf? at written
  split at written
  · next self =>
    cases written
    simp only [Bool.or_eq_true, decide_eq_true_eq] at self
    rcases self with rfl | rfl <;> rfl
  · repeat' split at written
    all_goals cases written
    all_goals
      next same => subst same; rfl

theorem escaped_number {c : Char} (small : c.toNat < 0x80) (rest : List Char) :
    escaped? ('u' :: Text.hexFixed 4 c.toNat ++ rest) = some (c, rest) := by
  have digits := Text.length_hexFixed 4 c.toNat
  have front : (Text.hexFixed 4 c.toNat ++ rest).take 4 = Text.hexFixed 4 c.toNat := List.take_left' digits
  have back : (Text.hexFixed 4 c.toNat ++ rest).drop 4 = rest := List.drop_left' digits
  have number : Text.hexNumber? (Text.hexFixed 4 c.toNat) = some c.toNat :=
    Text.hexNumber_hexFixed 4 c.toNat (Nat.lt_of_lt_of_le small (by decide))
  have valid : c.toNat.isValidChar := .inl (by omega)
  simp [escaped?, numbered?, front, back, digits, number, valid]

theorem basicLine_escaped {cs rest : List Char} {c : Char} (read : escaped? cs = some (c, rest)) :
    basicLine? ('\\' :: cs) = (basicLine? rest).map (consTo c) := by
  rw [basicLine?]
  split
  · next none => cases none.symm.trans read
  · next found =>
    cases found.symm.trans read
    rfl

theorem control_lt {c : Char} (control : isControl c = true) : c.toNat < 0x80 := by
  simp only [isControl, Bool.or_eq_true, Bool.and_eq_true, decide_eq_true_eq, beq_iff_eq] at control
  omega

theorem basicLine_escapeChar (c : Char) (rest : List Char) :
    basicLine? (escapeChar c ++ rest) = (basicLine? rest).map (consTo c) := by
  unfold escapeChar
  split
  · next letter written => exact basicLine_escaped (escaped_letter written rest)
  · next none =>
    split
    · next control => exact basicLine_escaped (escaped_number (control_lt control) rest)
    · next visible =>
      have plain : c ≠ '"' ∧ c ≠ '\\' := by
        constructor <;> rintro rfl <;> cases none
      rw [List.singleton_append, basicLine?]
      · rw [if_neg visible]
      · exact fun same => plain.1 same
      · exact fun same => plain.2 same

theorem basicLine_flatMap (cs rest : List Char) :
    basicLine? (cs.flatMap escapeChar ++ '"' :: rest) = some (cs, rest) := by
  induction cs with
  | nil => rw [List.flatMap_nil, List.nil_append, basicLine?]
  | cons c more ih =>
    rw [List.flatMap_cons, List.append_assoc, basicLine_escapeChar, ih]
    rfl

/-- No escape begins with a quotation mark, so that a text is never taken for a block. -/
theorem escapeChar_head (c : Char) : ∃ first more, escapeChar c = first :: more ∧ first ≠ '"' := by
  unfold escapeChar
  split
  · exact ⟨_, _, rfl, by decide⟩
  · next none =>
    split
    · exact ⟨_, _, rfl, by decide⟩
    · exact ⟨c, [], rfl, fun same => by subst same; cases none⟩

theorem toList_quote (s : String) :
    (quote s).toList = '"' :: (s.toList.flatMap escapeChar ++ ['"']) := by
  simp [quote, enclose]

theorem quotedText_line {cs : List Char} (apart : ∀ rest, cs ≠ '"' :: '"' :: rest) :
    quotedText? ('"' :: cs) = some (basicLine? cs) := by
  unfold quotedText?
  split
  · next rest same => exact absurd (List.cons.inj same).2 (apart rest)
  · next same => cases (List.cons.inj same).1
  · next same => rw [(List.cons.inj same).2]
  · next same => cases (List.cons.inj same).1
  · next other _ => exact absurd rfl (other cs)

theorem quotedText_quote (s : String) {rest : List Char} (apart : rest.head? ≠ some '"') :
    quotedText? ((quote s).toList ++ rest) = some (some (s.toList, rest)) := by
  rw [toList_quote, List.cons_append, quotedText_line, List.append_assoc, List.singleton_append,
    basicLine_flatMap]
  intro later same
  cases chars : s.toList with
  | nil =>
    rw [chars] at same
    have second : rest = '"' :: later := (List.cons.inj same).2
    exact apart (by rw [second]; rfl)
  | cons c more =>
    obtain ⟨first, others, written, other⟩ := escapeChar_head c
    rw [chars, List.flatMap_cons, written] at same
    exact other (List.cons.inj same).1

theorem return_not_mem_hexFixed (width n : Nat) : '\r' ∉ Text.hexFixed width n := by
  have other : ∀ n : Fin 16, '\r' ≠ Nat.digitChar n := by decide
  induction width generalizing n with
  | zero => exact List.not_mem_nil
  | succ width ih =>
    rw [Text.hexFixed, List.mem_append, List.mem_singleton, not_or]
    exact ⟨ih _, other ⟨n % 16, Nat.mod_lt n (by decide)⟩⟩

theorem return_not_mem_escapeChar (c : Char) : '\r' ∉ escapeChar c := by
  unfold escapeChar
  split
  · next letter written =>
    have visible : '\r' ≠ letter := by
      rintro rfl
      cases escaped_letter written []
    simp [visible]
  · next none =>
    split
    · simp [escapeNumber, return_not_mem_hexFixed]
    · rw [List.mem_singleton]
      rintro rfl
      cases none

theorem return_not_mem_quote (s : String) : '\r' ∉ (quote s).toList := by
  rw [toList_quote]
  simp [return_not_mem_escapeChar]

end SqlGateway.Toml
