import SqlGateway.Proofs.Results
import SqlGateway.Toml.Value

/-!
What the readers of single values leave. The text behind a value is the end of the text that it was read from,
and the digits of a number are a stretch of that text without its underscores.
-/

namespace SqlGateway.Toml

variable {cs rest : List Char}

theorem suffix_of_numbered {width : Nat} {c : Char} (read : numbered? width cs = some (c, rest)) : rest <:+ cs := by
  simp only [numbered?] at read
  split at read
  · obtain ⟨n, -, chosen⟩ := Option.bind_eq_some_iff.mp read
    split at chosen
    · cases chosen
      exact List.drop_suffix width cs
    · cases chosen
  · cases read

theorem suffix_of_escaped {c : Char} (read : escaped? cs = some (c, rest)) : rest <:+ cs := by
  unfold escaped? at read
  split at read
  · exact (suffix_of_numbered read).trans (List.suffix_cons _ _)
  · exact (suffix_of_numbered read).trans (List.suffix_cons _ _)
  · obtain ⟨letter, -, same⟩ := Option.map_eq_some_iff.mp read
    cases same
    exact List.suffix_cons _ _
  · cases read

theorem suffix_of_consTo {c : Char} {result : List Char × List Char} {read? : Option (List Char × List Char)}
    {after : List Char} (read : read?.map (consTo c) = some result) (later : ∀ result, read? = some result →
      result.2 <:+ after) (within : after <:+ cs) : result.2 <:+ cs := by
  obtain ⟨more, found, rfl⟩ := Option.map_eq_some_iff.mp read
  exact (later more found).trans within

theorem suffix_of_basicLine {result : List Char × List Char} (read : basicLine? cs = some result) :
    result.2 <:+ cs := by
  fun_induction basicLine? cs generalizing result with
  | case1 => cases read
  | case2 rest => cases read; exact List.suffix_cons _ _
  | case3 => cases read
  | case4 rest c after found shorter ih =>
    exact suffix_of_consTo read (fun _ => ih) ((suffix_of_escaped found).trans (List.suffix_cons _ _))
  | case5 => cases read
  | case6 c rest _ _ _ ih => exact suffix_of_consTo read (fun _ => ih) (List.suffix_cons _ _)

theorem suffix_of_lineEnd (read : lineEnd? cs = some rest) : rest <:+ cs := by
  unfold lineEnd? at read
  split at read
  · rename_i inner found
    cases read
    have gap : '\n' :: inner <:+ cs := found ▸ List.dropWhile_suffix isGap
    exact (List.dropWhile_suffix _).trans ((List.suffix_cons _ _).trans gap)
  · cases read

theorem suffix_of_basicBlock {result : List Char × List Char} (read : basicBlock? cs = some result) :
    result.2 <:+ cs := by
  fun_induction basicBlock? cs generalizing result with
  | case1 => cases read
  | case2 rest => cases read; exact List.suffix_append ['"', '"', '"'] rest
  | case3 rest after joined shorter ih =>
    exact (ih read).trans ((suffix_of_lineEnd joined).trans (List.suffix_cons _ _))
  | case4 => cases read
  | case5 rest joined c after found shorter ih =>
    exact suffix_of_consTo read (fun _ => ih) ((suffix_of_escaped found).trans (List.suffix_cons _ _))
  | case6 => cases read
  | case7 c rest _ _ _ ih => exact suffix_of_consTo read (fun _ => ih) (List.suffix_cons _ _)

theorem suffix_of_literalLine {result : List Char × List Char} (read : literalLine? cs = some result) :
    result.2 <:+ cs := by
  fun_induction literalLine? cs generalizing result with
  | case1 => cases read
  | case2 rest => cases read; exact List.suffix_cons _ _
  | case3 => cases read
  | case4 c rest _ _ ih => exact suffix_of_consTo read (fun _ => ih) (List.suffix_cons _ _)

theorem suffix_of_literalBlock {result : List Char × List Char} (read : literalBlock? cs = some result) :
    result.2 <:+ cs := by
  fun_induction literalBlock? cs generalizing result with
  | case1 => cases read
  | case2 rest => cases read; exact List.suffix_append ['\'', '\'', '\''] rest
  | case3 => cases read
  | case4 c rest _ _ ih => exact suffix_of_consTo read (fun _ => ih) (List.suffix_cons _ _)

theorem skipNewline_suffix (cs : List Char) : skipNewline cs <:+ cs := by
  unfold skipNewline
  split
  · exact List.suffix_cons _ _
  · exact List.suffix_rfl

theorem suffix_of_withMarks {mark : Char} {read? : Option (List Char × List Char)} {result : List Char × List Char}
    (read : read?.map (withMarks mark) = some result) (block : ∀ result, read? = some result →
      result.2 <:+ skipNewline rest) (opened : rest <:+ cs) : result.2 <:+ cs := by
  obtain ⟨body, found, rfl⟩ := Option.map_eq_some_iff.mp read
  exact (List.drop_suffix _ _).trans ((block body found).trans ((skipNewline_suffix rest).trans opened))

theorem suffix_of_quotedText {result : List Char × List Char} (read : quotedText? cs = some (some result)) :
    result.2 <:+ cs := by
  unfold quotedText? at read
  split at read
  · exact suffix_of_withMarks (Option.some.inj read) (fun _ => suffix_of_basicBlock)
      (List.suffix_append ['"', '"', '"'] _)
  · exact suffix_of_withMarks (Option.some.inj read) (fun _ => suffix_of_literalBlock)
      (List.suffix_append ['\'', '\'', '\''] _)
  · exact (suffix_of_basicLine (Option.some.inj read)).trans (List.suffix_cons _ _)
  · exact (suffix_of_literalLine (Option.some.inj read)).trans (List.suffix_cons _ _)
  · cases read

structure Row (isDigit : Char → Bool) (row digits : List Char) : Prop where
  all : ∀ c ∈ row, isDigit c = true ∨ c = '_'
  digits : digits = row.filter isDigit

theorem Row.cons {isDigit : Char → Bool} {row digits : List Char} (found : Row isDigit row digits) {c : Char}
    (digit : isDigit c = true) : Row isDigit (c :: row) (c :: digits) where
  all := List.forall_mem_cons.mpr ⟨.inl digit, found.all⟩
  digits := by rw [found.digits, List.filter_cons_of_pos digit]

theorem Row.underscore {isDigit : Char → Bool} (mark : isDigit '_' = false) {row digits : List Char}
    (found : Row isDigit row digits) : Row isDigit ('_' :: row) digits where
  all := List.forall_mem_cons.mpr ⟨.inr rfl, found.all⟩
  digits := by rw [found.digits, List.filter_cons_of_neg (by rw [mark]; decide)]

section

variable {isDigit : Char → Bool} (mark : isDigit '_' = false)

include mark

theorem moreDigits_row (cs : List Char) :
    ∃ row, row ++ (moreDigits isDigit cs).2 = cs ∧ Row isDigit row (moreDigits isDigit cs).1 := by
  fun_induction moreDigits isDigit cs with
  | case1 c rest digit ih =>
    obtain ⟨row, whole, found⟩ := ih
    exact ⟨'_' :: c :: row, congrArg ('_' :: c :: ·) whole, (found.cons digit).underscore mark⟩
  | case2 c rest none => exact ⟨[], rfl, nofun, rfl⟩
  | case3 c rest apart digit ih =>
    obtain ⟨row, whole, found⟩ := ih
    exact ⟨c :: row, congrArg (c :: ·) whole, found.cons digit⟩
  | case4 c rest apart none => exact ⟨[], rfl, nofun, rfl⟩
  | case5 => exact ⟨[], rfl, nofun, rfl⟩

theorem row_of_digits {digits : List Char} (read : digits? isDigit cs = some (digits, rest)) :
    ∃ row, row ++ rest = cs ∧ Row isDigit row digits := by
  unfold digits? at read
  split at read
  · rename_i c after
    split at read
    · rename_i digit
      obtain ⟨row, whole, found⟩ := moreDigits_row mark after
      cases read
      exact ⟨c :: row, congrArg (c :: ·) whole, found.cons digit⟩
    · cases read
  · cases read

theorem suffix_of_digits {digits : List Char} (read : digits? isDigit cs = some (digits, rest)) : rest <:+ cs := by
  obtain ⟨row, whole, -⟩ := row_of_digits mark read
  exact ⟨row, whole⟩

end

theorem radix_plain {isDigit : Char → Bool} (mark : isDigit '_' = false)
    {number : List Char × List Char → Toml × List Char}
    (plain : ∀ read, isContainer (number read).1 = false ∧ (number read).2 = read.2) {read : Toml × List Char}
    (found : (digits? isDigit rest).map number = some read) (opened : rest <:+ cs) :
    isContainer read.1 = false ∧ read.2 <:+ cs := by
  obtain ⟨digits, digitsRead, rfl⟩ := Option.map_eq_some_iff.mp found
  obtain ⟨single, same⟩ := plain digits
  rw [same]
  exact ⟨single, (suffix_of_digits mark digitsRead).trans opened⟩

theorem radixInteger_plain {read : Toml × List Char} (found : radixInteger? cs = some read) :
    isContainer read.1 = false ∧ read.2 <:+ cs := by
  unfold radixInteger? at found
  split at found
  · exact radix_plain (by decide) (fun _ => ⟨rfl, rfl⟩) found (List.suffix_append ['0', 'x'] _)
  · exact radix_plain (by decide) (fun _ => ⟨rfl, rfl⟩) found (List.suffix_append ['0', 'o'] _)
  · exact radix_plain (by decide) (fun _ => ⟨rfl, rfl⟩) found (List.suffix_append ['0', 'b'] _)
  · cases found

theorem readSign_suffix (cs : List Char) : (Scientific.readSign cs).2 <:+ cs := by
  unfold Scientific.readSign
  split
  · exact List.suffix_cons _ _
  · exact List.suffix_cons _ _
  · exact List.suffix_rfl

theorem row_of_whole {digits : List Char} (read : whole? cs = some (digits, rest)) :
    ∃ row, row ++ rest = cs ∧ Row Char.isDigit row digits := by
  unfold whole? at read
  split at read
  · cases read
    exact ⟨['0'], rfl, by simp, rfl⟩
  · exact row_of_digits rfl read

theorem suffix_of_fraction {digits : List Char} (read : fraction? cs = some (digits, rest)) : rest <:+ cs := by
  unfold fraction? at read
  split at read
  · exact (suffix_of_digits rfl read).trans (List.suffix_cons _ _)
  · cases read

theorem suffix_of_exponent {exponent : Int} (read : exponent? cs = some (exponent, rest)) : rest <:+ cs := by
  unfold exponent? at read
  split at read
  · rename_i mark after
    split at read
    · obtain ⟨⟨digits, behind⟩, digitsRead, same⟩ := Option.map_eq_some_iff.mp read
      cases same
      exact (suffix_of_digits rfl digitsRead).trans ((readSign_suffix after).trans (List.suffix_cons _ _))
    · cases read
  · cases read

def LongNumeral (cs : List Char) : Prop :=
  ∃ row, row <:+: cs ∧ (∀ c ∈ row, c.isDigit = true ∨ c = '_') ∧ mostDigits < row.countP Char.isDigit

theorem LongNumeral.mono {more : List Char} (long : LongNumeral cs) (within : cs <:+: more) : LongNumeral more := by
  obtain ⟨row, inside, all, many⟩ := long
  exact ⟨row, inside.trans within, all, many⟩

theorem integerOf_answers {negative : Bool} {row digits : List Char} (found : Row Char.isDigit row digits)
    (inside : row <:+: cs) :
    EitherWay (fun item => isContainer item = false) (· = .tooManyDigits ∧ LongNumeral cs)
      (integerOf negative digits) := by
  unfold integerOf
  split
  · rename_i many
    rw [found.digits, ← List.countP_eq_length_filter] at many
    exact ⟨rfl, row, inside, found.all, many⟩
  · exact rfl

theorem behind_suffix {α : Type} {read? : Option (α × List Char)}
    (suffix : ∀ x rest, read? = some (x, rest) → rest <:+ cs) : (read?.map Prod.snd).getD cs <:+ cs := by
  cases read? with
  | none => exact List.suffix_rfl
  | some read => exact suffix read.1 read.2 rfl

theorem decimal_answers {result : Except Problem (Toml × List Char)} (found : decimal? cs = some result) :
    EitherWay (fun read => isContainer read.1 = false ∧ read.2 <:+ cs) (· = .tooManyDigits ∧ LongNumeral cs)
      result := by
  have sign := readSign_suffix cs
  unfold decimal? at found
  generalize Scientific.readSign cs = signed at found sign
  obtain ⟨negative, body⟩ := signed
  obtain ⟨⟨whole, rest⟩, wholeRead, rfl⟩ := Option.map_eq_some_iff.mp found
  obtain ⟨row, same, digits⟩ := row_of_whole wholeRead
  have left : rest <:+ cs := List.IsSuffix.trans ⟨row, same⟩ sign
  have inside : row <:+: cs := (List.IsPrefix.isInfix ⟨rest, same⟩).trans sign.isInfix
  dsimp only
  split
  · exact (integerOf_answers digits inside).map fun _ plain => ⟨plain, left⟩
  · have fraction : ((fraction? rest).map Prod.snd).getD rest <:+ rest :=
      behind_suffix fun _ _ => suffix_of_fraction
    exact ⟨rfl, (behind_suffix fun _ _ => suffix_of_exponent).trans (fraction.trans left)⟩

theorem wordNumber_plain {read : Toml × List Char} (found : wordNumber? cs = some read) :
    isContainer read.1 = false ∧ read.2 <:+ cs := by
  have sign := readSign_suffix cs
  unfold wordNumber? at found
  generalize Scientific.readSign cs = signed at found sign
  obtain ⟨negative, body⟩ := signed
  dsimp only at found
  split at found
  · cases found
    exact ⟨rfl, (List.suffix_append ['i', 'n', 'f'] _).trans sign⟩
  · cases found
    exact ⟨rfl, (List.suffix_append ['n', 'a', 'n'] _).trans sign⟩
  · cases found

theorem suffix_of_bounded {width least most n : Nat} (read : bounded? width least most cs = some (n, rest)) :
    rest <:+ cs := by
  simp only [bounded?] at read
  split at read
  · cases read
    exact List.drop_suffix width cs
  · cases read

theorem suffix_of_expect {mark : Char} (read : expect? mark cs = some rest) : rest <:+ cs := by
  unfold expect? at read
  split at read
  · split at read
    · cases read
      exact List.suffix_cons _ _
    · cases read
  · cases read

theorem suffix_of_marked {mark : Char} {width least most n : Nat} {middle : List Char}
    (marked : expect? mark cs = some middle) (read : bounded? width least most middle = some (n, rest)) :
    rest <:+ cs :=
  (suffix_of_bounded read).trans (suffix_of_expect marked)

theorem skipSecondFraction_suffix (cs : List Char) : skipSecondFraction cs <:+ cs := by
  unfold skipSecondFraction
  split
  · split
    · exact (List.dropWhile_suffix _).trans (List.suffix_append ['.', _] _)
    · exact List.suffix_rfl
  · exact List.suffix_rfl

theorem suffix_of_time (read : time? cs = some rest) : rest <:+ cs := by
  obtain ⟨⟨hour, afterHour⟩, hourRead, read⟩ := Option.bind_eq_some_iff.mp read
  obtain ⟨atMinute, minuteMark, read⟩ := Option.bind_eq_some_iff.mp read
  obtain ⟨⟨minute, afterMinute⟩, minuteRead, read⟩ := Option.bind_eq_some_iff.mp read
  obtain ⟨atSecond, secondMark, read⟩ := Option.bind_eq_some_iff.mp read
  obtain ⟨⟨second, afterSecond⟩, secondRead, read⟩ := Option.bind_eq_some_iff.mp read
  cases read
  exact (skipSecondFraction_suffix _).trans ((suffix_of_marked secondMark secondRead).trans
    ((suffix_of_marked minuteMark minuteRead).trans (suffix_of_bounded hourRead)))

theorem suffix_of_zone (read : zone? cs = some rest) : rest <:+ cs := by
  unfold zone? at read
  split at read
  · rename_i c after
    split at read
    · cases read
      exact List.suffix_cons _ _
    split at read
    · obtain ⟨⟨hour, afterHour⟩, hourRead, read⟩ := Option.bind_eq_some_iff.mp read
      obtain ⟨atMinute, minuteMark, read⟩ := Option.bind_eq_some_iff.mp read
      obtain ⟨⟨minute, afterMinute⟩, minuteRead, read⟩ := Option.bind_eq_some_iff.mp read
      cases read
      exact (suffix_of_marked minuteMark minuteRead).trans ((suffix_of_bounded hourRead).trans (List.suffix_cons _ _))
    · cases read
  · cases read

theorem suffix_of_date {valid : Bool} (read : date? cs = some (valid, rest)) : rest <:+ cs := by
  obtain ⟨⟨year, afterYear⟩, yearRead, read⟩ := Option.bind_eq_some_iff.mp read
  obtain ⟨atMonth, monthMark, read⟩ := Option.bind_eq_some_iff.mp read
  obtain ⟨⟨month, afterMonth⟩, monthRead, read⟩ := Option.bind_eq_some_iff.mp read
  obtain ⟨atDay, dayMark, read⟩ := Option.bind_eq_some_iff.mp read
  obtain ⟨⟨day, afterDay⟩, dayRead, read⟩ := Option.bind_eq_some_iff.mp read
  cases read
  exact (suffix_of_marked dayMark dayRead).trans
    ((suffix_of_marked monthMark monthRead).trans (suffix_of_bounded yearRead))

theorem skipTime_suffix (cs : List Char) : skipTime cs <:+ cs := by
  unfold skipTime
  split
  · rename_i c rest
    split
    · split
      · rename_i after timeRead
        have time : after <:+ c :: rest := (suffix_of_time timeRead).trans (List.suffix_cons _ _)
        cases zoned : zone? after with
        | none => exact time
        | some behind => exact (suffix_of_zone zoned).trans time
      · exact List.suffix_rfl
    · exact List.suffix_rfl
  · exact List.suffix_rfl

theorem moment_answers {result : Except Problem (Toml × List Char)} (found : moment? cs = some result) :
    EitherWay (fun read => isContainer read.1 = false ∧ read.2 <:+ cs) (· = .malformed) result := by
  unfold moment? at found
  split at found
  · rename_i valid rest dateRead
    cases found
    cases valid with
    | true => exact ⟨rfl, (skipTime_suffix rest).trans (suffix_of_date dateRead)⟩
    | false => exact rfl
  · obtain ⟨rest, timeRead, rfl⟩ := Option.map_eq_some_iff.mp found
    exact ⟨rfl, suffix_of_time timeRead⟩

variable [Stack]

/-- What the values of a text can need of the stack: the share of each one that is opened, and what one needs by
itself. -/
def weight (cs : List Char) : Nat := Stack.array * cs.count '[' + Stack.table * cs.count '{' + Stack.most

/-- What a text is like that is given up, where a value in it may have so much room. -/
inductive GivenUp (room : Nat) (cs : List Char) : Problem → Prop
  | malformed : GivenUp room cs .malformed
  | tooManyDigits : LongNumeral cs → GivenUp room cs .tooManyDigits
  | tooDeep : room < weight cs → GivenUp room cs .tooDeep

theorem scalar_answers (room : Nat) (cs : List Char) :
    EitherWay (fun read => isContainer read.1 = false ∧ read.2 <:+ cs) (GivenUp room cs) (scalar cs) := by
  unfold scalar
  split
  · rename_i found
    refine (moment_answers found).mono (fun _ => id) ?_
    rintro _ rfl
    exact .malformed
  · rename_i found
    exact radixInteger_plain found
  · rename_i found
    refine (decimal_answers found).mono (fun _ => id) ?_
    rintro _ ⟨rfl, long⟩
    exact .tooManyDigits long
  · rename_i found
    exact wordNumber_plain found
  · exact GivenUp.malformed

end SqlGateway.Toml
