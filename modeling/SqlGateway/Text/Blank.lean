/-!
Blank characters and trimming. Names, joiners and queries are compared after trimming, so the set of
blank characters is part of what a name is.
-/

namespace SqlGateway.Text

/-- Control characters that separate lines, fields or records, and every kind of space. -/
def isBlank (c : Char) : Bool :=
  let n := c.toNat
  (0x09 ≤ n && n ≤ 0x0D) || (0x1C ≤ n && n ≤ 0x20) || n == 0x85 || n == 0xA0 || n == 0x1680 ||
    (0x2000 ≤ n && n ≤ 0x200A) || n == 0x2028 || n == 0x2029 || n == 0x202F || n == 0x205F ||
    n == 0x3000

/-- The blanks of the Unicode property alone: the four separators 1C to 1F are not among them. -/
def isSpace (c : Char) : Bool :=
  isBlank c && !(0x1C ≤ c.toNat && c.toNat ≤ 0x1F)

def trimBoth (drop : Char → Bool) (cs : List Char) : List Char :=
  ((cs.dropWhile drop).reverse.dropWhile drop).reverse

def trim (s : String) : String :=
  String.ofList (trimBoth isBlank s.toList)

theorem mem_of_mem_trim {s : String} {c : Char} (member : c ∈ (trim s).toList) : c ∈ s.toList := by
  rw [trim, String.toList_ofList, trimBoth, List.mem_reverse] at member
  have front := List.mem_reverse.mp ((List.dropWhile_sublist _).subset member)
  exact (List.dropWhile_sublist _).subset front

theorem mem_dropWhile {drop : Char → Bool} {cs : List Char} {c : Char} (member : c ∈ cs)
    (kept : drop c = false) : c ∈ cs.dropWhile drop := by
  rw [← List.takeWhile_append_dropWhile (p := drop) (l := cs), List.mem_append] at member
  refine member.resolve_left fun taken => ?_
  cases kept.symm.trans (List.all_eq_true.mp List.all_takeWhile c taken)

theorem mem_trim {s : String} {c : Char} (member : c ∈ s.toList) (visible : isBlank c = false) :
    c ∈ (trim s).toList := by
  rw [trim, String.toList_ofList, trimBoth, List.mem_reverse]
  exact mem_dropWhile (List.mem_reverse.mpr (mem_dropWhile member visible)) visible

theorem dropWhile_eq_self {drop : Char → Bool} {cs : List Char} (kept : ∀ c ∈ cs, drop c = false) :
    cs.dropWhile drop = cs := by
  cases cs with
  | nil => rfl
  | cons c rest => simp [kept c List.mem_cons_self]

theorem trim_eq_self {s : String} (visible : ∀ c ∈ s.toList, isBlank c = false) : trim s = s := by
  have backwards : ∀ c ∈ s.toList.reverse, isBlank c = false := by simpa using visible
  rw [trim, trimBoth, dropWhile_eq_self visible, dropWhile_eq_self backwards, List.reverse_reverse,
    String.ofList_toList]

end SqlGateway.Text
