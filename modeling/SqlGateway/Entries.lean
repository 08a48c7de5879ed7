/-!
Ordered entries: a key keeps the place and the spelling it came with, and takes the last value put
under it. The main statements say what a look-up finds after `put` and that no key stands twice.
-/

namespace SqlGateway

abbrev Entries (κ α : Type) := List (κ × α)

namespace Entries

variable {κ α : Type}

def keys (entries : Entries κ α) : List κ := entries.map Prod.fst

section

variable [BEq κ]

def put (key : κ) (value : α) : Entries κ α → Entries κ α
  | [] => [(key, value)]
  | (k, v) :: rest => if k == key then (k, value) :: rest else (k, v) :: put key value rest

def get? (key : κ) : Entries κ α → Option α
  | [] => none
  | (k, v) :: rest => if k == key then some v else get? key rest

def putAll (entries more : Entries κ α) : Entries κ α :=
  more.foldl (fun (held : Entries κ α) entry => put entry.1 entry.2 held) entries

def ofList (pairs : List (κ × α)) : Entries κ α := putAll [] pairs

end

section

variable [BEq κ] [LawfulBEq κ]

@[simp] theorem get?_put_self (entries : Entries κ α) (key : κ) (value : α) :
    get? key (put key value entries) = some value := by
  induction entries with
  | nil => simp [put, get?]
  | cons head tail ih => by_cases same : head.1 == key <;> simp [put, get?, same, ih]

theorem get?_put_of_ne (entries : Entries κ α) (key other : κ) (value : α) (ne : other ≠ key) :
    get? other (put key value entries) = get? other entries := by
  induction entries with
  | nil => simp [put, get?, ne.symm]
  | cons head tail ih =>
    by_cases same : head.1 = key
    · subst same; simp [put, get?, ne.symm]
    · simp [put, get?, same, ih]

theorem mem_keys_put (entries : Entries κ α) (key other : κ) (value : α) :
    other ∈ keys (put key value entries) ↔ other = key ∨ other ∈ keys entries := by
  induction entries with
  | nil => simp [put, keys]
  | cons head tail ih =>
    by_cases same : head.1 = key
    · subst same; simp [put, keys]
    · simp only [keys] at ih
      simp [put, keys, same, ih, or_left_comm]

theorem nodup_keys_put (entries : Entries κ α) (key : κ) (value : α) (distinct : (keys entries).Nodup) :
    (keys (put key value entries)).Nodup := by
  induction entries with
  | nil => simp [put, keys]
  | cons head tail ih =>
    have parts : head.1 ∉ keys tail ∧ (keys tail).Nodup := by simpa [keys] using distinct
    by_cases same : head.1 = key
    · subst same; simpa [put, keys] using distinct
    · have fresh : head.1 ∉ keys (put key value tail) := by
        rw [mem_keys_put]
        exact fun present => present.elim same parts.1
      have split : keys (put key value (head :: tail)) = head.1 :: keys (put key value tail) := by
        simp [put, keys, same]
      rw [split]
      exact List.nodup_cons.mpr ⟨fresh, ih parts.2⟩

theorem put_of_not_mem (entries : Entries κ α) (key : κ) (value : α) (fresh : key ∉ keys entries) :
    put key value entries = entries ++ [(key, value)] := by
  induction entries with
  | nil => rfl
  | cons head tail ih =>
    have parts : key ≠ head.1 ∧ key ∉ keys tail := by simpa [keys] using fresh
    simp [put, parts.1.symm, ih parts.2]

theorem nodup_keys_putAll (entries more : Entries κ α) (distinct : (keys entries).Nodup) :
    (keys (putAll entries more)).Nodup := by
  unfold putAll
  induction more generalizing entries with
  | nil => exact distinct
  | cons head tail ih => exact ih _ (nodup_keys_put entries head.1 head.2 distinct)

theorem nodup_keys_ofList (pairs : List (κ × α)) : (keys (ofList pairs)).Nodup :=
  nodup_keys_putAll [] pairs (by simp [keys])

theorem keys_put_of_mem (entries : Entries κ α) (key : κ) (value : α) (present : key ∈ keys entries) :
    keys (put key value entries) = keys entries := by
  induction entries with
  | nil => exact absurd present List.not_mem_nil
  | cons head tail ih =>
    by_cases same : head.1 = key
    · subst same; simp [put, keys]
    · have later : key ∈ keys tail := (List.mem_cons.mp present).resolve_left fun equal => same equal.symm
      simpa [put, keys, same] using ih later

/-- The keys that are new follow those that are there, each where it first comes. -/
theorem keys_putAll (entries more : Entries κ α) :
    keys (putAll entries more) = keys entries ++ ((keys more).removeAll (keys entries)).eraseDups := by
  unfold putAll
  induction more generalizing entries with
  | nil => simp [keys, List.removeAll]
  | cons head tail ih =>
    rw [List.foldl_cons, ih]
    have split : keys (head :: tail) = head.1 :: keys tail := rfl
    by_cases present : head.1 ∈ keys entries
    · rw [keys_put_of_mem entries head.1 head.2 present, split, List.removeAll, List.removeAll]
      simp [present]
    · have added : keys (put head.1 head.2 entries) = keys entries ++ [head.1] := by
        rw [put_of_not_mem entries head.1 head.2 present]
        simp [keys]
      rw [added, split, List.removeAll, List.removeAll, List.append_assoc]
      simp only [List.elem_eq_mem, List.filter_cons, present, decide_false, Bool.not_false, if_true,
        List.eraseDups_cons, List.filter_filter, List.singleton_append]
      refine congrArg (keys entries ++ head.1 :: List.eraseDups ·) (List.filter_congr fun key _ => ?_)
      by_cases first : key = head.1 <;> simp [first]

theorem keys_ofList (pairs : List (κ × α)) : keys (ofList pairs) = (keys pairs).eraseDups := by
  have whole : (keys pairs).removeAll [] = keys pairs := List.filter_eq_self.mpr fun _ _ => rfl
  rw [ofList, keys_putAll, keys, List.map_nil, List.nil_append, whole]

theorem get?_of_mem (entries : Entries κ α) (distinct : (keys entries).Nodup) {key : κ} {value : α}
    (member : (key, value) ∈ entries) : get? key entries = some value := by
  induction entries with
  | nil => exact absurd member List.not_mem_nil
  | cons head tail ih =>
    have parts : head.1 ∉ keys tail ∧ (keys tail).Nodup := by simpa [keys] using distinct
    rcases List.mem_cons.mp member with rfl | later
    · simp [get?]
    · have ne : head.1 ≠ key := by
        rintro rfl
        exact parts.1 (List.mem_map.mpr ⟨(head.1, value), later, rfl⟩)
      simp [get?, ne, ih parts.2 later]

theorem mem_of_get? {entries : Entries κ α} {key : κ} {value : α} (found : get? key entries = some value) :
    (key, value) ∈ entries := by
  induction entries with
  | nil => cases found
  | cons head tail ih =>
    obtain ⟨first, held⟩ := head
    by_cases same : first = key
    · subst same
      obtain rfl : held = value := by simpa [get?] using found
      exact List.mem_cons_self
    · exact List.mem_cons_of_mem _ (ih (by simpa [get?, same] using found))

theorem get?_eq_some_iff (entries : Entries κ α) (distinct : (keys entries).Nodup) {key : κ} {value : α} :
    get? key entries = some value ↔ (key, value) ∈ entries :=
  ⟨mem_of_get?, get?_of_mem entries distinct⟩

theorem mem_of_mem_put (entries : Entries κ α) {key : κ} {value : α} {entry : κ × α}
    (member : entry ∈ put key value entries) : entry = (key, value) ∨ entry ∈ entries := by
  induction entries with
  | nil => exact .inl (List.mem_singleton.mp member)
  | cons head tail ih =>
    by_cases same : head.1 = key
    · subst same
      simp only [put, beq_self_eq_true, if_true, List.mem_cons] at member
      exact member.imp id (List.mem_cons_of_mem _)
    · rw [put, if_neg (by simpa using same)] at member
      rcases List.mem_cons.mp member with rfl | later
      · exact .inr List.mem_cons_self
      · exact (ih later).imp id (List.mem_cons_of_mem _)

theorem mem_of_mem_putAll (entries more : Entries κ α) {entry : κ × α}
    (member : entry ∈ putAll entries more) : entry ∈ entries ∨ entry ∈ more := by
  unfold putAll at member
  induction more generalizing entries with
  | nil => exact .inl member
  | cons head tail ih =>
    rcases ih (put head.1 head.2 entries) member with here | later
    · rcases mem_of_mem_put entries here with rfl | early
      · exact .inr List.mem_cons_self
      · exact .inl early
    · exact .inr (List.mem_cons_of_mem _ later)

theorem mem_of_mem_ofList {pairs : List (κ × α)} {entry : κ × α} (member : entry ∈ ofList pairs) :
    entry ∈ pairs :=
  (mem_of_mem_putAll [] pairs member).resolve_left List.not_mem_nil

theorem ofList_map (names : List κ) (value : κ → α) :
    ofList (names.map fun name => (name, value name)) = names.eraseDups.map fun name => (name, value name) := by
  have keyed : keys (ofList (names.map fun name => (name, value name))) = names.eraseDups := by
    rw [keys_ofList, keys, List.map_map]
    exact congrArg List.eraseDups (List.map_id names)
  rw [← keyed, keys, List.map_map]
  refine (List.map_id _).symm.trans (List.map_congr_left fun entry member => ?_)
  obtain ⟨name, -, rfl⟩ := List.mem_map.mp (mem_of_mem_ofList member)
  rfl

theorem get?_putAll (entries more : Entries κ α) {key : κ} {value : α}
    (held : get? key entries = some value) (agree : ∀ other, (key, other) ∈ more → other = value) :
    get? key (putAll entries more) = some value := by
  unfold putAll
  induction more generalizing entries with
  | nil => exact held
  | cons head tail ih =>
    rw [List.foldl_cons]
    refine ih (put head.1 head.2 entries) ?_ fun other later => agree other (List.mem_cons_of_mem _ later)
    by_cases same : key = head.1
    · subst same
      rw [get?_put_self, agree head.2 List.mem_cons_self]
    · rw [get?_put_of_ne entries head.1 key head.2 same, held]

theorem put_eq_self (entries : Entries κ α) {key : κ} {value : α} (held : get? key entries = some value) :
    put key value entries = entries := by
  induction entries with
  | nil => cases held
  | cons head tail ih =>
    by_cases same : head.1 = key
    · subst same
      obtain rfl : head.2 = value := by simpa [get?] using held
      simp [put]
    · rw [put, if_neg (by simpa using same), ih (by simpa [get?, same] using held)]

theorem putAll_eq_self (entries more : Entries κ α)
    (held : ∀ entry ∈ more, get? entry.1 entries = some entry.2) : putAll entries more = entries := by
  unfold putAll
  induction more with
  | nil => rfl
  | cons head tail ih =>
    rw [List.foldl_cons, put_eq_self entries (held head List.mem_cons_self)]
    exact ih fun entry member => held entry (List.mem_cons_of_mem _ member)

theorem get?_ofList (pairs : List (κ × α)) {key : κ} {value : α} (member : (key, value) ∈ pairs)
    (agree : ∀ other, (key, other) ∈ pairs → other = value) : get? key (ofList pairs) = some value := by
  obtain ⟨early, late, rfl⟩ := List.append_of_mem member
  rw [ofList, putAll, List.foldl_append, List.foldl_cons]
  exact get?_putAll _ late (get?_put_self _ _ _) fun other later =>
    agree other (List.mem_append_right _ (List.mem_cons_of_mem _ later))

theorem ofList_append_of_held (pairs more : List (κ × α))
    (held : ∀ entry ∈ more, get? entry.1 (ofList pairs) = some entry.2) :
    ofList (pairs ++ more) = ofList pairs := by
  have entered := putAll_eq_self (ofList pairs) more held
  rwa [ofList, putAll, putAll, ← List.foldl_append] at entered

theorem putAll_eq_append (entries more : Entries κ α)
    (distinct : (keys (entries ++ more)).Nodup) : putAll entries more = entries ++ more := by
  unfold putAll
  induction more generalizing entries with
  | nil => simp
  | cons head tail ih =>
    have fresh : head.1 ∉ keys entries := by
      simp only [keys, List.map_append, List.map_cons] at distinct ⊢
      intro present
      exact (List.nodup_append.mp distinct).2.2 _ present _ (by simp) rfl
    rw [List.foldl_cons, put_of_not_mem entries head.1 head.2 fresh]
    have joined : entries ++ [(head.1, head.2)] ++ tail = entries ++ head :: tail := by simp
    rw [ih _ (by rw [joined]; exact distinct), joined]

theorem put_append_of_not_mem (first second : Entries κ α) (key : κ) (value : α)
    (absent : key ∉ keys first) : put key value (first ++ second) = first ++ put key value second := by
  induction first with
  | nil => rfl
  | cons head tail ih =>
    have parts : key ≠ head.1 ∧ key ∉ keys tail := by simpa [keys] using absent
    simp [put, parts.1.symm, ih parts.2]

theorem get?_append (first second : Entries κ α) (key : κ) :
    get? key (first ++ second) = (get? key first).or (get? key second) := by
  induction first with
  | nil => rfl
  | cons head tail ih => by_cases same : head.1 = key <;> simp [get?, same, ih]

theorem get?_of_not_mem (entries : Entries κ α) {key : κ} (absent : key ∉ keys entries) :
    get? key entries = none := by
  induction entries with
  | nil => rfl
  | cons head tail ih =>
    have parts : key ≠ head.1 ∧ key ∉ keys tail := by simpa [keys] using absent
    simp [get?, parts.1.symm, ih parts.2]

theorem putAll_append_of_disjoint (first second more : Entries κ α)
    (disjoint : ∀ key ∈ keys more, key ∉ keys first) :
    putAll (first ++ second) more = first ++ putAll second more := by
  unfold putAll
  induction more generalizing second with
  | nil => rfl
  | cons head tail ih =>
    rw [List.foldl_cons, List.foldl_cons,
      put_append_of_not_mem first second head.1 head.2 (disjoint head.1 List.mem_cons_self)]
    exact ih _ fun key member => disjoint key (List.mem_cons_of_mem _ member)

theorem ofList_eq_self (pairs : List (κ × α)) (distinct : (keys pairs).Nodup) :
    ofList pairs = pairs := by
  simpa [ofList] using putAll_eq_append [] pairs (by simpa using distinct)

theorem mem_keys_ofList (pairs : List (κ × α)) (key : κ) : key ∈ keys (ofList pairs) ↔ key ∈ keys pairs := by
  rw [keys_ofList, List.mem_eraseDups]

theorem putAll_ofList_of_disjoint (first second : List (κ × α))
    (disjoint : ∀ key ∈ keys second, key ∉ keys first) :
    putAll (ofList first) (ofList second) = ofList (first ++ second) := by
  have apart : ∀ key ∈ keys second, key ∉ keys (ofList first) := fun key member present =>
    disjoint key member ((mem_keys_ofList first key).mp present)
  have entered := putAll_append_of_disjoint (ofList first) [] second apart
  have enteredAgain := putAll_append_of_disjoint (ofList first) [] (ofList second) fun key member =>
    apart key ((mem_keys_ofList second key).mp member)
  rw [List.append_nil] at entered enteredAgain
  calc
    putAll (ofList first) (ofList second) = ofList first ++ ofList (ofList second) := enteredAgain
    _ = ofList first ++ ofList second := by rw [ofList_eq_self _ (nodup_keys_ofList second)]
    _ = putAll (ofList first) second := entered.symm
    _ = ofList (first ++ second) := by rw [ofList, ofList, putAll, putAll, putAll, List.foldl_append]

end

end Entries

end SqlGateway
