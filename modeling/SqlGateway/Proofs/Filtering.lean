import Mathlib.Data.List.Find
import Mathlib.Data.List.Induction
import SqlGateway.Proofs.Binding
import SqlGateway.Proofs.Reach

/-!
The parameters that a query mentions, and what is bound to its placeholders. A placeholder that is sent is
always mentioned, so that every value given for it is kept, the last one under its name; and it is that value
which is bound. Only a value without a name, if one is kept, takes the placeholder `param` from the one given for
it. A name that is read off a longer run, of which a colon takes the last character, need not be mentioned; it is
never sent.
-/

namespace SqlGateway

namespace Entries

variable {κ α : Type}

theorem ofList_concat [BEq κ] (pairs : List (κ × α)) (entry : κ × α) :
    ofList (pairs ++ [entry]) = put entry.1 entry.2 (ofList pairs) := by
  rw [ofList, putAll, List.foldl_append]
  rfl

theorem get?_ofList_eq [BEq κ] [LawfulBEq κ] (pairs : List (κ × α)) (key : κ) :
    get? key (ofList pairs) = (pairs.reverse.find? fun entry => entry.1 == key).map Prod.snd := by
  induction pairs using List.reverseRecOn with
  | nil => rfl
  | append_singleton pairs entry ih =>
    rw [ofList_concat, List.reverse_append, List.reverse_singleton, List.singleton_append]
    by_cases same : entry.1 = key
    · subst same
      rw [get?_put_self, List.find?_cons_of_pos (by simp), Option.map_some]
    · rw [get?_put_of_ne _ _ _ _ (Ne.symm same), ih, List.find?_cons_of_neg (by simpa using same)]

end Entries

namespace Statement

open Text (isWord)
open Query (Spelled)

/-- A name that a value can be bound to stands in the query. -/
def Stands (query name : String) : Prop :=
  ∃ early late, query.toList = early ++ ':' :: (name.toList ++ late) ∧
    opensAfter isWord early.getLast? = true ∧ Behind late ∧ Spelled name

/-- A colon and the name stand in the query, and a border behind them. -/
def Mentions (query name : String) : Prop :=
  ∃ early late, query.toList = early ++ ':' :: (name.toList ++ late) ∧
    border (name.toList.getLastD ':') late.head? = true

theorem mem_placeholders_iff (query name : String) : name ∈ placeholders query ↔ Stands query name := by
  rw [placeholders, List.mem_eraseDups, List.mem_map]
  constructor
  · intro present
    obtain ⟨chars, scanned, rfl⟩ := present
    obtain ⟨early, rest, split, found⟩ := exists_of_mem_scan [] scanned
    rw [List.nil_append] at found
    obtain ⟨opens, filled, word, late, rfl, behind⟩ := (boundName?_eq_some_iff _ _ _).mp found
    refine ⟨early, late, by rw [split, String.toList_ofList], opens, behind, ?_⟩
    exact ⟨by rwa [String.toList_ofList], by rwa [String.toList_ofList]⟩
  · intro stands
    obtain ⟨early, late, split, opens, behind, spelled⟩ := stands
    have found : boundName? early.getLast? (name.toList ++ late) = some name.toList :=
      (boundName?_eq_some_iff _ _ _).mpr ⟨opens, spelled.filled, spelled.word, late, rfl, behind⟩
    exact ⟨name.toList, by rw [split]; exact mem_scan [] found, String.ofList_toList⟩

example : placeholders "SELECT 'x:a', :ab:" = ["a"] := by decide

/-- A mention is a colon, the name, and a border. -/
theorem mentions_iff (name text : List Char) : mentions name text = true ↔
    ∃ early late, text = early ++ ':' :: (name ++ late) ∧ border (name.getLastD ':') late.head? = true := by
  induction text with
  | nil => simp [mentions]
  | cons c rest ih =>
    rw [mentions, Bool.or_eq_true, Bool.and_eq_true, beq_iff_eq, ih]
    constructor
    · intro mentioned
      rcases mentioned with ⟨rfl, begins⟩ | ⟨early, late, rfl, ends⟩
      · obtain ⟨here, ends⟩ := (Bool.and_eq_true _ _).mp begins
        obtain ⟨late, rfl⟩ := List.isPrefixOf_iff_prefix.mp here
        rw [List.drop_left] at ends
        exact ⟨[], late, rfl, ends⟩
      · exact ⟨c :: early, late, rfl, ends⟩
    · intro mentioned
      obtain ⟨early, late, split, ends⟩ := mentioned
      cases early with
      | nil =>
        obtain ⟨rfl, rfl⟩ := List.cons.inj split
        refine .inl ⟨rfl, ?_⟩
        rw [beginsWith, List.drop_left, ends, Bool.and_true]
        exact List.isPrefixOf_iff_prefix.mpr (List.prefix_append name late)
      | cons d early =>
        obtain ⟨rfl, rfl⟩ := List.cons.inj split
        exact .inr ⟨early, late, rfl, ends⟩

theorem Stands.spelled {query name : String} (stands : Stands query name) : Spelled name := by
  obtain ⟨early, late, -, -, -, spelled⟩ := stands
  exact spelled

theorem Stands.ne_empty {query name : String} (stands : Stands query name) : name ≠ "" :=
  mt (fun same => by rw [same]; rfl) stands.spelled.filled

theorem mentions_of_mem_places [Dialect] {query name : String} (sent : name ∈ places query) :
    name ∈ placeholders query ∧ Mentions query name := by
  obtain ⟨listed, placed⟩ := List.mem_filter.mp sent
  have stands := (mem_placeholders_iff query name).mp (List.contains_iff_mem.mp placed)
  refine ⟨List.contains_iff_mem.mp placed, ?_⟩
  obtain ⟨chars, scanned, rfl⟩ := List.mem_map.mp listed
  obtain ⟨early, rest, split, found⟩ := exists_of_mem_scan [] scanned
  have run : rest.takeWhile isSentChar = chars := by
    rw [sentName?, Option.ite_none_right_eq_some] at found
    exact Option.some.inj found.2
  refine ⟨early, rest.dropWhile isSentChar, ?_, ?_⟩
  · rw [split, String.toList_ofList, ← run, List.takeWhile_append_dropWhile]
  · have last : isWord ((String.ofList chars).toList.getLastD ':') = true := by
      rw [List.getLastD_eq_getLast?, List.getLast?_eq_some_getLast stands.spelled.filled]
      exact stands.spelled.word _ (List.getLast_mem stands.spelled.filled)
    have next : ((rest.dropWhile isSentChar).head?.map isWord).getD false = false := by
      cases head : (rest.dropWhile isSentChar).head? with
      | none => rfl
      | some c =>
        have outside := List.head?_dropWhile_not isSentChar rest
        rw [head] at outside
        have apart : isSentChar c = false := by simpa using outside
        exact (Bool.or_eq_false_iff.mp apart).1
    rw [border, last, next]
    rfl

/-- The value that is given last for a name. -/
def givenFor (name : String) (params : Params) : Option Value :=
  (params.reverse.find? fun entry => bareName entry.1 == name).map Prod.snd

theorem get?_mentioned (query name : String) (params : Params) :
    (mentioned query params).get? name =
      if mentions name.toList query.toList then givenFor name params else none := by
  have searched : (mentioned query params).get? name = (params.reverse.find? fun entry =>
      mentions (bareName entry.1).toList query.toList && bareName entry.1 == name).map Prod.snd := by
    rw [mentioned, Entries.get?_ofList_eq, ← List.filter_reverse, List.find?_filter, ← List.map_reverse,
      List.find?_map, Option.map_map]
    simp only [Function.comp_def, Bool.decide_and, Bool.decide_eq_true]
  rw [searched]
  split
  · next present =>
    rw [givenFor, List.find?_congr fun entry _ => ?_]
    by_cases same : bareName entry.1 = name
    · rw [same, present, Bool.true_and]
    · rw [beq_false_of_ne same, Bool.and_false]
  · next absent =>
    rw [List.find?_eq_none.mpr fun entry _ found => ?_]
    · rfl
    · obtain ⟨mentioned, same⟩ := (Bool.and_eq_true _ _).mp found
      rw [beq_iff_eq] at same
      exact absent (same ▸ mentioned)

theorem bareName_eq_self {key : String} (plain : ∀ rest, key.toList ≠ ':' :: rest) : bareName key = key := by
  unfold bareName
  split
  · next rest split => exact absurd split (plain rest)
  · rfl

/-- No more than one colon stands in front of the name. -/
def Slender (key : String) : Prop := ¬ [':', ':'] <+: key.toList

instance (key : String) : Decidable (Slender key) := inferInstanceAs (Decidable (¬ _))

theorem Slender.bareName_bareName {key : String} (slender : Slender key) :
    bareName (bareName key) = bareName key := by
  by_cases colon : ∃ rest, key.toList = ':' :: rest
  · obtain ⟨rest, split⟩ := colon
    have bare : bareName key = String.ofList rest := by simp [bareName, split]
    rw [bare]
    refine bareName_eq_self fun more same => slender ?_
    rw [String.toList_ofList] at same
    rw [split, same]
    exact ⟨more, rfl⟩
  · have bare : bareName key = key := bareName_eq_self fun rest split => colon ⟨rest, split⟩
    rw [bare, bare]

theorem mem_keys_mentioned {query name : String} {params : Params}
    (member : name ∈ (mentioned query params).keys) :
    (∃ key ∈ params.keys, bareName key = name) ∧ mentions name.toList query.toList = true := by
  rw [mentioned, Entries.mem_keys_ofList] at member
  obtain ⟨entry, kept, rfl⟩ := List.mem_map.mp member
  obtain ⟨given, mentioned⟩ := List.mem_filter.mp kept
  obtain ⟨original, among, rfl⟩ := List.mem_map.mp given
  exact ⟨⟨original.1, List.mem_map_of_mem among, rfl⟩, mentioned⟩

theorem nodup_mentioned (query : String) (params : Params) : (mentioned query params).keys.Nodup :=
  Entries.nodup_keys_ofList _

theorem mentioned_mentioned (query : String) {params : Params} (slender : ∀ key ∈ params.keys, Slender key) :
    mentioned query (mentioned query params) = mentioned query params := by
  refine mentioned_eq_self (nodup_mentioned query params) (fun name member => ?_) fun name member => ?_
  · obtain ⟨⟨key, among, rfl⟩, -⟩ := mem_keys_mentioned member
    exact (slender key among).bareName_bareName
  · exact (mem_keys_mentioned member).2

theorem bindEach_append (statement : Statement) (first second : Params) :
    statement.bindEach (first ++ second) = (statement.bindEach first).bind (·.bindEach second) := by
  induction first generalizing statement with
  | nil => rfl
  | cons entry more ih =>
    rcases entry with ⟨name, value⟩
    rw [List.cons_append, bindEach, bindEach]
    cases bound : statement.bind name value with
    | error failure => rfl
    | ok next => exact ih next

theorem bind_eq_ok {statement next : Statement} {name : String} {value : Value}
    (bound : statement.bind name value = .ok next) :
    place (bareName name) ∈ placeholders statement.text ∧
      ∃ sent, Bound.infer value = .ok sent ∧ next = statement.hold (bareName name) sent := by
  obtain ⟨sent, inferred, bound⟩ := SqlGateway.bind_eq_ok bound
  split at bound
  · next placed =>
    cases bound
    exact ⟨List.contains_iff_mem.mp placed, sent, inferFor_ok inferred, rfl⟩
  · cases bound

theorem place_eq_iff {key name : String} (filled : name ≠ "") :
    place key = name ↔ key = name ∨ key = "" ∧ name = unnamedPlace := by
  unfold place
  split
  · next empty =>
    rw [String.isEmpty_iff] at empty
    subst empty
    constructor
    · exact fun same => .inr ⟨rfl, same.symm⟩
    · exact fun either => either.elim (fun same => absurd same.symm filled) fun both => both.2.symm
  · next given =>
    constructor
    · exact .inl
    · exact fun either => either.resolve_right fun both => given (by rw [both.1]; rfl)

theorem givenFor_concat (name : String) (params : Params) (entry : String × Value) :
    givenFor name (params ++ [entry]) =
      if bareName entry.1 = name then some entry.2 else givenFor name params := by
  rw [givenFor, List.reverse_append, List.reverse_singleton, List.singleton_append, List.find?_cons]
  by_cases here : bareName entry.1 = name
  · rw [if_pos here, here, beq_self_eq_true]
    rfl
  · rw [if_neg here, beq_false_of_ne here]
    rfl

def Infers (value : Value) (bound : Bound) : Prop := Bound.infer value = .ok bound

/-- At each placeholder the value is held that is given last for it. Only where a value is given without a name is
that not said of the placeholder which it takes. -/
structure Holds (query : String) (params : Params) (statement : Statement) : Prop where
  text : statement.text = query
  unnamed : statement.unnamed = true → ∃ key ∈ params.keys, bareName key = ""
  bound : ∀ name, name ≠ "" → (name = unnamedPlace → ∀ key ∈ params.keys, bareName key ≠ "") →
    Option.Rel Infers (givenFor name params) (statement.bound.get? name)

theorem Holds.bind {query name : String} {params : Params} {value : Value} {statement next : Statement}
    (holds : Holds query params statement) (bound : statement.bind name value = .ok next) :
    Holds query (params ++ [(name, value)]) next := by
  obtain ⟨-, sent, inferred, rfl⟩ := bind_eq_ok bound
  have early {key : String} (given : key ∈ params.keys) : key ∈ Entries.keys (params ++ [(name, value)]) := by
    rw [Entries.keys, List.map_append]
    exact List.mem_append_left _ given
  have last : name ∈ Entries.keys (params ++ [(name, value)]) :=
    List.mem_map_of_mem (List.mem_append_right params List.mem_cons_self)
  constructor
  · exact holds.text
  · intro unnamed
    unfold hold at unnamed
    dsimp only at unnamed
    split at unnamed
    · exact ⟨name, last, String.isEmpty_iff.mp unnamed⟩
    · obtain ⟨key, given, bare⟩ := holds.unnamed unnamed
      exact ⟨key, early given, bare⟩
  · intro other filled free
    rw [givenFor_concat, hold]
    by_cases here : place (bareName name) = other
    · have own : bareName name = other :=
        ((place_eq_iff filled).mp here).resolve_right fun both => free both.2 name last both.1
      rw [if_pos own, here, Entries.get?_put_self]
      exact .some inferred
    · have apart : bareName name ≠ other := fun own => here ((place_eq_iff filled).mpr (.inl own))
      rw [if_neg apart, Entries.get?_put_of_ne _ _ _ _ (Ne.symm here)]
      exact holds.bound other filled fun same key given => free same key (early given)

theorem holds_of_bindEach {query : String} {params : Params} {statement : Statement}
    (bound : (ofText query).bindEach params = .ok statement) : Holds query params statement := by
  induction params using List.reverseRecOn generalizing statement with
  | nil =>
    cases bound
    exact ⟨rfl, nofun, fun _ _ _ => .none⟩
  | append_singleton params entry ih =>
    rw [bindEach_append] at bound
    obtain ⟨middle, early, bound⟩ := SqlGateway.bind_eq_ok bound
    obtain ⟨last, here, bound⟩ := SqlGateway.bind_eq_ok bound
    cases bound
    exact (ih early).bind here

/-- What is sent lists the placeholder with the value that is given last for it and the type inferred from that, and
with nothing if none is given. -/
def Honoured (params : Params) (sent : Sent) (name : String) : Prop :=
  ∃ bound?, Option.Rel Infers (givenFor name params) bound? ∧
    ∀ other?, ⟨name, other?⟩ ∈ sent.params ↔ other? = bound?

/-- What is sent has each placeholder once, and honours it. -/
structure Honours [Dialect] (query : String) (params : Params) (sent : Sent) : Prop where
  text : sent.sql = sentText query
  names : sent.params.map Parameter.name = (places query).eraseDups
  each : ∀ name ∈ places query, Honoured params sent name

theorem mem_sent_iff [Dialect] {statement : Statement} {name : String} {bound? other? : Option Bound}
    (listed : (name, bound?) ∈ statement.listed) :
    ⟨name, other?⟩ ∈ statement.sent.params ↔ other? = bound? := by
  have distinct : (Entries.keys statement.listed).Nodup := Entries.nodup_keys_ofList _
  have looked := Entries.get?_of_mem _ distinct listed
  constructor
  · intro member
    obtain ⟨entry, among, same⟩ := List.mem_map.mp member
    cases same
    exact Option.some.inj ((Entries.get?_of_mem _ distinct among).symm.trans looked)
  · rintro rfl
    exact List.mem_map.mpr ⟨(name, other?), listed, rfl⟩

/-- A placeholder is listed under its own name, unless a value without a name takes that. -/
theorem mem_listed [Dialect] {statement : Statement} {name : String} (sent : name ∈ places statement.text)
    (apart : statement.unnamed = true → name ≠ unnamedPlace ∧ name ≠ unnamedLabel ∧ name ≠ unnamedKey) :
    (name, statement.bound.get? name) ∈ statement.listed := by
  have own : statement.labels name = [name] := by
    unfold labels
    refine if_neg fun both => ?_
    obtain ⟨taken, here⟩ := (Bool.and_eq_true _ _).mp both
    exact (apart taken).1 (of_decide_eq_true here)
  have looked : Entries.get? name statement.listed = some (statement.bound.get? name) := by
    refine Entries.get?_ofList _ ?_ ?_
    · refine List.mem_flatMap.mpr ⟨name, sent, ?_⟩
      rw [own]
      exact List.mem_singleton.mpr rfl
    · intro other? among
      obtain ⟨place, -, member⟩ := List.mem_flatMap.mp among
      obtain ⟨label, labelled, same⟩ := List.mem_map.mp member
      obtain ⟨rfl, rfl⟩ := Prod.mk.inj same
      unfold labels at labelled
      split at labelled
      · next both =>
        obtain ⟨-, other, further⟩ := apart ((Bool.and_eq_true _ _).mp both).1
        rcases List.mem_cons.mp labelled with key | rest
        · exact absurd key further
        · exact absurd (List.mem_singleton.mp rest) other
      · rw [List.mem_singleton.mp labelled]
  exact Entries.mem_of_get? looked

theorem Slender.bareName_of_kept {query name : String} {params : Params} (slender : ∀ key ∈ params.keys, Slender key)
    (kept : name ∈ (mentioned query params).keys) : bareName name = name := by
  obtain ⟨⟨key, given, same⟩, -⟩ := mem_keys_mentioned kept
  rw [← same, (slender key given).bareName_bareName]

/-- A statement that was bound to what was kept honours each placeholder that no value without a name can reach. -/
theorem Holds.honoured [Dialect] {query name : String} {params : Params} {statement : Statement}
    (slender : ∀ key ∈ params.keys, Slender key) (holds : Holds query (mentioned query params) statement)
    (sent : name ∈ places query)
    (apart : "" ∈ (mentioned query params).keys → name ≠ unnamedPlace ∧ name ≠ unnamedLabel) :
    Honoured params statement.sent name := by
  obtain ⟨placed, present⟩ := mentions_of_mem_places sent
  have stands := (mem_placeholders_iff query name).mp placed
  have other : name ≠ unnamedKey := by
    rintro rfl
    exact absurd (stands.spelled.word '%' (by decide)) (by decide)
  have free (same : name = unnamedPlace) : ∀ key ∈ (mentioned query params).keys, bareName key ≠ "" := by
    intro key kept bare
    rw [Slender.bareName_of_kept slender kept] at bare
    exact (apart (bare ▸ kept)).1 same
  have bound := holds.bound name stands.ne_empty free
  have kept := get?_mentioned query name (mentioned query params)
  rw [mentioned_mentioned query slender, get?_mentioned, if_pos ((mentions_iff _ _).mpr present),
    if_pos ((mentions_iff _ _).mpr present)] at kept
  rw [← kept] at bound
  refine ⟨statement.bound.get? name, bound, fun other? => mem_sent_iff (mem_listed ?_ fun taken => ?_)⟩
  · rwa [holds.text]
  · obtain ⟨key, nameless, bare⟩ := holds.unnamed taken
    rw [Slender.bareName_of_kept slender nameless] at bare
    obtain ⟨place, label⟩ := apart (bare ▸ nameless)
    exact ⟨place, label, other⟩

/-- A statement that was bound to what was kept honours what was given, unless a value without a name was kept. -/
theorem Holds.honours [Dialect] {query : String} {params : Params} {statement : Statement}
    (slender : ∀ key ∈ params.keys, Slender key) (holds : Holds query (mentioned query params) statement)
    (clear : "" ∉ (mentioned query params).keys) : Honours query params statement.sent := by
  have named : statement.unnamed = false := by
    refine Bool.eq_false_iff.mpr fun taken => ?_
    obtain ⟨key, nameless, bare⟩ := holds.unnamed taken
    rw [Slender.bareName_of_kept slender nameless] at bare
    exact clear (bare ▸ nameless)
  have each : ∀ name ∈ places query, Honoured params statement.sent name := fun name sent =>
    holds.honoured slender sent fun nameless => absurd nameless clear
  refine ⟨?_, ?_, each⟩
  · rw [sent_of_named named, holds.text]
  · rw [sent_of_named named, holds.text, List.map_map]
    exact List.map_id _

end Statement

namespace Session

open Statement

/-- The filter keeps for each placeholder that is mentioned the value that is given last for it, and drops only
what is never sent; it filters once for all. What is then prepared honours what was given. If a value without a name
is kept, that is not said of the placeholder that it takes and of the label that it is sent under. -/
theorem prepared_honours {σ : Type} (query : String) {params : Params} (slender : ∀ key ∈ params.keys, Slender key) :
    (∀ name ∈ placeholders query, Mentions query name →
      (mentioned query params).get? name = givenFor name params) ∧
    (∀ name ∈ placeholders query, ¬ Mentions query name →
      (mentioned query params).get? name = none ∧ ∀ [Dialect], name ∉ places query) ∧
    mentioned query (mentioned query params) = mentioned query params ∧
    ∀ (session final : Session σ) (answer : Bool),
      prepare query (mentioned query params) session = .ok answer final →
      ∃ statement, final = session.holding ⟨statement, none⟩ ∧
        (∀ [Dialect], ∀ name ∈ places query, name ≠ unnamedPlace → name ≠ unnamedLabel →
          Honoured params statement.sent name) ∧
        ("" ∉ (mentioned query params).keys → ∀ [Dialect], Honours query params statement.sent) := by
  refine ⟨fun name placed present => ?_, fun name placed absent => ⟨?_, ?_⟩, mentioned_mentioned query slender,
    fun session final answer prepared => ?_⟩
  · rw [get?_mentioned, if_pos ((mentions_iff _ _).mpr present)]
  · rw [get?_mentioned, if_neg (mt (mentions_iff _ _).mp absent)]
  · intro dialect sent
    exact absent (mentions_of_mem_places sent).2
  · obtain ⟨statement, bound, rfl⟩ := (ends_iff_of_ok prepared).mp (prepare_ends query _ session)
    have holds := holds_of_bindEach bound
    refine ⟨statement, rfl, ?_, fun clear => holds.honours slender clear⟩
    intro dialect name sent place label
    exact holds.honoured slender sent fun _ => ⟨place, label⟩

def respelled : Params := [(":id", .int 1), ("id", .bound .text (.int 2)), ("other", .int 3)]

theorem respelled_honoured : ∃ statement,
    prepare "SELECT :id, :id_0" (mentioned "SELECT :id, :id_0" respelled) rehearsed =
      .ok true (rehearsed.holding ⟨statement, none⟩) ∧
    Honours "SELECT :id, :id_0" respelled statement.sent := by
  have slender : ∀ key ∈ respelled.keys, Slender key := by decide
  have prepared : prepare "SELECT :id, :id_0" (mentioned "SELECT :id, :id_0" respelled) rehearsed =
      .ok true (rehearsed.holding ⟨⟨"SELECT :id, :id_0", [("id", ⟨.text, .int 2⟩)], false⟩, none⟩) := rfl
  obtain ⟨statement, same, -, honours⟩ :=
    (prepared_honours "SELECT :id, :id_0" slender).2.2.2 rehearsed _ true prepared
  exact ⟨statement, by rw [prepared, same], honours (by decide)⟩

/-- A placeholder that ends short of a colon is not mentioned, so that its value is dropped; and a value without a
name is kept, and bound to a placeholder that no key names. -/
theorem curtailed_dropped :
    ("ab" ∈ placeholders "SELECT :abc:" ∧ givenFor "ab" [("ab", .int 1)] = some (.int 1) ∧
      (mentioned "SELECT :abc:" [("ab", .int 1)]).get? "ab" = none) ∧
    ∃ statement,
      prepare "SELECT :param" (mentioned "SELECT :param" [("", .int 1)]) rehearsed =
        .ok true (rehearsed.holding ⟨statement, none⟩) ∧
      "param" ∈ placeholders "SELECT :param" ∧ givenFor "param" [("", .int 1)] = none ∧
      ¬ Honours "SELECT :param" [("", .int 1)] statement.sent := by
  refine ⟨⟨by decide, rfl, rfl⟩, ⟨"SELECT :param", [("param", ⟨.int, .int 1⟩)], true⟩, rfl, by decide, rfl, ?_⟩
  intro honours
  have renamed := honours.names
  revert renamed
  decide

end Session

end SqlGateway
