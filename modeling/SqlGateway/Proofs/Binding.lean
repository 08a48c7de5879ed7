import SqlGateway.Proofs.Asking
import SqlGateway.Proofs.Reading
import SqlGateway.Proofs.Written

/-!
Binding the parameters of a statement that was written. Where every place is named by word characters
each parameter is kept and bound, unless its value is a collection.
-/

namespace SqlGateway

namespace Statement

def boundEach : Params → Except Failure (Entries String Bound)
  | [] => .ok []
  | (name, value) :: rest =>
    (Bound.inferFor name value).bind fun bound => (boundEach rest).map ((name, bound) :: ·)

theorem bind_of_spelled {statement : Statement} {name : String} (value : Value)
    (spelled : Query.Spelled name) (placed : name ∈ placeholders statement.text)
    (named : statement.unnamed = false) :
    statement.bind name value = (Bound.inferFor name value).map fun bound =>
      { statement with bound := Entries.put name bound statement.bound } := by
  have filled : name.isEmpty = false := by
    simpa [String.toList_eq_nil_iff] using spelled.filled
  have here : place name = name := by rw [place, filled, if_neg Bool.false_ne_true]
  have kept : (if name = unnamedPlace then name.isEmpty else statement.unnamed) =
      statement.unnamed := by rw [filled, named, ite_self]
  simp only [Statement.bind, hold, spelled.bareName, here, kept]
  cases Bound.inferFor name value with
  | error failure => rfl
  | ok bound => simp [Bind.bind, Except.bind, placed, Except.map, pure, Except.pure]

theorem bindEach_of_spelled {statement : Statement} {params : Params}
    (fit : ∀ name ∈ params.keys, Query.Spelled name ∧ name ∈ placeholders statement.text)
    (distinct : (statement.bound.keys ++ params.keys).Nodup) (named : statement.unnamed = false) :
    statement.bindEach params =
      (boundEach params).map fun bounds => { statement with bound := statement.bound ++ bounds } := by
  induction params generalizing statement with
  | nil => simp [bindEach, boundEach, Except.map]
  | cons entry more ih =>
    rcases entry with ⟨name, value⟩
    obtain ⟨⟨spelled, placed⟩, later⟩ : (Query.Spelled name ∧ name ∈ placeholders statement.text) ∧
      ∀ other ∈ Entries.keys more, _ := List.forall_mem_cons.mp fit
    rw [bindEach, bind_of_spelled value spelled placed named, boundEach]
    cases Bound.inferFor name value with
    | error failure => rfl
    | ok bound =>
      have fresh : name ∉ statement.bound.keys := fun present =>
        (List.nodup_append.mp distinct).2.2 name present name List.mem_cons_self rfl
      simp only [Except.map, Except.bind, Entries.put_of_not_mem _ _ _ fresh]
      refine (ih ?_ ?_ ?_).trans ?_
      · exact later
      · simpa [Entries.keys] using distinct
      · exact named
      · cases boundEach more <;> simp [Except.map]

theorem inferFor_ok {name : String} {value : Value} {bound : Bound}
    (inferred : Bound.inferFor name value = .ok bound) : Bound.infer value = .ok bound := by
  unfold Bound.inferFor at inferred
  cases here : Bound.infer value with
  | error failure => rw [here] at inferred; cases inferred
  | ok other => rw [here] at inferred; cases inferred; rfl

theorem inferFor_error {name : String} {value : Value} {failure : Failure}
    (refused : Bound.inferFor name value = .error failure) :
    failure = .collectionBound name ∧ ∃ cause, Bound.infer value = .error cause := by
  unfold Bound.inferFor at refused
  cases here : Bound.infer value with
  | error cause => rw [here] at refused; cases refused; exact ⟨rfl, cause, rfl⟩
  | ok other => rw [here] at refused; cases refused

theorem boundEach_ok {params : Params} {bounds : Entries String Bound}
    (bound : boundEach params = .ok bounds) : bounds.keys = params.keys ∧
      ∀ entry ∈ bounds, ∃ value, (entry.1, value) ∈ params ∧ Bound.infer value = .ok entry.2 := by
  induction params generalizing bounds with
  | nil => cases bound; exact ⟨rfl, nofun⟩
  | cons head more ih =>
    rcases head with ⟨name, value⟩
    rw [boundEach] at bound
    cases inferred : Bound.inferFor name value with
    | error failure => rw [inferred] at bound; cases bound
    | ok first =>
      cases rest : boundEach more with
      | error failure => rw [inferred, rest] at bound; cases bound
      | ok later =>
        rw [inferred, rest] at bound
        cases bound
        obtain ⟨keys, every⟩ := ih rest
        refine ⟨congrArg (name :: ·) keys, List.forall_mem_cons.mpr ⟨?_, fun entry among => ?_⟩⟩
        · exact ⟨value, List.mem_cons_self, inferFor_ok inferred⟩
        · obtain ⟨other, given, same⟩ := every entry among
          exact ⟨other, List.mem_cons_of_mem _ given, same⟩

theorem boundEach_error {params : Params} {failure : Failure} (refused : boundEach params = .error failure) :
    ∃ name value, (name, value) ∈ params ∧ failure = .collectionBound name ∧
      ∃ cause, Bound.infer value = .error cause := by
  induction params with
  | nil => cases refused
  | cons head more ih =>
    rcases head with ⟨name, value⟩
    rw [boundEach] at refused
    cases inferred : Bound.inferFor name value with
    | error cause =>
      rw [inferred] at refused
      cases refused
      exact ⟨name, value, List.mem_cons_self, inferFor_error inferred⟩
    | ok first =>
      cases rest : boundEach more with
      | error cause =>
        rw [inferred, rest] at refused
        cases refused
        obtain ⟨other, held, given, here⟩ := ih rest
        exact ⟨other, held, List.mem_cons_of_mem _ given, here⟩
      | ok later => rw [inferred, rest] at refused; cases refused

/-- Where no value was given without a name, each placeholder that is sent is listed once under its own. -/
theorem sent_of_named [Dialect] {statement : Statement} (named : statement.unnamed = false) :
    statement.sent = ⟨sentText statement.text,
      (places statement.text).eraseDups.map fun name => ⟨name, statement.bound.get? name⟩⟩ := by
  have listed : statement.listed =
      (places statement.text).eraseDups.map fun name => (name, statement.bound.get? name) := by
    rw [← Entries.ofList_map, List.map_eq_flatMap]
    simp [Statement.listed, labels, named]
  rw [Statement.sent, labelled, named, if_neg Bool.false_ne_true, listed, List.map_map]
  rfl

/-- The names are spelled, and the query has a place for each and mentions it. -/
def Fit (query : String) (names : List String) : Prop :=
  ∀ name ∈ names, Query.Spelled name ∧ name ∈ placeholders query ∧
    mentions name.toList query.toList = true

section

variable {query : String} {params : Params} (distinct : params.keys.Nodup) (fit : Fit query params.keys)

include distinct fit

theorem mentioned_of_fit : mentioned query params = params :=
  mentioned_eq_self distinct (fun name member => (fit name member).1.bareName)
    fun name member => (fit name member).2.2

theorem bindEach_of_fit : (ofText query).bindEach params =
    (boundEach params).map fun bounds => { text := query, bound := bounds } := by
  refine bindEach_of_spelled (fun name member => ⟨(fit name member).1, (fit name member).2.1⟩) ?_ rfl
  simpa [Statement.ofText, Entries.keys] using distinct

theorem forQuery_of_fit : forQuery query params =
    (boundEach params).map fun bounds => { text := query, bound := bounds } := by
  rw [forQuery, mentioned_of_fit distinct fit]
  exact bindEach_of_fit distinct fit

end

end Statement

namespace Query

open Statement Layout

variable {query : Query} {layout : Layout}

namespace Written

theorem keys (written : Written query layout) :
    query.params.keys = (entries layout).keys.eraseDups := by
  rw [written.params, Entries.keys_ofList]

theorem distinct (written : Written query layout) : query.params.keys.Nodup :=
  written.params ▸ Entries.nodup_keys_ofList _

theorem exists_place (written : Written query layout) (fits : Fits layout) {name : String}
    (member : name ∈ query.params.keys) : ∃ place : Place, place.slot = name ∧ place.Framed ∧
      query.sql.toList = place.before ++ ':' :: (name.toList ++ place.rest) := by
  rw [written.keys, List.mem_eraseDups] at member
  obtain ⟨⟨_, value⟩, among, rfl⟩ := List.mem_map.mp member
  obtain ⟨early, late, framed, split⟩ := Layout.exists_place fits.framed among
  refine ⟨_, rfl, framed, ?_⟩
  rw [written.text]
  simpa using split

theorem fit (written : Written query layout) (fits : Fits layout)
    (spelled : ∀ name ∈ query.params.keys, Spelled name) : Fit query.sql query.params.keys := by
  intro name member
  obtain ⟨place, rfl, framed, split⟩ := written.exists_place fits member
  have spelling := spelled _ member
  refine ⟨spelling, (framed.found_iff.mpr spelling).mem_placeholders split, ?_⟩
  rw [split]
  simpa using framed.mentions spelling

theorem mem_places [Dialect] (written : Written query layout) (fits : Fits layout) {name : String}
    (member : name ∈ query.params.keys) (spelled : Spelled name) : name ∈ places query.sql := by
  obtain ⟨place, rfl, framed, split⟩ := written.exists_place fits member
  exact (framed.found_iff.mpr spelled).mem_places split

end Written

end Query

end SqlGateway
