import SqlGateway.Proofs.Binding
import SqlGateway.Proofs.Naming

/-!
Agreement between the statements that are written and the reading of placeholders: each parameter has
its place, each place its parameter, and preparing the statement binds every one of them.
-/

namespace SqlGateway.Query

open Statement Layout

/-- The text is sent as it is, with every parameter bound to its value under its name and as the type
that is inferred from it. -/
structure Binds (query : Query) (sent : Sent) : Prop where
  sql : sent.sql = query.sql
  names : sent.params.map Parameter.name = query.params.keys
  bound : ∀ parameter ∈ sent.params, ∃ value bound, query.params.get? parameter.name = some value ∧
    Bound.infer value = .ok bound ∧ parameter.bound? = some bound

/-- The text of the query and its parameters agree, as they are scanned, sent, filtered and bound. -/
structure Agrees [Dialect] (query : Query) : Prop where
  placeholders : placeholders query.sql = query.params.keys
  verbatim : sentText query.sql = query.sql
  mentioned : mentioned query.sql query.params = query.params
  prepared {σ : Type} (session : Session σ) : Session.Ends (Session.prepare query.sql query.params) session
    (fun _ final => ∃ statement, final.prepared? = some ⟨statement, none⟩ ∧ Binds query statement.sent)
    fun failure _ => ∃ name value cause, (name, value) ∈ query.params ∧
      Bound.infer value = .error cause ∧ failure = .collectionBound name

variable {query : Query} {layout : Layout}

theorem Written.spelled (written : Written query layout) (plain : Plain layout) :
    ∀ name ∈ query.params.keys, Spelled name := by
  rw [written.keys]
  exact fun name member => spelled_of_plain plain name (List.mem_eraseDups.mp member)

/-- A reading that finds the places of a plain layout finds them in their order. -/
theorem Written.scanned (written : Written query layout) (plain : Plain layout)
    {name? : Option Char → List Char → Option (List Char)}
    (found : Everywhere (Place.ReadBy name?) [] layout []) :
    (scan name? none query.sql.toList).map String.ofList = (entries layout).keys := by
  have scanned := scan_chars plain found
  rw [List.append_nil, List.getLast?_nil] at scanned
  rw [written.text, scanned]
  simp [scan, String.ofList_toList, Function.comp_def]

section

variable [Dialect]

theorem found_of_plain (fits : Fits layout) (plain : Plain layout) : Everywhere Place.Found [] layout [] :=
  everywhere_mono fits.framed fun place member framed =>
    framed.found_iff.mpr (spelled_of_plain plain place.slot (List.mem_map_of_mem member))

end

theorem Written.placeholders (written : Written query layout) (fits : Fits layout)
    (plain : Plain layout) : placeholders query.sql = query.params.keys := by
  have found := everywhere_mono (found_of_plain fits plain) fun _ _ => Place.Found.bound
  rw [Statement.placeholders, written.scanned plain found, written.keys]

section

variable [Dialect]

theorem Written.places (written : Written query layout) (fits : Fits layout) (plain : Plain layout) :
    (places query.sql).eraseDups = query.params.keys := by
  have found := everywhere_mono (found_of_plain fits plain) fun _ _ => Place.Found.sent
  have bindable : ∀ name ∈ (entries layout).keys, (Statement.placeholders query.sql).contains name = true := by
    intro name member
    rw [written.placeholders fits plain, written.keys]
    exact List.contains_iff_mem.mpr (List.mem_eraseDups.mpr member)
  rw [Statement.places, written.scanned plain found, List.filter_eq_self.mpr bindable, written.keys]

theorem Written.verbatim (written : Written query layout) (plain : Plain layout) :
    sentText query.sql = query.sql := by
  rw [sentText, written.text, unescape_of_not_mem (not_mem_backslash plain), ← written.text,
    String.ofList_toList]

theorem binds_of_bound {bounds : Entries String Bound} (placed : (places query.sql).eraseDups = query.params.keys)
    (verbatim : sentText query.sql = query.sql) (distinct : query.params.keys.Nodup)
    (bound : boundEach query.params = .ok bounds) :
    Binds query (Statement.sent { text := query.sql, bound := bounds }) := by
  obtain ⟨keys, every⟩ := boundEach_ok bound
  have params : (Statement.sent { text := query.sql, bound := bounds }).params =
      bounds.map fun entry => ⟨entry.1, some entry.2⟩ := by
    have unique : bounds.keys.Nodup := keys ▸ distinct
    rw [sent_of_named rfl, placed, ← keys, Entries.keys, List.map_map]
    exact List.map_congr_left fun entry among =>
      congrArg (Parameter.mk entry.1) (Entries.get?_of_mem bounds unique among)
  refine ⟨?_, ?_, ?_⟩
  · exact verbatim
  · rw [params, List.map_map, ← keys]
    rfl
  · rw [params]
    intro parameter member
    obtain ⟨entry, among, rfl⟩ := List.mem_map.mp member
    obtain ⟨value, given, inferred⟩ := every entry among
    exact ⟨value, entry.2, Entries.get?_of_mem _ distinct given, inferred, rfl⟩

theorem agrees_of_plain (written : Written query layout) (fits : Fits layout) (plain : Plain layout) :
    Agrees query where
  placeholders := written.placeholders fits plain
  verbatim := written.verbatim plain
  mentioned := mentioned_of_fit written.distinct (written.fit fits (written.spelled plain))
  prepared session := by
    have bindings := bindEach_of_fit written.distinct (written.fit fits (written.spelled plain))
    refine Session.ends_mono (Session.prepare_ends query.sql query.params session) ?_ ?_
    · rintro answer final ⟨statement, bound, rfl⟩
      obtain ⟨bounds, each, rfl⟩ := map_eq_ok (bindings.symm.trans bound)
      exact ⟨_, rfl, binds_of_bound (written.places fits plain) (written.verbatim plain)
        written.distinct each⟩
    · rintro failure final ⟨refused, -⟩
      have failed : boundEach query.params = .error failure := by
        rw [bindings] at refused
        cases each : boundEach query.params with
        | ok bounds => rw [each] at refused; cases refused
        | error cause => rw [each] at refused; cases refused; rfl
      obtain ⟨name, value, given, rfl, cause, inferred⟩ := boundEach_error failed
      exact ⟨name, value, cause, given, inferred, rfl⟩

/-- Whatever is written for names of word characters agrees with the reading of placeholders. -/
theorem agrees_of_named {command : Command} {query : Query} (named : command.Named)
    (written : command.write = .ok query) : Agrees query :=
  agrees_of_plain (Command.written written) command.fits named.plain

end

def twoRows : Command :=
  .insert (.text "t") (.list [.mapping [(.text "id", .int 1), (.text "id_0", .null)],
    .mapping [(.text "id_0", .text "x"), (.text "id", .int 2)]]) (.text "id") true

theorem twoRows_agrees : twoRows.Named ∧ ∃ query, twoRows.write = .ok query ∧
    query.sql = "INSERT INTO `t` (`id`,`id_0`) VALUES (:id_0,:id_0_0),(:id_1,:id_0_1) AS `new` " ++
      "ON DUPLICATE KEY UPDATE `t`.`id_0` = `new`.`id_0`" ∧
    query.params.keys = ["id_0", "id_0_0", "id_1", "id_0_1"] ∧ Agrees query := by
  have named : twoRows.Named := by decide +kernel
  have texts : twoRows.write.toOption.map (fun query => (query.sql, query.params.keys)) =
      some ("INSERT INTO `t` (`id`,`id_0`) VALUES (:id_0,:id_0_0),(:id_1,:id_0_1) AS `new` " ++
        "ON DUPLICATE KEY UPDATE `t`.`id_0` = `new`.`id_0`", ["id_0", "id_0_0", "id_1", "id_0_1"]) := by
    decide +kernel
  cases written : twoRows.write with
  | error failure => rw [written] at texts; cases texts
  | ok query =>
    rw [written] at texts
    have both := Option.some.inj texts
    exact ⟨named, query, rfl, congrArg Prod.fst both, congrArg Prod.snd both, agrees_of_named named written⟩

end SqlGateway.Query
