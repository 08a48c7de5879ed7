import SqlGateway.Proofs.Joining
import SqlGateway.Proofs.Reloading

/-!
Quick queries and the values that they are given. A call carries its values to the server exactly if each
column that has one is named by word characters; a catalog may list other names, and they are accepted.
-/

namespace SqlGateway

namespace Query

open Statement Layout Session

variable {σ : Type} {command : Command} {query : Query}

namespace Command

def call : Command → Call
  | .insert table input _ upsert => .insert table input upsert
  | .update table params record conjunction allRows => .update table params record conjunction allRows
  | .delete table record conjunction allRows => .delete table record conjunction allRows
  | .select table record conjunction => .select table record conjunction

def writing [Server σ] : Command → Action σ Query
  | .insert table input _ upsert => writeInsert table input upsert
  | .update table params record conjunction allRows => writeUpdate table params record conjunction allRows
  | .delete table record conjunction allRows => writeDelete table record conjunction allRows
  | .select table record conjunction => writeSelect table record conjunction

def keyed (key : Value) : Command → Command
  | .insert table input _ upsert => .insert table input key upsert
  | command => command

@[simp] theorem bearing_keyed (key : Value) : (command.keyed key).bearing = command.bearing := by
  cases command <;> rfl

theorem Regular.keyed (regular : command.Regular) (key : Value) : (command.keyed key).Regular := by
  cases command <;> exact ⟨regular.distinct, regular.single⟩

theorem writes [Server σ] (command : Command) :
    Writes command.call (command.writing : Action σ Query) false := by
  cases command with
  | insert table input primaryKey upsert => exact .insert table input upsert
  | update table params record conjunction allRows => exact .update table params record conjunction allRows
  | delete table record conjunction allRows => exact .delete table record conjunction allRows
  | select table record conjunction => exact .select table record conjunction

theorem not_blank (written : command.write = .ok query) : isBlankText query.sql = false := by
  have layout : ∃ text later, command.layout = .words text :: later ∧
      ∃ c ∈ text.toList, Text.isBlank c = false := by
    cases command with
    | insert table input primaryKey upsert =>
      obtain ⟨rows, read, -⟩ := bind_eq_ok written
      rw [Command.layout, readRows_eq_ok read]
      exact ⟨_, _, rfl, 'I', by decide, by decide⟩
    | update table params record conjunction allRows => exact ⟨_, _, rfl, 'U', by decide, by decide⟩
    | delete table record conjunction allRows => exact ⟨_, _, rfl, 'D', by decide, by decide⟩
    | select table record conjunction => exact ⟨_, _, rfl, 'S', by decide, by decide⟩
  obtain ⟨text, later, split, c, member, visible⟩ := layout
  refine isBlankText_of_mem ?_ visible
  rw [(Command.written written).text, split]
  exact List.mem_append_left _ member

end Command

/-- The text of the query is that of the layout and is sent, each value supplied has a place there for its column,
and every place has its own value. -/
structure Delivered [Dialect] (command : Command) (query : Query) (sent : Sent) : Prop where
  written : command.write = .ok query
  text : query.sql.toList = chars command.layout
  sql : sent.sql = Statement.sentText query.sql
  placed : ∀ entry ∈ command.supplied, ∃ slot, Located command.layout entry.1 slot entry.2
  served : Everywhere (Place.Served sent) [] command.layout []

theorem delivered_of_named (regular : command.Regular) (written : command.write = .ok query)
    (named : ∀ column ∈ command.bearing, IsName column) : ∃ statement,
      Statement.forQuery query.sql query.params = .ok statement ∧
        ∀ [Dialect], Delivered command query statement.sent := by
  obtain ⟨statement, bound, -⟩ := (regular.delivers_iff written).mpr named
  refine ⟨statement, bound, fun {_} => ?_⟩
  obtain ⟨other, boundToo, sql, served⟩ := (regular.delivers_iff written).mpr named
  cases bound.symm.trans boundToo
  exact ⟨written, (Command.written written).text, sql, regular.located written, served⟩

end Query

open Query Session

variable {σ : Type} [Server σ]

/-- The call never fails to bind a value, and the statement that it has written, once it has connected, is
sent with every value delivered. -/
structure Carries (command : Command) (session : Session σ) : Prop where
  binds : Meets command.call.run session fun result _ => Bindable result
  sends : ∀ query middle, command.writing session = .ok query middle → ∃ key statement,
    Statement.forQuery query.sql query.params = .ok statement ∧
      (∀ [Statement.Dialect], Delivered (command.keyed key) query statement.sent) ∧
      ∀ ready, connect middle = .ok true ready → ∃ handle, ready.handle? = some handle ∧
        Executes handle statement.sent false ready (after command.call.run session)

namespace Session

variable {command : Command} {session middle : Session σ} {query : Query}

theorem binds_writing (command : Command) : Binds (command.writing : Action σ Query) := by
  have written (command : Command) : Yields Unbinding (ofResult command.write : Action σ Query) :=
    binds_iff_yields.mp (binds_ofResult command.bindable_write)
  have read (input : Value) : Yields Unbinding (ofResult (Query.readRows input) : Action σ Rows) :=
    binds_iff_yields.mp (binds_ofResult (bindable_readRows input))
  refine binds_iff_yields.mpr ?_
  cases command with
  | insert table input primaryKey upsert =>
    exact consulting_unbinding.writeInsert trivial (fun _ _ _ _ => trivial) (read input) fun key =>
      written (.insert table input (.text key) upsert)
  | update table params record conjunction allRows =>
    exact consulting_unbinding.writeUpdate trivial (fun _ _ => trivial)
      (written (.update table params record conjunction allRows))
  | delete table record conjunction allRows =>
    exact consulting_unbinding.writeDelete trivial (fun _ _ => trivial)
      (written (.delete table record conjunction allRows))
  | select table record conjunction =>
    exact consulting_unbinding.writeSelect trivial (fun _ _ => trivial) (written (.select table record conjunction))

theorem write_of_writing (written : command.writing session = .ok query middle) :
    ∃ key, (command.keyed key).write = .ok query := by
  cases command with
  | insert table input primaryKey upsert =>
    obtain ⟨rows, start, read, written⟩ := eq_ok_of_bind written
    obtain ⟨_, checked, required, written⟩ := eq_ok_of_bind written
    have wrote : ∃ key, Query.insert table input (.text key) upsert = .ok query := by
      dsimp only at written
      split at written
      all_goals
        obtain ⟨key, asked, found, written⟩ := eq_ok_of_bind written
        exact ⟨key, (eq_ok_of_ofResult written).1⟩
    obtain ⟨key, wrote⟩ := wrote
    exact ⟨.text key, wrote⟩
  | update _ _ _ _ _ | delete _ _ _ _ | select _ _ _ =>
    obtain ⟨_, checked, required, written⟩ := eq_ok_of_bind written
    exact ⟨.null, (eq_ok_of_ofResult written).1⟩

theorem binds_call (command : Command) {session : Session σ}
    (bindable : ∀ query middle, command.writing session = .ok query middle →
      Bindable (Statement.forQuery query.sql query.params)) :
    Meets command.call.run session fun result _ => Bindable result := by
  have writes : Writes command.call (command.writing : Action σ Query) false := command.writes
  obtain ⟨_, ends⟩ := ends_query writes
  rw [Meets, ends]
  cases written : command.writing session with
  | error failure middle =>
    rw [ends_iff_of_error written]
    have refused := (ends_iff_of_error written).mp ((binds_writing command).ends session)
    exact bindable_error (refused failure rfl)
  | ok query middle =>
    rw [ends_iff_of_ok written]
    exact ends_mono ((binds_queryExecute (bindable query middle written) false).ends middle)
      (fun _ _ _ => bindable_ok _) fun failure _ refused => bindable_error (refused failure rfl)

/-- The values of a call arrive exactly if, where its statement is written at all, each column that has a
value is named by word characters. -/
theorem carries_iff (command : Command) (regular : command.Regular) (session : Session σ) :
    Carries command session ↔
      ((∃ query middle, command.writing session = .ok query middle) →
        ∀ column ∈ command.bearing, IsName column) := by
  constructor
  · rintro carries ⟨query, middle, written⟩
    obtain ⟨key, statement, bound, delivered, -⟩ := carries.sends query middle written
    have delivers : Delivers query (command.keyed key).layout :=
      ⟨statement, bound, delivered.sql, delivered.served⟩
    rw [← Command.bearing_keyed key]
    exact ((regular.keyed key).delivers_iff delivered.written).mp delivers
  · intro named
    have delivered (query : Query) (middle : Session σ) (written : command.writing session = .ok query middle) :
        ∃ key statement, Statement.forQuery query.sql query.params = .ok statement ∧
          ∀ [Statement.Dialect], Delivered (command.keyed key) query statement.sent := by
      obtain ⟨key, wrote⟩ := write_of_writing written
      have names := named ⟨query, middle, written⟩
      rw [← Command.bearing_keyed key] at names
      exact ⟨key, delivered_of_named (regular.keyed key) wrote names⟩
    refine ⟨binds_call command fun query middle written => ?_, fun query middle written => ?_⟩
    · obtain ⟨key, statement, bound, -⟩ := delivered query middle written
      rw [bound]
      exact bindable_ok statement
    · obtain ⟨key, statement, bound, whole⟩ := delivered query middle written
      refine ⟨key, statement, bound, whole, fun ready connected => ?_⟩
      have poised : Poised command.writing session ready statement :=
        ⟨query, middle, written, Command.not_blank whole.written, connected, bound⟩
      obtain ⟨handle, held⟩ := poised.held
      exact ⟨handle, held, ends_after (ends_mono (poised.executes command.writes held)
        (fun _ _ sent => sent.unreturned) fun _ _ => id)⟩

inductive Shelf
  | mk

instance : Server Shelf where
  respond event shelf :=
    match event with
    | .execute _ _ => (.ok ⟨1, none, some ⟨["table_name", "column_name", "data_type"],
        .ok [[("table_name", .text "t"), ("column_name", .text "id"), ("data_type", .text "int")]]⟩⟩, shelf)
    | .begin _ => (.ok true, shelf)
    | .createEngine _ | .connect _ | .commitTransaction _ | .rollbackTransaction _ | .commit _
    | .rollback _ | .close _ | .dispose => (.ok (), shelf)
  inTransaction _ _ := false

def shelved : Session Shelf where
  settings := {}
  echo := false
  descriptor := ⟨"host", "user", "secret", "shop", 3306⟩
  server := .mk

def shelf : Catalog := [("t", [("id", "int")])]

theorem shelved_loads :
    Ends loadCatalog shelved (fun _ middle => middle.catalog = shelf) fun _ _ => False := by
  have connected : connect shelved = .ok true (after connect shelved) := rfl
  have executed (statement : Statement) : execute ((after connect shelved).holding ⟨statement, none⟩) =
      .ok true (after execute ((after connect shelved).holding ⟨statement, none⟩)) := rfl
  have built (statement : Statement) :
      Catalog.ofRows (outcome (after execute ((after connect shelved).holding ⟨statement, none⟩))).rows =
        .ok shelf := rfl
  exact (ends_iff_of_ok (loads_of_executed connected (executed _) (built _))).mpr rfl

theorem shelved_requires {columns : List Value}
    (held : shelf.require (.text "t") columns = .ok ()) :
    Ends (require (.text "t") columns) shelved (fun _ middle => middle.catalog = shelf)
      fun _ _ => False := by
  rw [require, ends_bind, ends_discard]
  refine ends_mono shelved_loads (fun _ middle loaded => ?_) fun _ _ => id
  rw [ends_bind, ends_get, loaded, held, ends_ofResult]
  exact loaded

theorem shelved_writes {columns : List Value} {result : Except Failure Query} {query : Query}
    (held : shelf.require (.text "t") columns = .ok ())
    (written : result = .ok query) : ∃ middle,
      (do require (.text "t") columns; ofResult result : Action Shelf Query) shelved = .ok query middle ∧
        middle.catalog = shelf := by
  have ends : Ends (do require (.text "t") columns; ofResult result : Action Shelf Query) shelved
      (fun answer middle => answer = query ∧ middle.catalog = shelf) fun _ _ => False := by
    rw [ends_bind, written]
    exact ends_mono (shelved_requires held) (fun _ _ loaded => (ends_pure query).mpr ⟨rfl, loaded⟩) fun _ _ => id
  cases equation : (do require (.text "t") columns; ofResult result : Action Shelf Query) shelved with
  | error failure middle => exact ((ends_iff_of_error equation).mp ends).elim
  | ok answer middle =>
    obtain ⟨rfl, loaded⟩ := (ends_iff_of_ok equation).mp ends
    exact ⟨middle, rfl, loaded⟩

def unset : Command :=
  .update (.text "t") [(.text "id", .int 6)] [(.text "id ", .null)] .and false

theorem unset_carried : unset.Regular ∧
    (∃ query middle, unset.writing shelved = .ok query middle) ∧ Carries unset shelved := by
  have regular : unset.Regular := ⟨by decide +kernel, by decide +kernel⟩
  have accepted : shelf.require (.text "t") [.text "id", .text "id "] = .ok () := rfl
  have writable : unset.write.toOption.isSome = true := by decide +kernel
  refine ⟨regular, ?_, (carries_iff unset regular shelved).mpr fun _ => by decide +kernel⟩
  cases written : unset.write with
  | error failure => rw [written] at writable; cases writable
  | ok query =>
    obtain ⟨middle, wrote, -⟩ := shelved_writes accepted written
    exact ⟨query, middle, wrote⟩

def trailing : Command := .delete (.text "t") [(.text "id ", .int 5)] .and false

/-- The name is accepted, and the value is left out of what is sent. -/
theorem trailing_not_carried : trailing.Regular ∧ (∃ query middle,
    trailing.writing shelved = .ok query middle ∧ middle.catalog = shelf ∧
      shelf.contains (.text "t") (.text "id ") = .ok true ∧
      query.sql = "DELETE FROM `t` WHERE `id` = :id " ∧
      Statement.mentioned query.sql query.params = []) ∧ ¬ Carries trailing shelved := by
  have regular : trailing.Regular := ⟨by decide +kernel, by decide +kernel⟩
  have accepted : shelf.require (.text "t") [.text "id "] = .ok () := rfl
  have texts : trailing.write.toOption.map (fun query =>
      (query.sql, (Statement.mentioned query.sql query.params).isEmpty)) =
        some ("DELETE FROM `t` WHERE `id` = :id ", true) := by decide +kernel
  cases written : trailing.write with
  | error failure => rw [written] at texts; cases texts
  | ok query =>
    rw [written] at texts
    obtain ⟨sql, none⟩ := Prod.mk.inj (Option.some.inj texts)
    obtain ⟨middle, wrote, loaded⟩ := shelved_writes accepted written
    refine ⟨regular, ⟨query, middle, wrote, loaded, rfl, sql, List.isEmpty_iff.mp none⟩, ?_⟩
    intro carries
    obtain ⟨key, statement, bound, delivered, -⟩ := carries.sends query middle wrote
    have delivers : Delivers query trailing.layout := ⟨statement, bound, delivered.sql, delivered.served⟩
    have named := (regular.delivers_iff written).mp delivers
    exact absurd named (by decide +kernel)

end Session

end SqlGateway
