import SqlGateway.Proofs.Carried
import SqlGateway.Proofs.Identifiers
import SqlGateway.Proofs.Lookups

/-!
What a quick query issues. The one statement that is no lookup comes last; it is what the builder wrote
from names that the catalog was found to hold, and the call answers from the reply to it.
-/

namespace SqlGateway

open Query

namespace Query

def Command.answer : Command → Outcome → Session.Answer
  | .select _ _ _, outcome => .rows outcome.rows
  | _, outcome => .count outcome.rowCount

/-- The catalog holds the table and every column that the command names, in whichever of its records, and
the text of the query quotes no other name. -/
structure Validated (catalog : Catalog) (command : Command) (query : Query) (table : String)
    (columns : Entries String String) : Prop where
  isText : command.table = .text table
  listed : Entries.get? (Text.trim table) catalog = some columns
  named : ∀ record ∈ command.records, ∀ column ∈ record.keys,
    ∃ name, column = .text name ∧ Text.trim name ∈ columns.keys
  quotes : Reads (fun name => name = Text.trim table ∨ name ∈ columns.keys ∨
    command.Aliases ∧ name = "new") query.sql.toList

theorem contains_table {catalog : Catalog} {table column : Value}
    (held : catalog.contains table column = .ok true) :
    ∃ name columns, table = .text name ∧ Entries.get? (Text.trim name) catalog = some columns := by
  obtain ⟨found, looked, held⟩ := bind_eq_ok held
  cases found with
  | none => cases held
  | some columns =>
    cases table with
    | text name => exact ⟨name, columns, rfl, (Catalog.found_of_table looked).symm⟩
    | _ => cases Catalog.found_of_table looked

theorem contains_column {catalog : Catalog} {table name : String} {columns : Entries String String}
    (listed : Entries.get? (Text.trim table) catalog = some columns)
    (held : catalog.contains (.text table) (.text name) = .ok true) : Text.trim name ∈ columns.keys := by
  obtain ⟨found, looked, held⟩ := bind_eq_ok held
  obtain rfl : found = some columns := (Catalog.found_of_table looked).trans listed
  obtain ⟨there, named, held⟩ := bind_eq_ok held
  by_contra absent
  cases named.symm.trans (congrArg Except.ok (Entries.get?_of_not_mem columns absent))
  cases held

namespace Command

variable {command : Command} {query : Query}

@[simp] theorem table_keyed (key : Value) : (command.keyed key).table = command.table := by
  cases command <;> rfl

@[simp] theorem columns_keyed (key : Value) : (command.keyed key).columns = command.columns := by
  cases command <;> rfl

theorem aliases_of_keyed {key : Value} (aliases : (command.keyed key).Aliases) : command.Aliases := by
  cases command with
  | insert table input primaryKey upsert => exact aliases
  | update _ _ _ _ _ | delete _ _ _ _ | select _ _ _ => exact aliases.elim

theorem mem_columns (texts : ∀ column ∈ command.columns, IsText column) {record : Record}
    (member : record ∈ command.records) {column : Value} (given : column ∈ record.keys) :
    column ∈ command.columns := by
  cases command with
  | insert table input primaryKey upsert =>
    cases read : Rows.ofValue input with
    | error problem =>
      simp only [Command.records, read] at member
      cases member
    | ok rows =>
      simp only [Command.records, Command.columns, read] at member texts ⊢
      exact (given_of_ofValue read).sameColumns member given texts
  | update table params held conjunction allRows =>
    rcases List.mem_cons.mp member with rfl | later
    · exact List.mem_append_left _ given
    · obtain rfl := List.mem_singleton.mp later
      exact List.mem_append_right _ given
  | delete table held conjunction allRows | select table held conjunction =>
    obtain rfl := List.mem_singleton.mp member
    exact given

theorem validated {key : Value} (written : (command.keyed key).write = .ok query) {catalog : Catalog}
    (known : catalog.contains command.table .null = .ok true)
    (held : ∀ column ∈ command.columns, catalog.contains command.table column = .ok true) :
    ∃ table columns, Validated catalog command query table columns := by
  obtain ⟨table, columns, tableText, listed⟩ := contains_table known
  have texts (column : Value) (given : column ∈ command.columns) : IsText column := by
    rw [← columns_keyed key] at given
    exact (Command.quoted written column given).elim fun _ => text_of_quoted
  have listedIn (name : String) (given : .text name ∈ command.columns) :
      Text.trim name ∈ columns.keys := by
    have here := held _ given
    rw [tableText] at here
    exact contains_column listed here
  refine ⟨table, columns, tableText, listed, fun record member column given => ?_,
    (Command.reads written).mono fun name identifies => ?_⟩
  · have among := mem_columns texts member given
    obtain ⟨name, rfl⟩ := texts column among
    exact ⟨name, rfl, listedIn name among⟩
  · cases identifies with
    | aliased aliases => exact .inr (.inr ⟨aliases_of_keyed aliases, rfl⟩)
    | given among =>
      rw [table_keyed, columns_keyed, tableText] at among
      rcases List.mem_cons.mp among with same | given
      · cases same
        exact .inl rfl
      · exact .inr (.inl (listedIn _ given))

end Command

end Query

namespace Session

/-- The kinds of failure that a call ends with before its statement is sent. -/
def refusals : List Failure.Kind :=
  [.invalidTable, .invalidColumn, .invalidParameters, .unrestricted, .collectionBound, .bindFailed]

variable {σ : Type} {session final : Session σ}

theorem reported_not_refusal (cause : Fault) : (reported (.fault cause)).kind ∉ refusals := by
  cases cause with
  | server text args sqlstate | library text =>
    change Failure.Kind.queryFailed ∉ refusals
    decide
  | foreign text =>
    change Failure.Kind.foreignFault ∉ refusals
    decide

theorem Runs.fault {statement : Statement} {handle : Handle} {failure : Failure}
    (runs : Runs statement session (.error failure) final) (held : session.handle? = some handle) :
    ∃ cause, failure = .fault cause := by
  generalize same : Except.error failure = result at runs
  cases runs with
  | unconnected absent => cases held.symm.trans absent
  | mk other server _ ran =>
    cases same
    obtain ⟨cause, bare, -⟩ := ran.fault
    exact ⟨cause, bare⟩

variable [Server σ]

/-- The session has sent the statement of the command, as the last one and with this answer. -/
inductive Issued (command : Command) (session final : Session σ) (answer : Except Fault Reply) : Prop
  | mk {checked middle : Session σ} {key : Value} {query : Query} {statement : Statement} {table : String}
      {columns : Entries String String} {lookups rest : List Exchange} {connection : Nat}
      (required : require command.table command.columns session = .ok () checked)
      (validated : Validated checked.catalog command query table columns)
      (wrote : command.writing session = .ok query middle)
      (built : (command.keyed key).write = .ok query)
      (bound : Statement.forQuery query.sql query.params = .ok statement)
      (split : final.log =
        session.log ++ lookups ++ ⟨.execute connection statement.sent, answer⟩ :: rest)
      (before : ∀ exchange ∈ lookups, exchange.event.Preparing session.descriptor.database)
      (last : ∀ exchange ∈ rest, ∀ number sent, exchange.event ≠ .execute number sent) :
      Issued command session final answer

variable {command : Command} {query : Query} {middle : Session σ}

theorem required_of_writing (written : command.writing session = .ok query middle) :
    ∃ checked, require command.table command.columns session = .ok () checked := by
  cases command with
  | insert table input primaryKey upsert =>
    obtain ⟨rows, start, read, rest⟩ := eq_ok_of_bind written
    obtain ⟨given, rfl⟩ := eq_ok_of_ofResult read
    obtain ⟨_, checked, required, _⟩ := eq_ok_of_bind rest
    refine ⟨checked, ?_⟩
    rw [Command.columns, readRows_eq_ok given]
    exact required
  | update _ _ _ _ _ | delete _ _ _ _ | select _ _ _ =>
    obtain ⟨_, checked, required, _⟩ := eq_ok_of_bind written
    exact ⟨checked, required⟩

theorem ends_call (command : Command) (session : Session σ) {done : Answer → Session σ → Prop}
    {failed : Failure → Session σ → Prop} :
    Ends command.call.run session done failed ↔
      Ends command.writing session (fun query middle =>
        Ends (queryExecute query.sql query.params false) middle
          (fun _ final => done (command.answer (outcome final)) final) failed) failed := by
  cases command with
  | insert _ _ _ _ | update _ _ _ _ _ | delete _ _ _ _ =>
    simp only [Command.call, Command.writing, Command.answer, Call.run, insert, update, delete, send,
      rowCount, ends_bind, ends_discard, ends_get, ends_pure]
  | select _ _ _ =>
    simp only [Command.call, Command.writing, Command.answer, Call.run, select, send, rows, ends_bind,
      ends_discard, ends_get, ends_pure]

theorem issued_of_writing (written : command.writing session = .ok query middle) {ready : Session σ}
    (connects : Connects middle (.ok true) ready) {statement : Statement}
    (bound : Statement.forQuery query.sql query.params = .ok statement) {connection : Nat}
    {answer : Except Fault Reply} {rest : List Exchange}
    (split : final.log = ready.log ++ ⟨.execute connection statement.sent, answer⟩ :: rest)
    (last : ∀ exchange ∈ rest, ∀ number sent, exchange.event ≠ .execute number sent) :
    Issued command session final answer := by
  obtain ⟨checked, required⟩ := required_of_writing written
  obtain ⟨key, built⟩ := write_of_writing written
  obtain ⟨known, held⟩ := contains_of_require required
  obtain ⟨table, columns, validated⟩ := Command.validated built known held
  have wrote := (ends_iff_of_ok written).mp ((keeps_write attends_looksUp command.writes).ends session)
  obtain ⟨lookups, splitReady, before⟩ := (wrote.trans connects.looksUp).adds
  rw [splitReady] at split
  exact .mk required validated written built bound split before last

/-- The statement of a quick query is issued at most once, as the last statement of the call, and only
if the catalog holds its names; all else that is executed is a lookup. A call that returns has issued it
and answers from its outcome; one that is refused has not. -/
theorem quick_query_issues (command : Command) (session : Session σ) :
    Ends command.call.run session
      (fun answer final => ∃ reply outcome, Issued command session final (.ok reply) ∧
        collect reply = .ok outcome ∧ answer = command.answer outcome)
      fun failure final => LooksUp session final ∨
        failure.kind ∉ refusals ∧ ∃ answer, Issued command session final answer := by
  rw [ends_call]
  have wrote := (keeps_write attends_looksUp command.writes).ends session
  cases written : command.writing session with
  | error failure middle =>
    rw [ends_iff_of_error written] at wrote ⊢
    exact .inl wrote
  | ok query middle =>
    rw [ends_iff_of_ok written] at wrote ⊢
    obtain ⟨key, built⟩ := write_of_writing written
    refine ends_mono (queryExecute_meets query.sql query.params false middle) ?_ ?_
    · intro flag final queries
      generalize same : Except.ok flag = result at queries
      cases queries with
      | blank _ | unconnected _ _ => cases same
      | released _ _ _ closing _ => cases closing
      | kept given connects asks _ =>
        cases same
        obtain ⟨handle, held⟩ := connects.held
        cases asks with
        | @done statement outcome last bound runs =>
          obtain ⟨answer, rest, split, settles, fetches⟩ := runs.answered held
          obtain ⟨reply, rfl, collected⟩ := collect_of_fetched (fetches outcome rfl)
          exact ⟨reply, outcome, issued_of_writing written connects bound split settles.alone, collected, rfl⟩
    · intro failure final queries
      generalize same : Except.error failure = result at queries
      cases queries with
      | blank blank => cases blank.symm.trans (Command.not_blank built)
      | unconnected given connects => exact .inl (wrote.trans connects.looksUp)
      | released _ _ _ closing _ => cases closing
      | kept given connects asks _ =>
        cases same
        obtain ⟨handle, held⟩ := connects.held
        cases asks with
        | unbound prepared refused =>
          have connected := wrote.trans connects.looksUp
          exact .inl ⟨connected.adds, connected.descriptor⟩
        | failed bound runs =>
          obtain ⟨cause, rfl⟩ := runs.fault held
          obtain ⟨answer, rest, split, settles⟩ := runs.executes held
          exact .inr ⟨reported_not_refusal cause, answer,
            issued_of_writing written connects bound split settles.alone⟩

end Session

end SqlGateway
