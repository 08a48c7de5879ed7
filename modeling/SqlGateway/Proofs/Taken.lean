import SqlGateway.Settings.File

/-!
What the entries of a document become once they are checked. Only entries of the type of their field are given to be
checked, and a value of that type is taken as it is, whatever else the checks take.
-/

namespace SqlGateway

open Toml

namespace Settings

theorem get?_entry (key name : String) (value? : Option Value) :
    Entries.get? key (entry name value?) = if name = key then value? else none := by
  cases value? with
  | none => exact (ite_self none).symm
  | some value => simp [entry, Entries.get?]

variable [Validation] {fields : Entries String Value} {name : String}

theorem given_textOrNull {text? : Option String} (found : Entries.get? name fields = text?.map .text) :
    given fields name textOrNull? none = some text? := by
  rw [given, found]
  cases text? with
  | none => rfl
  | some s => exact congrArg (Option.map some) (Validation.text_text s)

theorem given_text {text? : Option String} (found : Entries.get? name fields = text?.map .text) (standing : String) :
    given fields name Validation.text? standing = some (text?.getD standing) := by
  rw [given, found]
  cases text? with
  | none => rfl
  | some s => exact Validation.text_text s

theorem given_real {real? : Option Binary64} (found : Entries.get? name fields = real?.map .float)
    (standing : Binary64) : given fields name Validation.real? standing = some (real?.getD standing) := by
  rw [given, found]
  cases real? with
  | none => rfl
  | some x => exact Validation.real_float x

def portOf? (held : Table) : Option Int :=
  match Entries.get? "port" held with
  | some (.integer n) => some n
  | some (.boolean flag) => some (if flag then 1 else 0)
  | _ => none

theorem given_port {held : Table} (found : Entries.get? name fields = portAt? held) (standing : Int) :
    given fields name Validation.integer? standing = some ((portOf? held).getD standing) := by
  rw [given, found, portAt?, portOf?]
  rcases Entries.get? "port" held with _ | (flag | n | _ | _ | _ | _ | _)
  case some.boolean => exact Validation.integer_bool flag
  case some.integer => exact Validation.integer_int n
  all_goals rfl

omit [Validation] in
theorem get?_taken {held : Table} {timeout? : Option Binary64} (timeout : timeoutAt? held = .ok timeout?) :
    ∃ fields, taken held = .ok fields ∧ (∀ key ∈ ["host", "user", "password", "database", "driver", "charset"],
      Entries.get? key fields = (textAt? held key).map .text) ∧
      Entries.get? "port" fields = portAt? held ∧ Entries.get? "connect_timeout" fields = timeout?.map .float := by
  refine ⟨_, by rw [taken, timeout]; rfl, ?_, ?_, ?_⟩
  · simp [Entries.get?_append, get?_entry]
  · simp [Entries.get?_append, get?_entry]
  · simp [Entries.get?_append, get?_entry]

/-- The checks refuse nothing that a table gives. -/
theorem ofTable_eq (held : Table) : ofTable held = (timeoutAt? held).map fun timeout? => {
    host := textAt? held "host"
    user := textAt? held "user"
    password := textAt? held "password"
    database := textAt? held "database"
    port := (portOf? held).getD 3306
    driver := (textAt? held "driver").getD "mysql+pymysql"
    charset := (textAt? held "charset").getD "utf8mb4"
    connectTimeout := timeout?.getD (.finite false (5 * Nat.pow 2 50) (-50)) } := by
  unfold ofTable
  cases timeout : timeoutAt? held with
  | error problem =>
    rw [taken, timeout]
    rfl
  | ok timeout? =>
    obtain ⟨fields, read, text, port, time⟩ := get?_taken timeout
    rw [read]
    change (ofFields fields).mapError _ = _
    rw [ofFields, given_textOrNull (text "host" (by decide)), given_textOrNull (text "user" (by decide)),
      given_textOrNull (text "password" (by decide)), given_textOrNull (text "database" (by decide)),
      given_port port, given_text (text "driver" (by decide)), given_text (text "charset" (by decide)),
      given_real time]
    rfl

end Settings

theorem Config.ofTable_eq [Validation] (root : Table) :
    ofTable root = (connectionAt root).map fun connection => { connection, echoSql := echoAt root } := by
  have flagged (connection : Settings) : ofSettings connection (some (.bool (echoAt root))) =
      .ok { connection, echoSql := echoAt root } := by
    rw [ofSettings, Validation.flag_bool]
  unfold ofTable
  simp only [flagged]
  cases connectionAt root <;> rfl

end SqlGateway
