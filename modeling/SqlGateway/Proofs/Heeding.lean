import SqlGateway.Proofs.Loading

/-!
What the settings take from a document. Each follows the entry at its own path: the entry if it is of the type of
the setting, and otherwise the value that stands where nothing is given. The port alone departs from this, and only
where the entry is a flag.
-/

namespace SqlGateway

open Toml

namespace Toml

def at? : Path → Table → Option Toml
  | [], _ => none
  | [key], held => Entries.get? key held
  | key :: next :: path, held =>
    match Entries.get? key held with
    | some (.table inner) => at? (next :: path) inner
    | _ => none

theorem stands_iff {path : Path} {item : Toml} {held : Table} (keyed : Keyed (.table held)) :
    Stands path item held ↔ at? path held = some item := by
  induction path generalizing held with
  | nil =>
    refine iff_of_false (fun stands => ?_) fun found => ?_
    · cases stands
    · cases found
  | cons key path ih =>
    cases path with
    | nil => exact keyed.stands_here
    | cons next path =>
      rw [keyed.stands_below, at?]
      constructor
      · rintro ⟨inner, found, later⟩
        rw [found]
        exact (ih (keyed.get found)).mp later
      · intro there
        split at there
        · rename_i inner found
          exact ⟨inner, found, (ih (keyed.get found)).mpr there⟩
        · cases there

end Toml

inductive Setting
  | field (credential : Field)
  | port
  | driver
  | charset
  | timeout
  | echo
  deriving DecidableEq

namespace Setting

def path : Setting → Path
  | .field credential => ["connection", credential.name]
  | .port => ["connection", "port"]
  | .driver => ["connection", "driver"]
  | .charset => ["connection", "charset"]
  | .timeout => ["connection", "connect_timeout"]
  | .echo => ["echo_sql"]

/-- What is taken of an item: the item itself if it is of the type of the setting. A time may be an integer. -/
def taken? : Setting → Toml → Option Toml
  | .field _, .text s | .driver, .text s | .charset, .text s => some (.text s)
  | .port, .integer n => some (.integer n)
  | .timeout, .float x => some (.float x)
  | .timeout, .integer n => (Binary64.ofInt? n).map .float
  | .echo, .boolean flag => some (.boolean flag)
  | _, _ => none

def standing : Setting → Option Toml
  | .field _ => none
  | .port => some (.integer 3306)
  | .driver => some (.text "mysql+pymysql")
  | .charset => some (.text "utf8mb4")
  | .timeout => (Binary64.ofInt? 5).map .float
  | .echo => some (.boolean false)

/-- The value that follows from a document. -/
inductive Follows (setting : Setting) (root : Table) : Option Toml → Prop
  | taken {item value : Toml} : Stands setting.path item root → setting.taken? item = some value →
    Follows setting root (some value)
  | standing : (∀ item, Stands setting.path item root → setting.taken? item = none) →
    Follows setting root setting.standing

/-- The value of an entry, where a flag counts as a port. -/
def answer (setting : Setting) (item? : Option Toml) : Option Toml :=
  match setting, item? with
  | port, some (.boolean flag) => some (.integer (if flag then 1 else 0))
  | setting, item? => (item?.bind setting.taken?).or setting.standing

theorem answer_of_apart {setting : Setting} {item? : Option Toml}
    (apart : ∀ flag, setting = port → item? ≠ some (.boolean flag)) :
    setting.answer item? = (item?.bind setting.taken?).or setting.standing := by
  unfold answer
  split
  · exact absurd rfl (apart _ rfl)
  · rfl

theorem follows_iff {setting : Setting} {root : Table} (keyed : Keyed (.table root)) {value? : Option Toml} :
    Follows setting root value? ↔ value? = ((at? setting.path root).bind setting.taken?).or setting.standing := by
  constructor
  · intro follows
    cases follows with
    | taken stands taken =>
      rw [(stands_iff keyed).mp stands, Option.bind_some, taken]
      rfl
    | standing none =>
      cases entry : at? setting.path root with
      | none => rfl
      | some item =>
        rw [Option.bind_some, none item ((stands_iff keyed).mpr entry)]
        rfl
  · rintro rfl
    cases entry : at? setting.path root with
    | none => exact .standing fun item stands => nomatch entry.symm.trans ((stands_iff keyed).mp stands)
    | some item =>
      cases taken : setting.taken? item with
      | some value =>
        rw [Option.bind_some, taken]
        exact .taken ((stands_iff keyed).mpr entry) taken
      | none =>
        rw [Option.bind_some, taken]
        refine .standing fun other stands => ?_
        cases stands.unique keyed ((stands_iff keyed).mpr entry)
        exact taken

end Setting

def Config.given (config : Config) : Setting → Option Toml
  | .field credential => (config.connection.field credential).map .text
  | .port => some (.integer config.connection.port)
  | .driver => some (.text config.connection.driver)
  | .charset => some (.text config.connection.charset)
  | .timeout => some (.float config.connection.connectTimeout)
  | .echo => some (.boolean config.echoSql)

namespace Settings

variable {held : Table} {settings : Settings}

theorem ofTable_eq_ok [Validation] (read : ofTable held = .ok settings) :
    (∀ field, settings.field field = textAt? held field.name) ∧
      settings.port = (portOf? held).getD 3306 ∧
      settings.driver = (textAt? held "driver").getD "mysql+pymysql" ∧
      settings.charset = (textAt? held "charset").getD "utf8mb4" ∧
      ∃ timeout?, timeoutAt? held = .ok timeout? ∧
        settings.connectTimeout = timeout?.getD (.finite false (5 * Nat.pow 2 50) (-50)) := by
  rw [ofTable_eq] at read
  obtain ⟨timeout?, timeout, rfl⟩ := map_eq_ok read
  exact ⟨fun field => by cases field <;> rfl, rfl, rfl, rfl, timeout?, timeout, rfl⟩

theorem map_timeoutAt {timeout? : Option Binary64} (timeout : timeoutAt? held = .ok timeout?) :
    timeout?.map Toml.float = (Entries.get? "connect_timeout" held).bind Setting.timeout.taken? := by
  unfold timeoutAt? at timeout
  split at timeout
  · rename_i x found
    cases timeout
    rw [found]
    rfl
  · rename_i n found
    split at timeout
    · rename_i x nearest
      cases timeout
      rw [found]
      exact (congrArg (Option.map Toml.float) nearest).symm
    · cases timeout
  · rename_i apart whole
    cases timeout
    rcases found : Entries.get? "connect_timeout" held with _ | (_ | n | x | _ | _ | _ | _)
    case some.integer => exact absurd found (whole n)
    case some.float => exact absurd found (apart x)
    all_goals rfl

end Settings

namespace Config

variable {root : Table} {config : Config}

theorem ofTable_eq_ok [Validation] (read : ofTable root = .ok config) : ∃ held,
    (∀ key, at? ["connection", key] root = Entries.get? key held) ∧ Settings.ofTable held = .ok config.connection ∧
      config.echoSql = echoAt root := by
  rw [ofTable_eq] at read
  obtain ⟨connection, there, rfl⟩ := map_eq_ok read
  unfold connectionAt at there
  split at there
  · rename_i held found
    refine ⟨held, fun key => ?_, there, rfl⟩
    rw [at?, found]
    rfl
  · rename_i apart
    refine ⟨[], fun key => ?_, ?_, rfl⟩
    · rw [at?]
      split
      · rename_i held found
        exact absurd found (apart held)
      · rfl
    · rw [Settings.ofTable_eq, ← there]
      rfl

theorem given_eq_answer [Validation] (read : ofTable root = .ok config) (setting : Setting) :
    config.given setting = setting.answer (at? setting.path root) := by
  obtain ⟨held, below, settings, echo⟩ := ofTable_eq_ok read
  obtain ⟨fields, port, driver, charset, timeout?, timeout, time⟩ := Settings.ofTable_eq_ok settings
  cases setting with
  | field credential =>
    rw [Config.given, fields, Settings.textAt?, Setting.path, below]
    rcases Entries.get? credential.name held with _ | (_ | _ | _ | _ | _ | _ | _) <;> rfl
  | driver =>
    rw [Config.given, driver, Settings.textAt?, Setting.path, below]
    rcases Entries.get? "driver" held with _ | (_ | _ | _ | _ | _ | _ | _) <;> rfl
  | charset =>
    rw [Config.given, charset, Settings.textAt?, Setting.path, below]
    rcases Entries.get? "charset" held with _ | (_ | _ | _ | _ | _ | _ | _) <;> rfl
  | port =>
    rw [Config.given, port, Settings.portOf?, Setting.path, below]
    rcases Entries.get? "port" held with _ | (_ | _ | _ | _ | _ | _ | _) <;> rfl
  | timeout =>
    have nearest : Setting.timeout.standing = some (.float (.finite false (5 * Nat.pow 2 50) (-50))) := by rfl
    have apart (flag : Bool) : Setting.timeout = .port →
        Entries.get? "connect_timeout" held ≠ some (.boolean flag) := by
      intro same
      cases same
    rw [Config.given, time, Setting.path, below, Setting.answer_of_apart apart, ← Settings.map_timeoutAt timeout,
      nearest]
    cases timeout? <;> rfl
  | echo =>
    rw [Config.given, echo, echoAt, Setting.path, at?]
    rcases Entries.get? "echo_sql" root with _ | (_ | _ | _ | _ | _ | _ | _) <;> rfl

section

variable [Validation] (keyed : Keyed (.table root)) (read : ofTable root = .ok config)

include keyed read

theorem port_of_flag {flag : Bool} (stands : Stands Setting.port.path (.boolean flag) root) :
    config.connection.port = if flag then 1 else 0 := by
  have given := given_eq_answer read .port
  rw [(stands_iff keyed).mp stands] at given
  exact Toml.integer.inj (Option.some.inj given)

/-- A setting follows the document, unless it is the port and a flag is given for it. -/
theorem follows_given_iff (setting : Setting) : setting.Follows root (config.given setting) ↔
    ¬ (setting = .port ∧ ∃ flag, Stands setting.path (.boolean flag) root) := by
  constructor
  · rintro follows ⟨rfl, flag, stands⟩
    rw [Setting.follows_iff keyed, (stands_iff keyed).mp stands, Config.given, port_of_flag keyed read stands]
      at follows
    cases flag <;> cases follows
  · intro apart
    rw [Setting.follows_iff keyed, given_eq_answer read]
    exact Setting.answer_of_apart fun flag port entry => apart ⟨port, flag, (stands_iff keyed).mpr entry⟩

theorem given_of_same_entry {other : Table} {changed : Config} (otherKeyed : Keyed (.table other))
    (otherRead : ofTable other = .ok changed) {setting : Setting}
    (same : ∀ item, Stands setting.path item other ↔ Stands setting.path item root) :
    changed.given setting = config.given setting := by
  have entry : at? setting.path other = at? setting.path root :=
    Option.ext fun item => by rw [← stands_iff otherKeyed, ← stands_iff keyed, same]
  rw [given_eq_answer otherRead, given_eq_answer read, entry]

end

section

variable [Validation] [Stack]

theorem ofTable_of_loaded {text : String} (parsed : parse text = .ok root)
    (loaded : load (.file text.toUTF8) = .ok config) : ofTable root = .ok config := by
  rw [load_encoded, ofText, parsed] at loaded
  exact loaded

/-- Each setting is the entry at its path if the entry has the type of the setting, and otherwise what stands where
nothing is given, unless a flag is given for the port, which is one or zero then. No other entry affects it. -/
theorem loaded_follows_iff {text : String} (parsed : parse text = .ok root)
    (loaded : load (.file text.toUTF8) = .ok config) (setting : Setting) :
    (setting.Follows root (config.given setting) ↔
        ¬ (setting = .port ∧ ∃ flag, Stands setting.path (.boolean flag) root)) ∧
      (∀ flag, Stands Setting.port.path (.boolean flag) root → config.connection.port = if flag then 1 else 0) ∧
      ∀ (text : String) (other : Table) (changed : Config), parse text = .ok other →
        load (.file text.toUTF8) = .ok changed →
        (∀ item, Stands setting.path item other ↔ Stands setting.path item root) →
        changed.given setting = config.given setting := by
  have keyed := keyed_of_parse parsed
  have read := ofTable_of_loaded parsed loaded
  refine ⟨follows_given_iff keyed read setting, fun flag => port_of_flag keyed read, ?_⟩
  intro text other changed again reloaded
  exact given_of_same_entry keyed read (keyed_of_parse again) (ofTable_of_loaded again reloaded)

end

def mistyped : String := "echo_sql = \"yes\"\n\n[connection]\nhost = 42\nport = \"3306\"\nconnect_timeout = 3\n"

def mistypedRoot : Table :=
  [("echo_sql", .text "yes"),
    ("connection", .table [("host", .integer 42), ("port", .text "3306"), ("connect_timeout", .integer 3)])]

def mistypedConfig : Config := { connection := { connectTimeout := .finite false (3 * Nat.pow 2 51) (-51) } }

theorem mistyped_follows : parse mistyped = .ok mistypedRoot ∧
    load (.file mistyped.toUTF8) = .ok mistypedConfig ∧
    ∀ setting : Setting, setting.Follows mistypedRoot (mistypedConfig.given setting) := by
  have written : mistyped = String.ofList (Toml.document [Line.text "echo_sql" "yes"] "connection"
      [Line.integer "host" 42, Line.text "port" "3306", Line.integer "connect_timeout" 3]) := by decide +kernel
  have parsed : parse mistyped = .ok mistypedRoot := by
    rw [written]
    refine parse_document (by decide) ?_ (by decide) (by decide)
    simp only [List.forall_mem_append, List.forall_mem_cons]
    exact ⟨⟨Line.text_fit (by decide) _, nofun⟩, Line.integer_fit (by decide) (by decide),
      Line.text_fit (by decide) _, Line.integer_fit (by decide) (by decide), nofun⟩
  have loaded : load (.file mistyped.toUTF8) = .ok mistypedConfig := by
    rw [load_encoded, ofText, parsed]
    rfl
  refine ⟨parsed, loaded, fun setting => (loaded_follows_iff parsed loaded setting).1.mpr ?_⟩
  rintro ⟨rfl, flag, stands⟩
  cases (stands_iff (keyed_of_parse parsed)).mp stands

def flagged : String := "\n[connection]\nport = true\n"

/-- No integer is given for the port, but it is not the standing one. -/
theorem flag_taken_for_port : ∃ root config, parse flagged = .ok root ∧ load (.file flagged.toUTF8) = .ok config ∧
    (∀ n, ¬ Stands Setting.port.path (.integer n) root) ∧ config.connection.port ≠ 3306 := by
  have written : flagged = String.ofList (Toml.document [] "connection" [Line.flag "port" true]) := by decide +kernel
  have parsed : parse flagged = .ok [("connection", .table [("port", .boolean true)])] := by
    rw [written]
    refine parse_document (by decide) ?_ (by decide) (by decide)
    exact List.forall_mem_singleton.mpr (Line.flag_fit (by decide) true)
  have loaded : load (.file flagged.toUTF8) = .ok { connection := { port := 1 } } := by
    rw [load_encoded, ofText, parsed]
    rfl
  refine ⟨_, _, parsed, loaded, fun n stands => ?_, by decide⟩
  cases (stands_iff (keyed_of_parse parsed)).mp stands

end Config

end SqlGateway
