import SqlGateway.Proofs.Filed

/-!
Saving settings and loading them. Whatever settings are reached, they come back from the file that is written
for them, and the file that is written for what came back is the same.
-/

namespace SqlGateway

namespace Draft

/-- The values that are of the type of their field. A name that is no field takes any. -/
inductive Takes : String → Value → Prop
  | missing (field : Field) : Takes field.name .null
  | text (field : Field) (s : String) : Takes field.name (.text s)
  | port (n : Int) : Takes "port" (.int n)
  | driver (s : String) : Takes "driver" (.text s)
  | charset (s : String) : Takes "charset" (.text s)
  | timeout (x : Binary64) : Takes "connect_timeout" (.float x)
  | other {name : String} {value : Value} (foreign : name ∉ Entries.keys (ofConfig {}).fields) : Takes name value

/-- Settings as they come about: standing, checked or loaded, then changed field by field, or given another
flag. -/
inductive Reached : Draft → Prop
  | standing : Reached (.ofConfig {})
  | checked [Validation] {fields : Entries String Value} {echoSql? : Option Value} {config : Config}
      (taken : Config.ofFields fields echoSql? = .ok config) : Reached (.ofConfig config)
  | loaded [Validation] [Toml.Stack] {place : Place} {config : Config} (read : Config.load place = .ok config) :
      Reached (.ofConfig config)
  | updated {draft : Draft} {updates : Entries String Value} (reached : Reached draft)
      (typed : ∀ entry ∈ updates, Takes entry.1 entry.2) : Reached (draft.withFields updates)
  | flagged [Validation] {draft : Draft} {value : Value} {echoSql : Bool} (reached : Reached draft)
      (taken : Validation.flag? value = some echoSql) : Reached { draft with echoSql }

theorem withField_foreign (draft : Draft) {name : String} (value : Value)
    (foreign : name ∉ Entries.keys (ofConfig {}).fields) : draft.withField name value = draft := by
  unfold withField
  split
  all_goals
    first
      | rfl
      | exact absurd (by decide) foreign

theorem withField_ofConfig (config : Config) {name : String} {value : Value} (typed : Takes name value) :
    ∃ changed, (ofConfig config).withField name value = ofConfig changed := by
  obtain ⟨connection, echoSql⟩ := config
  cases typed with
  | missing field =>
    cases field
    · exact ⟨⟨{ connection with host := none }, echoSql⟩, rfl⟩
    · exact ⟨⟨{ connection with user := none }, echoSql⟩, rfl⟩
    · exact ⟨⟨{ connection with password := none }, echoSql⟩, rfl⟩
    · exact ⟨⟨{ connection with database := none }, echoSql⟩, rfl⟩
  | text field s =>
    cases field
    · exact ⟨⟨{ connection with host := s }, echoSql⟩, rfl⟩
    · exact ⟨⟨{ connection with user := s }, echoSql⟩, rfl⟩
    · exact ⟨⟨{ connection with password := s }, echoSql⟩, rfl⟩
    · exact ⟨⟨{ connection with database := s }, echoSql⟩, rfl⟩
  | port n => exact ⟨⟨{ connection with port := n }, echoSql⟩, rfl⟩
  | driver s => exact ⟨⟨{ connection with driver := s }, echoSql⟩, rfl⟩
  | charset s => exact ⟨⟨{ connection with charset := s }, echoSql⟩, rfl⟩
  | timeout x => exact ⟨⟨{ connection with connectTimeout := x }, echoSql⟩, rfl⟩
  | other foreign => exact ⟨⟨connection, echoSql⟩, withField_foreign _ _ foreign⟩

theorem withFields_ofConfig (config : Config) {updates : Entries String Value}
    (typed : ∀ entry ∈ updates, Takes entry.1 entry.2) :
    ∃ changed, (ofConfig config).withFields updates = ofConfig changed := by
  induction updates generalizing config with
  | nil => exact ⟨config, rfl⟩
  | cons entry more ih =>
    obtain ⟨first, later⟩ := List.forall_mem_cons.mp typed
    obtain ⟨changed, same⟩ := withField_ofConfig config first
    obtain ⟨final, rest⟩ := ih changed later
    refine ⟨final, ?_⟩
    rw [← rest, ← same]
    rfl

/-- Every value of reached settings is of the type of its field. -/
theorem Reached.typed {draft : Draft} (reached : Reached draft) : ∃ config, draft = ofConfig config := by
  induction reached with
  | standing => exact ⟨_, rfl⟩
  | checked => exact ⟨_, rfl⟩
  | loaded => exact ⟨_, rfl⟩
  | updated _ typed ih =>
    obtain ⟨config, rfl⟩ := ih
    exact withFields_ofConfig config typed
  | @flagged _ _ _ echoSql _ _ ih =>
    obtain ⟨config, rfl⟩ := ih
    exact ⟨{ config with echoSql }, rfl⟩

theorem save_ofConfig {config : Config} {place : Place} (writable : place ≠ .directory)
    (short : tooLong (.int config.connection.port) = false) :
    (ofConfig config).save place = .ok (config.document, .file config.document.toUTF8) := by
  rw [save, render_ofConfig short]
  cases place with
  | directory => exact absurd rfl writable
  | absent => rfl
  | file content => rfl

/-- Reached settings whose port is short enough to be written are saved as the text of a document with exactly
their entries. It loads as these settings without their empty texts, and what was loaded is saved as the same
text. -/
theorem Reached.load_save [Validation] [Toml.Stack] {draft : Draft} (reached : Reached draft)
    (short : tooLong draft.port = false) (same : ∀ x, draft.connectTimeout = .float x → x.ReadsBack)
    {place : Place} (writable : place ≠ .directory) :
    ∃ config text, draft = ofConfig config ∧ draft.save place = .ok (text, .file text.toUTF8) ∧
      Toml.parse text = .ok config.entries ∧ Config.load (.file text.toUTF8) = .ok config.kept ∧
      (ofConfig config.kept).save (.file text.toUTF8) = .ok (text, .file text.toUTF8) := by
  obtain ⟨config, rfl⟩ := reached.typed
  have digits : (Nat.toDigits 10 config.connection.port.natAbs).length ≤ Toml.mostDigits := by
    have short : decide ((Nat.toDigits 10 config.connection.port.natAbs).length > mostDigits) = false := short
    exact Nat.not_lt.mp (of_decide_eq_false short)
  have timed := same config.connection.connectTimeout rfl
  have again : (ofConfig config.kept).save (.file config.document.toUTF8) =
      .ok (config.kept.document, .file config.kept.document.toUTF8) := save_ofConfig nofun short
  rw [Config.document_kept] at again
  exact ⟨config, config.document, rfl, save_ofConfig writable short,
    Config.parse_entries digits timed, Config.load_document digits timed, again⟩

def awkward : Draft :=
  { (ofConfig {}).withFields [
      ("host", .text "a\"b\\c\x00\x1f\x7f\t'"),
      ("user", .text ""),
      ("password", .text "\"\"\"\r\n[connection]\nport = 1\u0085\u2028# \\u0041"),
      ("port", .int (-100000000000000000000)),
      ("charset", .text ""),
      ("connect_timeout", .float (.finite false 5000000000000000 1))] with echoSql := true }

theorem awkward_load_save : awkward.Reached ∧ tooLong awkward.port = false ∧
    awkward.connectTimeout = .float (.finite false 5000000000000000 1) ∧
    Binary64.text (.finite false 5000000000000000 1) = "1e+16" ∧
    Binary64.ReadsBack (.finite false 5000000000000000 1) ∧
    ∃ config text, awkward = ofConfig config ∧ awkward.save .absent = .ok (text, .file text.toUTF8) ∧
      Toml.parse text = .ok config.entries ∧ Config.load (.file text.toUTF8) = .ok config.kept ∧
      (ofConfig config.kept).save (.file text.toUTF8) = .ok (text, .file text.toUTF8) := by
  have reached : awkward.Reached := by
    refine .flagged (.updated .standing ?_) (by decide : Validation.flag? (.text "Yes") = some true)
    simp only [List.forall_mem_cons]
    exact ⟨.text .host _, .text .user _, .text .password _, .port _, .charset _, .timeout _, nofun⟩
  have short : tooLong awkward.port = false := by decide +kernel
  have same : Binary64.ReadsBack (.finite false 5000000000000000 1) := by
    intro y rest read
    have number : (match Toml.scalar (Binary64.text (.finite false 5000000000000000 1)).toList with
        | .ok (.float y, _) => decide (y = .finite false 5000000000000000 1)
        | _ => false) = true := by decide +kernel
    rw [read] at number
    exact of_decide_eq_true number
  refine ⟨reached, short, rfl, by decide +kernel, same, reached.load_save short (fun x timeout => ?_) nofun⟩
  cases timeout
  exact same

end Draft

end SqlGateway
