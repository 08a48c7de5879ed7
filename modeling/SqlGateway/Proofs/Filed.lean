import SqlGateway.Proofs.Lines
import SqlGateway.Proofs.Taken

/-!
The settings file. Its text is a document of the flag and one table, and what is found in that document are
the settings that were written, except that an empty text of host, user, password or database is none.
-/

namespace SqlGateway

open Toml

def kept? (text? : Option String) : Option String := text?.filter fun s => s ≠ ""

namespace Settings

/-- The settings without empty texts. -/
def kept (settings : Settings) : Settings :=
  { settings with
    host := kept? settings.host
    user := kept? settings.user
    password := kept? settings.password
    database := kept? settings.database }

def fieldLines (settings : Settings) (field : Field) : List Line :=
  ((kept? (settings.field field)).map (Line.text field.name)).toList

def lines (settings : Settings) : List Line :=
  settings.fieldLines .host ++ settings.fieldLines .user ++ settings.fieldLines .password ++
    settings.fieldLines .database ++
    [.integer "port" settings.port, .text "driver" settings.driver, .text "charset" settings.charset,
      .float "connect_timeout" settings.connectTimeout]

end Settings

namespace Config

def kept (config : Config) : Config := { config with connection := config.connection.kept }

def document (config : Config) : String :=
  String.ofList
    (Toml.document [.flag "echo_sql" config.echoSql] "connection" config.connection.lines)

def entries (config : Config) : Table :=
  [("echo_sql", .boolean config.echoSql),
    ("connection", .table (config.connection.lines.map Line.entry))]

end Config

def Toml.Line.shown (line : Line) : String := line.key ++ " = " ++ String.ofList line.written

theorem toList_shown (line : Line) : (line.shown ++ "\n").toList = line.chars := by
  simp [Line.shown, Line.chars]

theorem toList_lines (lines : List Line) :
    ((lines.map Line.shown).map (· ++ "\n")).flatMap String.toList = lines.flatMap Line.chars := by
  rw [List.map_map, List.flatMap_map]
  exact congrArg (List.flatMap · lines) (funext toList_shown)

namespace Draft

theorem textLine_text (name s : String) : textLine name (.text s) = .ok (Line.text name s).shown := by
  simp [textLine, Line.text, Line.shown]

theorem optionalLine_kept (name : String) (text? : Option String) :
    optionalLine name ((text?.map Value.text).getD .null) =
      .ok (((kept? text?).map (Line.text name)).toList.map Line.shown) := by
  cases text? with
  | none => rfl
  | some s =>
    by_cases empty : s = ""
    · subst empty
      rfl
    · have held : kept? (some s) = some s := Option.filter_some_pos (by simp [empty])
      have filled : (Value.text s).truthy = true := by simp [Value.truthy, empty]
      have line : optionalLine name (.text s) = .ok [(Line.text name s).shown] := by
        rw [optionalLine, if_pos filled, textLine_text]
        rfl
      rw [held]
      exact line

theorem plainLine_short (name : String) {value : Value} (short : tooLong value = false) :
    plainLine name value = .ok (name ++ " = " ++ value.display) := by
  rw [plainLine, short, if_neg Bool.false_ne_true]

theorem lines_ofConfig {config : Config} (short : tooLong (.int config.connection.port) = false) :
    (ofConfig config).lines = .ok ((Line.flag "echo_sql" config.echoSql).shown :: "" :: "[connection]" ::
      config.connection.lines.map Line.shown) := by
  have port : plainLine "port" (.int config.connection.port) =
      .ok (Line.integer "port" config.connection.port).shown := by
    rw [plainLine_short "port" short, Value.display_int, Line.integer, Line.shown, String.ofList_toList]
  have timeout : plainLine "connect_timeout" (.float config.connection.connectTimeout) =
      .ok (Line.float "connect_timeout" config.connection.connectTimeout).shown := by
    rw [plainLine_short "connect_timeout" rfl, Value.display_float, Line.float, Line.shown,
      String.ofList_toList]
  have flag : "echo_sql = " ++ (if (ofConfig config).echoSql then "true" else "false") =
      (Line.flag "echo_sql" config.echoSql).shown := by
    rw [Line.flag, Line.shown, String.ofList_toList]
    rfl
  rw [Draft.lines, flag]
  simp only [ofConfig, optionalLine_kept, textLine_text, port, timeout]
  refine congrArg Except.ok ?_
  simp [Settings.lines, Settings.fieldLines, Settings.field, Field.name]

theorem render_ofConfig {config : Config} (short : tooLong (.int config.connection.port) = false) :
    (ofConfig config).render = .ok config.document := by
  rw [render, lines_ofConfig short]
  refine congrArg Except.ok (String.toList_inj.mp ?_)
  have header : ("[connection]" ++ "\n").toList = '[' :: ("connection".toList ++ [']', '\n']) := by
    decide
  have flag := toList_shown (Line.flag "echo_sql" config.echoSql)
  rw [Config.document, String.toList_ofList, String.toList_join, Toml.document]
  simp only [List.map_cons, List.flatMap_cons, flag, header, toList_lines]
  simp

end Draft

namespace Settings

variable (settings : Settings)

theorem keys_fieldLines (field : Field) : ((settings.fieldLines field).map Line.key).Sublist [field.name] := by
  unfold fieldLines
  cases kept? (settings.field field) with
  | none => exact List.nil_sublist _
  | some s => exact List.Sublist.refl _

theorem nodup_keys_lines : (settings.lines.map Line.key).Nodup := by
  have names : (settings.lines.map Line.key).Sublist ["host", "user", "password", "database", "port", "driver",
      "charset", "connect_timeout"] := by
    simp only [lines, List.map_append]
    exact ((((settings.keys_fieldLines .host).append (settings.keys_fieldLines .user)).append
      (settings.keys_fieldLines .password)).append (settings.keys_fieldLines .database)).append
        (List.Sublist.refl _)
  exact names.nodup (by decide)

def fieldItem? (key : String) (field : Field) : Option Toml :=
  if field.name = key then (kept? (settings.field field)).map .text else none

theorem get?_fieldLines (key : String) (field : Field) :
    Entries.get? key ((settings.fieldLines field).map Line.entry) = settings.fieldItem? key field := by
  unfold fieldLines fieldItem?
  cases kept? (settings.field field) with
  | none => simp [Entries.get?]
  | some s => simp [Entries.get?, Line.entry, Line.text]

theorem get?_lines (key : String) : Entries.get? key (settings.lines.map Line.entry) =
    ((((settings.fieldItem? key .host).or (settings.fieldItem? key .user)).or
      (settings.fieldItem? key .password)).or (settings.fieldItem? key .database)).or
        (Entries.get? key [("port", .integer settings.port), ("driver", .text settings.driver),
          ("charset", .text settings.charset), ("connect_timeout", .float settings.connectTimeout)]) := by
  simp only [lines, List.map_append, Entries.get?_append, get?_fieldLines]
  rfl

theorem textAt_name (field : Field) :
    textAt? (settings.lines.map Line.entry) field.name = kept? (settings.field field) := by
  have found : Entries.get? field.name (settings.lines.map Line.entry) =
      (kept? (settings.field field)).map Toml.text := by
    rw [get?_lines]
    cases field <;> simp [fieldItem?, Field.name, Entries.get?]
  rw [textAt?, found]
  cases kept? (settings.field field) <;> rfl

theorem ofTable_lines [Validation] : ofTable (settings.lines.map Line.entry) = .ok settings.kept := by
  have port : portOf? (settings.lines.map Line.entry) = some settings.port := by
    simp [portOf?, get?_lines, fieldItem?, Field.name, Entries.get?]
  have driver : textAt? (settings.lines.map Line.entry) "driver" = some settings.driver := by
    simp [textAt?, get?_lines, fieldItem?, Field.name, Entries.get?]
  have charset : textAt? (settings.lines.map Line.entry) "charset" = some settings.charset := by
    simp [textAt?, get?_lines, fieldItem?, Field.name, Entries.get?]
  have timeout : timeoutAt? (settings.lines.map Line.entry) = .ok (some settings.connectTimeout) := by
    simp [timeoutAt?, get?_lines, fieldItem?, Field.name, Entries.get?]
  have host := settings.textAt_name .host
  have user := settings.textAt_name .user
  have password := settings.textAt_name .password
  have database := settings.textAt_name .database
  simp only [Field.name, Settings.field] at host user password database
  rw [ofTable_eq, timeout]
  simp only [host, user, password, database, port, driver, charset]
  rfl

theorem kept_kept (text? : Option String) : kept? (kept? text?) = kept? text? := by
  simp [kept?, Option.filter_filter]

theorem lines_kept : settings.kept.lines = settings.lines := by
  simp [lines, fieldLines, kept, Settings.field, kept_kept]

variable {settings}

theorem fit_lines [Stack] (short : (Nat.toDigits 10 settings.port.natAbs).length ≤ Toml.mostDigits)
    (same : settings.connectTimeout.ReadsBack) : ∀ line ∈ settings.lines, line.Fit := by
  have field (field : Field) : ∀ line ∈ settings.fieldLines field, line.Fit := by
    have bare : isBare field.name = true := by cases field <;> decide
    intro line member
    obtain ⟨s, -, rfl⟩ := Option.map_eq_some_iff.mp (Option.mem_toList.mp member)
    exact Line.text_fit bare s
  simp only [lines, List.forall_mem_append, List.forall_mem_cons]
  exact ⟨⟨⟨⟨field .host, field .user⟩, field .password⟩, field .database⟩,
    Line.integer_fit (by decide) short, Line.text_fit (by decide) _, Line.text_fit (by decide) _,
    Line.float_fit (by decide) same, nofun⟩

end Settings

namespace Config

theorem load_encoded [Stack] [Validation] (text : String) : load (.file text.toUTF8) = ofText text := by
  have decoded : String.fromUTF8? text.toUTF8 = some text := by
    unfold String.fromUTF8?
    rw [String.toUTF8_eq_toByteArray, dif_pos text.isValidUTF8]
    rfl
  rw [load, decoded]

variable {config : Config}

theorem document_kept : config.kept.document = config.document := by
  rw [document, kept, config.connection.lines_kept, document]

section

variable [Stack] (short : (Nat.toDigits 10 config.connection.port.natAbs).length ≤ Toml.mostDigits)
  (same : config.connection.connectTimeout.ReadsBack)

include short same

/-- The text is a document, whatever the settings hold. -/
theorem parse_entries : Toml.parse config.document = .ok config.entries := by
  have flag := Line.flag_fit (by decide : isBare "echo_sql" = true) config.echoSql
  have names : ["echo_sql", "connection"].Nodup := by decide
  exact Toml.parse_document (by decide) (List.forall_mem_cons.mpr ⟨flag, Settings.fit_lines short same⟩) names
    config.connection.nodup_keys_lines

theorem load_document [Validation] : load (.file config.document.toUTF8) = .ok config.kept := by
  have table : ofTable config.entries = .ok config.kept := by
    have held : Entries.get? "connection" config.entries =
        some (.table (config.connection.lines.map Line.entry)) := by
      simp [entries, Entries.get?]
    have flag : echoAt config.entries = config.echoSql := by
      simp [echoAt, entries, Entries.get?]
    rw [ofTable_eq, connectionAt, held, flag]
    exact congrArg (Except.map _) (Settings.ofTable_lines _)
  rw [load_encoded, ofText, parse_entries short same]
  exact table

end

end Config

end SqlGateway
