import SqlGateway.Proofs.Blocking
import SqlGateway.Proofs.Filed
import SqlGateway.Proofs.Magnitude

/-!
What keeps the settings from being loaded. There are four such things, and each shows in the content of the file:
octets that encode no text, an integer of too many digits, too many levels of arrays and tables for the stack, and a
time that is beyond every number. Whatever else is no document is loaded as the default settings.
-/

namespace SqlGateway

open Toml

namespace Settings

variable {held : Table} {problem : Problem}

theorem timeoutAt_eq_error_iff : timeoutAt? held = .error problem ↔ problem = .timeoutTooLarge ∧
    ∃ n, Entries.get? "connect_timeout" held = some (.integer n) ∧ Binary64.leastExcess ≤ n.natAbs := by
  unfold timeoutAt?
  constructor
  · intro failed
    split at failed
    · cases failed
    · rename_i n found
      split at failed
      · cases failed
      · rename_i tooLarge
        cases failed
        exact ⟨rfl, n, found, (Binary64.ofInt_eq_none_iff n).mp tooLarge⟩
    · cases failed
  · rintro ⟨rfl, n, found, large⟩
    rw [found]
    dsimp only
    rw [(Binary64.ofInt_eq_none_iff n).mpr large]

theorem ofTable_eq_error_iff [Validation] : ofTable held = .error problem ↔ timeoutAt? held = .error problem := by
  rw [ofTable_eq]
  constructor
  · exact map_eq_error
  · intro failed
    rw [failed]
    rfl

end Settings

namespace Config

variable {problem : Settings.Problem}

theorem eq_encoded_or_not (content : ByteArray) :
    (∃ text : String, content = text.toUTF8) ∨
      String.fromUTF8? content = none ∧ ∀ text : String, text.toUTF8 ≠ content := by
  by_cases valid : content.IsValidUTF8
  · exact .inl ⟨String.fromUTF8 content valid, rfl⟩
  · refine .inr ⟨dif_neg valid, ?_⟩
    rintro text rfl
    exact valid text.isValidUTF8

theorem eq_of_same_file {text other : String} (same : Place.file text.toUTF8 = .file other.toUTF8) :
    text = other := by
  injection same with octets
  exact String.toByteArray_inj.mp octets

section

variable [Validation]

theorem ofTable_eq_error_iff {root : Table} : ofTable root = .error problem ↔
    ∃ held, Entries.get? "connection" root = some (.table held) ∧ Settings.ofTable held = .error problem := by
  rw [ofTable_eq]
  constructor
  · intro failed
    have failed := map_eq_error failed
    unfold connectionAt at failed
    split at failed
    · rename_i held found
      exact ⟨held, found, failed⟩
    · cases failed
  · rintro ⟨held, found, failed⟩
    rw [connectionAt, found]
    dsimp only
    rw [failed]
    rfl

/-- A document fails by its time alone. -/
theorem ofTable_eq_error_of_keyed {root : Table} (keyed : Keyed (.table root)) : ofTable root = .error problem ↔
    problem = .timeoutTooLarge ∧
      ∃ n, Stands ["connection", "connect_timeout"] (.integer n) root ∧ Binary64.leastExcess ≤ n.natAbs := by
  rw [ofTable_eq_error_iff]
  constructor
  · rintro ⟨held, found, failed⟩
    obtain ⟨rfl, n, there, large⟩ := Settings.timeoutAt_eq_error_iff.mp (Settings.ofTable_eq_error_iff.mp failed)
    exact ⟨rfl, n, keyed.stands_below.mpr ⟨held, found, (keyed.get found).stands_here.mpr there⟩, large⟩
  · rintro ⟨rfl, n, stands, large⟩
    obtain ⟨held, found, there⟩ := keyed.stands_below.mp stands
    have failed := Settings.timeoutAt_eq_error_iff.mpr ⟨rfl, n, (keyed.get found).stands_here.mp there, large⟩
    exact ⟨held, found, Settings.ofTable_eq_error_iff.mpr failed⟩

end

section

variable [Stack]

theorem keyed_of_parse {text : String} {root : Table} (parsed : parse text = .ok root) : Keyed (.table root) := by
  have answered := parse_answers text
  rw [parsed] at answered
  exact answered

theorem givenUp_of_parse {text : String} {problem : Toml.Problem} (failed : parse text = .error problem) :
    GivenUp Stack.room text.toList problem := by
  have answered := parse_answers text
  rw [failed] at answered
  exact answered

/-- What keeps the settings from being loaded from a place. -/
inductive Hindered : Place → Settings.Problem → Prop
  | notUtf8 {content : ByteArray} : (∀ text : String, text.toUTF8 ≠ content) → Hindered (.file content) .notUtf8
  | tooManyDigits {text : String} {room : Nat} {cs : List Char} : Comes text room cs → ¬ Scarce room cs →
    LongInteger cs → Hindered (.file text.toUTF8) .tooManyDigits
  | tooDeep {text : String} {room : Nat} {cs : List Char} : Comes text room cs → Scarce room cs →
    Hindered (.file text.toUTF8) .tooDeep
  | timeoutTooLarge {text : String} {root : Table} {n : Int} : parse text = .ok root →
    Stands ["connection", "connect_timeout"] (.integer n) root → Binary64.leastExcess ≤ n.natAbs →
    Hindered (.file text.toUTF8) .timeoutTooLarge

theorem hindered_of_tooManyDigits {text : String} (long : parse text = .error .tooManyDigits) :
    Hindered (.file text.toUTF8) .tooManyDigits := by
  obtain ⟨room, cs, comes, stops⟩ := (parse_error_iff text (by decide)).mp long
  cases stops with
  | long enough digits => exact .tooManyDigits comes enough digits

theorem hindered_of_tooDeep {text : String} (deep : parse text = .error .tooDeep) :
    Hindered (.file text.toUTF8) .tooDeep := by
  obtain ⟨room, cs, comes, stops⟩ := (parse_error_iff text (by decide)).mp deep
  cases stops with
  | scarce scarce => exact .tooDeep comes scarce

/-- Nothing keeps such a text from being loaded: its integers are short, it opens no more than there is room for,
and its time is within the numbers. -/
structure Tame (text : String) : Prop where
  short : ¬ LongNumeral text.toList
  shallow : weight text.toList ≤ Stack.room
  timely : ∀ root n, parse text = .ok root → Stands ["connection", "connect_timeout"] (.integer n) root →
    n.natAbs < Binary64.leastExcess

theorem Tame.not_hindered {text : String} (tame : Tame text) {place : Place} (there : place = .file text.toUTF8) :
    ¬ Hindered place problem := by
  intro hindered
  cases hindered with
  | notUtf8 never =>
    cases there
    exact never text rfl
  | tooManyDigits comes enough digits =>
    cases eq_of_same_file there
    have long := (parse_error_iff text (by decide)).mpr ⟨_, _, comes, .long enough digits⟩
    cases givenUp_of_parse long with
    | tooManyDigits numeral => exact tame.short numeral
  | tooDeep comes scarce =>
    cases eq_of_same_file there
    have deep := (parse_error_iff text (by decide)).mpr ⟨_, _, comes, .scarce scarce⟩
    cases givenUp_of_parse deep with
    | tooDeep heavy => exact absurd tame.shallow (Nat.not_le.mpr heavy)
  | timeoutTooLarge parsed stands large =>
    cases eq_of_same_file there
    exact absurd large (Nat.not_le.mpr (tame.timely _ _ parsed stands))

variable [Validation]

theorem hindered_of_error {place : Place} (failed : load place = .error problem) : Hindered place problem := by
  cases place with
  | absent => cases failed
  | directory => cases failed
  | file content =>
    rcases eq_encoded_or_not content with ⟨text, rfl⟩ | ⟨undecoded, never⟩
    · rw [load_encoded] at failed
      unfold ofText at failed
      split at failed
      · rename_i root parsed
        obtain ⟨rfl, n, stands, large⟩ := (ofTable_eq_error_of_keyed (keyed_of_parse parsed)).mp failed
        exact .timeoutTooLarge parsed stands large
      · cases failed
      · rename_i long
        cases failed
        exact hindered_of_tooManyDigits long
      · rename_i deep
        cases failed
        exact hindered_of_tooDeep deep
    · rw [load, undecoded] at failed
      cases failed
      exact .notUtf8 never

theorem Hindered.error {place : Place} (hindered : Hindered place problem) : load place = .error problem := by
  cases hindered with
  | @notUtf8 content never =>
    rcases eq_encoded_or_not content with ⟨text, rfl⟩ | ⟨undecoded, -⟩
    · exact absurd rfl (never text)
    · rw [load, undecoded]
  | tooManyDigits comes enough digits =>
    have long := (parse_error_iff _ (by decide)).mpr ⟨_, _, comes, .long enough digits⟩
    rw [load_encoded, ofText, long]
  | tooDeep comes scarce =>
    have deep := (parse_error_iff _ (by decide)).mpr ⟨_, _, comes, .scarce scarce⟩
    rw [load_encoded, ofText, deep]
  | timeoutTooLarge parsed stands large =>
    rw [load_encoded, ofText, parsed]
    exact (ofTable_eq_error_of_keyed (keyed_of_parse parsed)).mpr ⟨rfl, _, stands, large⟩

theorem load_of_no_document {place : Place} (none : ∀ text root, place = .file text.toUTF8 → parse text ≠ .ok root)
    (free : ∀ problem, ¬ Hindered place problem) : load place = .ok {} := by
  cases place with
  | absent => rfl
  | directory => rfl
  | file content =>
    rcases eq_encoded_or_not content with ⟨text, rfl⟩ | ⟨-, never⟩
    · rw [load_encoded, ofText]
      split
      · rename_i root parsed
        exact absurd parsed (none text root rfl)
      · rfl
      · rename_i long
        exact absurd (hindered_of_tooManyDigits long) (free _)
      · rename_i deep
        exact absurd (hindered_of_tooDeep deep) (free _)
    · exact absurd (.notUtf8 never) (free _)

/-- Loading fails exactly where something hinders it, which nothing does in a tame text. Where nothing hinders it and
no document stands, the settings are the default ones. -/
theorem load_error_iff_hindered (place : Place) :
    (∀ problem, load place = .error problem ↔ Hindered place problem) ∧
      ((∀ text root, place = .file text.toUTF8 → parse text ≠ .ok root) → (∀ problem, ¬ Hindered place problem) →
        load place = .ok {}) ∧
      ∀ text, place = .file text.toUTF8 → Tame text → ∃ config, load place = .ok config := by
  refine ⟨fun problem => ⟨hindered_of_error, Hindered.error⟩, load_of_no_document, fun text there tame => ?_⟩
  cases loaded : load place with
  | ok config => exact ⟨config, rfl⟩
  | error problem => exact absurd (hindered_of_error loaded) (tame.not_hindered there)

end

def unterminated : String := "host = [unterminated"

theorem unterminated_loaded : Tame unterminated ∧ load (.file unterminated.toUTF8) = .ok {} := by
  have malformed (root : Table) : parse unterminated ≠ .ok root := by
    have failed : (parse unterminated).toOption.isNone = true := by decide +kernel
    intro parsed
    rw [parsed] at failed
    cases failed
  have tame : Tame unterminated := by
    refine ⟨?_, by decide, fun root _ parsed => absurd parsed (malformed root)⟩
    rintro ⟨row, inside, -, many⟩
    have short : row.length ≤ unterminated.toList.length := inside.length_le
    have digits : row.countP Char.isDigit ≤ row.length := List.countP_le_length
    have least : ¬ mostDigits < unterminated.toList.length := by decide
    exact least (Nat.lt_of_lt_of_le many (Nat.le_trans digits short))
  obtain ⟨errors, falls, returns⟩ := load_error_iff_hindered (.file unterminated.toUTF8)
  obtain ⟨config, loaded⟩ := returns unterminated rfl tame
  refine ⟨tame, falls ?_ fun problem hindered => ?_⟩
  · intro text root same
    cases eq_of_same_file same
    exact malformed root
  · cases loaded.symm.trans ((errors problem).mpr hindered)

/-- One octet that begins no character is neither loaded nor taken for a missing file. -/
theorem lone_octet_not_loaded : ¬ ∃ config, load (.file ⟨#[0xFF]⟩) = .ok config := by
  have undecoded : String.fromUTF8? ⟨#[0xFF]⟩ = none := by decide +kernel
  rintro ⟨config, loaded⟩
  rw [load, undecoded] at loaded
  cases loaded

end Config

end SqlGateway
