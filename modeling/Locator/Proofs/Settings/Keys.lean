import Locator.Proofs.Settings.Slots

/-!
# Keys of settings

The single values that settings of a host hold by name: the level of a section, a parameter, the
connector, and who may connect to the static directory.

* `SettingsKey`, with the path to the key, the kind of its value, and how to look at it and to set
  it;
* `SettingsKey.ofText?`: the value that a text stands for at a key;
* `SettingsKey.slot`: a key is a place in settings;
* `SettingsKey.decoder_eq_ok_iff`: what is read at a key. -/

namespace Locator

/-- A single value of settings that is reached by names. -/
inductive SettingsKey where
  /-- The level of a section. -/
  | level (sect : String)
  /-- A parameter of the repository that is wanted. -/
  | parameter (name : String)
  /-- The registered name of the connector. -/
  | connector
  /-- Who has to be named by those who connect. -/
  | principal
  /-- The secret they have to present. -/
  | credentials

namespace SettingsKey

/-- The names on the way to the key, and its own. -/
def path : SettingsKey → List String
  | level sect => ["logging", sect, "console_level"]
  | parameter name => ["init_parameters", name]
  | connector => ["directory", "connector"]
  | principal => ["directory", "static_directory", "principal"]
  | credentials => ["directory", "static_directory", "credentials"]

/-- Every key has a path of at least one part. -/
theorem exists_path_eq_cons (k : SettingsKey) : ∃ first rest, k.path = first :: rest := by
  cases k with
  | level sect => exact ⟨_, _, rfl⟩
  | parameter name => exact ⟨_, _, rfl⟩
  | connector | principal | credentials => exact ⟨_, _, rfl⟩

/-- What the key holds. -/
def Value : SettingsKey → Type
  | level _ => Option Level
  | parameter _ | connector => String
  | principal | credentials => Option String

/-- How the value of the key is read. -/
def decoder : (k : SettingsKey) → Decoder k.Value
  | level _ => Section.levelDecoder
  | parameter _ | connector => Decoder.text
  | principal | credentials => Decoder.text.optional

/-- The value of the key. A section that is not there is silent about its level, and a parameter
that is not there is empty. -/
def get : (k : SettingsKey) → HostSettings → k.Value
  | level sect, s => ((s.logging.get? sect).getD .default).console?
  | parameter name, s => (s.parameters.get? name).getD ""
  | connector, s => s.directory.connector
  | principal, s => s.directory.static.principal?
  | credentials, s => s.directory.static.credentials?

/-- The settings with another value of the key, and all else as it was. -/
def set : (k : SettingsKey) → k.Value → HostSettings → HostSettings
  | level sect, l, s => { s with logging := s.logging.insert sect ⟨l⟩ }
  | parameter name, x, s => { s with parameters := s.parameters.insert name x }
  | connector, x, s => { s with directory := { s.directory with connector := x } }
  | principal, x?, s =>
    { s with
      directory := { s.directory with static := { s.directory.static with principal? := x? } } }
  | credentials, x?, s =>
    { s with
      directory := { s.directory with static := { s.directory.static with credentials? := x? } } }

/-- The value that a text stands for at the key, if it stands for one. -/
def ofText? : (k : SettingsKey) → String → Option k.Value
  | level _, v => Section.level? v
  | parameter _, v | connector, v => some v
  | principal, v | credentials, v => some (some v)

end SettingsKey

/-! ## Fields of the records -/

theorem Section.levelField :
    FieldOf Section.format "console_level" Section.levelDecoder (·.console?) fun l _ => ⟨l⟩ where
  field := rfl
  get_put _ _ := rfl
  put_get _ := rfl
  put_put _ _ _ := rfl
  others := by
    simp only [Section.format, List.forall_mem_singleton]
    exact fun hne => absurd rfl hne
  finish _ := rfl

theorem StaticSettings.principalField :
    FieldOf StaticSettings.format "principal" Decoder.text.optional (·.principal?)
      fun x? s => { s with principal? := x? } where
  field := rfl
  get_put _ _ := rfl
  put_get _ := rfl
  put_put _ _ _ := rfl
  others := by
    simp only [StaticSettings.format, List.forall_mem_cons]
    exact ⟨fun hne => absurd rfl hne,
      fun _ => Field.leavesAlone_of (fun _ _ => rfl) fun _ _ _ => rfl,
      fun _ => Field.leavesAlone_of (fun _ _ => rfl) fun _ _ _ => rfl, by simp⟩
  finish _ := rfl

theorem StaticSettings.credentialsField :
    FieldOf StaticSettings.format "credentials" Decoder.text.optional (·.credentials?)
      fun x? s => { s with credentials? := x? } where
  field := rfl
  get_put _ _ := rfl
  put_get _ := rfl
  put_put _ _ _ := rfl
  others := by
    simp only [StaticSettings.format, List.forall_mem_cons]
    exact ⟨fun _ => Field.leavesAlone_of (fun _ _ => rfl) fun _ _ _ => rfl,
      fun hne => absurd rfl hne,
      fun _ => Field.leavesAlone_of (fun _ _ => rfl) fun _ _ _ => rfl, by simp⟩
  finish _ := rfl

theorem DirectorySettings.connectorField :
    FieldOf DirectorySettings.format "connector" Decoder.text (·.connector)
      fun x d => { d with connector := x } where
  field := rfl
  get_put _ _ := rfl
  put_get _ := rfl
  put_put _ _ _ := rfl
  others := by
    simp only [DirectorySettings.format, List.forall_mem_cons]
    exact ⟨fun hne => absurd rfl hne,
      fun _ => Field.leavesAlone_of (fun _ _ => rfl) fun _ _ _ => rfl, by simp⟩
  finish _ := rfl

theorem DirectorySettings.staticField :
    FieldOf DirectorySettings.format "static_directory" StaticSettings.format.decode (·.static)
      fun x d => { d with static := x } where
  field := rfl
  get_put _ _ := rfl
  put_get _ := rfl
  put_put _ _ _ := rfl
  others := by
    simp only [DirectorySettings.format, List.forall_mem_cons]
    exact ⟨fun _ => Field.leavesAlone_of (fun _ _ => rfl) fun _ _ _ => rfl,
      fun hne => absurd rfl hne, by simp⟩
  finish _ := rfl

namespace HostSettings

theorem loggingField :
    FieldOf format "logging" Logging.decoder (·.logging) fun x s => { s with logging := x } where
  field := rfl
  get_put _ _ := rfl
  put_get _ := rfl
  put_put _ _ _ := rfl
  others := by
    simp only [format, List.forall_mem_cons]
    exact ⟨fun hne => absurd rfl hne,
      fun _ => Field.leavesAlone_of (fun _ _ => rfl) fun _ _ _ => rfl,
      fun _ => Field.leavesAlone_of (fun _ _ => rfl) fun _ _ _ => rfl, by simp⟩
  finish _ := rfl

theorem parametersField :
    FieldOf format "init_parameters" Parameters.decoder (·.parameters)
      fun x s => { s with parameters := x } where
  field := rfl
  get_put _ _ := rfl
  put_get _ := rfl
  put_put _ _ _ := rfl
  others := by
    simp only [format, List.forall_mem_cons]
    exact ⟨fun _ => Field.leavesAlone_of (fun _ _ => rfl) fun _ _ _ => rfl,
      fun hne => absurd rfl hne,
      fun _ => Field.leavesAlone_of (fun _ _ => rfl) fun _ _ _ => rfl, by simp⟩
  finish _ := rfl

theorem directoryField :
    FieldOf format "directory" DirectorySettings.format.decode (·.directory)
      fun x s => { s with directory := x } where
  field := rfl
  get_put _ _ := rfl
  put_get _ := rfl
  put_put _ _ _ := rfl
  others := by
    simp only [format, List.forall_mem_cons]
    exact ⟨fun _ => Field.leavesAlone_of (fun _ _ => rfl) fun _ _ _ => rfl,
      fun _ => Field.leavesAlone_of (fun _ _ => rfl) fun _ _ _ => rfl,
      fun hne => absurd rfl hne, by simp⟩
  finish _ := rfl

end HostSettings

/-- Each parameter is a place among the parameters. -/
theorem Parameters.slot (dialect : Dialect) (name : String) :
    Slot dialect Parameters.decoder [name] Decoder.text (fun p => (p.get? name).getD "")
      fun x p => p.insert name x where
  get_put x p := (Decoder.slot_map Decoder.text dialect name "").get_put x p.table
  reads := by
    intro t u p hd hleads hu
    obtain ⟨m, hm, rfl⟩ := exists_of_map_eq_ok hd
    obtain ⟨hread, hsame⟩ := (Decoder.slot_map Decoder.text dialect name "").reads hm hleads hu
    exact ⟨hread, congrArg Parameters.mk hsame⟩
  writes := by
    intro t w p x hd hleads hinner
    obtain ⟨m, hm, rfl⟩ := exists_of_map_eq_ok hd
    have hwrite := (Decoder.slot_map Decoder.text dialect name "").writes hm hleads hinner
    unfold decoder
    rw [hwrite]
    rfl

/-! ## Keys are places -/

namespace SettingsKey

/-- Each key is a place in the settings. -/
theorem slot (dialect : Dialect) (k : SettingsKey) :
    Slot dialect HostSettings.format.decode k.path k.decoder k.get k.set := by
  have hdirectory := HostSettings.directoryField.slot dialect
  have hstatic := DirectorySettings.staticField.slot dialect
  cases k with
  | level sect =>
    have hsection : Slot dialect Logging.decoder [sect] Section.format.decode
        (fun l => (l.get? sect).getD .default) fun x l => l.insert sect x :=
      Decoder.slot_map Section.format.decode dialect sect .default
    exact (HostSettings.loggingField.slot dialect).trans
      (hsection.trans (Section.levelField.slot dialect))
  | parameter name =>
    exact (HostSettings.parametersField.slot dialect).trans (Parameters.slot dialect name)
  | connector => exact hdirectory.trans (DirectorySettings.connectorField.slot dialect)
  | principal =>
    exact hdirectory.trans (hstatic.trans (StaticSettings.principalField.slot dialect))
  | credentials =>
    exact hdirectory.trans (hstatic.trans (StaticSettings.credentialsField.slot dialect))

variable {k : SettingsKey} {dialect : Dialect} {v : String} {y : k.Value} {t : Tree}

/-- A text is read as the value that it stands for. -/
theorem decoder_text (h : k.ofText? v = some y) : k.decoder dialect (.text v) = .ok y := by
  cases k with
  | level sect => exact Section.levelDecoder_eq_ok_iff.2 ⟨v, rfl, Section.level?_eq_some_iff.1 h⟩
  | parameter name | connector => exact congrArg Except.ok (Option.some.inj h)
  | principal | credentials => exact congrArg Except.ok (Option.some.inj h)

/-- A value that a text stands for is read from texts only. -/
theorem exists_text_of_decoder (h : k.ofText? v = some y) (hread : k.decoder dialect t = .ok y) :
    ∃ w, t = .text w ∧ k.ofText? w = some y := by
  cases k with
  | level sect =>
    obtain ⟨w, ht, hw⟩ := Section.levelDecoder_eq_ok_iff.1 hread
    exact ⟨w, ht, Section.level?_eq_some_iff.2 hw⟩
  | parameter name | connector =>
    cases t with
    | text w => exact ⟨w, rfl, congrArg some (Except.ok.inj hread)⟩
    | _ => cases hread
  | principal | credentials =>
    cases t with
    | text w => exact ⟨w, rfl, congrArg some (Except.ok.inj hread)⟩
    | null =>
      cases hread
      cases h
    | _ => cases hread

end SettingsKey

end Locator
