import Locator.Logging
import Locator.Parameters
import Locator.Settings.StaticFormat
import Locator.StaticConnector

/-!
# Settings of a host

What a host program is told: which reports to show, the parameters of the repository it wants, and
the naming service to look in.

* `HostSettings.toTree`, `HostSettings.format`: the settings as trees.
* `HostSettings.redacted`: the same settings without secrets.
* `HostSettings.raiseVerbosity`: more reports on the console.
-/

namespace Locator

namespace Parameters

/-- The parameters as a tree. -/
def toTree (p : Parameters) : Tree := .textMap p.table

/-- Parameters, read from a tree. -/
def decoder : Decoder Parameters := fun dialect t => Parameters.mk <$> Decoder.text.map dialect t

end Parameters

/-- The naming service of a host. -/
structure DirectorySettings where
  /-- The registered name of the connector. -/
  connector : String
  /-- The static directory of the host. -/
  static : StaticSettings
deriving DecidableEq

namespace DirectorySettings

/-- An empty static directory. -/
def default : DirectorySettings := ⟨StaticConnector.registeredName, .empty⟩

/-- The settings as a tree. -/
def toTree (d : DirectorySettings) : Tree :=
  .map [("connector", .text d.connector), ("static_directory", d.static.toTree)]

/-- The fields of the settings. -/
def format : RecordFormat DirectorySettings DirectorySettings where
  name := "DirectorySection"
  fields :=
    [.of "connector" Decoder.text fun x d => { d with connector := x },
      .of "static_directory" StaticSettings.format.decode fun x d => { d with static := x }]
  start := .default
  finish := .ok

instance : Display DirectorySettings := ⟨fun d =>
  .record "DirectorySection"
    [("connector", .text d.connector), ("static_directory", shown d.static)] false⟩

end DirectorySettings

/-- What a host program is told. -/
structure HostSettings where
  /-- What is shown on the console. -/
  logging : Logging
  /-- The repository that is wanted. -/
  parameters : Parameters
  /-- The naming service to look in. -/
  directory : DirectorySettings
deriving DecidableEq

namespace HostSettings

/-- What holds if nothing is said. -/
def default : HostSettings := ⟨.standard, .empty, .default⟩

/-- The settings as a tree. -/
def toTree (s : HostSettings) : Tree :=
  .map [("logging", Logging.toTree s.logging), ("init_parameters", s.parameters.toTree),
    ("directory", s.directory.toTree)]

/-- The fields of the settings. -/
def format : RecordFormat HostSettings HostSettings where
  name := "AppConfig"
  fields :=
    [.of "logging" Logging.decoder fun x s => { s with logging := x },
      .of "init_parameters" Parameters.decoder fun x s => { s with parameters := x },
      .of "directory" DirectorySettings.format.decode fun x s => { s with directory := x }]
  start := .default
  finish := .ok

/-- Parameters without the secret that is presented to the naming service. -/
def redactedParameters (p : Parameters) : Parameters :=
  if (p.get? StaticConnector.credentialsKey).isSome then
    p.insert StaticConnector.credentialsKey Locator.redacted
  else p

/-- The settings without secrets. -/
def redacted (s : HostSettings) : HostSettings where
  logging := s.logging
  parameters := redactedParameters s.parameters
  directory := { s.directory with static := s.directory.static.redacted }

/-- The default section after a number of requests for more. -/
def raisedSection (count : Nat) (sect : Section) : Section :=
  match count with
  | 0 => sect
  | 1 => ⟨some .debug⟩
  | _ => ⟨some .trace⟩

/-- The settings after a number of requests for more reports. The default section is there
afterwards. -/
def raiseVerbosity (count : Nat) (s : HostSettings) : HostSettings :=
  let sect := (s.logging.get? Logging.defaultName).getD .default
  { s with logging := s.logging.insert Logging.defaultName (raisedSection count sect) }

end HostSettings

end Locator
