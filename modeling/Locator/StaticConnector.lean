import Locator.StaticSettings

/-!
# Connecting to a static directory

A connector records the environment of everybody who connects, accepted or not, and then decides. A
directory that is marked unavailable accepts nobody. If both a principal and a secret are set, the
environment has to present both. All contexts share the one directory: what is bound later is found
through contexts opened earlier.
-/

namespace Locator

/-- A static directory and the environments that connected to it. -/
structure StaticService (ρ : Type) where
  /-- The directory. -/
  directory : StaticDirectory ρ
  /-- The environments, in the order of the calls. -/
  environments : List Environment
deriving DecidableEq

namespace StaticService

variable {ρ : Type}

/-- The service of a directory that nobody connected to yet. -/
def ofDirectory (d : StaticDirectory ρ) : StaticService ρ := ⟨d, []⟩

instance : Inhabited (StaticService ρ) := ⟨ofDirectory .empty⟩

/-- The directory as a part of the service. -/
def directoryPart : Part (StaticService ρ) (StaticDirectory ρ) :=
  ⟨(·.directory), fun d s => { s with directory := d }⟩

/-- Put an environment on record. -/
def record (env : Environment) (s : StaticService ρ) : StaticService ρ :=
  { s with environments := s.environments ++ [env] }

end StaticService

/-- Who may connect to a static directory. -/
structure StaticConnector where
  /-- Who has to be named. -/
  principal? : Option String
  /-- The secret that has to be presented. -/
  credentials? : Option String
deriving DecidableEq

namespace StaticConnector

/-- The name under which a host registers the connector. -/
def registeredName : String := "static_directory_plugin::StaticDirectoryConnector"

/-- The entry that names the principal. -/
def principalKey : String := "directory.principal"

/-- The entry that presents the secret. -/
def credentialsKey : String := "directory.credentials"

/-- The entry that can mark the directory unavailable. -/
def availableKey : String := "directory.available"

/-- The place that reports come from. -/
def target : String := "static_directory_plugin::connector"

/-- Everybody may connect. -/
def anonymous : StaticConnector := ⟨none, none⟩

/-- The connector of the settings. -/
def ofSettings (s : StaticSettings) : StaticConnector := ⟨s.principal?, s.credentials?⟩

/-- The directory is not marked unavailable. -/
def checkAvailable (env : Environment) : Except NamingError Unit :=
  match env.get? availableKey with
  | some v =>
    if v.toLower = "false" then .error (.serviceUnavailable "directory marked unavailable")
    else .ok ()
  | none => .ok ()

/-- The environment presents what has to be presented. -/
def authenticate (c : StaticConnector) (env : Environment) : Except NamingError Unit :=
  match c.principal?, c.credentials? with
  | some principal, some credentials =>
    if env.get? principalKey ≠ some principal then
      .error (.authenticationFailed s!"unknown principal for `{principalKey}`")
    else if env.get? credentialsKey ≠ some credentials then
      .error (.authenticationFailed s!"invalid `{credentialsKey}` for principal `{principal}`")
    else .ok ()
  | _, _ => .ok ()

/-- The environment is accepted. -/
def checkAccess (c : StaticConnector) (env : Environment) : Except NamingError Unit := do
  checkAvailable env
  c.authenticate env

/-- The event of a refused environment. -/
def refusalEvent (e : NamingError) : Event where
  level := .warn
  target := target
  message := "Rejected directory connection"
  fields := [("error", e.message)]
  spans := []

/-- The event of an accepted environment. -/
def acceptanceEvent (env : Environment) : Event where
  level := .debug
  target := target
  message := "Directory context created"
  fields := [("env_keys", toString env.size)]
  spans := []

variable {ρ : Type}

/-- The view of the directory that those who connected have. -/
def context : DirectoryContext (StaticService ρ) ρ :=
  ⟨fun name => (StaticDirectory.lookup name).within StaticService.directoryPart⟩

/-- Put the environment on record and decide. -/
def connect (c : StaticConnector) (env : Environment) :
    Act (StaticService ρ) NamingError (DirectoryContext (StaticService ρ) ρ) := do
  Act.modify (StaticService.record env)
  (Act.ofExcept (c.checkAccess env)).onError fun e => do
    Act.emit (refusalEvent e)
    Act.fail e
  Act.emit (acceptanceEvent env)
  pure context

/-- The connector, as components use it. -/
def connector (c : StaticConnector) : DirectoryConnector (StaticService ρ) ρ := ⟨c.connect⟩

/-- The diagnostic view of the connector to a directory. -/
def view (c : StaticConnector) (d : StaticDirectory ρ) : Shown :=
  .record "StaticDirectoryConnector"
    [("bindings", .texts d.names), ("principal", .optionText c.principal?)] true

end StaticConnector

end Locator
