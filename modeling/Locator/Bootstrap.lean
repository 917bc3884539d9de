import Locator.Registry

/-!
# Bootstrap

From a plan to a local proxy in four steps: make the adapter factory, connect to the naming service,
look the location up, wrap what was found. Each step is taken once, and only if those before it
succeeded; the first failure is the one reported, with the events of the step that failed.
-/

namespace Locator

/-- What is wrong with the connection when the remote repository cannot be had. -/
inductive ConnectionErrorKind where
  | directoryUnavailable | incompatibleHandle
deriving DecidableEq, Repr

namespace ConnectionErrorKind

/-- The kind as a label for reports. -/
def label : ConnectionErrorKind → String
  | directoryUnavailable => "directory_unavailable"
  | incompatibleHandle => "incompatible_handle"

/-- The kind in words. -/
def message : ConnectionErrorKind → String
  | directoryUnavailable => "remote handle not found: invalid or unreachable directory"
  | incompatibleHandle => "remote handle cannot be adapted"

instance : Display ConnectionErrorKind := ⟨fun
  | directoryUnavailable => .word "DirectoryUnavailable"
  | incompatibleHandle => .word "IncompatibleHandle"⟩

end ConnectionErrorKind

/-- Why a bootstrap fails. -/
inductive BootstrapError where
  /-- The named adapter factory could not be prepared. -/
  | configuration (className : String) (cause : ComponentError)
  /-- The naming service was not reached, or gave nothing for the location. -/
  | directoryUnavailable (location : String) (cause : NamingError)
  /-- The adapter factory refused what was found at the location. -/
  | incompatibleHandle (location : String) (cause : AdapterError)
deriving DecidableEq, Repr

namespace BootstrapError

/-- What is wrong with the configuration, if that is the matter. -/
def configurationKind? : BootstrapError → Option ConfigurationErrorKind
  | configuration _ cause => some cause.kind
  | _ => none

/-- What is wrong with the connection, if that is the matter. -/
def connectionKind? : BootstrapError → Option ConnectionErrorKind
  | configuration .. => none
  | directoryUnavailable .. => some .directoryUnavailable
  | incompatibleHandle .. => some .incompatibleHandle

/-- The configuration is the matter. -/
def isConfiguration (e : BootstrapError) : Bool := e.configurationKind?.isSome

/-- The connection is the matter. -/
def isConnection (e : BootstrapError) : Bool := e.connectionKind?.isSome

/-- The kind of the failure as a label for reports. -/
def label : BootstrapError → String
  | configuration _ cause => cause.kind.label
  | directoryUnavailable .. => ConnectionErrorKind.directoryUnavailable.label
  | incompatibleHandle .. => ConnectionErrorKind.incompatibleHandle.label

/-- What the failure is about: the adapter factory, or the location. -/
def subject : BootstrapError → String
  | configuration className _ => className
  | directoryUnavailable location _ | incompatibleHandle location _ => location

/-- The failure of the naming service, if that is the cause. -/
def namingError? : BootstrapError → Option NamingError
  | directoryUnavailable _ cause => some cause
  | _ => none

/-- A failed connection in words. -/
def connectionMessage (kind : ConnectionErrorKind) (location cause : String) : String :=
  s!"{kind.message} (location `{location}`): {cause}"

/-- The failure in words. -/
def message : BootstrapError → String
  | configuration className cause =>
    s!"adapter factory could not be prepared: {cause.kind.message}: {className}"
  | directoryUnavailable location cause =>
    connectionMessage .directoryUnavailable location cause.message
  | incompatibleHandle location cause =>
    connectionMessage .incompatibleHandle location cause.message

/-- What is behind the failure, in words. -/
def sources : BootstrapError → List String
  | configuration _ cause => cause.message :: cause.sources
  | directoryUnavailable _ cause => [cause.message]
  | incompatibleHandle _ cause => [cause.message]

end BootstrapError

section

variable {σ ρ π : Type}

/-! ## Finding the remote handle -/

/-- An event of finding a remote handle. -/
def resolverEvent (level : Level) (message : String) (fields : List (String × String)) : Event where
  level := level
  target := "repository_locator::domain::resolver"
  message := message
  fields := fields
  spans := []

/-- The span of finding a remote handle. -/
def resolveSpan (env : Environment) (location : String) : Span where
  name := "resolve"
  target := "repository_locator::domain::resolver"
  fields := [("env_keys", toString env.size), ("location", location)]

/-- Report a failure of the naming service and give it as the failure of the bootstrap. -/
def directoryFailed (report location : String) (e : NamingError) : Act σ BootstrapError π := do
  Act.emit (resolverEvent .warn report [("error", e.message)])
  Act.fail (.directoryUnavailable location e)

namespace DirectoryConnector

/-- Connect with an environment and look a location up. -/
def resolve (connector : DirectoryConnector σ ρ) (env : Environment) (location : String) :
    Act σ BootstrapError (Handle ρ) :=
  Act.inSpan (resolveSpan env location) do
    let context ← (connector.connect env).onError
      (directoryFailed "Failed to build directory context" location)
    let found ← (context.lookup location).onError
      (directoryFailed "Directory lookup failed" location)
    Act.emit (resolverEvent .debug "Remote handle located" [("handle", found.typeName)])
    pure found

/-- The diagnostic view of a connector that is used to resolve locations. -/
def resolverView : Shown := .record "DirectoryResolver" [] true

end DirectoryConnector

/-! ## The four steps -/

/-- An event of bootstrapping. -/
def bootstrapEvent (level : Level) (message : String) (fields : List (String × String)) :
    Event where
  level := level
  target := "repository_locator::domain::bootstrap"
  message := message
  fields := fields
  spans := []

/-- The span of bootstrapping a plan. -/
def bootstrapSpan (plan : Plan) : Span where
  name := "bootstrap_with"
  target := "repository_locator::domain::bootstrap"
  fields := [("location", plan.location), ("factory", plan.factory)]

/-- Report that an adapter factory cannot be had, and give that as the failure of the bootstrap. -/
def factoryFailed (name : String) (e : ComponentError) : Act σ BootstrapError π := do
  let failure := BootstrapError.configuration name e
  Act.emit (bootstrapEvent .warn "Adapter factory could not be prepared"
    [("kind", failure.label), ("error", failure.message)])
  Act.fail failure

/-- Report that a handle was refused, and give that as the failure of the bootstrap. -/
def wrapFailed (location : String) (e : AdapterError) : Act σ BootstrapError π := do
  Act.emit (bootstrapEvent .warn "Adapter factory rejected the remote handle"
    [("error", e.message)])
  Act.fail (.incompatibleHandle location e)

/-- What bootstraps repositories: adapter factories by name, and a naming service. -/
structure Bootstrapper (σ ρ π : Type) where
  /-- Where adapter factories come from. -/
  registry : Registry σ ρ π
  /-- How the naming service is reached. -/
  connector : DirectoryConnector σ ρ

namespace Bootstrapper

/-- Make the adapter factory registered under a name. -/
def adapterFactory (b : Bootstrapper σ ρ π) (name : String) :
    Act σ BootstrapError (AdapterFactory σ ρ π) := do
  let factory ← (b.registry.adapterFactory name).onError (factoryFailed name)
  Act.emit (bootstrapEvent .debug "Adapter factory instantiated" [("factory", name)])
  pure factory

/-- Bootstrap the repository that a plan describes. -/
def bootstrapWith (b : Bootstrapper σ ρ π) (plan : Plan) : Act σ BootstrapError π :=
  Act.inSpan (bootstrapSpan plan) do
    let factory ← b.adapterFactory plan.factory
    let found ← b.connector.resolve plan.environment plan.location
    let proxy ← (factory.wrap found).onError (wrapFailed plan.location)
    Act.emit (bootstrapEvent .info "Remote repository bootstrapped" [])
    pure proxy

/-- Bootstrap the repository that a parameter source describes. -/
def bootstrap (b : Bootstrapper σ ρ π) (source : ParameterSource σ) : Act σ BootstrapError π := do
  let plan ← Act.ofState (Plan.ofSource source)
  b.bootstrapWith plan

instance : Display (Bootstrapper σ ρ π) := ⟨fun b =>
  .record "RepositoryBootstrapper"
    [("registry", shown b.registry), ("resolver", DirectoryConnector.resolverView)] false⟩

end Bootstrapper

end

end Locator
