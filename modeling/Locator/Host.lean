import Locator.HostSettings
import Locator.Publisher

/-!
# The host run

A host builds its static directory, takes its connector from the registry, publishes the repository it
wants, reports the descriptors of that repository, and takes it back. The first step that fails ends
the run.
-/

namespace Locator

/-- Why a host run fails. -/
inductive HostError where
  /-- The static directory of the settings is refused. -/
  | directory (cause : BindError)
  /-- There is no connector of the configured name. -/
  | connector (name : String) (cause : ComponentError)
  /-- The repository is not found. -/
  | bootstrap (cause : BootstrapError)
  /-- The repository does not answer. -/
  | repository (cause : RepositoryError)
deriving DecidableEq, Repr

namespace HostError

/-- The failure in words. -/
def message : HostError → String
  | directory _ => "Failed to build the static directory"
  | connector name _ => s!"Unknown directory connector: {name}"
  | bootstrap cause => cause.message
  | repository cause => cause.message

/-- What is behind the failure, in words. -/
def sources : HostError → List String
  | directory cause => [cause.message]
  | connector _ cause => cause.message :: cause.sources
  | bootstrap cause => cause.sources
  | repository cause => cause.sources

/-- The failure of the bootstrap, if that is the matter. -/
def bootstrapError? : HostError → Option BootstrapError
  | bootstrap cause => some cause
  | _ => none

/-- The failure and all that is behind it, on one line. -/
def chain (e : HostError) : String := CauseChain.line (e.message :: e.sources)

end HostError

namespace Host

/-- The proxies of a host. -/
abbrev Proxy : Type := ClientRepository Remote

/-- The state of a host: the naming service it looks in, and what it has published. -/
abbrev World : Type := StaticService Remote × PublishedContext Proxy

/-- A component that was collected when the host was put together. -/
abbrev Collected : Type := Registration (StaticService Remote) Remote Proxy

/-- The state before anything is done. -/
def World.initial : World := (.ofDirectory .empty, .empty)

/-- The event of a descriptor that was found. -/
def descriptorEvent (attributeName key value : String) : Event where
  level := .info
  target := "repository_bootstrap"
  message := "Repository descriptor"
  fields := [("attribute", attributeName), ("key", key), ("value", value)]
  spans := []

/-- The event of a run that failed. -/
def failureEvent (e : HostError) : Event where
  level := .error
  target := "repository_bootstrap"
  message := "Repository bootstrap failed"
  fields := [("error", e.chain)]
  spans := []

/-- Put together the components of a host with a static directory. -/
def assemble {τ ε : Type} (collected : List Collected) (connector : StaticConnector) :
    Act τ ε (Registry (StaticService Remote) Remote Proxy) := do
  let builtins ← Registry.empty.withBuiltins collected
  pure (builtins.registerInstance StaticConnector.registeredName
    (.directoryConnector connector.connector))

/-- Work on the naming service of a host. -/
def onService {ε α : Type} (a : Act (StaticService Remote) ε α) : Act World ε α := a.within .first

/-- Report descriptors one after another. -/
def reportDescriptors (attributeName : String) (r : LocalRepository (StaticService Remote)) :
    List String → Act World RepositoryError Unit
  | [] => pure ()
  | key :: rest => do
    let value ← onService (r.descriptor key)
    Act.emit (descriptorEvent attributeName key (value.getD ""))
    reportDescriptors attributeName r rest

/-- Report all descriptors of a published repository. -/
def report (attributeName : String) (proxy : Proxy) : Act World RepositoryError Unit := do
  let r := proxy.repository Remote.repository
  let keys ← onService r.descriptorKeys
  reportDescriptors attributeName r keys

/-- The run of a host. -/
def run (collected : List Collected) (s : HostSettings) : Act World HostError Unit := do
  let directory ← s.directory.static.build.mapError .directory
  Act.modify fun w => (.ofDirectory directory, w.2)
  let registry ← assemble collected (.ofSettings s.directory.static)
  let connector ← (onService (registry.directoryConnector s.directory.connector)).mapError
    (.connector s.directory.connector)
  let publisher : Publisher (StaticService Remote) Remote Proxy := ⟨⟨registry, connector⟩⟩
  let source := ParameterSource.ofParameters s.parameters
  let attributeName ← (publisher.init source).mapError .bootstrap
  let w ← Act.get
  match w.2.get? attributeName with
  | some proxy => (report attributeName proxy).mapError .repository
  | none => pure ()
  let _ ← publisher.destroy source

end Host

end Locator
