import Locator.Component
import Locator.Repository

/-!
# The client adapter

The adapter that is always there: it wraps a handle that holds a repository reference into a local
proxy, and refuses every other handle. The proxy forwards each call to the repository behind it and
reports its failures as failures of the remote call.
-/

namespace Locator

variable {σ ρ : Type}

/-- A local proxy for the repository behind a reference. -/
structure ClientRepository (ρ : Type) where
  /-- The repository that calls are forwarded to. -/
  remote : ρ
deriving DecidableEq

instance : Display (ClientRepository ρ) := ⟨fun _ => .record "ClientRepository" [] true⟩

/-- An event of a proxy. -/
def forwardingEvent (message : String) (fields : List (String × String)) : Event where
  level := .trace
  target := "repository_locator::client::client_repository"
  message := message
  fields := fields
  spans := []

/-- The span of opening a session through a proxy. -/
def loginSpan (workspace? : Option String) : Span where
  name := "login"
  target := "repository_locator::client::client_repository"
  fields := [("workspace", (Shown.optionText workspace?).compact)]

/-- A remote repository as its proxy shows it to local callers. -/
def RemoteRepository.forwarded (r : RemoteRepository σ) : LocalRepository σ where
  descriptorKeys := do
    Act.emit (forwardingEvent "Forwarding descriptor_keys" [])
    r.descriptorKeys.mapError .remote
  descriptor key := do
    Act.emit (forwardingEvent "Forwarding descriptor" [("key", key)])
    (r.descriptor key).mapError .remote
  login credentials? workspace? :=
    Act.inSpan (loginSpan workspace?) ((r.login credentials? workspace?).mapError .remote)

/-- The calls that a proxy answers, where `reach` leads from a reference to its repository. -/
def ClientRepository.repository (reach : ρ → RemoteRepository σ) (p : ClientRepository ρ) :
    LocalRepository σ :=
  RemoteRepository.forwarded (reach p.remote)

namespace ClientAdapter

/-- The event of wrapping a repository reference. -/
def wrappingEvent (typeName : String) : Event where
  level := .debug
  target := "repository_locator::client::client_adapter_factory"
  message := "Wrapping remote repository in client adapter"
  fields := [("handle", typeName)]
  spans := []

/-- Wrap a repository reference; refuse everything else. -/
def wrap (h : Handle ρ) : Act σ AdapterError (ClientRepository ρ) :=
  match h.repository? with
  | some remote => do
    Act.emit (wrappingEvent h.typeName)
    pure ⟨remote⟩
  | none => Act.fail ⟨Handle.repositoryTypeName, h.typeName⟩

/-- The client adapter as an adapter factory. -/
def factory : AdapterFactory σ ρ (ClientRepository ρ) := ⟨wrap⟩

/-- The client adapter as a component. -/
def component : Component σ ρ (ClientRepository ρ) := .adapterFactory factory

/-- The diagnostic view of the client adapter. -/
def view : Shown := .word "ClientAdapterFactory"

end ClientAdapter

end Locator
