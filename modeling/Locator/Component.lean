import Locator.Act
import Locator.Environment
import Locator.Handle
import Locator.Naming

/-!
# Components

What can be registered by name: adapter factories, which turn a handle into a local proxy, and
directory connectors, which open a naming service. Throughout, `σ` is the state that the components
work over, `ρ` are references to remote repositories and `π` are local proxies.
-/

namespace Locator

/-- A naming service that somebody is connected to. -/
structure DirectoryContext (σ ρ : Type) where
  /-- Find what is bound under a name. -/
  lookup : String → Act σ NamingError (Handle ρ)

/-- A way to connect to a naming service. -/
structure DirectoryConnector (σ ρ : Type) where
  /-- Connect with an environment. -/
  connect : Environment → Act σ NamingError (DirectoryContext σ ρ)

/-- A way to turn handles into local proxies. -/
structure AdapterFactory (σ ρ π : Type) where
  /-- Wrap what a handle holds, or refuse the handle. -/
  wrap : Handle ρ → Act σ AdapterError π

section

variable {σ τ ρ : Type}

/-- A context over a part of the state. -/
def DirectoryContext.within (p : Part σ τ) (c : DirectoryContext τ ρ) : DirectoryContext σ ρ :=
  ⟨fun name => (c.lookup name).within p⟩

/-- A connector over a part of the state. -/
def DirectoryConnector.within (p : Part σ τ) (c : DirectoryConnector τ ρ) : DirectoryConnector σ ρ :=
  ⟨fun env => DirectoryContext.within p <$> (c.connect env).within p⟩

/-- A connector over a state of its own, which nobody else sees and every call finds as given. -/
def DirectoryConnector.isolated (start : τ) (c : DirectoryConnector τ ρ) : DirectoryConnector σ ρ :=
  ⟨fun env => do
    let (context, reached) ← Act.isolated start (c.connect env)
    pure ⟨fun name => Prod.fst <$> Act.isolated reached (context.lookup name)⟩⟩

end

/-- What a component is good for. -/
inductive Capability where
  | adapterFactory | directoryConnector
deriving DecidableEq, Repr

/-- The name of a capability. -/
def Capability.label : Capability → String
  | adapterFactory => "adapter_factory"
  | directoryConnector => "directory_connector"

/-- Something that can be registered by name. -/
inductive Component (σ ρ π : Type) where
  /-- It wraps handles. -/
  | adapterFactory (factory : AdapterFactory σ ρ π)
  /-- It opens a naming service. -/
  | directoryConnector (connector : DirectoryConnector σ ρ)

namespace Component

variable {σ ρ π : Type}

/-- What the component is good for. -/
def capability : Component σ ρ π → Capability
  | adapterFactory _ => .adapterFactory
  | directoryConnector _ => .directoryConnector

/-- The name of what the component is good for. -/
def label (c : Component σ ρ π) : String := c.capability.label

/-- The adapter factory, if the component is one. -/
def adapterFactory? : Component σ ρ π → Option (AdapterFactory σ ρ π)
  | adapterFactory factory => some factory
  | directoryConnector _ => none

/-- The directory connector, if the component is one. -/
def directoryConnector? : Component σ ρ π → Option (DirectoryConnector σ ρ)
  | adapterFactory _ => none
  | directoryConnector connector => some connector

instance : Display (Component σ ρ π) := ⟨fun
  | adapterFactory _ => .word "AdapterFactory(<impl LocalAdapterFactory>)"
  | directoryConnector _ => .word "DirectoryConnector(<impl DirectoryConnector>)"⟩

end Component

end Locator
