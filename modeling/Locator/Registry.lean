import Locator.CauseChain
import Locator.Client
import Locator.Plan

/-!
# The component registry

A registry holds constructors by name. A constructor makes a component each time it is called; it may
fail, and it may break down. Components come from two places: those collected when the program was
put together (`withBuiltins`), which are reported as they come, and those registered at run time
(`register`), which come first whatever the order of the calls.

* `construct` calls the constructor held for a name, and no other one.
* `adapterFactory`, `directoryConnector` also ask for a capability.
-/

namespace Locator

/-- What a constructor that breaks down leaves as its reason. -/
inductive PanicPayload where
  /-- A borrowed text. -/
  | literal (content : String)
  /-- A text. -/
  | text (content : String)
  /-- Something that is not a text. -/
  | other
deriving DecidableEq, Repr

/-- The reason in words. -/
def PanicPayload.message : PanicPayload → String
  | literal content | text content => content
  | other => "non-string panic payload"

/-- How a constructor ends without a component. -/
inductive ConstructorFailure where
  /-- It reports a failure. -/
  | error (causes : Causes)
  /-- It breaks down. -/
  | panic (payload : PanicPayload)
deriving DecidableEq, Repr

/-- What is wrong with the configuration when an adapter factory cannot be prepared. -/
inductive ConfigurationErrorKind where
  | typeNotFound | instantiationFailed | capabilityMismatch
deriving DecidableEq, Repr

namespace ConfigurationErrorKind

/-- The kind as a label for reports. -/
def label : ConfigurationErrorKind → String
  | typeNotFound => "type_not_found"
  | instantiationFailed => "instantiation_failed"
  | capabilityMismatch => "capability_mismatch"

/-- The kind in words. -/
def message : ConfigurationErrorKind → String
  | typeNotFound => "local adapter factory class not found"
  | instantiationFailed => "failed to instantiate the adapter factory"
  | capabilityMismatch => "invalid local adapter factory class"

instance : Display ConfigurationErrorKind := ⟨fun
  | typeNotFound => .word "TypeNotFound"
  | instantiationFailed => .word "InstantiationFailed"
  | capabilityMismatch => .word "CapabilityMismatch"⟩

end ConfigurationErrorKind

/-- Why a registry gives no component. -/
inductive ComponentError where
  /-- Nothing is registered under the name. -/
  | notRegistered
  /-- The constructor reported a failure. -/
  | constructorFailed (causes : Causes)
  /-- The constructor broke down. -/
  | panicked (text : String)
  /-- The component is not good for what was asked. -/
  | capabilityMismatch (expected actual : String)
deriving DecidableEq, Repr

namespace ComponentError

/-- The failure in words. -/
def message : ComponentError → String
  | notRegistered => "no component is registered under this name"
  | constructorFailed _ => "component constructor failed"
  | panicked text => s!"component constructor panicked: {text}"
  | capabilityMismatch expected actual =>
    s!"component provides the `{actual}` capability, expected `{expected}`"

/-- What is behind the failure, in words. -/
def sources : ComponentError → List String
  | constructorFailed causes => causes.messages
  | _ => []

/-- What is wrong with the configuration. -/
def kind : ComponentError → ConfigurationErrorKind
  | notRegistered => .typeNotFound
  | constructorFailed _ | panicked _ => .instantiationFailed
  | capabilityMismatch .. => .capabilityMismatch

/-- The failure that a constructor's way to end amounts to. -/
def ofConstructor : ConstructorFailure → ComponentError
  | .error causes => constructorFailed causes
  | .panic payload => panicked payload.message

/-- A component of one capability where another one was asked for. -/
def mismatch (expected actual : Capability) : ComponentError :=
  capabilityMismatch expected.label actual.label

end ComponentError

/-- A way to make a component, called anew for each request. -/
abbrev Constructor (σ ρ π : Type) : Type := Act σ ConstructorFailure (Component σ ρ π)

/-- A constructor collected when the program was put together. -/
structure Registration (σ ρ π : Type) where
  /-- The name it was submitted under. -/
  name : String
  /-- The constructor. -/
  make : Constructor σ ρ π

/-- The event of a collected constructor that comes to a registry. -/
def collectedEvent (name : String) : Event where
  level := .debug
  target := "repository_locator::registry"
  message := "Collected compile-time component registration"
  fields := [("name", name)]
  spans := []

/-- Constructors by name. -/
structure Registry (σ ρ π : Type) where
  /-- The constructors. -/
  table : NameMap (Constructor σ ρ π)

namespace Registry

variable {σ ρ π : Type}

/-- The registry without constructors. -/
def empty : Registry σ ρ π := ⟨.empty⟩

/-- Register a constructor, in place of the one under the same name. -/
def register (r : Registry σ ρ π) (name : String) (make : Constructor σ ρ π) : Registry σ ρ π :=
  ⟨r.table.insert name make⟩

/-- Register a component that every request gets. -/
def registerInstance (r : Registry σ ρ π) (name : String) (c : Component σ ρ π) : Registry σ ρ π :=
  r.register name (Act.done c)

/-- Add a collected constructor unless the name is taken. -/
def collect (r : Registry σ ρ π) (entry : Registration σ ρ π) : Registry σ ρ π :=
  ⟨r.table.insertNew entry.name entry.make⟩

/-- Add collected constructors one after another, and report each of them, whether its name is taken
or not. -/
def collectAll {τ ε : Type} (r : Registry σ ρ π) :
    List (Registration σ ρ π) → Act τ ε (Registry σ ρ π)
  | [] => pure r
  | entry :: rest => do
    Act.emit (collectedEvent entry.name)
    (r.collect entry).collectAll rest

/-- Add the client adapter and then the collected constructors, each unless its name is taken. -/
def withBuiltins {τ ε : Type} (r : Registry σ ρ (ClientRepository ρ))
    (collected : List (Registration σ ρ (ClientRepository ρ))) :
    Act τ ε (Registry σ ρ (ClientRepository ρ)) :=
  (r.collect ⟨defaultFactory, Act.done ClientAdapter.component⟩).collectAll collected

/-- The constructor held for a name. -/
def constructor? (r : Registry σ ρ π) (name : String) : Option (Constructor σ ρ π) :=
  r.table.get? name

/-- A constructor is held for a name. -/
def contains (r : Registry σ ρ π) (name : String) : Bool := r.table.contains name

/-- The names in ascending order. -/
def names (r : Registry σ ρ π) : List String := r.table.names

instance : Display (Registry σ ρ π) :=
  ⟨fun r => .record "ComponentRegistry" [("names", .texts r.names)] false⟩

/-- Call the constructor held for a name. -/
def construct (r : Registry σ ρ π) (name : String) : Act σ ComponentError (Component σ ρ π) :=
  match r.constructor? name with
  | none => Act.fail .notRegistered
  | some make => make.mapError .ofConstructor

/-- Make a component and ask for a capability of it. -/
def instantiate {κ : Type} (r : Registry σ ρ π) (wanted : Capability)
    (view : Component σ ρ π → Option κ) (name : String) : Act σ ComponentError κ := do
  let c ← r.construct name
  match view c with
  | some x => pure x
  | none => Act.fail (.mismatch wanted c.capability)

/-- Make an adapter factory. -/
def adapterFactory (r : Registry σ ρ π) (name : String) :
    Act σ ComponentError (AdapterFactory σ ρ π) :=
  r.instantiate .adapterFactory Component.adapterFactory? name

/-- Make a directory connector. -/
def directoryConnector (r : Registry σ ρ π) (name : String) :
    Act σ ComponentError (DirectoryConnector σ ρ) :=
  r.instantiate .directoryConnector Component.directoryConnector? name

end Registry

end Locator
