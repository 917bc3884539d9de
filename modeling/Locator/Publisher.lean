import Locator.Bootstrap

/-!
# Published repositories

A host keeps proxies as named attributes of a context. A publisher bootstraps a repository and puts
its proxy under the attribute that the parameters name; later it removes it again. A failed
bootstrap publishes nothing.
-/

namespace Locator

variable {σ ρ π : Type}

/-- Proxies by attribute name. -/
structure PublishedContext (π : Type) where
  /-- The proxies. -/
  attributes : NameMap π

namespace PublishedContext

/-- The context without attributes. -/
def empty : PublishedContext π := ⟨.empty⟩

/-- The proxy under a name. -/
def get? (c : PublishedContext π) (name : String) : Option π := c.attributes.get? name

/-- The attribute names in ascending order. -/
def names (c : PublishedContext π) : List String := c.attributes.names

/-- Put a proxy under a name; gives the one that was there. -/
def set (name : String) (proxy : π) : StateM (PublishedContext π) (Option π) :=
  fun c => (c.get? name, ⟨c.attributes.insert name proxy⟩)

/-- Remove what is under a name; gives what was there. -/
def remove (name : String) : StateM (PublishedContext π) (Option π) :=
  fun c => (c.get? name, ⟨c.attributes.erase name⟩)

instance : Display (PublishedContext π) :=
  ⟨fun c => .record "RepositoryContext" [("attributes", .texts c.names)] false⟩

end PublishedContext

/-- What publishes repositories. -/
structure Publisher (σ ρ π : Type) where
  /-- What bootstraps them. -/
  bootstrapper : Bootstrapper σ ρ π

namespace Publisher

/-- An event of publishing. -/
def event (message name : String) : Event where
  level := .info
  target := "repository_locator::publisher"
  message := message
  fields := [("attribute", name)]
  spans := []

/-- Bootstrap a repository and publish it; gives the name it is published under. -/
def init (p : Publisher σ ρ π) (source : ParameterSource σ) :
    Act (σ × PublishedContext π) BootstrapError String := do
  let plan ← Act.within .first (Act.ofState (Plan.ofSource source))
  let proxy ← Act.within .first (p.bootstrapper.bootstrapWith plan)
  let previous ← Act.within .second (Act.ofState (PublishedContext.set plan.attributeName proxy))
  if previous.isSome then
    Act.emit (event "Replaced previously published repository" plan.attributeName)
  else
    Act.emit (event "Published repository" plan.attributeName)
  pure plan.attributeName

/-- Remove the repository that is published for the parameters; gives what was there. -/
def destroy {ε : Type} (_ : Publisher σ ρ π) (source : ParameterSource σ) :
    Act (σ × PublishedContext π) ε (Option π) := do
  let plan ← Act.within .first (Act.ofState (Plan.ofSource source))
  let removed ← Act.within .second (Act.ofState (PublishedContext.remove plan.attributeName))
  if removed.isSome then
    Act.emit (event "Unpublished repository" plan.attributeName)
  pure removed

instance : Display (Publisher σ ρ π) :=
  ⟨fun p => .record "RepositoryPublisher" [("bootstrapper", shown p.bootstrapper)] false⟩

end Publisher

end Locator
