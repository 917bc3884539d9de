import Locator.Publisher
import Locator.Proofs.Alike.Act

/-!
# Bootstraps that run alike

What it takes for two bootstraps to run alike, and two publications: that each collaborator of the
one answers like its counterpart, and that both are given the like.

* `Likeness`: what counts as alike in states, references, proxies and environments;
* `Handle.Alike`, `DirectoryConnector.Alike`, `AdapterFactory.Alike`, `Registry.Alike` and
  `Plan.Alike`: counterparts that are alike to collaborators and to an observer of their reports;
* `Bootstrapper.Alike.bootstrapWith`, `Publisher.Alike.init`, `Publisher.Alike.destroy`.
-/

namespace Locator

/-- What counts as alike. Environments that are alike have the same number of entries, since
collaborators report it. -/
structure Likeness (σ ρ π : Type) where
  /-- States that are alike. -/
  state : σ → σ → Prop
  /-- References that are alike. -/
  reference : ρ → ρ → Prop
  /-- Proxies that are alike. -/
  proxy : π → π → Prop
  /-- Environments that are alike. -/
  environment : Environment → Environment → Prop
  /-- The number of entries is the same in environments that are alike. -/
  size_eq : ∀ {env env' : Environment}, environment env env' → env.size = env'.size

variable {σ ρ π κ ε : Type} (L : Likeness σ ρ π)

/-! ## Counterparts -/

/-- Handles that hold references which are alike, or the same foreign object. -/
inductive Handle.Alike (R : ρ → ρ → Prop) : Handle ρ → Handle ρ → Prop where
  /-- References that are alike. -/
  | repository {r r' : ρ} (h : R r r') : Handle.Alike R (.repository r) (.repository r')
  /-- The same foreign object. -/
  | foreign (object : ForeignObject) : Handle.Alike R (.foreign object) (.foreign object)

/-- Handles that are alike name the same type. -/
theorem Handle.Alike.typeName_eq {R : ρ → ρ → Prop} {h h' : Handle ρ} (hh : Handle.Alike R h h') :
    h.typeName = h'.typeName := by
  cases hh with
  | repository _ => rfl
  | foreign object => rfl

/-- Naming services in which look-ups are alike. -/
def DirectoryContext.Alike (c c' : DirectoryContext σ ρ) : Prop :=
  ∀ name, Act.Alike L.state (Handle.Alike L.reference) (c.lookup name) (c'.lookup name)

/-- Connectors that do alike with environments that are alike. -/
def DirectoryConnector.Alike (c c' : DirectoryConnector σ ρ) : Prop :=
  ∀ env env', L.environment env env' →
    Act.Alike L.state (DirectoryContext.Alike L) (c.connect env) (c'.connect env')

/-- Adapter factories that do alike with handles that are alike. -/
def AdapterFactory.Alike (f f' : AdapterFactory σ ρ π) : Prop :=
  ∀ h h', Handle.Alike L.reference h h' → Act.Alike L.state L.proxy (f.wrap h) (f'.wrap h')

/-- Components of the same capability that are alike. -/
inductive Component.Alike : Component σ ρ π → Component σ ρ π → Prop where
  /-- Adapter factories that are alike. -/
  | adapterFactory {f f' : AdapterFactory σ ρ π} (h : AdapterFactory.Alike L f f') :
      Component.Alike (.adapterFactory f) (.adapterFactory f')
  /-- Connectors that are alike. -/
  | directoryConnector {c c' : DirectoryConnector σ ρ} (h : DirectoryConnector.Alike L c c') :
      Component.Alike (.directoryConnector c) (.directoryConnector c')

/-- Constructors that run alike, to components that are alike. -/
def Constructor.Alike (make make' : Constructor σ ρ π) : Prop :=
  Act.Alike L.state (Component.Alike L) make make'

/-- Registries of constructors that are alike, name by name. -/
def Registry.Alike (r r' : Registry σ ρ π) : Prop :=
  ∀ name, Option.Rel (Constructor.Alike L) (r.constructor? name) (r'.constructor? name)

/-- Bootstrappers with collaborators that are alike. -/
structure Bootstrapper.Alike (b b' : Bootstrapper σ ρ π) : Prop where
  /-- The registries are alike. -/
  registry : Registry.Alike L b.registry b'.registry
  /-- The connectors are alike. -/
  connector : DirectoryConnector.Alike L b.connector b'.connector

/-- Plans that differ in nothing but environments that are alike. -/
structure Plan.Alike (plan plan' : Plan) : Prop where
  /-- The same location. -/
  location : plan.location = plan'.location
  /-- The same adapter factory. -/
  factory : plan.factory = plan'.factory
  /-- The same attribute. -/
  attribute? : plan.attribute? = plan'.attribute?
  /-- Environments that are alike. -/
  environment : L.environment plan.environment plan'.environment

/-- Sources from which plans are read that are alike. -/
def ParameterSource.Alike (p p' : ParameterSource σ) : Prop :=
  ∀ s t, L.state s t → Plan.Alike L (Plan.ofSource p s).1 (Plan.ofSource p' t).1 ∧
    L.state (Plan.ofSource p s).2 (Plan.ofSource p' t).2

variable {L}

/-! ## Requests to a registry -/

namespace Registry.Alike

variable {r r' : Registry σ ρ π}

/-- Registries that are alike make components that are alike. -/
theorem construct (h : Registry.Alike L r r') (name : String) :
    Act.Alike L.state (Component.Alike L) (r.construct name) (r'.construct name) := by
  have hname := h name
  unfold Registry.construct
  generalize r.constructor? name = held at hname ⊢
  generalize r'.constructor? name = held' at hname ⊢
  cases hname with
  | none => exact .fail _
  | some hmake => exact Act.Alike.mapError hmake _

/-- Registries that are alike make adapter factories that are alike. -/
theorem adapterFactory (h : Registry.Alike L r r') (name : String) :
    Act.Alike L.state (AdapterFactory.Alike L) (r.adapterFactory name)
      (r'.adapterFactory name) := by
  refine (h.construct name).bind fun c c' hc => ?_
  cases hc with
  | adapterFactory hf => exact .pure hf
  | directoryConnector hc => exact .fail _

/-- Registries that are alike make connectors that are alike. -/
theorem directoryConnector (h : Registry.Alike L r r') (name : String) :
    Act.Alike L.state (DirectoryConnector.Alike L) (r.directoryConnector name)
      (r'.directoryConnector name) := by
  refine (h.construct name).bind fun c c' hc => ?_
  cases hc with
  | adapterFactory hf => exact .fail _
  | directoryConnector hc => exact .pure hc

end Registry.Alike

/-! ## The steps of a bootstrap -/

/-- The same failure of the naming service is reported and translated alike. -/
theorem alike_directoryFailed {V : κ → κ → Prop} (report location : String) (e : NamingError) :
    Act.Alike L.state V (directoryFailed report location e : Act σ BootstrapError κ)
      (directoryFailed report location e) :=
  Act.Alike.after_emit _ (.fail _)

/-- Connectors that are alike find handles that are alike. -/
theorem DirectoryConnector.Alike.resolve {c c' : DirectoryConnector σ ρ}
    (h : DirectoryConnector.Alike L c c') {env env' : Environment} (henv : L.environment env env')
    (location : String) :
    Act.Alike L.state (Handle.Alike L.reference) (c.resolve env location)
      (c'.resolve env' location) := by
  unfold DirectoryConnector.resolve resolveSpan
  -- the span shows the number of entries
  rw [L.size_eq henv]
  refine Act.Alike.inSpan ?_ _
  refine ((h env env' henv).onError fun e => alike_directoryFailed _ location e).bind
    fun context context' hcontext => ?_
  refine ((hcontext location).onError fun e => alike_directoryFailed _ location e).bind
    fun found found' hfound => ?_
  rw [hfound.typeName_eq]
  exact Act.Alike.after_emit _ (.pure hfound)

namespace Bootstrapper.Alike

variable {b b' : Bootstrapper σ ρ π}

/-- Bootstrappers that are alike prepare adapter factories that are alike. -/
theorem adapterFactory (h : Bootstrapper.Alike L b b') (name : String) :
    Act.Alike L.state (AdapterFactory.Alike L) (b.adapterFactory name)
      (b'.adapterFactory name) := by
  have hfailed : ∀ e, Act.Alike L.state (AdapterFactory.Alike L)
      (factoryFailed name e : Act σ BootstrapError (AdapterFactory σ ρ π))
      (factoryFailed name e) :=
    fun e => Act.Alike.after_emit _ (.fail _)
  refine ((h.registry.adapterFactory name).onError hfailed).bind fun f f' hf => ?_
  exact Act.Alike.after_emit _ (.pure hf)

/-- Bootstrappers that are alike bootstrap proxies that are alike, for plans that are. -/
theorem bootstrapWith (h : Bootstrapper.Alike L b b') {plan plan' : Plan}
    (hplan : Plan.Alike L plan plan') :
    Act.Alike L.state L.proxy (b.bootstrapWith plan) (b'.bootstrapWith plan') := by
  have hfailed : ∀ e, Act.Alike L.state L.proxy
      (wrapFailed plan'.location e : Act σ BootstrapError π) (wrapFailed plan'.location e) :=
    fun e => Act.Alike.after_emit _ (.fail _)
  unfold Bootstrapper.bootstrapWith bootstrapSpan
  rw [hplan.location, hplan.factory]
  refine Act.Alike.inSpan ?_ _
  refine (h.adapterFactory plan'.factory).bind fun f f' hf => ?_
  refine (h.connector.resolve hplan.environment plan'.location).bind fun found found' hfound => ?_
  refine ((hf found found' hfound).onError hfailed).bind fun proxy proxy' hproxy => ?_
  exact Act.Alike.after_emit _ (.pure hproxy)

end Bootstrapper.Alike

/-! ## Publishing -/

/-- Contexts that hold proxies which are alike, name by name. -/
def PublishedContext.Alike (P : π → π → Prop) (c c' : PublishedContext π) : Prop :=
  ∀ name, Option.Rel P (c.get? name) (c'.get? name)

namespace PublishedContext.Alike

variable {P : π → π → Prop} {c c' : PublishedContext π}

theorem empty : PublishedContext.Alike P .empty .empty := fun _ => .none

/-- Publishing proxies that are alike keeps contexts alike. -/
theorem insert (h : PublishedContext.Alike P c c') (name : String) {proxy proxy' : π}
    (hproxy : P proxy proxy') :
    PublishedContext.Alike P ⟨c.attributes.insert name proxy⟩
      ⟨c'.attributes.insert name proxy'⟩ := by
  intro n
  unfold PublishedContext.get?
  rw [NameMap.get?_insert, NameMap.get?_insert]
  split
  · exact .some hproxy
  · exact h n

/-- Taking a proxy back keeps contexts alike. -/
theorem erase (h : PublishedContext.Alike P c c') (name : String) :
    PublishedContext.Alike P ⟨c.attributes.erase name⟩ ⟨c'.attributes.erase name⟩ := by
  intro n
  unfold PublishedContext.get?
  rw [NameMap.get?_erase, NameMap.get?_erase]
  split
  · exact .none
  · exact h n

end PublishedContext.Alike

/-- States with contexts that are alike in both parts. -/
def Likeness.withContext (L : Likeness σ ρ π) (w w' : σ × PublishedContext π) : Prop :=
  L.state w.1 w'.1 ∧ PublishedContext.Alike L.proxy w.2 w'.2

/-- Work on the first part of states with contexts. -/
theorem Act.Alike.first {α α' : Type} {V : α → α' → Prop} {a : Act σ ε α} {a' : Act σ ε α'}
    (h : Act.Alike L.state V a a') :
    Act.Alike L.withContext V (a.within .first) (a'.within .first) :=
  h.within (fun _ _ hw => hw.1) fun _ _ _ _ hw hs => ⟨hs, hw.2⟩

/-- Work on the contexts alone. -/
theorem Act.Alike.second {α α' : Type} {V : α → α' → Prop} {a : Act (PublishedContext π) ε α}
    {a' : Act (PublishedContext π) ε α'} (h : Act.Alike (PublishedContext.Alike L.proxy) V a a') :
    Act.Alike L.withContext V (a.within .second) (a'.within .second) :=
  h.within (fun _ _ hw => hw.2) fun _ _ _ _ hw hc => ⟨hw.1, hc⟩

/-- Reading plans that are alike, beside contexts. -/
theorem ParameterSource.Alike.plan {p p' : ParameterSource σ} (h : ParameterSource.Alike L p p') :
    Act.Alike L.withContext (Plan.Alike L)
      (Act.within .first (Act.ofState (Plan.ofSource p)) : Act (σ × PublishedContext π) ε Plan)
      (Act.within .first (Act.ofState (Plan.ofSource p'))) :=
  (Act.Alike.ofState h).first

/-- Plans that are alike publish under the same name. -/
theorem Plan.Alike.attributeName_eq {plan plan' : Plan} (h : Plan.Alike L plan plan') :
    plan.attributeName = plan'.attributeName := by
  unfold Plan.attributeName
  rw [h.attribute?]

namespace Publisher

variable {b b' : Bootstrapper σ ρ π} {p p' : ParameterSource σ}

/-- Publishing is alike over bootstrappers and parameters that are. -/
theorem alike_init (h : Bootstrapper.Alike L b b') (hp : ParameterSource.Alike L p p') :
    Act.Alike L.withContext Eq (init ⟨b⟩ p) (init ⟨b'⟩ p') := by
  refine hp.plan.bind fun plan plan' hplan => ?_
  refine (h.bootstrapWith hplan).first.bind fun proxy proxy' hproxy => ?_
  rw [hplan.attributeName_eq]
  have hset : Act.Alike (ε := BootstrapError) (PublishedContext.Alike L.proxy)
      (Option.Rel L.proxy)
      (Act.ofState (PublishedContext.set plan'.attributeName proxy))
      (Act.ofState (PublishedContext.set plan'.attributeName proxy')) :=
    .ofState fun c c' hc => ⟨hc plan'.attributeName, hc.insert plan'.attributeName hproxy⟩
  refine hset.second.bind fun previous previous' hprevious => ?_
  cases hprevious with
  | none => exact Act.Alike.after_emit _ (.pure rfl)
  | some _ => exact Act.Alike.after_emit _ (.pure rfl)

/-- Taking back is alike for parameters that are. -/
theorem alike_destroy (publisher publisher' : Publisher σ ρ π)
    (hp : ParameterSource.Alike L p p') :
    Act.Alike L.withContext (Option.Rel L.proxy)
      (publisher.destroy p : Act (σ × PublishedContext π) ε (Option π))
      (publisher'.destroy p') := by
  refine hp.plan.bind fun plan plan' hplan => ?_
  rw [hplan.attributeName_eq]
  have hremove : Act.Alike (ε := ε) (PublishedContext.Alike L.proxy) (Option.Rel L.proxy)
      (Act.ofState (PublishedContext.remove plan'.attributeName))
      (Act.ofState (PublishedContext.remove plan'.attributeName)) :=
    .ofState fun c c' hc => ⟨hc plan'.attributeName, hc.erase plan'.attributeName⟩
  refine hremove.second.bind fun removed removed' hremoved => ?_
  cases hremoved with
  | none => exact .pure .none
  | some hproxy => exact Act.Alike.after_emit _ (.pure (.some hproxy))

end Publisher

end Locator
