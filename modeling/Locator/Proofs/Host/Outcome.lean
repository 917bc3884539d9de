import Locator.Proofs.Host.Components
import Locator.Proofs.Host.Runs
import Locator.Proofs.StaticDirectory.Build

/-!
# When a host succeeds, and how it fails

A host succeeds if its bindings are accepted, its connector and its adapter factory are to be had, its
static directory accepts the environment, and its location is bound. Otherwise it fails with the first
of these that does not hold.

* `Connected`, `Prepared`, `Admitted`, `Ready`: how far a host gets;
* `FirstViolation`: the first thing that a host lacks, as the failure that is reported;
* `ready_or_violation`: a host lacks something, or nothing;
* `exists_run_of_ready`, `run_value_of_violation`: how it runs in either case;
* `filter_events_of_ready`: what it reports of descriptors;
* `run_outcome`: both cases, in both directions.
-/

namespace Locator

namespace HostSettings

/-- What the naming service gets to see. -/
def environment (s : HostSettings) : Environment := (Plan.ofParameters s.parameters).environment

/-- Where the repository is looked up. -/
def location (s : HostSettings) : String := (s.parameters.get? locationKey).getD defaultLocation

/-- The adapter factory that wraps it. -/
def factoryName (s : HostSettings) : String := (s.parameters.get? factoryKey).getD defaultFactory

/-- The attribute that it is published under. -/
def attributeName (s : HostSettings) : String :=
  (s.parameters.get? attributeKey).getD defaultAttribute

/-- The names that are bound. -/
def boundNames (s : HostSettings) : List String := s.directory.static.bindings.map (·.name)

theorem plan_location (s : HostSettings) :
    (Plan.ofParameters s.parameters).location = s.location := Plan.ofParameters_location _

theorem plan_factory (s : HostSettings) :
    (Plan.ofParameters s.parameters).factory = s.factoryName := Plan.ofParameters_factory _

theorem plan_attributeName (s : HostSettings) :
    (Plan.ofParameters s.parameters).attributeName = s.attributeName := by
  unfold Plan.attributeName attributeName
  rw [Plan.ofParameters_attribute?]

end HostSettings

namespace Host

/-! ## What a host needs -/

section

variable (collected : List Collected) (s : HostSettings) (w : StaticService Remote)

/-- The answer to the request for the configured connector. -/
def connectorAnswer :
    Except ComponentError (DirectoryConnector (StaticService Remote) Remote) :=
  (((registry collected (.ofSettings s.directory.static)).directoryConnector
    s.directory.connector).run w).value

/-- The answer to the request for the adapter factory. -/
def factoryAnswer : Except ComponentError (AdapterFactory (StaticService Remote) Remote Proxy) :=
  (((registry collected (.ofSettings s.directory.static)).adapterFactory s.factoryName).run w).value

/-- The answer of the static directory to the environment. -/
def accessAnswer : Except NamingError (DirectoryContext (StaticService Remote) Remote) :=
  (((StaticConnector.ofSettings s.directory.static).connect s.environment).run w).value

/-- The bindings are accepted, and the connector is to be had. -/
structure Connected : Prop where
  /-- Every binding is accepted. -/
  acceptable : StaticSettings.Acceptable s.directory.static.bindings
  /-- The registry gives a connector. -/
  connector : ∃ connector, connectorAnswer collected s w = .ok connector

/-- The adapter factory is to be had, too. -/
structure Prepared : Prop extends Connected collected s w where
  /-- The registry gives an adapter factory. -/
  factory : ∃ factory, factoryAnswer collected s w = .ok factory

/-- The static directory accepts the environment, too. -/
structure Admitted : Prop extends Prepared collected s w where
  /-- The static directory opens a context. -/
  access : ∃ context, accessAnswer s w = .ok context

/-- The location is bound, too: there is nothing else that a host needs. -/
structure Ready : Prop extends Admitted collected s w where
  /-- A binding has the location for its name. -/
  bound : s.location ∈ s.boundNames

/-- The first thing that a host needs and lacks, as the failure that is reported. -/
inductive FirstViolation : HostError → Prop where
  /-- A binding is refused. -/
  | binding {e : BindError}
      (refused : StaticSettings.FirstRefused s.directory.static.bindings e) :
      FirstViolation (.directory e)
  /-- The connector is not to be had. -/
  | connector {e : ComponentError}
      (before : StaticSettings.Acceptable s.directory.static.bindings)
      (refused : connectorAnswer collected s w = .error e) :
      FirstViolation (.connector s.directory.connector e)
  /-- The adapter factory is not to be had. -/
  | factory {e : ComponentError} (before : Connected collected s w)
      (refused : factoryAnswer collected s w = .error e) :
      FirstViolation (.bootstrap (.configuration s.factoryName e))
  /-- The environment is refused. -/
  | access {e : NamingError} (before : Prepared collected s w)
      (refused : accessAnswer s w = .error e) :
      FirstViolation (.bootstrap (.directoryUnavailable s.location e))
  /-- The location is not well formed. -/
  | malformed (before : Admitted collected s w) (malformed : ¬ WellFormedName s.location) :
      FirstViolation (.bootstrap (.directoryUnavailable s.location (.refusal s.location)))
  /-- The location is well formed, but not bound. -/
  | unbound (before : Admitted collected s w) (wellFormed : WellFormedName s.location)
      (unbound : s.location ∉ s.boundNames) :
      FirstViolation (.bootstrap (.directoryUnavailable s.location (.nameNotBound s.location)))

/-- A host has all that it needs, or there is something that it lacks first. -/
theorem ready_or_violation : Ready collected s w ∨ ∃ e, FirstViolation collected s w e := by
  -- in the order of the run: what comes later is looked at only where all before it holds
  obtain hbindings | ⟨e, hrefused⟩ :=
    StaticSettings.acceptable_or_refused s.directory.static.bindings
  · cases hconnector : connectorAnswer collected s w with
    | error e => exact .inr ⟨_, .connector hbindings hconnector⟩
    | ok connector =>
      have hconnected : Connected collected s w := ⟨hbindings, connector, hconnector⟩
      cases hfactory : factoryAnswer collected s w with
      | error e => exact .inr ⟨_, .factory hconnected hfactory⟩
      | ok factory =>
        have hprepared : Prepared collected s w := ⟨hconnected, factory, hfactory⟩
        cases haccess : accessAnswer s w with
        | error e => exact .inr ⟨_, .access hprepared haccess⟩
        | ok context =>
          have hadmitted : Admitted collected s w := ⟨hprepared, context, haccess⟩
          by_cases hname : WellFormedName s.location
          · by_cases hbound : s.location ∈ s.boundNames
            · exact .inl ⟨hadmitted, hbound⟩
            · exact .inr ⟨_, .unbound hadmitted hname hbound⟩
          · exact .inr ⟨_, .malformed hadmitted hname⟩
  · exact .inr ⟨_, .binding hrefused⟩

end

/-! ## How far a host gets -/

variable {collected : List Collected} {s : HostSettings} {w w' : StaticService Remote}

/-- The naming service once the directory of a host is built. -/
def service (s : HostSettings) : StaticService Remote :=
  .ofDirectory (StaticSettings.stocked s.directory.static.bindings)

/-- What bootstraps the repository of a host that has its connector. -/
def bootstrapper (collected : List Collected) (s : HostSettings) :
    Bootstrapper (StaticService Remote) Remote Proxy :=
  let c := StaticConnector.ofSettings s.directory.static
  ⟨registry collected c, c.connector⟩

/-- A host that has its connector goes on to the publication. -/
theorem Connected.run_eq (hcollected : ∀ entry ∈ collected, Collected.Plain entry)
    (h : Connected collected s w) {v : Except HostError Unit} {W : World} {events : List Event}
    (hpublication : (publication (bootstrapper collected s) s.parameters).run
      (service s, .empty) = ⟨v, W, events⟩) :
    (run collected s).run World.initial =
      ⟨v, W, s.directory.static.bindings.map StaticSettings.boundEvent ++
        (collectedEvents collected ++ events)⟩ := by
  obtain ⟨connector, hconnector⟩ := h.connector
  have hbuild := StaticSettings.run_build_of_acceptable h.acceptable World.initial
  have hrequest := run_directoryConnector_of_ok hcollected hconnector (service s)
  exact run_of_connector hbuild hrequest hpublication

/-- A host that has its adapter factory reports that, and looks for the repository. -/
theorem Prepared.exists_run_adapterFactory
    (hcollected : ∀ entry ∈ collected, Collected.Plain entry) (h : Prepared collected s w) :
    ∃ making, ((bootstrapper collected s).adapterFactory s.factoryName).run (service s) =
      ⟨.ok ClientAdapter.factory, service s, making⟩ := by
  obtain ⟨factory, hfactory⟩ := h.factory
  obtain ⟨making, hrequest⟩ := exists_run_adapterFactory_of_ok hcollected hfactory
  exact ⟨_, Bootstrapper.run_adapterFactory_of_ok (hrequest (service s))⟩

/-- What keeps a host from finding the repository is the failure of the run. -/
theorem Prepared.run_value_of_resolve_error
    (hcollected : ∀ entry ∈ collected, Collected.Plain entry) (h : Prepared collected s w)
    {e : BootstrapError} {resolving : List Event}
    (hresolve : ((bootstrapper collected s).connector.resolve s.environment s.location).run
      (service s) = ⟨.error e, w', resolving⟩) :
    ((run collected s).run World.initial).value = .error (.bootstrap e) := by
  obtain ⟨making, hmaking⟩ := h.exists_run_adapterFactory hcollected
  rw [← s.plan_factory] at hmaking
  rw [← s.plan_location] at hresolve
  have hbootstrap := Bootstrapper.run_bootstrapWith_of_resolve_error hmaking hresolve
  rw [h.run_eq hcollected (run_publication_of_error hbootstrap)]

/-- The static directory answers what its check of the environment decides. -/
theorem accessAnswer_eq (s : HostSettings) (w : StaticService Remote) :
    accessAnswer s w =
      ((StaticConnector.ofSettings s.directory.static).checkAccess s.environment).map
        fun _ => StaticConnector.context :=
  StaticConnector.run_connect_value _ s.environment w

/-- A static directory that opens a context accepts the environment. -/
theorem Admitted.checkAccess (h : Admitted collected s w) :
    (StaticConnector.ofSettings s.directory.static).checkAccess s.environment = .ok () := by
  obtain ⟨context, haccess⟩ := h.access
  rw [accessAnswer_eq] at haccess
  cases hcheck : (StaticConnector.ofSettings s.directory.static).checkAccess s.environment with
  | ok _ => rfl
  | error e =>
    rw [hcheck] at haccess
    cases haccess

/-- A static directory that answers with a failure refuses the environment. -/
theorem checkAccess_of_refused {e : NamingError} (h : accessAnswer s w = .error e) :
    (StaticConnector.ofSettings s.directory.static).checkAccess s.environment = .error e := by
  rw [accessAnswer_eq] at h
  cases hcheck : (StaticConnector.ofSettings s.directory.static).checkAccess s.environment with
  | ok _ =>
    rw [hcheck] at h
    cases h
  | error e' =>
    rw [hcheck] at h
    cases h
    rfl

/-- A host that is let in finds what the look-up in its directory finds. -/
theorem Admitted.exists_run_resolve (h : Admitted collected s w)
    {v : Except NamingError (Handle Remote)}
    (hlookup : (StaticDirectory.lookup s.location).run (service s).directory =
      ⟨v, (service s).directory, []⟩) :
    ∃ w' resolving,
      ((bootstrapper collected s).connector.resolve s.environment s.location).run (service s) =
        ⟨v.mapError (.directoryUnavailable s.location), w', resolving⟩ := by
  have hconnect : ((bootstrapper collected s).connector.connect s.environment).run (service s) =
      ⟨.ok StaticConnector.context, (service s).record s.environment,
        [StaticConnector.acceptanceEvent s.environment]⟩ :=
    StaticConnector.run_connect_of_ok h.checkAccess (service s)
  have hcontext : (StaticConnector.context.lookup s.location).run
      ((service s).record s.environment) =
        ⟨v, (service s).record s.environment, []⟩ := Act.run_within_of hlookup
  cases v with
  | error e => exact ⟨_, _, DirectoryConnector.run_resolve_of_lookup_error hconnect hcontext⟩
  | ok found => exact ⟨_, _, DirectoryConnector.run_resolve_of_found hconnect hcontext⟩

/-! ## Failure -/

/-- A host fails with the first thing that it lacks. -/
theorem run_value_of_violation (hcollected : ∀ entry ∈ collected, Collected.Plain entry)
    {e : HostError} (h : FirstViolation collected s w e) :
    ((run collected s).run World.initial).value = .error e := by
  cases h with
  | binding refused =>
    obtain ⟨building, hbuild⟩ := StaticSettings.run_build_of_refused refused World.initial
    rw [run_of_build_error hbuild]
  | connector before refused =>
    have hbuild := StaticSettings.run_build_of_acceptable before World.initial
    obtain ⟨connecting, hrequest⟩ := exists_run_instantiate_of_error hcollected refused
    rw [run_of_connector_error hbuild (hrequest (service s))]
  | factory before refused =>
    obtain ⟨making, hrequest⟩ := exists_run_instantiate_of_error hcollected refused
    have hmaking := Bootstrapper.run_adapterFactory_of_error (b := bootstrapper collected s)
      (hrequest (service s))
    rw [← s.plan_factory] at hmaking
    have hbootstrap := Bootstrapper.run_bootstrapWith_of_factory_error hmaking
    rw [before.run_eq hcollected (run_publication_of_error hbootstrap), s.plan_factory]
  | access before refused =>
    have hcheck := checkAccess_of_refused refused
    have hconnect : ((bootstrapper collected s).connector.connect s.environment).run (service s) =
        ⟨.error _, _, _⟩ := StaticConnector.run_connect_of_error hcheck (service s)
    have hresolve : ((bootstrapper collected s).connector.resolve s.environment s.location).run
        (service s) = ⟨.error _, _, _⟩ := DirectoryConnector.run_resolve_of_connect_error hconnect
    exact before.run_value_of_resolve_error hcollected hresolve
  | malformed before malformed =>
    have hlookup := StaticDirectory.run_lookup_of_refused (checkName_of_not_wellFormed malformed)
      (service s).directory
    obtain ⟨w', resolving, hresolve⟩ := before.exists_run_resolve hlookup
    exact before.run_value_of_resolve_error hcollected hresolve
  | unbound before wellFormed unbound =>
    -- what is not the name of a binding is not bound when all of them are
    have hmissing : (service s).directory.table.get? s.location = none := by
      rw [← Option.not_isSome_iff_eq_none]
      exact fun hbound => unbound ((StaticSettings.contains_stocked_iff _ _).1 hbound)
    have hlookup := StaticDirectory.run_lookup_of_missing (checkName_eq_ok_iff.2 wellFormed)
      hmissing
    obtain ⟨w', resolving, hresolve⟩ := before.exists_run_resolve hlookup
    exact before.run_value_of_resolve_error hcollected hresolve

/-! ## Success -/

/-- A host that lacks nothing binds its repositories, finds the one that it wants, which happens in a
span of its own, and publishes it, reports it and takes it back. -/
theorem exists_run_of_ready (hcollected : ∀ entry ∈ collected, Collected.Plain entry)
    (h : Ready collected s w) {b : BindingSettings} (hb : b ∈ s.directory.static.bindings)
    (hname : b.name = s.location) :
    ∃ (W : World) (span : Span) (finding : List Event),
      (run collected s).run World.initial = ⟨.ok (), W,
        s.directory.static.bindings.map StaticSettings.boundEvent ++
          (collectedEvents collected ++
            ((finding.map (·.inside span) ++
              [Publisher.event "Published repository" s.attributeName]) ++
                (reportEvents s.attributeName b.repository ++
                  [Publisher.event "Unpublished repository" s.attributeName])))⟩ := by
  -- no name occurs twice, so that the location leads to this binding and to no other one
  have hbound : (service s).directory.table.get? s.location = some b.handle :=
    hname ▸ StaticSettings.get?_stocked h.acceptable hb
  have hwellFormed : checkName s.location = .ok () :=
    checkName_eq_ok_iff.2 (hname ▸ h.acceptable.wellFormed b hb)
  have hlookup := StaticDirectory.run_lookup_of_bound hwellFormed hbound
  obtain ⟨w', resolving, hresolve⟩ := h.toAdmitted.exists_run_resolve hlookup
  obtain ⟨making, hmaking⟩ := h.toPrepared.exists_run_adapterFactory hcollected
  have hwrap : (ClientAdapter.factory.wrap b.handle).run w' =
      ⟨.ok ⟨.inMemory b.repository⟩, w', [ClientAdapter.wrappingEvent b.handle.typeName]⟩ := rfl
  rw [← s.plan_factory] at hmaking
  rw [← s.plan_location] at hresolve
  have hbootstrap := Bootstrapper.run_bootstrapWith_of_ok hmaking hresolve hwrap
  obtain ⟨W, hpublication⟩ := run_publication_of_ok hbootstrap
  rw [s.plan_attributeName] at hpublication
  exact ⟨W, _, _, h.run_eq hcollected hpublication⟩

/-! ## What is reported of descriptors -/

/-- The event reports a descriptor, and comes from the host itself: it is in no span. -/
def isDescriptorReport (e : Event) : Bool :=
  e.target = "repository_bootstrap" ∧ e.message = "Repository descriptor" ∧ e.spans = []

/-- Only events of the host itself report descriptors. -/
theorem isDescriptorReport_of_target {e : Event} (h : e.target ≠ "repository_bootstrap") :
    isDescriptorReport e = false := by
  unfold isDescriptorReport
  simp [h]

theorem filter_inside (span : Span) (l : List Event) :
    (l.map (·.inside span)).filter isDescriptorReport = [] := by
  rw [List.filter_eq_nil_iff]
  intro e he
  obtain ⟨e', -, rfl⟩ := List.mem_map.1 he
  simp [isDescriptorReport, Event.inside]

theorem filter_boundEvents (bindings : List BindingSettings) :
    (bindings.map StaticSettings.boundEvent).filter isDescriptorReport = [] := by
  rw [List.filter_eq_nil_iff]
  intro e he
  obtain ⟨b, -, rfl⟩ := List.mem_map.1 he
  rw [isDescriptorReport_of_target (show "static_directory_plugin::directory" ≠ _ by decide)]
  exact Bool.false_ne_true

theorem filter_collectedEvents (collected : List Collected) :
    (collectedEvents collected).filter isDescriptorReport = [] := by
  rw [List.filter_eq_nil_iff]
  intro e he
  obtain ⟨entry, -, rfl⟩ := List.mem_map.1 he
  rw [isDescriptorReport_of_target (show "repository_locator::registry" ≠ _ by decide)]
  exact Bool.false_ne_true

theorem filter_publisherEvent (message name : String) :
    [Publisher.event message name].filter isDescriptorReport = [] := by
  rw [List.filter_cons_of_neg, List.filter_nil]
  rw [isDescriptorReport_of_target (show "repository_locator::publisher" ≠ _ by decide)]
  exact Bool.false_ne_true

/-- Of the report on a repository, the descriptors are left. -/
theorem filter_reportEvents (attributeName : String) (r : InMemoryRepository) :
    (reportEvents attributeName r).filter isDescriptorReport =
      r.descriptors.entries.map fun e => descriptorEvent attributeName e.1 e.2 := by
  have hasked : ∀ message fields,
      isDescriptorReport (forwardingEvent message fields) = false := fun message fields =>
    isDescriptorReport_of_target
      (show "repository_locator::client::client_repository" ≠ _ by decide)
  have htold : ∀ key value, isDescriptorReport (descriptorEvent attributeName key value) = true :=
    fun key value => rfl
  have hentry : ∀ e, (entryEvents attributeName e).filter isDescriptorReport =
      [descriptorEvent attributeName e.1 e.2] := by
    intro e
    unfold entryEvents
    rw [List.filter_cons_of_neg (by simp [hasked]), List.filter_cons_of_pos (htold _ _),
      List.filter_nil]
  unfold reportEvents
  rw [List.filter_cons_of_neg (by simp [hasked]), List.filter_flatMap, List.map_eq_flatMap,
    funext hentry]

/-- A host that lacks nothing reports the descriptors of the repository at its location. -/
theorem filter_events_of_ready (hcollected : ∀ entry ∈ collected, Collected.Plain entry)
    (h : Ready collected s w) {b : BindingSettings} (hb : b ∈ s.directory.static.bindings)
    (hname : b.name = s.location) :
    ((run collected s).run World.initial).events.filter isDescriptorReport =
      b.descriptors.entries.map fun e => descriptorEvent s.attributeName e.1 e.2 := by
  obtain ⟨W, span, finding, hrun⟩ := exists_run_of_ready hcollected h hb hname
  rw [hrun]
  -- whatever collected components report here is reported in the span of the bootstrap
  simp only [List.filter_append, filter_boundEvents, filter_collectedEvents, filter_inside,
    filter_publisherEvent, filter_reportEvents, List.nil_append, List.append_nil]
  rfl

/-! ## The outcome of a run -/

/-- A ready host runs to its end without a failure. -/
theorem run_value_of_ready (hcollected : ∀ entry ∈ collected, Collected.Plain entry)
    (h : Ready collected s w) : ((run collected s).run World.initial).value = .ok () := by
  obtain ⟨b, hb, hname⟩ := List.mem_map.1 h.bound
  obtain ⟨W, span, finding, hrun⟩ := exists_run_of_ready hcollected h hb hname
  rw [hrun]

/-- Whatever a host is told, and whatever the state in which its connector, its adapter factory and
its static directory are asked, it succeeds exactly if its bindings are accepted, the three answer, and
its location is bound. Of the descriptors of the repository at the location it then reports each once,
under its attribute name and in ascending order of the keys. Otherwise it fails with the first of these
that does not hold. A binding that is refused and a connector that is missing are put behind a message
that says what was tried. -/
theorem run_outcome (hcollected : ∀ entry ∈ collected, Collected.Plain entry) (s : HostSettings)
    (w : StaticService Remote) :
    let o := (run collected s).run World.initial
    (o.value = .ok () ↔ Ready collected s w) ∧
    (o.value = .ok () → ∀ b ∈ s.directory.static.bindings, b.name = s.location →
      o.events.filter isDescriptorReport = b.descriptors.entries.map (fun (key, value) =>
        { level := .info
          target := "repository_bootstrap"
          message := "Repository descriptor"
          fields := [("attribute", s.attributeName), ("key", key), ("value", value)]
          spans := [] }) ∧
      b.descriptors.names.Pairwise (· < ·)) ∧
    (∀ e, o.value = .error e ↔ FirstViolation collected s w e) ∧
    (∀ cause, (HostError.directory cause).message = "Failed to build the static directory" ∧
      (HostError.directory cause).sources = [cause.message]) ∧
    ∀ name cause,
      (HostError.connector name cause).message = s!"Unknown directory connector: {name}" ∧
      (HostError.connector name cause).sources = cause.message :: cause.sources := by
  intro o
  have hready : o.value = .ok () → Ready collected s w := by
    intro hok
    obtain h | ⟨e, h⟩ := ready_or_violation collected s w
    · exact h
    · have herror : o.value = .error e := run_value_of_violation hcollected h
      rw [hok] at herror
      cases herror
  have hviolation : ∀ e, o.value = .error e → FirstViolation collected s w e := by
    intro e herror
    obtain h | ⟨e', h⟩ := ready_or_violation collected s w
    · have hok : o.value = .ok () := run_value_of_ready hcollected h
      rw [hok] at herror
      cases herror
    · -- there is only one failure, so it is the one that the run ends with
      have herror' : o.value = .error e' := run_value_of_violation hcollected h
      rw [herror] at herror'
      cases herror'
      exact h
  refine ⟨⟨hready, run_value_of_ready hcollected⟩, fun hok b hb hname => ⟨?_, ?_⟩,
    fun e => ⟨hviolation e, run_value_of_violation hcollected⟩,
    fun cause => ⟨rfl, rfl⟩, fun name cause => ⟨rfl, rfl⟩⟩
  · exact filter_events_of_ready hcollected (hready hok) hb hname
  · exact b.descriptors.names_ascending

/-- The repository that a host may want. -/
def sampleBinding : BindingSettings :=
  ⟨"svc/Repository", .ofList [("owner", "ops"), ("kind", "memory")], .empty⟩

/-- A host that wants one of two repositories. -/
def sampleSettings : HostSettings where
  logging := .standard
  parameters := .ofList [("Location", "svc/Repository"), ("RepositoryAttribute", "repository")]
  directory := ⟨StaticConnector.registeredName, ⟨none, none,
    [⟨"svc/Spare", .ofList [("kind", "spare")], .empty⟩, sampleBinding]⟩⟩

/-- A host with a collected component that is not to be had reports the two descriptors of the
repository that it wants, and nothing of the other one. -/
theorem run_outcome_example :
    let collected : List Collected := [⟨"acme::Adapter", Act.fail (.error ⟨"not linked", []⟩)⟩]
    let o := (run collected sampleSettings).run World.initial
    o.value = .ok () ∧ o.events.filter isDescriptorReport =
      [⟨.info, "repository_bootstrap", "Repository descriptor",
          [("attribute", "repository"), ("key", "kind"), ("value", "memory")], []⟩,
        ⟨.info, "repository_bootstrap", "Repository descriptor",
          [("attribute", "repository"), ("key", "owner"), ("value", "ops")], []⟩] := by
  intro collected o
  have hcollected : ∀ entry ∈ collected, Collected.Plain entry := by
    intro entry hentry
    obtain rfl : entry = _ := List.mem_singleton.1 hentry
    exact ⟨.error (.error ⟨"not linked", []⟩), [], fun w => rfl⟩
  have hready : Ready collected sampleSettings default := by
    refine ⟨⟨⟨⟨⟨?_, ?_⟩, ?_⟩, ?_⟩, ?_⟩, ?_⟩
    · decide
    · decide
    · exact ⟨_, rfl⟩
    · exact ⟨_, rfl⟩
    · exact ⟨_, rfl⟩
    · decide
  obtain ⟨hok, hevents, -⟩ := run_outcome hcollected sampleSettings default
  have hbound : sampleBinding ∈ sampleSettings.directory.static.bindings :=
    List.mem_cons_of_mem _ List.mem_cons_self
  exact ⟨hok.2 hready, (hevents (hok.2 hready) sampleBinding hbound rfl).1⟩

end Host

end Locator
