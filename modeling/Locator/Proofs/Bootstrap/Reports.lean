import Locator.Proofs.Bootstrap.Enclosed
import Locator.Proofs.Bootstrap.Order

/-!
# What a bootstrap reports itself

A bootstrap reports on its own account, and passes on what its collaborators report. The two are told
apart by looking at the same bootstrap over collaborators that are kept silent.

* `Bootstrapper.Reports`: what collaborators may report;
* `Amid`: reports in their order, with others among them;
* `Event.ofLocator`, `warnings`: the reports of the library, and the warnings among them;
* `StepFailure.warning`: the warning about the step that fails, written out;
* `warningsDue`, `Accounts`: the warning that belongs to an end, and reports that account for it;
* `Course.exists_reports`: on every course of a bootstrap, silencing the collaborators takes away what
  they report and nothing else, and what remains has one warning if a step fails and none otherwise.
-/

namespace Locator

variable {σ ρ π : Type}

/-! ## Reports among others -/

/-- The first list of events with events of another kind among them is the second list. -/
inductive Amid (other : Event → Prop) : List Event → List Event → Prop where
  /-- There are none. -/
  | nil : Amid other [] []
  /-- The next event is one of the first list. -/
  | own {own all : List Event} (e : Event) (h : Amid other own all) : Amid other (e :: own) (e :: all)
  /-- The next event is of the other kind. -/
  | other {own all : List Event} {e : Event} (he : other e) (h : Amid other own all) :
    Amid other own (e :: all)

namespace Amid

variable {other : Event → Prop} {own all own' all' : List Event}

theorem refl (other : Event → Prop) (own : List Event) : Amid other own own := by
  induction own with
  | nil => exact .nil
  | cons e rest ih => exact .own e ih

/-- Events of the other kind have none of the first kind among them. -/
theorem of_forall (h : ∀ e ∈ all, other e) : Amid other [] all := by
  induction all with
  | nil => exact .nil
  | cons e rest ih =>
    have hrest : Amid other [] rest := ih fun e' he' => h e' (List.mem_cons_of_mem e he')
    exact .other (h e List.mem_cons_self) hrest

/-- Two lists one after the other are amid others if both are. -/
theorem append (h : Amid other own all) (h' : Amid other own' all') :
    Amid other (own ++ own') (all ++ all') := by
  induction h with
  | nil => exact h'
  | own e _ ih => exact .own e ih
  | other he _ ih => exact .other he ih

/-- Events of the other kind may come first. -/
theorem after {before : List Event} (hbefore : ∀ e ∈ before, other e) (h : Amid other own all) :
    Amid other own (before ++ all) :=
  (of_forall hbefore).append h

/-- A span around all of them is a span around each of them. -/
theorem inside {span : Span} (hother : ∀ e, other e → other (e.inside span))
    (h : Amid other own all) :
    Amid other (own.map (·.inside span)) (all.map (·.inside span)) := by
  induction h with
  | nil => exact .nil
  | own e _ ih => exact .own _ ih
  | other he _ ih => exact .other (hother _ he) ih

/-- What keeps none of the others keeps the same of both lists. -/
theorem filter_eq {keep : Event → Bool} (hother : ∀ e, other e → keep e = false)
    (h : Amid other own all) : all.filter keep = own.filter keep := by
  induction h with
  | nil => rfl
  | own e _ ih => rw [List.filter_cons, List.filter_cons, ih]
  | other he _ ih =>
    rw [List.filter_cons, hother _ he, ih]
    rfl

end Amid

/-! ## What collaborators report -/

namespace Bootstrapper

/-- The events that collaborators of a bootstrapper may report, in spans or not: its constructors, the
adapter factories that they make, its connector, and the contexts that it opens. -/
inductive Reports (b : Bootstrapper σ ρ π) : Event → Prop where
  /-- A constructor reports while it is called. -/
  | making {name : String} {make : Constructor σ ρ π} {s : σ} {e : Event}
      (held : b.registry.constructor? name = some make) (told : e ∈ (make.run s).events) :
      Reports b e
  /-- The connector reports while a client connects. -/
  | connecting {env : Environment} {s : σ} {e : Event}
      (told : e ∈ ((b.connector.connect env).run s).events) : Reports b e
  /-- A context reports while a name is looked up. -/
  | looking {env : Environment} {s t : σ} {context : DirectoryContext σ ρ} {name : String}
      {e : Event} (connected : ((b.connector.connect env).run s).value = .ok context)
      (told : e ∈ ((context.lookup name).run t).events) : Reports b e
  /-- An adapter factory reports while it wraps a handle. -/
  | wrapping {name : String} {make : Constructor σ ρ π} {s t : σ}
      {factory : AdapterFactory σ ρ π} {found : Handle ρ} {e : Event}
      (held : b.registry.constructor? name = some make)
      (made : (make.run s).value = .ok (.adapterFactory factory))
      (told : e ∈ ((factory.wrap found).run t).events) : Reports b e
  /-- A span is around the event. -/
  | inside {e : Event} (span : Span) (h : Reports b e) : Reports b (e.inside span)

/-- A bootstrapper whose collaborators report nothing, and do the same otherwise. -/
def silenced (b : Bootstrapper σ ρ π) : Bootstrapper σ ρ π :=
  ⟨b.registry.enclosed .silent, b.connector.enclosed .silent⟩

variable {b : Bootstrapper σ ρ π} {name : String} {s t u w : σ}

/-- What is reported while an adapter factory is made is a report of collaborators. -/
theorem reports_of_making {v : Except ComponentError (AdapterFactory σ ρ π)} {making : List Event}
    (h : (b.registry.adapterFactory name).run s = ⟨v, t, making⟩) : ∀ e ∈ making, b.Reports e := by
  intro e he
  cases held : b.registry.constructor? name with
  | none =>
    -- nothing is called, so nothing is reported
    rw [Registry.run_adapterFactory_of_unknown held] at h
    cases h
    cases he
  | some make =>
    rw [Registry.run_adapterFactory_of_known held] at h
    cases h
    exact .making held he

/-- What is reported while a handle is wrapped is a report of collaborators. -/
theorem reports_of_wrapping {factory : AdapterFactory σ ρ π} {found : Handle ρ}
    {v : Except AdapterError π} {making wrapping : List Event}
    (h : (b.registry.adapterFactory name).run s = ⟨.ok factory, t, making⟩)
    (hw : (factory.wrap found).run u = ⟨v, w, wrapping⟩) : ∀ e ∈ wrapping, b.Reports e := by
  intro e he
  cases held : b.registry.constructor? name with
  | none =>
    rw [Registry.run_adapterFactory_of_unknown held] at h
    cases h
  | some make =>
    rw [Registry.run_adapterFactory_of_known held] at h
    -- a request is granted only for a component that is an adapter factory
    have made : (make.run s).value = .ok (.adapterFactory factory) :=
      Registry.granted_iff.1 (congrArg Outcome.value h)
    have told : e ∈ ((factory.wrap found).run u).events := by
      rw [hw]
      exact he
    exact .wrapping held made told

/-- What is reported while a client connects is a report of collaborators. -/
theorem reports_of_connecting {env : Environment} {v : Except NamingError (DirectoryContext σ ρ)}
    {connecting : List Event} (h : (b.connector.connect env).run s = ⟨v, t, connecting⟩) :
    ∀ e ∈ connecting, b.Reports e := by
  intro e he
  have told : e ∈ ((b.connector.connect env).run s).events := by
    rw [h]
    exact he
  exact .connecting told

/-- What is reported while a name is looked up is a report of collaborators. -/
theorem reports_of_looking {env : Environment} {context : DirectoryContext σ ρ}
    {v : Except NamingError (Handle ρ)} {connecting looking : List Event}
    (h : (b.connector.connect env).run s = ⟨.ok context, t, connecting⟩)
    (hl : (context.lookup name).run t = ⟨v, u, looking⟩) : ∀ e ∈ looking, b.Reports e := by
  intro e he
  have connected : ((b.connector.connect env).run s).value = .ok context := by rw [h]
  have told : e ∈ ((context.lookup name).run t).events := by
    rw [hl]
    exact he
  exact .looking connected told

end Bootstrapper

/-! ## Reports of the library -/

/-- The event comes from a part of the library. -/
def Event.ofLocator (e : Event) : Bool :=
  e.target = "repository_locator" || "repository_locator::".toList.isPrefixOf e.target.toList

/-- The warnings of the library. -/
def warnings (events : List Event) : List Event :=
  events.filter fun e => e.ofLocator && e.level = .warn

namespace StepFailure

/-- How a warning tells why there is no adapter factory: the kind of failure, and what is wrong with
the class. -/
def factoryReport : ComponentError → String × String
  | .notRegistered => ("type_not_found", "local adapter factory class not found")
  | .constructorFailed _ | .panicked _ =>
    ("instantiation_failed", "failed to instantiate the adapter factory")
  | .capabilityMismatch .. => ("capability_mismatch", "invalid local adapter factory class")

/-- How a warning tells a failure of the naming service. -/
def namingReport : NamingError → String
  | .malformedName name reason => s!"malformed name `{name}`: {reason}"
  | .authenticationFailed text => s!"authentication failed: {text}"
  | .serviceUnavailable text => s!"directory service unavailable: {text}"
  | .nameNotBound name => s!"name not bound: {name}"
  | .other text => s!"naming error: {text}"

/-- The warning about the step of a bootstrap that fails, which is the last one that is taken. It
tells the failure in words: of an adapter factory the failure of the bootstrap, with its kind, and of
the other steps the failure of the step. -/
def warning (plan : Plan) (calls : List (Step ρ)) (failure : StepFailure) : Event :=
  let bootstrapping : Span :=
    { name := "bootstrap_with"
      target := "repository_locator::domain::bootstrap"
      fields := [("location", plan.location), ("factory", plan.factory)] }
  let resolving : Span :=
    { name := "resolve"
      target := "repository_locator::domain::resolver"
      fields := [("env_keys", toString plan.environment.size), ("location", plan.location)] }
  match failure with
  | .registry cause =>
    let (kind, wrong) := factoryReport cause
    { level := .warn
      target := "repository_locator::domain::bootstrap"
      message := "Adapter factory could not be prepared"
      fields := [("kind", kind),
        ("error", s!"adapter factory could not be prepared: {wrong}: {plan.factory}")]
      spans := [bootstrapping] }
  | .naming cause =>
    { level := .warn
      target := "repository_locator::domain::resolver"
      message := match calls.getLast? with
        | some (.lookup _) => "Directory lookup failed"
        | _ => "Failed to build directory context"
      fields := [("error", namingReport cause)]
      spans := [bootstrapping, resolving] }
  | .adapter cause =>
    { level := .warn
      target := "repository_locator::domain::bootstrap"
      message := "Adapter factory rejected the remote handle"
      fields := [("error",
        s!"unexpected remote handle: expected `{cause.expected}`, got `{cause.actual}`")]
      spans := [bootstrapping] }

variable (plan : Plan) (calls : List (Step ρ))

/-- This is what is reported of an adapter factory that is not to be had. -/
theorem warning_registry (cause : ComponentError) : (registry cause).warning plan calls =
    (bootstrapEvent .warn "Adapter factory could not be prepared"
      [("kind", (BootstrapError.configuration plan.factory cause).label),
        ("error", (BootstrapError.configuration plan.factory cause).message)]).inside
          (bootstrapSpan plan) := by
  cases cause with
  | notRegistered => rfl
  | constructorFailed causes => rfl
  | panicked text => rfl
  | capabilityMismatch expected actual => rfl

/-- A failure of the naming service is told in its own words. -/
theorem namingReport_eq (cause : NamingError) : namingReport cause = cause.message := by
  cases cause <;> rfl

/-- This is what is reported of a naming service that fails, by the step that it was asked for. -/
theorem warning_naming (cause : NamingError) : (naming cause).warning plan calls =
    ((resolverEvent .warn
      (match calls.getLast? with
        | some (.lookup _) => "Directory lookup failed"
        | _ => "Failed to build directory context")
      [("error", cause.message)]).inside (resolveSpan plan.environment plan.location)).inside
        (bootstrapSpan plan) := by
  rw [← namingReport_eq]
  rfl

/-- This is what is reported of a handle that is refused. -/
theorem warning_adapter (cause : AdapterError) : (adapter cause).warning plan calls =
    (bootstrapEvent .warn "Adapter factory rejected the remote handle"
      [("error", cause.message)]).inside (bootstrapSpan plan) := rfl

end StepFailure

/-! ## What a bootstrap reports -/

/-- The warnings that belong to an end of the bootstrap of a plan: the one about the step that fails,
if any does. -/
def warningsDue (plan : Plan) (calls : List (Step ρ)) : Except StepFailure π → List Event
  | .error failure => [failure.warning plan calls]
  | .ok _ => []

/-- Reports of a bootstrap account for its end. All of them come from bootstrapping or from finding a
handle, and there is one warning if a step fails, and none otherwise. -/
structure Accounts (plan : Plan) (calls : List (Step ρ)) (verdict : Except StepFailure π)
    (own : List Event) : Prop where
  /-- Where the reports come from. -/
  target : ∀ e ∈ own, e.target = "repository_locator::domain::bootstrap" ∨
    e.target = "repository_locator::domain::resolver"
  /-- The only warning is that of the step that fails. -/
  warnings : warnings own = warningsDue plan calls verdict

section

variable (span : Span) (e : Event) (level : Level) (message : String)
  (fields : List (String × String))

@[simp]
theorem level_inside : (e.inside span).level = e.level := rfl

@[simp]
theorem target_inside : (e.inside span).target = e.target := rfl

@[simp]
theorem level_bootstrapEvent : (bootstrapEvent level message fields).level = level := rfl

@[simp]
theorem target_bootstrapEvent : (bootstrapEvent level message fields).target =
    "repository_locator::domain::bootstrap" := rfl

@[simp]
theorem level_resolverEvent : (resolverEvent level message fields).level = level := rfl

@[simp]
theorem target_resolverEvent : (resolverEvent level message fields).target =
    "repository_locator::domain::resolver" := rfl

end

/-- Reports of bootstrapping and of finding a handle come from the library. -/
theorem Event.ofLocator_of_target {e : Event}
    (h : e.target = "repository_locator::domain::bootstrap" ∨
      e.target = "repository_locator::domain::resolver") : e.ofLocator = true := by
  unfold ofLocator
  rcases h with h | h
  · rw [h]
    decide +kernel
  · rw [h]
    decide +kernel

/-- Collaborators that are kept silent are not heard. -/
@[simp]
theorem Enclosure.heard_silent (events : List Event) :
    (silent : Enclosure σ σ).heard events = [] := rfl

namespace Course

open Bootstrapper DirectoryConnector

variable {b : Bootstrapper σ ρ π} {plan : Plan} {s t : σ} {calls : List (Step ρ)}
  {verdict : Except StepFailure π}

/-- With its collaborators kept silent a bootstrap takes the same course, and its own reports are left
of all that is reported. -/
theorem exists_reports (h : Course b plan s calls verdict t) :
    ∃ own all,
      (b.bootstrapWith plan).run s = ⟨verdict.mapError (·.translated plan), t, all⟩ ∧
      (b.silenced.bootstrapWith plan).run s = ⟨verdict.mapError (·.translated plan), t, own⟩ ∧
      Amid b.Reports own all ∧ Accounts plan calls verdict own := by
  have keeps : ∀ span e, b.Reports e → b.Reports (e.inside span) := fun span _ he => .inside span he
  -- on each course: the run and its silent counterpart, the reports that this keeps out, the others
  cases h with
  | noFactory made =>
    have made' := Registry.run_enclosed_of (k := .silent) (s := s) made
    refine ⟨_, _, run_bootstrapWith_of_factory_error (run_adapterFactory_of_error made),
      run_bootstrapWith_of_factory_error (run_adapterFactory_of_error made'), ?_, ?_, ?_⟩
    · exact .inside (keeps _) (.after (reports_of_making made) (.refl _ _))
    · simp
    · simp [warnings, Event.ofLocator_of_target, warningsDue, StepFailure.warning_registry]
  | @notConnected factory e t u _ _ made connected =>
    have made' := Registry.run_enclosed_of (k := .silent) (s := s) made
    have connected' := DirectoryConnector.run_enclosed_of (k := .silent) (s := t) connected
    refine ⟨_, _, run_bootstrapWith_of_resolve_error (run_adapterFactory_of_ok made)
        (run_resolve_of_connect_error connected),
      run_bootstrapWith_of_resolve_error (run_adapterFactory_of_ok made')
        (run_resolve_of_connect_error connected'), ?_, ?_, ?_⟩
    · exact .inside (keeps _) (.append (.after (reports_of_making made) (.refl _ _))
        (.inside (keeps _) (.after (reports_of_connecting connected) (.refl _ _))))
    · simp
    · simp [warnings, Event.ofLocator_of_target, warningsDue, StepFailure.warning_naming]
  | @notFound factory context e t u _ _ _ _ made connected lookedUp =>
    have made' := Registry.run_enclosed_of (k := .silent) (s := s) made
    have connected' := DirectoryConnector.run_enclosed_of (k := .silent) (s := t) connected
    have lookedUp' := Act.run_enclosed_of (k := .silent) (s := u) lookedUp
    refine ⟨_, _, run_bootstrapWith_of_resolve_error (run_adapterFactory_of_ok made)
        (run_resolve_of_lookup_error connected lookedUp),
      run_bootstrapWith_of_resolve_error (run_adapterFactory_of_ok made')
        (run_resolve_of_lookup_error connected' lookedUp'), ?_, ?_, ?_⟩
    · exact .inside (keeps _) (.append (.after (reports_of_making made) (.refl _ _))
        (.inside (keeps _) (.after (reports_of_connecting connected)
          (.after (reports_of_looking connected lookedUp) (.refl _ _)))))
    · simp
    · simp [warnings, Event.ofLocator_of_target, warningsDue, StepFailure.warning_naming]
  | @notWrapped factory context found e t u v _ _ _ _ _ made connected lookedUp wrapped =>
    have made' := Registry.run_enclosed_of (k := .silent) (s := s) made
    have connected' := DirectoryConnector.run_enclosed_of (k := .silent) (s := t) connected
    have lookedUp' := Act.run_enclosed_of (k := .silent) (s := u) lookedUp
    have wrapped' := Act.run_enclosed_of (k := .silent) (s := v) wrapped
    refine ⟨_, _, run_bootstrapWith_of_wrap_error (run_adapterFactory_of_ok made)
        (run_resolve_of_found connected lookedUp) wrapped,
      run_bootstrapWith_of_wrap_error (run_adapterFactory_of_ok made')
        (run_resolve_of_found connected' lookedUp') wrapped', ?_, ?_, ?_⟩
    · exact .inside (keeps _) (.append (.after (reports_of_making made) (.refl _ _))
        (.append (.inside (keeps _) (.after (reports_of_connecting connected)
          (.after (reports_of_looking connected lookedUp) (.refl _ _))))
          (.after (reports_of_wrapping made wrapped) (.refl _ _))))
    · simp
    · simp [warnings, Event.ofLocator_of_target, warningsDue, StepFailure.warning_adapter]
  | @completed factory context found proxy t u v _ _ _ _ _ made connected lookedUp wrapped =>
    have made' := Registry.run_enclosed_of (k := .silent) (s := s) made
    have connected' := DirectoryConnector.run_enclosed_of (k := .silent) (s := t) connected
    have lookedUp' := Act.run_enclosed_of (k := .silent) (s := u) lookedUp
    have wrapped' := Act.run_enclosed_of (k := .silent) (s := v) wrapped
    refine ⟨_, _, run_bootstrapWith_of_ok (run_adapterFactory_of_ok made)
        (run_resolve_of_found connected lookedUp) wrapped,
      run_bootstrapWith_of_ok (run_adapterFactory_of_ok made')
        (run_resolve_of_found connected' lookedUp') wrapped', ?_, ?_, ?_⟩
    · exact .inside (keeps _) (.append (.after (reports_of_making made) (.refl _ _))
        (.append (.inside (keeps _) (.after (reports_of_connecting connected)
          (.after (reports_of_looking connected lookedUp) (.refl _ _))))
          (.after (reports_of_wrapping made wrapped) (.refl _ _))))
    · simp
    · simp [warnings, Event.ofLocator_of_target, warningsDue]

end Course

end Locator
