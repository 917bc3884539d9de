import Mathlib.Control.Monad.Basic
import Locator.Proofs.Bootstrap.Reports
import Locator.Proofs.Client.Forwarding
import Locator.Proofs.Publisher.Runs
import Locator.Proofs.Registry.Precedence
import Locator.Proofs.StaticDirectory.Sessions

/-!
# What publishing reports

Every failure of a publication is reported once, at the step that fails, and a publication that
succeeds is reported once and without a warning.

* `publications`: the reports about what is published;
* `Bootstrapper.Discreet`: collaborators that leave warnings of the library and reports about
  publishing to the library; `Bootstrapper.discreet_of_builtins`: those that come with it do;
* `publishedEvent_eq`: the report of a success, which says if something was replaced;
* `Publisher.failures_are_reported_once`: the reports of publishing and of removing again.
-/

namespace Locator

variable {σ ρ π : Type}

/-- The reports about what is published. -/
def publications (events : List Event) : List Event :=
  events.filter fun e => e.target = "repository_locator::publisher"

theorem warnings_append (before after : List Event) :
    warnings (before ++ after) = warnings before ++ warnings after := List.filter_append ..

theorem publications_append (before after : List Event) :
    publications (before ++ after) = publications before ++ publications after :=
  List.filter_append ..

/-- No report of a bootstrap is about publishing. -/
theorem Accounts.publications {plan : Plan} {calls : List (Step ρ)}
    {verdict : Except StepFailure π} {own : List Event} (h : Accounts plan calls verdict own) :
    publications own = [] := by
  refine List.filter_eq_nil_iff.2 fun e he => ?_
  rcases h.target e he with htarget | htarget
  · simp [htarget]
  · simp [htarget]

namespace Bootstrapper

/-- No collaborator reports a warning in the name of the library, or something about publishing. -/
def Discreet (b : Bootstrapper σ ρ π) : Prop :=
  ∀ e, b.Reports e →
    (e.ofLocator && e.level = .warn) = false ∧ e.target ≠ "repository_locator::publisher"

variable {b : Bootstrapper σ ρ π} {own all : List Event}

/-- With discreet collaborators, all warnings are the publisher's own. -/
theorem Discreet.warnings_eq (h : b.Discreet) (hamid : Amid b.Reports own all) :
    warnings all = warnings own :=
  hamid.filter_eq fun e he => (h e he).1

theorem Discreet.publications_eq (h : b.Discreet) (hamid : Amid b.Reports own all) :
    publications all = publications own :=
  hamid.filter_eq fun e he => decide_eq_false (h e he).2

end Bootstrapper

/-! ## The collaborators of the library -/

namespace StaticConnector

variable {c : StaticConnector} {env : Environment} {w : StaticService ρ}

/-- Accepted or refused, a connection is reported by the connector. -/
theorem target_of_mem_connect {e : Event} (h : e ∈ ((c.connect env).run w).events) :
    e.target = target := by
  cases haccess : c.checkAccess env with
  | ok _ =>
    rw [run_connect_of_ok haccess, List.mem_singleton] at h
    rw [h]
    rfl
  | error cause =>
    rw [run_connect_of_error haccess, List.mem_singleton] at h
    rw [h]
    rfl

/-- There is one context to be had. -/
theorem eq_context_of_connect {opened : DirectoryContext (StaticService ρ) ρ}
    (h : ((c.connect env).run w).value = .ok opened) : opened = context := by
  rw [run_connect_value] at h
  cases haccess : c.checkAccess env with
  | ok _ =>
    rw [haccess] at h
    cases h
    rfl
  | error cause =>
    rw [haccess] at h
    cases h

end StaticConnector

/-- The client adapter reports what it wraps, and nothing else. -/
theorem ClientAdapter.eq_wrappingEvent_of_mem {found : Handle ρ} {s : σ} {e : Event}
    (h : e ∈ ((wrap found).run s).events) : e = wrappingEvent found.typeName := by
  cases found with
  | repository remote =>
    rw [run_wrap_repository] at h
    exact List.mem_singleton.1 h
  | foreign object => cases h

/-- The client adapter and a static directory are discreet. -/
theorem Bootstrapper.discreet_of_builtins (c : StaticConnector) :
    Discreet (⟨(Registry.empty.withBuiltins []).result, c.connector⟩ :
      Bootstrapper (StaticService ρ) ρ (ClientRepository ρ)) := by
  -- whatever name is asked for, the client adapter is what can be held under it
  have hheld : ∀ name make,
      ((Registry.empty : Registry (StaticService ρ) ρ (ClientRepository ρ)).withBuiltins
        []).result.constructor? name = some make → make = Act.done ClientAdapter.component := by
    intro name make held
    rw [Registry.constructor?_withBuiltins_or] at held
    change Registry.builtin? [] name = some make at held
    unfold Registry.builtin? at held
    split at held
    · cases held
      rfl
    · cases held
  intro e he
  induction he with
  | making held told =>
    obtain rfl := hheld _ _ held
    cases told
  | connecting told =>
    -- the connector reports in its own name
    have htarget := StaticConnector.target_of_mem_connect told
    simp [Event.ofLocator, htarget, StaticConnector.target]
  | looking connected told =>
    rw [StaticConnector.eq_context_of_connect connected, StaticConnector.isLive_context] at told
    cases told
  | wrapping held made told =>
    obtain rfl := hheld _ _ held
    cases made
    rw [ClientAdapter.eq_wrappingEvent_of_mem told]
    simp [ClientAdapter.wrappingEvent]
  | inside span _ ih => exact ih

namespace Publisher

/-- A publisher over collaborators that report nothing. -/
def silenced (p : Publisher σ ρ π) : Publisher σ ρ π := ⟨p.bootstrapper.silenced⟩

/-! ## Reports of a publication -/

/-- A published repository is reported with its attribute, and with whether it took the place of
another one. -/
theorem publishedEvent_eq (c : PublishedContext π) (name : String) : publishedEvent c name =
    { level := .info
      target := "repository_locator::publisher"
      message := if (c.get? name).isSome
        then "Replaced previously published repository" else "Published repository"
      fields := [("attribute", name)]
      spans := [] } := by
  unfold publishedEvent
  split
  · rfl
  · rfl

/-- A published repository is reported in the name of the library, and that is no warning. -/
theorem publishedEvent_spec (c : PublishedContext π) (name : String) :
    (publishedEvent c name).ofLocator = true ∧ (publishedEvent c name).level = .info ∧
      (publishedEvent c name).target = "repository_locator::publisher" := by
  have htarget : (publishedEvent c name).target = "repository_locator::publisher" := by
    rw [publishedEvent_eq]
  refine ⟨?_, ?_, htarget⟩
  · unfold Event.ofLocator
    rw [htarget]
    decide +kernel
  · rw [publishedEvent_eq]

theorem warnings_publishedEvent (c : PublishedContext π) (name : String) :
    warnings [publishedEvent c name] = [] := by
  obtain ⟨-, hlevel, -⟩ := publishedEvent_spec c name
  simp [warnings, hlevel]

theorem publications_publishedEvent (c : PublishedContext π) (name : String) :
    publications [publishedEvent c name] = [publishedEvent c name] := by
  obtain ⟨-, -, htarget⟩ := publishedEvent_spec c name
  simp [publications, htarget]

/-- What the end of a bootstrap makes the publisher report. -/
def publishing (c : PublishedContext π) (plan : Plan) : Except StepFailure π → List Event
  | .error _ => []
  | .ok _ => [publishedEvent c plan.attributeName]

/-- The end of a publication, from the end of the bootstrap. -/
def published (plan : Plan) : Except StepFailure π → Except BootstrapError String
  | .error failure => .error (failure.translated plan)
  | .ok _ => .ok plan.attributeName

/-- Publishing over silent collaborators ends alike. The reports that are left are the library's, one
warning if a step fails and one publication if none does. -/
theorem exists_run_init_silenced (p : Publisher σ ρ π) (source : ParameterSource σ) (s : σ)
    (c : PublishedContext π) :
    let plan := (Plan.ofSource source s).1
    ∃ calls verdict t c' own all,
      Course p.bootstrapper plan (Plan.ofSource source s).2 calls verdict t ∧
      (p.init source).run (s, c) = ⟨published plan verdict, (t, c'), all⟩ ∧
      (p.silenced.init source).run (s, c) = ⟨published plan verdict, (t, c'), own⟩ ∧
      Amid p.bootstrapper.Reports own all ∧
      (∀ e ∈ own, e.ofLocator = true) ∧
      warnings own = warningsDue plan calls verdict ∧
      publications own = publishing c plan verdict := by
  intro plan
  obtain ⟨calls, verdict, t, hcourse⟩ :=
    Course.exists_course p.bootstrapper plan (Plan.ofSource source s).2
  obtain ⟨own, all, hrun, hsilenced, hamid, haccounts⟩ := hcourse.exists_reports
  rw [← Bootstrapper.run_bootstrap] at hrun hsilenced
  have hlocator : ∀ e ∈ own, e.ofLocator = true := fun e he =>
    Event.ofLocator_of_target (haccounts.target e he)
  cases verdict with
  | error failure =>
    -- the context is not touched, and nothing is reported beyond the bootstrap
    exact ⟨calls, _, t, c, own, all, hcourse, run_init_of_error c hrun,
      run_init_of_error (p := p.silenced) c hsilenced, hamid, hlocator, haccounts.warnings,
      haccounts.publications⟩
  | ok proxy =>
    refine ⟨calls, _, t, _, _, _, hcourse, run_init_of_ok c hrun,
      run_init_of_ok (p := p.silenced) c hsilenced, hamid.append (.refl _ _), ?_, ?_, ?_⟩
    · intro e he
      rcases List.mem_append.1 he with he | he
      · exact hlocator e he
      · rw [List.mem_singleton.1 he]
        exact (publishedEvent_spec c _).1
    · rw [warnings_append, haccounts.warnings, warnings_publishedEvent]
      rfl
    · rw [publications_append, haccounts.publications, publications_publishedEvent]
      rfl

/-- A publisher does the same over collaborators that are kept silent, and its own reports are what is
left then. There is one warning among them if the publication fails, the one about the step that
fails; and if it succeeds there is none, but one publication, which says whether something was under
the name before. Collaborators that are discreet add none of either. Removing again is reported if
there was something to remove. -/
theorem failures_are_reported_once (p : Publisher σ ρ π) (source : ParameterSource σ) (s : σ)
    (c : PublishedContext π) :
    let plan := (Plan.ofSource source s).1
    let o := (p.init source).run (s, c)
    let own := ((p.silenced.init source).run (s, c)).events
    (p.silenced.init source).run (s, c) = ⟨o.value, o.state, own⟩ ∧
    Amid p.bootstrapper.Reports own o.events ∧
    (∀ e ∈ own, e.ofLocator = true) ∧
    (∃ calls verdict,
      Course p.bootstrapper plan (Plan.ofSource source s).2 calls verdict o.state.1 ∧
      match verdict with
      | .error failure => o.value = .error (failure.translated plan) ∧
          warnings own = [failure.warning plan calls] ∧ publications own = []
      | .ok _ => o.value = .ok plan.attributeName ∧ warnings own = [] ∧
          publications own =
            [{ level := .info
               target := "repository_locator::publisher"
               message := if (c.get? plan.attributeName).isSome
                 then "Replaced previously published repository" else "Published repository"
               fields := [("attribute", plan.attributeName)]
               spans := [] }]) ∧
    (p.bootstrapper.Discreet →
      warnings o.events = warnings own ∧ publications o.events = publications own) ∧
    ∀ ε, ∃ removed,
      let d := (p.destroy source : Act (σ × PublishedContext π) ε (Option π)).run (s, c)
      d.value = .ok removed ∧ removed = c.get? plan.attributeName ∧
      d.state.2 = ⟨c.attributes.erase plan.attributeName⟩ ∧
      d.events = if removed.isSome then
        [{ level := .info
           target := "repository_locator::publisher"
           message := "Unpublished repository"
           fields := [("attribute", plan.attributeName)]
           spans := [] }]
        else [] := by
  intro plan o own
  obtain ⟨calls, verdict, t, c', own', all, hcourse, hrun, hsilenced, hamid, hlocator, hwarnings,
    hpublications⟩ := exists_run_init_silenced p source s c
  have ho : o = ⟨published plan verdict, (t, c'), all⟩ := hrun
  have hown : own = own' := congrArg Outcome.events hsilenced
  rw [ho, hown]
  refine ⟨hsilenced, hamid, hlocator, ⟨calls, verdict, hcourse, ?_⟩, ?_, ?_⟩
  · cases verdict with
    | error failure => exact ⟨rfl, hwarnings, hpublications⟩
    | ok proxy =>
      rw [publishing, publishedEvent_eq] at hpublications
      exact ⟨rfl, hwarnings, hpublications⟩
  · intro hdiscreet
    exact ⟨hdiscreet.warnings_eq hamid, hdiscreet.publications_eq hamid⟩
  · intro ε
    refine ⟨c.get? plan.attributeName, ?_⟩
    rw [run_destroy]
    exact ⟨rfl, rfl, rfl, rfl⟩

/-! ### A publisher and its reports -/

/-- A publisher of what is bound in a static directory that lets everybody in. -/
def samplePublisher : Publisher (StaticService Nat) Nat (ClientRepository Nat) :=
  ⟨⟨(Registry.empty.withBuiltins []).result, (⟨none, none⟩ : StaticConnector).connector⟩⟩

/-- A static directory with a repository and a number. -/
def sampleService : StaticService Nat :=
  .ofDirectory ⟨.ofList [("svc/Mail", .repository 7), ("svc/Port", .foreign (.word 80))]⟩

/-- Parameters that ask for a repository, to be published as `mail`. -/
def sampleSource (factory location : String) : ParameterSource (StaticService Nat) :=
  .ofParameters (.ofList [(factoryKey, factory), (locationKey, location), (attributeKey, "mail")])

/-- What is reported of an adapter factory that nobody knows, of a number in the place of a
repository, of a location where nothing is bound, of a repository that is published and published
again, and of removing it. -/
theorem failures_are_reported_once_example :
    let publish (factory location : String) (c : PublishedContext (ClientRepository Nat)) :=
      (samplePublisher.init (sampleSource factory location)).run (sampleService, c)
    let remove (c : PublishedContext (ClientRepository Nat)) :=
      (samplePublisher.destroy (sampleSource defaultFactory "svc/Mail") :
        Act _ Empty (Option (ClientRepository Nat))).run (sampleService, c)
    let mail : PublishedContext (ClientRepository Nat) := ⟨NameMap.empty.insert "mail" ⟨7⟩⟩
    warnings (publish "acme::Missing" "svc/Mail" .empty).events =
      [⟨.warn, "repository_locator::domain::bootstrap", "Adapter factory could not be prepared",
        [("kind", "type_not_found"),
          ("error", "adapter factory could not be prepared: " ++
            "local adapter factory class not found: acme::Missing")],
        [⟨"bootstrap_with", "repository_locator::domain::bootstrap",
          [("location", "svc/Mail"), ("factory", "acme::Missing")]⟩]⟩] ∧
    warnings (publish defaultFactory "svc/Port" .empty).events =
      [⟨.warn, "repository_locator::domain::bootstrap",
        "Adapter factory rejected the remote handle",
        [("error", "unexpected remote handle: expected " ++
          "`alloc::sync::Arc<dyn repository_locator_sdk::api::RemoteRepository>`, got `u64`")],
        [⟨"bootstrap_with", "repository_locator::domain::bootstrap",
          [("location", "svc/Port"), ("factory", "repository_locator::ClientAdapterFactory")]⟩]⟩] ∧
    warnings (publish defaultFactory "svc/Gone" .empty).events =
      [⟨.warn, "repository_locator::domain::resolver", "Directory lookup failed",
        [("error", "name not bound: svc/Gone")],
        [⟨"bootstrap_with", "repository_locator::domain::bootstrap",
          [("location", "svc/Gone"), ("factory", "repository_locator::ClientAdapterFactory")]⟩,
        ⟨"resolve", "repository_locator::domain::resolver",
          [("env_keys", "0"), ("location", "svc/Gone")]⟩]⟩] ∧
    publications (publish defaultFactory "svc/Mail" .empty).events =
      [⟨.info, "repository_locator::publisher", "Published repository",
        [("attribute", "mail")], []⟩] ∧
    publications (publish defaultFactory "svc/Mail" mail).events =
      [⟨.info, "repository_locator::publisher", "Replaced previously published repository",
        [("attribute", "mail")], []⟩] ∧
    (remove mail).events =
      [⟨.info, "repository_locator::publisher", "Unpublished repository",
        [("attribute", "mail")], []⟩] ∧
    (remove .empty).events = [] := by
  intro publish remove mail
  let plan (factory location : String) := (Plan.ofSource (sampleSource factory location)
    sampleService).1
  have hdiscreet : samplePublisher.bootstrapper.Discreet := Bootstrapper.discreet_of_builtins _
  have hfailed : ∀ {factory location c e}, (publish factory location c).value = .error e →
      ∃ (calls : List (Step Nat)) (failure : StepFailure),
        e = failure.translated (plan factory location) ∧
        warnings (publish factory location c).events =
          [failure.warning (plan factory location) calls] := by
    intro factory location c e hvalue
    obtain ⟨-, -, -, ⟨calls, verdict, -, hend⟩, hall, -⟩ :=
      failures_are_reported_once samplePublisher (sampleSource factory location) sampleService c
    cases verdict with
    | error failure =>
      have he := Except.error.inj (hvalue.symm.trans hend.1)
      exact ⟨calls, failure, he, (hall hdiscreet).1.trans hend.2.1⟩
    | ok proxy => cases hvalue.symm.trans hend.1
  have hpublished : ∀ {factory location c n}, (publish factory location c).value = .ok n →
      publications (publish factory location c).events =
        [⟨.info, "repository_locator::publisher",
          if (c.get? (plan factory location).attributeName).isSome
            then "Replaced previously published repository" else "Published repository",
          [("attribute", (plan factory location).attributeName)], []⟩] := by
    intro factory location c n hvalue
    obtain ⟨-, -, -, ⟨calls, verdict, -, hend⟩, hall, -⟩ :=
      failures_are_reported_once samplePublisher (sampleSource factory location) sampleService c
    cases verdict with
    | error failure => cases hvalue.symm.trans hend.1
    | ok proxy => exact (hall hdiscreet).2.trans hend.2.2
  have hremoved : ∀ c, (remove c).events = if (c.get? "mail").isSome
      then [⟨.info, "repository_locator::publisher", "Unpublished repository",
        [("attribute", "mail")], []⟩] else [] := by
    intro c
    obtain ⟨-, -, -, -, -, hremove⟩ := failures_are_reported_once samplePublisher
      (sampleSource defaultFactory "svc/Mail") sampleService c
    obtain ⟨removed, -, rfl, -, hevents⟩ := hremove Empty
    exact hevents
  refine ⟨?_, ?_, by decide +kernel, ?_, ?_, hremoved mail, hremoved .empty⟩
  · have hvalue : (publish "acme::Missing" "svc/Mail" .empty).value =
        .error (.configuration "acme::Missing" .notRegistered) := by decide +kernel
    obtain ⟨calls, failure, htold, hwarnings⟩ := hfailed hvalue
    cases failure with
    | registry cause =>
      obtain rfl : ComponentError.notRegistered = cause := (BootstrapError.configuration.inj htold).2
      exact hwarnings
    | naming cause => cases htold
    | adapter cause => cases htold
  · have hvalue : (publish defaultFactory "svc/Port" .empty).value =
        .error (.incompatibleHandle "svc/Port" ⟨Handle.repositoryTypeName, "u64"⟩) := by
      decide +kernel
    obtain ⟨calls, failure, htold, hwarnings⟩ := hfailed hvalue
    cases failure with
    | registry cause => cases htold
    | naming cause => cases htold
    | adapter cause =>
      obtain rfl : _ = cause := (BootstrapError.incompatibleHandle.inj htold).2
      exact hwarnings
  · have hvalue : (publish defaultFactory "svc/Mail" .empty).value = .ok "mail" := by
      decide +kernel
    exact hpublished hvalue
  · have hvalue : (publish defaultFactory "svc/Mail" mail).value = .ok "mail" := by
      decide +kernel
    exact hpublished hvalue

end Publisher

end Locator
