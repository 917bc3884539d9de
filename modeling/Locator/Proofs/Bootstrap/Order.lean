import Locator.Proofs.Bootstrap.Logged

/-!
# The order of the steps of a bootstrap

Which collaborators a bootstrap calls, with what, in which order, and what it makes of their
answers.

* `Course` lists the five courses that a bootstrap can take, each with its calls and its end.
* `bootstrap_takes_its_course`: every bootstrap takes one of them, and its failure is the
  translation of the step that failed.

Collaborators may do anything with their state.
-/

namespace Locator

variable {σ ρ π : Type}

/-! ## The courses of a bootstrap -/

/-- What the step that fails first fails with. -/
inductive StepFailure where
  /-- The registry gives no adapter factory. -/
  | registry (cause : ComponentError)
  /-- The naming service refuses the connection, or has nothing at the location. -/
  | naming (cause : NamingError)
  /-- The adapter factory refuses the handle. -/
  | adapter (cause : AdapterError)

/-- The failure of the bootstrap of a plan that a failing step leads to. -/
def StepFailure.translated (plan : Plan) : StepFailure → BootstrapError
  | .registry cause => .configuration plan.factory cause
  | .naming cause => .directoryUnavailable plan.location cause
  | .adapter cause => .incompatibleHandle plan.location cause

/-- A failure of the bootstrap of a plan is the translation of the failure of a step: it carries the
cause as it is, and tells the step and the subject apart. -/
def StepFailure.Translated (plan : Plan) : StepFailure → BootstrapError → Prop
  | .registry cause, e =>
    e = .configuration plan.factory cause ∧ e.configurationKind? = some cause.kind ∧
      e.connectionKind? = none ∧ e.subject = plan.factory ∧ e.namingError? = none ∧
      e.sources = cause.message :: cause.sources
  | .naming cause, e =>
    e = .directoryUnavailable plan.location cause ∧ e.configurationKind? = none ∧
      e.connectionKind? = some .directoryUnavailable ∧ e.subject = plan.location ∧
      e.namingError? = some cause ∧ e.sources = [cause.message]
  | .adapter cause, e =>
    e = .incompatibleHandle plan.location cause ∧ e.configurationKind? = none ∧
      e.connectionKind? = some .incompatibleHandle ∧ e.subject = plan.location ∧
      e.namingError? = none ∧ e.sources = [cause.message]

/-- The course of the bootstrap of a plan from a state: the calls that are made, how it ends, and
the state at the end. Each collaborator finds the state that the one before it left. -/
inductive Course (b : Bootstrapper σ ρ π) (plan : Plan) (s : σ) :
    List (Step ρ) → Except StepFailure π → σ → Prop where
  /-- There is no adapter factory of the name. -/
  | noFactory {e t making}
      (made : (b.registry.adapterFactory plan.factory).run s = ⟨.error e, t, making⟩) :
      Course b plan s (b.registry.calls plan.factory) (.error (.registry e)) t
  /-- The naming service refuses the environment. -/
  | notConnected {factory e t u making connecting}
      (made : (b.registry.adapterFactory plan.factory).run s = ⟨.ok factory, t, making⟩)
      (connected : (b.connector.connect plan.environment).run t = ⟨.error e, u, connecting⟩) :
      Course b plan s [.construct plan.factory, .connect plan.environment] (.error (.naming e)) u
  /-- The naming service gives nothing for the location. -/
  | notFound {factory context e t u v making connecting looking}
      (made : (b.registry.adapterFactory plan.factory).run s = ⟨.ok factory, t, making⟩)
      (connected : (b.connector.connect plan.environment).run t = ⟨.ok context, u, connecting⟩)
      (lookedUp : (context.lookup plan.location).run u = ⟨.error e, v, looking⟩) :
      Course b plan s
        [.construct plan.factory, .connect plan.environment, .lookup plan.location]
        (.error (.naming e)) v
  /-- The adapter factory refuses the handle. -/
  | notWrapped {factory context found e t u v w making connecting looking wrapping}
      (made : (b.registry.adapterFactory plan.factory).run s = ⟨.ok factory, t, making⟩)
      (connected : (b.connector.connect plan.environment).run t = ⟨.ok context, u, connecting⟩)
      (lookedUp : (context.lookup plan.location).run u = ⟨.ok found, v, looking⟩)
      (wrapped : (factory.wrap found).run v = ⟨.error e, w, wrapping⟩) :
      Course b plan s
        [.construct plan.factory, .connect plan.environment, .lookup plan.location, .wrap found]
        (.error (.adapter e)) w
  /-- All four steps succeed. -/
  | completed {factory context found proxy t u v w making connecting looking wrapping}
      (made : (b.registry.adapterFactory plan.factory).run s = ⟨.ok factory, t, making⟩)
      (connected : (b.connector.connect plan.environment).run t = ⟨.ok context, u, connecting⟩)
      (lookedUp : (context.lookup plan.location).run u = ⟨.ok found, v, looking⟩)
      (wrapped : (factory.wrap found).run v = ⟨.ok proxy, w, wrapping⟩) :
      Course b plan s
        [.construct plan.factory, .connect plan.environment, .lookup plan.location, .wrap found]
        (.ok proxy) w

namespace Course

open Bootstrapper DirectoryConnector

variable {b : Bootstrapper σ ρ π} {plan : Plan} {s t : σ} {calls : List (Step ρ)}
  {verdict : Except StepFailure π}

/-- Whatever the collaborators answer, there is a course that fits their answers. -/
theorem exists_course (b : Bootstrapper σ ρ π) (plan : Plan) (s : σ) :
    ∃ calls verdict t, Course b plan s calls verdict t := by
  rcases made : (b.registry.adapterFactory plan.factory).run s with ⟨e | factory, t, making⟩
  · exact ⟨_, _, _, .noFactory made⟩
  rcases connected : (b.connector.connect plan.environment).run t with ⟨e | context, u, connecting⟩
  · exact ⟨_, _, _, .notConnected made connected⟩
  rcases lookedUp : (context.lookup plan.location).run u with ⟨e | found, v, looking⟩
  · exact ⟨_, _, _, .notFound made connected lookedUp⟩
  rcases wrapped : (factory.wrap found).run v with ⟨e | proxy, w, wrapping⟩
  · exact ⟨_, _, _, .notWrapped made connected lookedUp wrapped⟩
  · exact ⟨_, _, _, .completed made connected lookedUp wrapped⟩

/-- The run of a bootstrap is the one of its course: with the end of the course, the state at its
end, and, over logged collaborators, the calls of the course in the log. -/
theorem run_bootstrapWith (h : Course b plan s calls verdict t) (log : List (Step ρ)) :
    ∃ events,
      (b.bootstrapWith plan).run s = ⟨verdict.mapError (·.translated plan), t, events⟩ ∧
      (b.logged.bootstrapWith plan).run (s, log) =
        ⟨verdict.mapError (·.translated plan), (t, log ++ calls), events⟩ := by
  cases h with
  | noFactory made =>
    have made' := Registry.run_logged made log
    exact ⟨_, run_bootstrapWith_of_factory_error (run_adapterFactory_of_error made),
      run_bootstrapWith_of_factory_error (run_adapterFactory_of_error made')⟩
  | notConnected made connected =>
    have made' := Registry.run_logged_of_ok made log
    have connected' := DirectoryConnector.run_logged connected log [.construct plan.factory]
    exact ⟨_, run_bootstrapWith_of_resolve_error (run_adapterFactory_of_ok made)
        (run_resolve_of_connect_error connected),
      run_bootstrapWith_of_resolve_error (run_adapterFactory_of_ok made')
        (run_resolve_of_connect_error connected')⟩
  | notFound made connected lookedUp =>
    have made' := Registry.run_logged_of_ok made log
    have connected' := DirectoryConnector.run_logged connected log [.construct plan.factory]
    have lookedUp' := DirectoryContext.run_logged lookedUp log
      [.construct plan.factory, .connect plan.environment]
    exact ⟨_, run_bootstrapWith_of_resolve_error (run_adapterFactory_of_ok made)
        (run_resolve_of_lookup_error connected lookedUp),
      run_bootstrapWith_of_resolve_error (run_adapterFactory_of_ok made')
        (run_resolve_of_lookup_error connected' lookedUp')⟩
  | notWrapped made connected lookedUp wrapped =>
    have made' := Registry.run_logged_of_ok made log
    have connected' := DirectoryConnector.run_logged connected log [.construct plan.factory]
    have lookedUp' := DirectoryContext.run_logged lookedUp log
      [.construct plan.factory, .connect plan.environment]
    have wrapped' := AdapterFactory.run_logged wrapped log
      [.construct plan.factory, .connect plan.environment, .lookup plan.location]
    exact ⟨_, run_bootstrapWith_of_wrap_error (run_adapterFactory_of_ok made)
        (run_resolve_of_found connected lookedUp) wrapped,
      run_bootstrapWith_of_wrap_error (run_adapterFactory_of_ok made')
        (run_resolve_of_found connected' lookedUp') wrapped'⟩
  | completed made connected lookedUp wrapped =>
    have made' := Registry.run_logged_of_ok made log
    have connected' := DirectoryConnector.run_logged connected log [.construct plan.factory]
    have lookedUp' := DirectoryContext.run_logged lookedUp log
      [.construct plan.factory, .connect plan.environment]
    have wrapped' := AdapterFactory.run_logged wrapped log
      [.construct plan.factory, .connect plan.environment, .lookup plan.location]
    exact ⟨_, run_bootstrapWith_of_ok (run_adapterFactory_of_ok made)
        (run_resolve_of_found connected lookedUp) wrapped,
      run_bootstrapWith_of_ok (run_adapterFactory_of_ok made')
        (run_resolve_of_found connected' lookedUp') wrapped'⟩

end Course

/-- The four steps of the bootstrap of a plan succeed, each from the state that the one before it
left, and the last one gives a proxy. -/
def Completes (b : Bootstrapper σ ρ π) (plan : Plan) (s : σ) (proxy : π) : Prop :=
  ∃ factory context found t u v w making connecting looking wrapping,
    (b.registry.adapterFactory plan.factory).run s = ⟨.ok factory, t, making⟩ ∧
    (b.connector.connect plan.environment).run t = ⟨.ok context, u, connecting⟩ ∧
    (context.lookup plan.location).run u = ⟨.ok found, v, looking⟩ ∧
    (factory.wrap found).run v = ⟨.ok proxy, w, wrapping⟩

/-- What completes takes a course that ends well. -/
theorem Completes.course {b : Bootstrapper σ ρ π} {plan : Plan} {s : σ} {proxy : π}
    (h : Completes b plan s proxy) : ∃ calls t, Course b plan s calls (.ok proxy) t := by
  obtain ⟨factory, context, found, t, u, v, w, _, _, _, _, made, connected, lookedUp, wrapped⟩ := h
  exact ⟨_, w, .completed made connected lookedUp wrapped⟩

/-- A course that ends well completes. -/
theorem Course.completes {b : Bootstrapper σ ρ π} {plan : Plan} {s t : σ} {proxy : π}
    {calls : List (Step ρ)} (h : Course b plan s calls (.ok proxy) t) :
    Completes b plan s proxy := by
  cases h with
  | completed made connected lookedUp wrapped =>
    exact ⟨_, _, _, _, _, _, _, _, _, _, _, made, connected, lookedUp, wrapped⟩

/-- The failure of a step is put in the terms of the bootstrap. -/
theorem StepFailure.translated_spec (plan : Plan) (failure : StepFailure) :
    failure.Translated plan (failure.translated plan) := by
  cases failure with
  | registry cause => exact ⟨rfl, rfl, rfl, rfl, rfl, rfl⟩
  | naming cause => exact ⟨rfl, rfl, rfl, rfl, rfl, rfl⟩
  | adapter cause => exact ⟨rfl, rfl, rfl, rfl, rfl, rfl⟩

/-- A bootstrap over any collaborators takes one of the courses from the state in which its
parameter source leaves it: it makes the calls of that course and no others, in their order, and
ends as the course ends, a failure being the translation of the step that failed. It gives a proxy
exactly when the four steps succeed, and then the proxy that wrapping gave. -/
theorem bootstrap_takes_its_course (b : Bootstrapper σ ρ π) (source : ParameterSource σ) (s : σ) :
    let plan := (Plan.ofSource source s).1
    let start := (Plan.ofSource source s).2
    let o := (b.bootstrap source).run s
    (∃ calls verdict, Course b plan start calls verdict o.state ∧
      (b.logged.bootstrap source.besideLog).run (s, []) = ⟨o.value, (o.state, calls), o.events⟩ ∧
      match verdict with
      | .ok proxy => o.value = .ok proxy
      | .error failure => ∃ e, o.value = .error e ∧ failure.Translated plan e) ∧
    ∀ proxy, o.value = .ok proxy ↔ Completes b plan start proxy := by
  intro plan start o
  have ho : o = (b.bootstrapWith plan).run start := Bootstrapper.run_bootstrap b source s
  obtain ⟨calls, verdict, t, hcourse⟩ := Course.exists_course b plan start
  obtain ⟨events, hrun, hlogged⟩ := hcourse.run_bootstrapWith []
  have hvalue : o = ⟨verdict.mapError (·.translated plan), t, events⟩ := ho.trans hrun
  refine ⟨⟨calls, verdict, ?_, ?_, ?_⟩, ?_⟩
  · rw [hvalue]
    exact hcourse
  · rw [hvalue, Bootstrapper.run_bootstrap, ParameterSource.ofSource_besideLog]
    exact hlogged
  · rw [hvalue]
    cases verdict with
    | ok proxy => rfl
    | error failure => exact ⟨_, rfl, failure.translated_spec plan⟩
  · intro proxy
    constructor
    · intro hok
      rw [hvalue] at hok
      cases verdict with
      | ok p =>
        cases hok
        exact hcourse.completes
      | error failure => cases hok
    · intro hcompletes
      obtain ⟨calls', t', hcourse'⟩ := hcompletes.course
      obtain ⟨events', hrun', -⟩ := hcourse'.run_bootstrapWith []
      rw [ho, hrun']
      rfl

end Locator
