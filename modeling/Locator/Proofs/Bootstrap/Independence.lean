import Locator.Proofs.Bootstrap.Enclosed
import Locator.Proofs.Bootstrap.Runs
import Locator.Proofs.Partition
import Locator.Proofs.StaticDirectory.Sessions

/-!
# Bootstraps one after another

Bootstraps over a static directory that nobody modifies do not get in each other's way: what an
earlier one leaves behind is the state of the constructors and an entry in the record of the
directory, and neither counts for a later one if constructors have the same outcome on every call.

* `Component.answers`, `Registry.Steady`: what the outcome of a constructor is told by, and
  registries whose constructors have the same outcome on every call;
* `Registry.answers`: what a request for an adapter factory comes to, with what the factory answers;
* `StaticConnector.settled`: how a bootstrap ends, from these answers and the directory;
* `StaticConnector.exists_run_bootstrap`, `exists_run_bootstrapAll`: one bootstrap, and any number.
-/

namespace Locator

variable {σ τ ρ π ε α β : Type}

/-! ## What constructors come to -/

/-- What a component answers to handles while its state is `t`. A directory connector takes none. -/
def Component.answers (t : τ) : Component τ ρ π → Option (Handle ρ → Except AdapterError π)
  | .adapterFactory factory => some fun found => ((factory.wrap found).run t).value
  | .directoryConnector _ => none

/-- The outcome of a call of a constructor: its failure, or the answers of what it made. -/
def Constructor.outcome (make : Constructor τ ρ π) (t : τ) :
    Except ConstructorFailure (Option (Handle ρ → Except AdapterError π)) :=
  (make.run t).value.map (Component.answers (make.run t).state)

namespace Registry

/-- All constructors have the same outcome on every call, whatever state they find. -/
def Steady (r : Registry τ ρ π) : Prop :=
  ∀ name make, r.constructor? name = some make → ∀ t u, make.outcome t = make.outcome u

/-- What a request for an adapter factory comes to: its failure, or what the factory answers in the
state that the request leaves. -/
def answers (r : Registry τ ρ π) (name : String) (t : τ) :
    Except ComponentError (Handle ρ → Except AdapterError π) :=
  ((r.adapterFactory name).run t).value.map fun factory found =>
    ((factory.wrap found).run ((r.adapterFactory name).run t).state).value

variable {r : Registry τ ρ π} {name : String}

/-- The answers to whom an adapter factory was asked for. -/
def answered (v : Except ConstructorFailure (Option (Handle ρ → Except AdapterError π))) :
    Except ComponentError (Handle ρ → Except AdapterError π) :=
  (v.mapError .ofConstructor).bind fun
    | some answer => .ok answer
    | none => .error (.mismatch .adapterFactory .directoryConnector)

/-- The answer of a registry that holds a constructor is that of the constructor. -/
theorem answers_of_known {make : Constructor τ ρ π} (h : r.constructor? name = some make) (t : τ) :
    r.answers name t = answered (make.outcome t) := by
  unfold answers Constructor.outcome
  rw [run_adapterFactory_of_known h]
  rcases (make.run t).value with e | factory | connector
  · rfl
  · rfl
  · rfl

/-- Where constructors are steady, requests for adapter factories come to the same in all states. -/
theorem Steady.answers_eq (h : r.Steady) (name : String) (t u : τ) :
    r.answers name t = r.answers name u := by
  cases hheld : r.constructor? name with
  | none =>
    unfold answers
    rw [run_adapterFactory_of_unknown hheld, run_adapterFactory_of_unknown hheld]
    rfl
  | some make => rw [answers_of_known hheld, answers_of_known hheld, h name make hheld t u]

end Registry

/-- The plan that parameters in a map describe. -/
def MapParameters.plan (m : MapParameters) : Plan := Plan.ofParameters m.parameters

/-! ## One bootstrap -/

namespace StaticConnector

/-- A bootstrapper over a static directory, whose constructors have a state of their own. -/
def bootstrapper (c : StaticConnector) (r : Registry τ ρ π) :
    Bootstrapper (τ × StaticService ρ) ρ π :=
  ⟨r.enclosed .first, c.connector.within .second⟩

/-- How the bootstrap of a plan ends, where the directory is `d` and the request for an adapter
factory comes to `answers`. -/
def settled (c : StaticConnector) (d : StaticDirectory ρ) (plan : Plan)
    (answers : Except ComponentError (Handle ρ → Except AdapterError π)) :
    Except BootstrapError π := do
  let answer ← answers.mapError (.configuration plan.factory)
  (c.checkAccess plan.environment).mapError (.directoryUnavailable plan.location)
  let found ← ((StaticDirectory.lookup plan.location).run d).value.mapError
    (.directoryUnavailable plan.location)
  (answer found).mapError (.incompatibleHandle plan.location)

/-- The service after a bootstrap: the environment is on record if there was an adapter factory. -/
def visited (plan : Plan) (answers : Except ComponentError (Handle ρ → Except AdapterError π))
    (w : StaticService ρ) : StaticService ρ :=
  if answers.isOk then w.record plan.environment else w

variable {c : StaticConnector} {r : Registry τ ρ π}

section

variable {d : StaticDirectory ρ} {plan : Plan} {answer : Handle ρ → Except AdapterError π}

/-- A bootstrap whose environment is refused fails with the refusal. -/
theorem settled_of_refused {e : NamingError} (h : c.checkAccess plan.environment = .error e) :
    c.settled d plan (.ok answer) = .error (.directoryUnavailable plan.location e) := by
  unfold settled
  rw [h]
  rfl

/-- A bootstrap that is let in and finds nothing fails with the failure of the look-up. -/
theorem settled_of_missing {e : NamingError} (h : c.checkAccess plan.environment = .ok ())
    (hl : ((StaticDirectory.lookup plan.location).run d).value = .error e) :
    c.settled d plan (.ok answer) = .error (.directoryUnavailable plan.location e) := by
  unfold settled
  rw [h, hl]
  rfl

/-- A bootstrap that is let in and finds a handle ends with what the adapter factory makes of it. -/
theorem settled_of_found {found : Handle ρ} (h : c.checkAccess plan.environment = .ok ())
    (hl : ((StaticDirectory.lookup plan.location).run d).value = .ok found) :
    c.settled d plan (.ok answer) = (answer found).mapError (.incompatibleHandle plan.location) := by
  unfold settled
  rw [h, hl]
  rfl

end

/-- A connector that works beside something else leaves that alone when it lets a client in. -/
theorem run_connect_second_of_ok {env : Environment} (h : c.checkAccess env = .ok ()) (t : τ)
    (w : StaticService ρ) :
    ((c.connector.within (.second : Part (τ × StaticService ρ) _)).connect env).run (t, w) =
      ⟨.ok (context.within .second), (t, w.record env), [acceptanceEvent env]⟩ := by
  unfold DirectoryConnector.within
  rw [Act.run_map, Act.run_within_of (run_connect_of_ok h w)]
  rfl

/-- A connector that works beside something else leaves that alone when it refuses a client. -/
theorem run_connect_second_of_error {env : Environment} {e : NamingError}
    (h : c.checkAccess env = .error e) (t : τ) (w : StaticService ρ) :
    ((c.connector.within (.second : Part (τ × StaticService ρ) _)).connect env).run (t, w) =
      ⟨.error e, (t, w.record env), [refusalEvent e]⟩ := by
  unfold DirectoryConnector.within
  rw [Act.run_map, Act.run_within_of (run_connect_of_error h w)]
  rfl

/-- A look-up beside something else leaves both alone. -/
theorem run_lookup_second {name : String} {d : StaticDirectory ρ} {v : Except NamingError (Handle ρ)}
    (h : ((StaticDirectory.lookup name).run d).value = v) (t : τ) (environments : List Environment) :
    ((context.within (.second : Part (τ × StaticService ρ) _)).lookup name).run
      (t, ⟨d, environments⟩) = ⟨v, (t, ⟨d, environments⟩), []⟩ := by
  rw [← h]
  exact Act.run_within_of (isLive_context name ⟨d, environments⟩)

open Bootstrapper DirectoryConnector in
/-- A bootstrap ends as settled by the adapter factory and the directory. It leaves the directory as
it is, and its environment on record if it came to connecting. -/
theorem exists_run_bootstrapWith (c : StaticConnector) (r : Registry τ ρ π) (plan : Plan) (t : τ)
    (w : StaticService ρ) :
    ∃ t' events, ((c.bootstrapper r).bootstrapWith plan).run (t, w) =
      ⟨c.settled w.directory plan (r.answers plan.factory t),
        (t', visited plan (r.answers plan.factory t) w), events⟩ := by
  rcases made : (r.adapterFactory plan.factory).run t with ⟨e | factory, t', making⟩
  · -- nobody connects
    have hanswers : r.answers plan.factory t = .error e := by
      unfold Registry.answers
      rw [made]
      rfl
    have made' := Registry.run_enclosed_of (k := .first) (s := (t, w)) made
    rw [hanswers]
    exact ⟨t', _, run_bootstrapWith_of_factory_error (run_adapterFactory_of_error made')⟩
  have hanswers : r.answers plan.factory t =
      .ok fun found => ((factory.wrap found).run t').value := by
    unfold Registry.answers
    rw [made]
    rfl
  have made' := Registry.run_enclosed_of (k := .first) (s := (t, w)) made
  rw [hanswers]
  cases haccess : c.checkAccess plan.environment with
  | error e =>
    have connected := run_connect_second_of_error haccess t' w
    rw [settled_of_refused haccess]
    exact ⟨t', _, run_bootstrapWith_of_resolve_error (run_adapterFactory_of_ok made')
      (run_resolve_of_connect_error connected)⟩
  | ok _ =>
    have connected := run_connect_second_of_ok haccess t' w
    rcases hlookup : ((StaticDirectory.lookup plan.location).run w.directory).value with e | found
    · have lookedUp := run_lookup_second hlookup t' (w.environments ++ [plan.environment])
      rw [settled_of_missing haccess hlookup]
      exact ⟨t', _, run_bootstrapWith_of_resolve_error (run_adapterFactory_of_ok made')
        (run_resolve_of_lookup_error connected lookedUp)⟩
    · have lookedUp := run_lookup_second hlookup t' (w.environments ++ [plan.environment])
      rw [settled_of_found haccess hlookup]
      rcases wrapped : (factory.wrap found).run t' with ⟨e | proxy, t'', wrapping⟩
      · have wrapped' := Act.run_enclosed_of (k := .first) (s := (t', w.record plan.environment))
          wrapped
        exact ⟨t'', _, run_bootstrapWith_of_wrap_error (run_adapterFactory_of_ok made')
          (run_resolve_of_found connected lookedUp) wrapped'⟩
      · have wrapped' := Act.run_enclosed_of (k := .first) (s := (t', w.record plan.environment))
          wrapped
        exact ⟨t'', _, run_bootstrapWith_of_ok (run_adapterFactory_of_ok made')
          (run_resolve_of_found connected lookedUp) wrapped'⟩

/-! ## Bootstraps in order -/

end StaticConnector

/-- Let `w t l` be the state after the actions of `l`, except for a part `t` that does not count. If each
action ends with its own value there, any number of them do. -/
theorem Act.exists_run_mapM_attempt (w : τ → List α → σ) {a : α → Act σ ε β} {v : α → Except ε β}
    (hstep : ∀ t before x, ∃ t' events,
      (a x).run (w t before) = ⟨v x, w t' (before ++ [x]), events⟩)
    (l before : List α) (t : τ) :
    ∃ t' events, (l.mapM fun x => (a x).attempt : Act σ Empty (List (Except ε β))).run
      (w t before) = ⟨.ok (l.map v), w t' (before ++ l), events⟩ := by
  induction l generalizing before t with
  | nil =>
    rw [List.append_nil]
    exact ⟨t, [], rfl⟩
  | cons x rest ih =>
    obtain ⟨u, first, hfirst⟩ := hstep t before x
    obtain ⟨t', others, hothers⟩ := ih (before ++ [x]) u
    rw [List.append_assoc] at hothers
    exact ⟨t', first ++ others, run_mapM_cons (run_attempt_of hfirst) hothers⟩

/-- Bootstrap one set of parameters after another; gives the end of each bootstrap. -/
def bootstrapAll (b : Bootstrapper σ ρ π) (sets : List MapParameters) :
    Act σ Empty (List (Except BootstrapError π)) :=
  sets.mapM fun m => (b.bootstrap m.source).attempt

/-- The environments that any number of bootstraps leave on record, where `fresh` is a state of the
constructors: those of the plans whose adapter factory can be instantiated. -/
def Registry.recorded (r : Registry τ ρ π) (fresh : τ) (sets : List MapParameters) :
    List Environment :=
  (sets.filter fun m => ((r.adapterFactory m.plan.factory).run fresh).value.isOk).map
    (·.plan.environment)

/-- The environments of two rows of bootstraps are recorded one row after the other. -/
theorem Registry.recorded_append (r : Registry τ ρ π) (fresh : τ)
    (before after : List MapParameters) :
    r.recorded fresh (before ++ after) = r.recorded fresh before ++ r.recorded fresh after := by
  unfold recorded
  rw [List.filter_append, List.map_append]

namespace StaticConnector

variable {r : Registry τ ρ π}

/-- How the bootstrap of a set of parameters ends, from what constructors come to in a fresh state. -/
def verdict (c : StaticConnector) (r : Registry τ ρ π) (fresh : τ) (d : StaticDirectory ρ)
    (m : MapParameters) : Except BootstrapError π :=
  c.settled d m.plan (r.answers m.plan.factory fresh)

/-- A bootstrap leaves the directory as it is, and records its environment if it comes to that. -/
theorem visited_eq (r : Registry τ ρ π) (fresh : τ) (m : MapParameters) (d : StaticDirectory ρ)
    (environments : List Environment) :
    visited m.plan (r.answers m.plan.factory fresh) ⟨d, environments⟩ =
      ⟨d, environments ++ r.recorded fresh [m]⟩ := by
  unfold visited Registry.recorded Registry.answers
  rcases hmade : ((r.adapterFactory m.plan.factory).run fresh).value with e | factory
  · simp [hmade, Except.map, Except.isOk, Except.toBool]
  · simp [hmade, Except.map, Except.isOk, Except.toBool, StaticService.record]

section

variable (hsteady : r.Steady) (c : StaticConnector) (fresh : τ) (d : StaticDirectory ρ)
include hsteady

/-- In whatever state steady constructors are and whoever connected before, a bootstrap ends with its
verdict, and leaves its environment on record if it came to connecting. -/
theorem exists_run_bootstrap (m : MapParameters) (t : τ) (environments : List Environment) :
    ∃ t' events, ((c.bootstrapper r).bootstrap m.source).run (t, ⟨d, environments⟩) =
      ⟨c.verdict r fresh d m, (t', ⟨d, environments ++ r.recorded fresh [m]⟩), events⟩ := by
  rw [Bootstrapper.run_bootstrap, m.ofSource_source, ← visited_eq, verdict,
    hsteady.answers_eq m.plan.factory fresh t]
  exact c.exists_run_bootstrapWith r m.plan t ⟨d, environments⟩

/-- What a bootstrap gives when it is the first one: with constructors that are in a fresh state, and
a directory that nobody connected to. -/
theorem run_bootstrap_alone (m : MapParameters) :
    (((c.bootstrapper r).bootstrap m.source).run (fresh, .ofDirectory d)).value =
      c.verdict r fresh d m := by
  obtain ⟨t', events, hrun⟩ := exists_run_bootstrap hsteady c fresh d m fresh []
  exact congrArg Outcome.value hrun

/-- Any number of bootstraps end with their verdicts, and leave the directory as it is. -/
theorem exists_run_bootstrapAll (sets : List MapParameters) (t : τ)
    (environments : List Environment) :
    ∃ t' events, (bootstrapAll (c.bootstrapper r) sets).run (t, ⟨d, environments⟩) =
      ⟨.ok (sets.map (c.verdict r fresh d)),
        (t', ⟨d, environments ++ r.recorded fresh sets⟩), events⟩ := by
  have hstart : environments ++ r.recorded fresh [] = environments := List.append_nil _
  have hrun := Act.exists_run_mapM_attempt
    (fun t before => (t, (⟨d, environments ++ r.recorded fresh before⟩ : StaticService ρ)))
    (a := fun m => (c.bootstrapper r).bootstrap m.source) (v := c.verdict r fresh d)
    (fun t before m => by
      rw [Registry.recorded_append, ← List.append_assoc]
      exact exists_run_bootstrap hsteady c fresh d m t _) sets [] t
  rw [hstart] at hrun
  exact hrun

end

end StaticConnector

end Locator
