import Locator.Proofs.Bootstrap.Runs
import Locator.Proofs.Registry.Construct

/-!
# Collaborators that are logged

`logged` turns any collaborator of a bootstrap into one that works over a state with a log, writes
each call to the log, and otherwise does what it did before. A bootstrap over logged collaborators
therefore leaves its own list of calls behind. The log is out of reach for the collaborators
themselves.

* `Step`: the calls that are logged, each with what the collaborator is given;
* `run_logged`, `Registry.run_logged`: what logging adds to a run;
* `ParameterSource.ofSource_besideLog`: reading a plan leaves the log alone.
-/

namespace Locator

variable {σ ρ π ε α : Type}

/-! ## Logging collaborators -/

/-- A call on a collaborator of a bootstrap, with what the collaborator is given. -/
inductive Step (ρ : Type) where
  /-- Call the constructor held for a name. -/
  | construct (name : String)
  /-- Connect with an environment. -/
  | connect (env : Environment)
  /-- Look a name up. -/
  | lookup (name : String)
  /-- Wrap a handle. -/
  | wrap (found : Handle ρ)
deriving DecidableEq

/-- The same work over a state with a log, to which the call is written first. -/
def Act.logged (step : Step ρ) (a : Act σ ε α) : Act (σ × List (Step ρ)) ε α := do
  Act.modify fun s => (s.1, s.2 ++ [step])
  a.within .first

/-- Lookups that are logged. -/
def DirectoryContext.logged (c : DirectoryContext σ ρ) :
    DirectoryContext (σ × List (Step ρ)) ρ :=
  ⟨fun name => (c.lookup name).logged (.lookup name)⟩

/-- Connections that are logged, with the lookups through them. -/
def DirectoryConnector.logged (c : DirectoryConnector σ ρ) :
    DirectoryConnector (σ × List (Step ρ)) ρ :=
  ⟨fun env => DirectoryContext.logged <$> (c.connect env).logged (.connect env)⟩

/-- Wrapping that is logged. -/
def AdapterFactory.logged (f : AdapterFactory σ ρ π) :
    AdapterFactory (σ × List (Step ρ)) ρ π :=
  ⟨fun found => (f.wrap found).logged (.wrap found)⟩

/-- A component whose work is logged. -/
def Component.logged : Component σ ρ π → Component (σ × List (Step ρ)) ρ π
  | .adapterFactory factory => .adapterFactory factory.logged
  | .directoryConnector connector => .directoryConnector connector.logged

/-- A constructor whose calls are logged under its name, with the work of what it makes. -/
def Constructor.logged (name : String) (make : Constructor σ ρ π) :
    Constructor (σ × List (Step ρ)) ρ π :=
  (Component.logged <$> Act.logged (.construct name) make :
    Act (σ × List (Step ρ)) ConstructorFailure (Component (σ × List (Step ρ)) ρ π))

/-- Constructors that are logged. -/
def Registry.logged (r : Registry σ ρ π) : Registry (σ × List (Step ρ)) ρ π :=
  ⟨r.table.mapValues Constructor.logged⟩

/-- A bootstrapper whose collaborators are logged. -/
def Bootstrapper.logged (b : Bootstrapper σ ρ π) : Bootstrapper (σ × List (Step ρ)) ρ π :=
  ⟨b.registry.logged, b.connector.logged⟩

/-- A parameter source beside a log. -/
def ParameterSource.besideLog (p : ParameterSource σ) : ParameterSource (σ × List (Step ρ)) :=
  p.within (·.1) fun t s => (t, s.2)

/-! ## What logging adds to a run -/

/-- A logged action does the same, and writes down its step. -/
theorem Act.run_logged {a : Act σ ε α} {s t : σ} {v : Except ε α} {events : List Event}
    (h : a.run s = ⟨v, t, events⟩) (step : Step ρ) (log : List (Step ρ)) :
    (a.logged step).run (s, log) = ⟨v, (t, log ++ [step]), events⟩ := by
  have hwithin : (a.within .first).run (s, log ++ [step]) = ⟨v, (t, log ++ [step]), events⟩ :=
    Act.run_within_of h
  exact Act.run_bind_of_ok (Act.run_modify _ (s, log)) hwithin

/-- A logged connector opens the same context, logged as well, and writes down the environment. -/
theorem DirectoryConnector.run_logged {c : DirectoryConnector σ ρ} {env : Environment} {s t : σ}
    {v : Except NamingError (DirectoryContext σ ρ)} {events : List Event}
    (h : (c.connect env).run s = ⟨v, t, events⟩) (log past : List (Step ρ)) :
    (c.logged.connect env).run (s, log ++ past) =
      ⟨v.map .logged, (t, log ++ (past ++ [.connect env])), events⟩ := by
  unfold logged
  rw [Act.run_map, Act.run_logged h, List.append_assoc]

/-- A logged context finds the same, and writes down the name. -/
theorem DirectoryContext.run_logged {c : DirectoryContext σ ρ} {name : String} {s t : σ}
    {v : Except NamingError (Handle ρ)} {events : List Event}
    (h : (c.lookup name).run s = ⟨v, t, events⟩) (log past : List (Step ρ)) :
    (c.logged.lookup name).run (s, log ++ past) =
      ⟨v, (t, log ++ (past ++ [.lookup name])), events⟩ := by
  rw [← List.append_assoc]
  exact Act.run_logged h (.lookup name) (log ++ past)

/-- A logged adapter factory makes the same proxy, and writes down the handle. -/
theorem AdapterFactory.run_logged {f : AdapterFactory σ ρ π} {found : Handle ρ} {s t : σ}
    {v : Except AdapterError π} {events : List Event}
    (h : (f.wrap found).run s = ⟨v, t, events⟩) (log past : List (Step ρ)) :
    (f.logged.wrap found).run (s, log ++ past) =
      ⟨v, (t, log ++ (past ++ [.wrap found])), events⟩ := by
  rw [← List.append_assoc]
  exact Act.run_logged h (.wrap found) (log ++ past)

/-- A logged constructor makes the same component, logged as well, and writes down its name. -/
theorem Constructor.run_logged {make : Constructor σ ρ π} {s t : σ}
    {v : Except ConstructorFailure (Component σ ρ π)} {events : List Event}
    (h : make.run s = ⟨v, t, events⟩) (name : String) (log : List (Step ρ)) :
    (Constructor.logged name make).run (s, log) =
      ⟨v.map .logged, (t, log ++ [.construct name]), events⟩ := by
  unfold Constructor.logged
  rw [Act.run_map, Act.run_logged h]

namespace Registry

variable {r : Registry σ ρ π} {name : String} {s t : σ} {making : List Event}

/-- The calls of a request: that of the constructor, if one is held for the name. -/
def calls (r : Registry σ ρ π) (name : String) : List (Step ρ) :=
  if r.contains name then [.construct name] else []

/-- Where nothing is held nothing is called. -/
theorem calls_of_unknown (h : r.constructor? name = none) : r.calls name = [] := by
  have hno : r.contains name = false := congrArg Option.isSome h
  rw [calls, hno]
  rfl

/-- Where a constructor is held it is called. -/
theorem calls_of_known {make : Constructor σ ρ π} (h : r.constructor? name = some make) :
    r.calls name = [.construct name] := by
  have hyes : r.contains name = true := congrArg Option.isSome h
  rw [calls, hyes]
  rfl

theorem logged_constructor? (r : Registry σ ρ π) (name : String) :
    r.logged.constructor? name = (r.constructor? name).map (Constructor.logged name) :=
  NameMap.get?_mapValues _ r.table name

/-- A registry of logged constructors makes the same component, and writes down what it calls. -/
theorem run_logged_construct (r : Registry σ ρ π) (name : String) (s : σ)
    (log : List (Step ρ)) :
    (r.logged.construct name).run (s, log) =
      ⟨((r.construct name).run s).value.map .logged,
        (((r.construct name).run s).state, log ++ r.calls name),
        ((r.construct name).run s).events⟩ := by
  cases h : r.constructor? name with
  | none =>
    have hlogged : r.logged.constructor? name = none := by rw [logged_constructor?, h]; rfl
    rw [run_construct_of_unknown hlogged, run_construct_of_unknown h, calls_of_unknown h,
      List.append_nil]
    rfl
  | some make =>
    have hlogged : r.logged.constructor? name = some (Constructor.logged name make) := by
      rw [logged_constructor?, h]
      rfl
    rw [run_construct_of_known hlogged, run_construct_of_known h, calls_of_known h]
    rcases hmake : make.run s with ⟨e | c, t, making⟩
    · rw [Constructor.run_logged hmake]
      rfl
    · rw [Constructor.run_logged hmake]
      rfl

/-- A registry of logged constructors grants the same request for an adapter factory. -/
theorem run_logged {v : Except ComponentError (AdapterFactory σ ρ π)}
    (h : (r.adapterFactory name).run s = ⟨v, t, making⟩) (log : List (Step ρ)) :
    (r.logged.adapterFactory name).run (s, log) =
      ⟨v.map .logged, (t, log ++ r.calls name), making⟩ := by
  unfold adapterFactory at h ⊢
  rw [run_instantiate] at h ⊢
  rw [run_logged_construct]
  rcases hmade : (r.construct name).run s with ⟨e | c, u, events⟩
  · rw [hmade] at h
    cases h
    rfl
  · rw [hmade] at h
    -- a component is good for the same with and without a log
    cases c with
    | adapterFactory factory =>
      cases h
      rfl
    | directoryConnector connector =>
      cases h
      rfl

/-- A request that is granted has called the constructor. -/
theorem calls_of_ok {factory : AdapterFactory σ ρ π}
    (h : (r.adapterFactory name).run s = ⟨.ok factory, t, making⟩) :
    r.calls name = [.construct name] := by
  cases hheld : r.constructor? name with
  | none =>
    unfold adapterFactory at h
    rw [run_instantiate, run_construct_of_unknown hheld] at h
    cases h
  | some make => exact calls_of_known hheld

/-- A request for an adapter factory that is granted calls the constructor once. -/
theorem run_logged_of_ok {factory : AdapterFactory σ ρ π}
    (h : (r.adapterFactory name).run s = ⟨.ok factory, t, making⟩) (log : List (Step ρ)) :
    (r.logged.adapterFactory name).run (s, log) =
      ⟨.ok factory.logged, (t, log ++ [.construct name]), making⟩ := by
  rw [run_logged h log, calls_of_ok h]
  rfl

end Registry

/-- Parameters are read beside a log as they are read without one, and the log stays as it is. -/
theorem ParameterSource.gather_besideLog (p : ParameterSource σ) (names : List String)
    (g : Gathered) (s : σ) (log : List (Step ρ)) :
    Plan.gather p.besideLog.ask names g (s, log) =
      ((Plan.gather p.ask names g s).1, ((Plan.gather p.ask names g s).2, log)) := by
  induction names generalizing g s with
  | nil => rfl
  | cons name rest ih =>
    rw [Plan.gather_cons, Plan.gather_cons]
    exact ih (g.addAnswer name (p.ask name s).1) (p.ask name s).2

/-- A source beside a log describes the same plan and leaves the log alone. -/
theorem ParameterSource.ofSource_besideLog (p : ParameterSource σ) (s : σ)
    (log : List (Step ρ)) :
    Plan.ofSource p.besideLog (s, log) =
      ((Plan.ofSource p s).1, ((Plan.ofSource p s).2, log)) := by
  have h := p.gather_besideLog (p.listed s).1 .none (p.listed s).2 log
  rw [Plan.ofSource_apply, Plan.ofSource_apply]
  exact Prod.ext (congrArg (·.1.toPlan) h) (congrArg (·.2) h)

end Locator
