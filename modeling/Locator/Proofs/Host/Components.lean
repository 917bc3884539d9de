import Locator.Host
import Locator.Proofs.Registry.Precedence

/-!
# The components of a host

A host registers its static directory under one name; all other names are left to the client adapter
and to collected components. If those are plain, every request to a host for a component ends in the
same way whenever it is made, and leaves the naming service as it is.

* `registry`, `run_assemble`: the registry of a host, which is put together with one report for each
  collected component;
* `Collected.Plain`: what is asked of collected components;
* `Made`, `exists_made`: what a host makes under a name;
* `run_directoryConnector_of_ok`, `exists_run_adapterFactory_of_ok`: the only connector to be had is
  that of the static directory, and the only adapter factory is the client adapter;
* `exists_run_instantiate_of_error`: what is refused once is refused always.
-/

namespace Locator.Host

/-- A collected component is the client adapter or is not to be had, always with the same events and
without a trace in the naming service. -/
def Collected.Plain (entry : Collected) : Prop :=
  ∃ (verdict : Except ConstructorFailure Unit) (events : List Event), ∀ w,
    entry.make.run w = ⟨verdict.map fun _ => ClientAdapter.component, w, events⟩

variable {collected : List Collected} {c : StaticConnector}

/-- The components of a host with a static directory. -/
def registry (collected : List Collected) (connector : StaticConnector) :
    Registry (StaticService Remote) Remote Proxy :=
  (Registry.empty.withBuiltins collected).result.registerInstance StaticConnector.registeredName
    (.directoryConnector connector.connector)

/-- What is reported of collected components when a host puts its components together. -/
def collectedEvents (collected : List Collected) : List Event :=
  collected.map fun entry => collectedEvent entry.name

/-- Whatever the state, a host comes to the same components, and reports the collected ones. -/
theorem run_assemble {τ ε : Type} (collected : List Collected) (c : StaticConnector) (w : τ) :
    (assemble collected c : Act τ ε (Registry (StaticService Remote) Remote Proxy)).run w =
      ⟨.ok (registry collected c), w, collectedEvents collected⟩ := by
  rw [← List.append_nil (collectedEvents collected)]
  exact Act.run_bind_of_ok (Registry.run_withBuiltins _ collected w) (Act.run_pure _ w)

/-- What is registered at run time comes before all that is built in. -/
theorem constructor?_registry (collected : List Collected) (c : StaticConnector) (n : String) :
    (registry collected c).constructor? n =
      if n = StaticConnector.registeredName then some (Act.done (.directoryConnector c.connector))
      else Registry.builtin? collected n := by
  have hempty : (Registry.empty : Registry (StaticService Remote) Remote Proxy).constructor? n =
      none := rfl
  unfold registry Registry.registerInstance
  rw [Registry.constructor?_register, Registry.constructor?_withBuiltins_or, hempty,
    Option.none_or]

/-- What a request to a host gives, and what it reports. -/
inductive Made (c : StaticConnector) :
    Except ComponentError (Component (StaticService Remote) Remote Proxy) → List Event → Prop where
  /-- The connector of the static directory, without a report. -/
  | connector : Made c (.ok (.directoryConnector c.connector)) []
  /-- The client adapter. -/
  | adapter (events : List Event) : Made c (.ok ClientAdapter.component) events
  /-- A failure. -/
  | failure (e : ComponentError) (events : List Event) : Made c (.error e) events

/-- What is built in gives the client adapter or fails. -/
theorem exists_run_builtin (hcollected : ∀ entry ∈ collected, Collected.Plain entry) {n : String}
    {make : Constructor (StaticService Remote) Remote Proxy}
    (h : Registry.builtin? collected n = some make) :
    ∃ (verdict : Except ConstructorFailure Unit) (events : List Event), ∀ w,
      make.run w = ⟨verdict.map fun _ => ClientAdapter.component, w, events⟩ := by
  unfold Registry.builtin? at h
  by_cases hn : n = defaultFactory
  · rw [if_pos hn] at h
    cases h
    exact ⟨.ok (), [], fun w => rfl⟩
  · rw [if_neg hn] at h
    obtain ⟨entry, hentry, rfl⟩ := Registry.mem_of_firstCollected h
    exact hcollected entry hentry

/-- A request for a component ends in the same way whenever it is made, and changes nothing. -/
theorem exists_made (hcollected : ∀ entry ∈ collected, Collected.Plain entry)
    (c : StaticConnector) (n : String) :
    ∃ v events, Made c v events ∧
      ∀ w, ((registry collected c).construct n).run w = ⟨v, w, events⟩ := by
  have hheld := constructor?_registry collected c n
  by_cases hn : n = StaticConnector.registeredName
  · -- registered at run time, whatever is collected under the name
    rw [if_pos hn] at hheld
    exact ⟨_, _, .connector, fun w => Registry.run_construct_of_known hheld w⟩
  · rw [if_neg hn] at hheld
    cases hmake : Registry.builtin? collected n with
    | none =>
      rw [hmake] at hheld
      exact ⟨_, _, .failure _ _, fun w => Registry.run_construct_of_unknown hheld w⟩
    | some make =>
      rw [hmake] at hheld
      obtain ⟨verdict, events, hrun⟩ := exists_run_builtin hcollected hmake
      have hconstruct : ∀ w, ((registry collected c).construct n).run w =
          ⟨(verdict.map fun _ => ClientAdapter.component).mapError .ofConstructor, w, events⟩ := by
        intro w
        rw [Registry.run_construct_of_known hheld, hrun w]
      cases verdict with
      | ok _ => exact ⟨_, _, .adapter events, hconstruct⟩
      | error failure => exact ⟨_, _, .failure _ events, hconstruct⟩

section

variable {κ : Type} {wanted : Capability}
  {view : Component (StaticService Remote) Remote Proxy → Option κ} {n : String}
  {w : StaticService Remote}

/-- A request for a capability, too, ends in the same way whenever it is made. -/
theorem exists_run_instantiate (hcollected : ∀ entry ∈ collected, Collected.Plain entry)
    (c : StaticConnector) (n : String) (wanted : Capability)
    (view : Component (StaticService Remote) Remote Proxy → Option κ) :
    ∃ v events, Made c v events ∧ ∀ w, ((registry collected c).instantiate wanted view n).run w =
      ⟨v.bind (Registry.viewed wanted view), w, events⟩ := by
  obtain ⟨v, events, hmade, hrun⟩ := exists_made hcollected c n
  refine ⟨v, events, hmade, fun w => ?_⟩
  rw [Registry.run_instantiate, hrun w]

/-- A capability that is refused once is refused always, for the same reason. -/
theorem exists_run_instantiate_of_error (hcollected : ∀ entry ∈ collected, Collected.Plain entry)
    {e : ComponentError}
    (h : (((registry collected c).instantiate wanted view n).run w).value = .error e) :
    ∃ events, ∀ w', ((registry collected c).instantiate wanted view n).run w' =
      ⟨.error e, w', events⟩ := by
  obtain ⟨v, events, -, hrun⟩ := exists_run_instantiate hcollected c n wanted view
  rw [hrun w] at h
  refine ⟨events, fun w' => ?_⟩
  rw [hrun w', ← h]

/-- The only connector to be had is that of the static directory. -/
theorem run_directoryConnector_of_ok (hcollected : ∀ entry ∈ collected, Collected.Plain entry)
    {connector : DirectoryConnector (StaticService Remote) Remote}
    (h : (((registry collected c).directoryConnector n).run w).value = .ok connector)
    (w' : StaticService Remote) :
    ((registry collected c).directoryConnector n).run w' = ⟨.ok c.connector, w', []⟩ := by
  unfold Registry.directoryConnector at h ⊢
  obtain ⟨v, events, hmade, hrun⟩ :=
    exists_run_instantiate hcollected c n .directoryConnector Component.directoryConnector?
  rw [hrun w] at h
  cases hmade with
  | connector => exact hrun w'
  | adapter events => cases h
  | failure e events => cases h

/-- The only adapter factory to be had is the client adapter. -/
theorem exists_run_adapterFactory_of_ok (hcollected : ∀ entry ∈ collected, Collected.Plain entry)
    {factory : AdapterFactory (StaticService Remote) Remote Proxy}
    (h : (((registry collected c).adapterFactory n).run w).value = .ok factory) :
    ∃ events, ∀ w', ((registry collected c).adapterFactory n).run w' =
      ⟨.ok ClientAdapter.factory, w', events⟩ := by
  unfold Registry.adapterFactory at h ⊢
  obtain ⟨v, events, hmade, hrun⟩ :=
    exists_run_instantiate hcollected c n .adapterFactory Component.adapterFactory?
  rw [hrun w] at h
  cases hmade with
  | connector => cases h
  | adapter events => exact ⟨events, hrun⟩
  | failure e events => cases h

end

end Locator.Host
