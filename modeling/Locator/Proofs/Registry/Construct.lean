import Locator.Registry

/-!
# Making components

What a request to a registry runs: the constructor held for the name, and nothing else. A request
for a capability is a request for the component, and then a look at what the component is good for.

* `run_construct_of_unknown`, `run_construct_of_known`: a request for a component;
* `run_instantiate`: a request for a capability;
* `run_adapterFactory_of_unknown`, `run_adapterFactory_of_known`: a request for an adapter factory,
  which is granted if the constructor makes one (`granted_iff`).
-/

namespace Locator.Registry

variable {σ ρ π κ : Type} {r : Registry σ ρ π} {name : String}

/-- A name that is not registered constructs nothing. -/
theorem run_construct_of_unknown (h : r.constructor? name = none) (s : σ) :
    (r.construct name).run s = ⟨.error .notRegistered, s, []⟩ := by
  unfold construct
  rw [h]
  rfl

/-- A registered name does what its constructor does. -/
theorem run_construct_of_known {make : Constructor σ ρ π} (h : r.constructor? name = some make)
    (s : σ) :
    (r.construct name).run s =
      ⟨(make.run s).value.mapError .ofConstructor, (make.run s).state, (make.run s).events⟩ := by
  unfold construct
  rw [h]
  exact Act.run_mapError _ make s

/-- What a component is to somebody who asks for a capability. -/
def viewed (wanted : Capability) (view : Component σ ρ π → Option κ) (c : Component σ ρ π) :
    Except ComponentError κ :=
  match view c with
  | some x => .ok x
  | none => .error (.mismatch wanted c.capability)

/-- A request for a capability runs what a request for the component runs. -/
theorem run_instantiate (wanted : Capability) (view : Component σ ρ π → Option κ) (s : σ) :
    (r.instantiate wanted view name).run s =
      ⟨((r.construct name).run s).value.bind (viewed wanted view),
        ((r.construct name).run s).state, ((r.construct name).run s).events⟩ := by
  unfold instantiate
  rcases h : (r.construct name).run s with ⟨e | c, t, events⟩
  · exact Act.run_bind_of_error h
  · have hview : (match view c with
          | some x => pure x
          | none => Act.fail (.mismatch wanted c.capability) : Act σ ComponentError κ).run t =
        ⟨viewed wanted view c, t, []⟩ := by
      unfold viewed
      cases view c with
      | none => rfl
      | some x => rfl
    refine Eq.trans (Act.run_bind_of_ok h hview) ?_
    rw [List.append_nil]
    rfl

/-! ## Adapter factories -/

/-- What becomes of a request for an adapter factory when the constructor has ended. -/
def granted (v : Except ConstructorFailure (Component σ ρ π)) :
    Except ComponentError (AdapterFactory σ ρ π) :=
  (v.mapError .ofConstructor).bind (viewed .adapterFactory Component.adapterFactory?)

/-- A factory is granted exactly if an adapter factory was constructed. -/
theorem granted_iff {v : Except ConstructorFailure (Component σ ρ π)}
    {factory : AdapterFactory σ ρ π} :
    granted v = .ok factory ↔ v = .ok (.adapterFactory factory) := by
  constructor
  · intro h
    rcases v with e | made | connector
    · cases h
    · cases h
      rfl
    · -- a connector is refused
      cases h
  · rintro rfl
    rfl

theorem run_adapterFactory_of_unknown (h : r.constructor? name = none) (s : σ) :
    (r.adapterFactory name).run s = ⟨.error .notRegistered, s, []⟩ := by
  unfold adapterFactory
  rw [run_instantiate, run_construct_of_unknown h]
  rfl

theorem run_adapterFactory_of_known {make : Constructor σ ρ π}
    (h : r.constructor? name = some make) (s : σ) :
    (r.adapterFactory name).run s =
      ⟨granted (make.run s).value, (make.run s).state, (make.run s).events⟩ := by
  unfold adapterFactory
  rw [run_instantiate, run_construct_of_known h]
  rfl

end Locator.Registry
