import Locator.Proofs.Registry.Construct
import Locator.Proofs.Registry.Held

/-!
# Which registration counts

A registry is put together in steps: constructors and components are registered at run time, and at
any time the collected constructors are asked for, with the client adapter. The order of the steps
matters for registrations under the same name only.

* `BuildStep`, `Registry.built`: the steps, and the registry that they lead to;
* `Registry.StandsFor`: a registry holds what a list of registrations and a request for the
  collected constructors amount to, whatever the order in which they came. Each step keeps this
  (`StandsFor.step`), and so does each sequence of steps (`StandsFor.run`);
* `Registry.built_eq`: so only the registrations at run time count, and whether the collected
  constructors were asked for at all;
* `Registry.registration_precedence`: what a registry holds, lists and gives after any steps.
-/

namespace Locator

variable {σ ρ : Type}

/-! ## Steps -/

/-- A step of putting a registry together. -/
inductive BuildStep (σ ρ : Type) where
  /-- Register a constructor. -/
  | register (name : String) (make : Constructor σ ρ (ClientRepository ρ))
  /-- Register a component that every request gets. -/
  | registerInstance (name : String) (c : Component σ ρ (ClientRepository ρ))
  /-- Ask for the client adapter and the collected constructors. -/
  | withBuiltins

namespace BuildStep

/-- Take a step. -/
def apply (collected : List (Registration σ ρ (ClientRepository ρ)))
    (r : Registry σ ρ (ClientRepository ρ)) : BuildStep σ ρ → Registry σ ρ (ClientRepository ρ)
  | register name make => r.register name make
  | registerInstance name c => r.registerInstance name c
  | withBuiltins => (r.withBuiltins collected).result

/-- What the step registers at run time. -/
def registered? : BuildStep σ ρ → Option (String × Constructor σ ρ (ClientRepository ρ))
  | register name make => some (name, make)
  | registerInstance name c => some (name, Act.done c)
  | withBuiltins => none

/-- The step asks for the collected constructors. -/
def asksBuiltins : BuildStep σ ρ → Bool
  | register .. | registerInstance .. => false
  | withBuiltins => true

end BuildStep

namespace Registry

variable (collected : List (Registration σ ρ (ClientRepository ρ)))

/-- The registry that steps lead to, one after another from an empty one. -/
def built (steps : List (BuildStep σ ρ)) : Registry σ ρ (ClientRepository ρ) :=
  steps.foldl (BuildStep.apply collected) .empty

/-- What is there for a name without a registration at run time: the client adapter under its own
name, and under other names the first constructor that was collected. -/
def builtin? (n : String) : Option (Constructor σ ρ (ClientRepository ρ)) :=
  if n = defaultFactory then some (Act.done ClientAdapter.component) else firstCollected collected n

/-- What is there for a name: the last registration at run time, or else, if it was asked for, what
is built in. -/
def effective? (registered : List (String × Constructor σ ρ (ClientRepository ρ))) (asked : Bool)
    (n : String) : Option (Constructor σ ρ (ClientRepository ρ)) :=
  (NameMap.lastUnder n registered).or (if asked then builtin? collected n else none)

/-- A registry holds what registrations at run time and a request for what is built in amount to. -/
def StandsFor (r : Registry σ ρ (ClientRepository ρ))
    (registered : List (String × Constructor σ ρ (ClientRepository ρ))) (asked : Bool) : Prop :=
  ∀ n, r.constructor? n = effective? collected registered asked n

variable {collected} {r r' : Registry σ ρ (ClientRepository ρ)}
  {registered : List (String × Constructor σ ρ (ClientRepository ρ))} {asked : Bool}

/-- Registries that hold the same under every name are equal. -/
theorem ext_constructor? (h : ∀ n, r.constructor? n = r'.constructor? n) : r = r' := by
  obtain ⟨table⟩ := r
  obtain ⟨table'⟩ := r'
  obtain rfl : table = table' := NameMap.ext_get? h
  rfl

/-! ## One step -/

/-- The built-in constructors stand behind what is registered. -/
theorem constructor?_withBuiltins_or (r : Registry σ ρ (ClientRepository ρ)) (n : String) :
    (r.withBuiltins collected).result.constructor? n =
      (r.constructor? n).or (builtin? collected n) := by
  rw [constructor?_withBuiltins, Option.or_assoc]
  unfold builtin?
  by_cases hn : n = defaultFactory
  · rw [if_pos hn, if_pos hn, Option.some_or]
  · rw [if_neg hn, if_neg hn, Option.none_or]

theorem StandsFor.empty : StandsFor collected .empty [] false := fun _ => rfl

/-- A registration counts before all that came earlier, and before what is built in. -/
theorem StandsFor.register (h : StandsFor collected r registered asked) (name : String)
    (make : Constructor σ ρ (ClientRepository ρ)) :
    StandsFor collected (r.register name make) (registered ++ [(name, make)]) asked := by
  intro n
  have hold := h n
  unfold effective? at hold ⊢
  rw [constructor?_register, NameMap.lastUnder_append, NameMap.lastUnder_singleton]
  by_cases hn : n = name
  · rw [if_pos hn, if_pos hn, Option.some_or, Option.some_or]
  · rw [if_neg hn, if_neg hn, Option.none_or, hold]

/-- Asking for what is built in adds to what is registered, and a second time adds nothing. -/
theorem StandsFor.withBuiltins (h : StandsFor collected r registered asked) :
    StandsFor collected (r.withBuiltins collected).result registered true := by
  intro n
  have hold := h n
  unfold effective? at hold ⊢
  rw [constructor?_withBuiltins_or, hold, Option.or_assoc, if_pos rfl]
  -- what was asked for before stands in front of the same once more
  cases asked with
  | false => rw [if_neg Bool.false_ne_true, Option.none_or]
  | true => rw [if_pos rfl, Option.or_self]

/-- One step of a builder keeps to the account of what was registered and asked. -/
theorem StandsFor.step (h : StandsFor collected r registered asked) (step : BuildStep σ ρ) :
    StandsFor collected (step.apply collected r) (registered ++ step.registered?.toList)
      (asked || step.asksBuiltins) := by
  cases step with
  | register name make =>
    rw [BuildStep.asksBuiltins, Bool.or_false]
    exact h.register name make
  | registerInstance name c =>
    rw [BuildStep.asksBuiltins, Bool.or_false]
    exact h.register name (Act.done c)
  | withBuiltins =>
    rw [BuildStep.asksBuiltins, Bool.or_true]
    change StandsFor collected (r.withBuiltins collected).result (registered ++ []) true
    rw [List.append_nil]
    exact h.withBuiltins

/-! ## All steps -/

/-- What steps register at run time, in order. -/
def allRegistered (steps : List (BuildStep σ ρ)) :
    List (String × Constructor σ ρ (ClientRepository ρ)) :=
  steps.filterMap BuildStep.registered?

theorem StandsFor.run (h : StandsFor collected r registered asked) (steps : List (BuildStep σ ρ)) :
    StandsFor collected (steps.foldl (BuildStep.apply collected) r)
      (registered ++ allRegistered steps) (asked || steps.any BuildStep.asksBuiltins) := by
  induction steps generalizing r registered asked with
  | nil =>
    change StandsFor collected r (registered ++ []) (asked || false)
    rw [List.append_nil, Bool.or_false]
    exact h
  | cons step rest ih =>
    have hrest := ih (h.step step)
    -- one more registration or none, before those of the steps that are left
    have hregistered : registered ++ step.registered?.toList ++ allRegistered rest =
        registered ++ allRegistered (step :: rest) := by
      unfold allRegistered
      rw [List.append_assoc, List.filterMap_cons]
      cases step.registered? with
      | none => rfl
      | some entry => rfl
    rw [hregistered, Bool.or_assoc, ← List.any_cons] at hrest
    exact hrest

theorem StandsFor.built (steps : List (BuildStep σ ρ)) :
    StandsFor collected (built collected steps) (allRegistered steps)
      (steps.any BuildStep.asksBuiltins) := by
  have hrun : StandsFor collected (Registry.built collected steps) ([] ++ allRegistered steps)
      (false || steps.any BuildStep.asksBuiltins) := .run .empty steps
  rw [List.nil_append, Bool.false_or] at hrun
  exact hrun

/-- Steps that register the same at run time, and that both ask for what is built in or both do not,
lead to the same registry. -/
theorem built_eq {steps steps' : List (BuildStep σ ρ)}
    (hregistered : allRegistered steps = allRegistered steps')
    (hasked : steps.any BuildStep.asksBuiltins = steps'.any BuildStep.asksBuiltins) :
    built collected steps = built collected steps' := by
  refine ext_constructor? fun n => ?_
  rw [StandsFor.built steps n, StandsFor.built steps' n, hregistered, hasked]

/-- Asking for what is built in registers nothing at run time, wherever it stands. -/
theorem allRegistered_withBuiltins (before after : List (BuildStep σ ρ)) :
    allRegistered (before ++ .withBuiltins :: after) = allRegistered (before ++ after) := by
  unfold allRegistered
  rw [List.filterMap_append, List.filterMap_append, List.filterMap_cons_none rfl]

theorem any_asksBuiltins (before after : List (BuildStep σ ρ)) :
    (before ++ BuildStep.withBuiltins :: after).any BuildStep.asksBuiltins = true := by
  rw [List.any_append, List.any_cons, BuildStep.asksBuiltins, Bool.true_or, Bool.or_true]

/-- A constructor that was collected under the name of the client adapter counts for nothing. -/
theorem builtin?_collected_default (before after : List (Registration σ ρ (ClientRepository ρ)))
    (make : Constructor σ ρ (ClientRepository ρ)) (n : String) :
    builtin? (before ++ ⟨defaultFactory, make⟩ :: after) n = builtin? (before ++ after) n := by
  unfold builtin?
  by_cases hn : n = defaultFactory
  · rw [if_pos hn, if_pos hn]
  · rw [if_neg hn, if_neg hn]
    unfold firstCollected
    -- the look-up goes past the entry, which has another name
    induction before with
    | nil => exact if_neg hn
    | cons entry rest ih =>
      simp only [List.cons_append, List.map_cons, NameMap.valueAt]
      rw [ih]

/-! ## What makes no difference -/

variable (collected)

/-- It does not matter when what is built in is asked for. -/
theorem built_withBuiltins_first (before after : List (BuildStep σ ρ)) :
    built collected (before ++ .withBuiltins :: after) =
      built collected (.withBuiltins :: (before ++ after)) := by
  refine built_eq ?_ ?_
  · rw [allRegistered_withBuiltins]
    exact (allRegistered_withBuiltins [] (before ++ after)).symm
  · rw [any_asksBuiltins]
    exact (any_asksBuiltins [] (before ++ after)).symm

/-- Asking for what is built in a second time changes nothing. -/
theorem built_withBuiltins_again (before middle after : List (BuildStep σ ρ)) :
    built collected (before ++ .withBuiltins :: (middle ++ .withBuiltins :: after)) =
      built collected (before ++ .withBuiltins :: (middle ++ after)) := by
  have hagain : before ++ BuildStep.withBuiltins :: (middle ++ .withBuiltins :: after) =
      (before ++ .withBuiltins :: middle) ++ .withBuiltins :: after := by
    rw [List.append_assoc, List.cons_append]
  refine built_eq ?_ ?_
  · -- the second request registers nothing at run time
    rw [hagain, allRegistered_withBuiltins, List.append_assoc, List.cons_append]
  · rw [any_asksBuiltins, any_asksBuiltins]

/-- A constructor that was collected under the name of the client adapter never counts. -/
theorem built_collected_default (front back : List (Registration σ ρ (ClientRepository ρ)))
    (make : Constructor σ ρ (ClientRepository ρ)) (steps : List (BuildStep σ ρ)) :
    built (front ++ ⟨defaultFactory, make⟩ :: back) steps = built (front ++ back) steps := by
  refine ext_constructor? fun n => ?_
  rw [StandsFor.built steps n, StandsFor.built steps n]
  unfold effective?
  rw [builtin?_collected_default]

/-! ## Lists and requests -/

theorem mem_names_iff_contains (r : Registry σ ρ (ClientRepository ρ)) (n : String) :
    n ∈ r.names ↔ r.contains n = true := NameMap.mem_names_iff r.table

/-- A request is refused as one for an unknown name exactly where nothing is held: what a
constructor itself fails with is something else. -/
theorem contains_iff_run_construct (r : Registry σ ρ (ClientRepository ρ)) (n : String) (s : σ) :
    r.contains n = true ↔ ((r.construct n).run s).value ≠ .error .notRegistered := by
  have hcontains : r.contains n = (r.constructor? n).isSome := rfl
  rw [hcontains]
  cases h : r.constructor? n with
  | none =>
    rw [run_construct_of_unknown h]
    simp
  | some make =>
    have hother : (make.run s).value.mapError ComponentError.ofConstructor ≠
        .error .notRegistered := by
      generalize (make.run s).value = v
      intro heq
      rcases v with failure | c
      · cases failure with
        | error causes => cases heq
        | panic payload => cases heq
      · cases heq
    rw [run_construct_of_known h]
    exact ⟨fun _ => hother, fun _ => rfl⟩

/-- Whatever the steps by which a registry is put together, it holds the last registration at run
time under each name, or else, if it was asked for at any time, the client adapter under its own
name and the first collected constructor under every other name. So asking again changes nothing,
it does not matter when it is asked, and a constructor collected under the name of the client
adapter never counts. The names are listed in strictly ascending order, and they are those for
which something is held, and those for which a request is not refused as one for an unknown name,
in whatever state it is made. -/
theorem registration_precedence (collected : List (Registration σ ρ (ClientRepository ρ)))
    (steps : List (BuildStep σ ρ)) (s : σ) :
    let r := built collected steps
    (∀ n, r.constructor? n =
      match NameMap.lastUnder n (steps.filterMap BuildStep.registered?) with
      | some make => some make
      | none =>
        if steps.any BuildStep.asksBuiltins then
          if n = defaultFactory then some (Act.done ClientAdapter.component)
          else firstCollected collected n
        else none) ∧
    (∀ before middle after : List (BuildStep σ ρ),
      built collected (before ++ .withBuiltins :: (middle ++ .withBuiltins :: after)) =
        built collected (before ++ .withBuiltins :: (middle ++ after))) ∧
    (∀ before after : List (BuildStep σ ρ),
      built collected (before ++ .withBuiltins :: after) =
        built collected (.withBuiltins :: (before ++ after))) ∧
    (∀ front back make,
      built (front ++ ⟨defaultFactory, make⟩ :: back) steps = built (front ++ back) steps) ∧
    r.names.Pairwise (· < ·) ∧
    ∀ n, (r.contains n = true ↔ n ∈ r.names) ∧
      (n ∈ r.names ↔ ((r.construct n).run s).value ≠ .error .notRegistered) := by
  intro r
  refine ⟨fun n => ?_, built_withBuiltins_again collected, built_withBuiltins_first collected,
    fun front back make => built_collected_default front back make steps,
    r.table.names_ascending, fun n => ⟨?_, ?_⟩⟩
  · have hheld : r.constructor? n = effective? collected _ _ n := StandsFor.built steps n
    unfold effective? allRegistered at hheld
    rw [hheld]
    cases NameMap.lastUnder n (steps.filterMap BuildStep.registered?) with
    | none => exact Option.none_or
    | some make => exact Option.some_or
  · exact (mem_names_iff_contains r n).symm
  · exact (mem_names_iff_contains r n).trans (contains_iff_run_construct r n s)

end Registry

end Locator
