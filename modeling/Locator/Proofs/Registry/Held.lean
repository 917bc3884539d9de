import Locator.Registry

/-!
# What a registry holds

Which constructor is held for a name after each way to add constructors.

* `constructor?_register`: a constructor that is registered counts;
* `run_withBuiltins`: adding what is built in reports every collected constructor once, in order;
* `constructor?_withBuiltins`: of those that are collected the first one counts, after what is held
  already and after the client adapter.
-/

namespace Locator.Registry

variable {σ ρ π : Type}

/-- A registration replaces what was under its name. -/
theorem constructor?_register (r : Registry σ ρ π) (name : String) (make : Constructor σ ρ π)
    (n : String) :
    (r.register name make).constructor? n = if n = name then some make else r.constructor? n :=
  NameMap.get?_insert r.table name make n

/-- A collected entry does not replace what was under its name. -/
theorem constructor?_collect (r : Registry σ ρ π) (entry : Registration σ ρ π) (n : String) :
    (r.collect entry).constructor? n =
      (r.constructor? n).or (if n = entry.name then some entry.make else none) := by
  unfold collect constructor? NameMap.insertNew NameMap.contains
  split
  · rename_i held
    by_cases hn : n = entry.name
    · obtain ⟨make, hmake⟩ := Option.isSome_iff_exists.1 held
      rw [hn, hmake, Option.some_or]
    · rw [if_neg hn, Option.or_none]
  · rename_i free
    rw [NameMap.get?_insert]
    by_cases hn : n = entry.name
    · have hnone : r.table.get? entry.name = none := Option.not_isSome_iff_eq_none.1 free
      rw [if_pos hn, if_pos hn, hn, hnone, Option.none_or]
    · rw [if_neg hn, if_neg hn, Option.or_none]

/-- The first constructor that was collected under a name. -/
def firstCollected (collected : List (Registration σ ρ π)) (n : String) :
    Option (Constructor σ ρ π) :=
  NameMap.valueAt n (collected.map fun entry => (entry.name, entry.make))

theorem mem_of_firstCollected {collected : List (Registration σ ρ π)} {n : String}
    {make : Constructor σ ρ π} (h : firstCollected collected n = some make) :
    ∃ entry ∈ collected, entry.make = make := by
  obtain ⟨entry, hentry, heq⟩ := List.mem_map.1 (NameMap.mem_of_valueAt h)
  exact ⟨entry, hentry, congrArg Prod.snd heq⟩

/-- After collecting, each name has what it had before, or else what was collected first. -/
theorem constructor?_foldl_collect (collected : List (Registration σ ρ π)) (r : Registry σ ρ π)
    (n : String) :
    (collected.foldl collect r).constructor? n =
      (r.constructor? n).or (firstCollected collected n) := by
  induction collected generalizing r with
  | nil => exact Option.or_none.symm
  | cons entry rest ih =>
    rw [List.foldl_cons, ih, constructor?_collect, Option.or_assoc]
    refine congrArg _ ?_
    unfold firstCollected
    rw [List.map_cons, NameMap.valueAt]
    by_cases hn : n = entry.name
    · rw [if_pos hn, if_pos hn, Option.some_or]
    · rw [if_neg hn, if_neg hn, Option.none_or]

/-! ## What is built in -/

/-- Collected constructors are added and reported one after another. -/
theorem run_collectAll {τ ε : Type} (collected : List (Registration σ ρ π)) (r : Registry σ ρ π)
    (w : τ) : (r.collectAll collected : Act τ ε (Registry σ ρ π)).run w =
      ⟨.ok (collected.foldl collect r), w, collected.map fun entry => collectedEvent entry.name⟩ := by
  induction collected generalizing r with
  | nil => exact Act.run_pure r w
  | cons entry rest ih => exact Act.run_bind_of_ok (Act.run_emit _ w) (ih (r.collect entry))

/-- What is built in is added to a registry entry by entry. -/
theorem result_withBuiltins (r : Registry σ ρ (ClientRepository ρ))
    (collected : List (Registration σ ρ (ClientRepository ρ))) :
    (r.withBuiltins collected).result =
      collected.foldl collect (r.collect ⟨defaultFactory, Act.done ClientAdapter.component⟩) :=
  Act.result_eq_of_run (run_collectAll collected _ ())

/-- Adding what is built in leads to the same registry in every state, and reports every collected
constructor, also one whose name is taken. -/
theorem run_withBuiltins {τ ε : Type} (r : Registry σ ρ (ClientRepository ρ))
    (collected : List (Registration σ ρ (ClientRepository ρ))) (w : τ) :
    (r.withBuiltins collected : Act τ ε (Registry σ ρ (ClientRepository ρ))).run w =
      ⟨.ok (r.withBuiltins collected).result, w,
        collected.map fun entry => collectedEvent entry.name⟩ := by
  rw [result_withBuiltins]
  exact run_collectAll collected _ w

/-- What is held already comes first, then the client adapter under its name, and then the first
constructor that was collected. -/
theorem constructor?_withBuiltins (r : Registry σ ρ (ClientRepository ρ))
    (collected : List (Registration σ ρ (ClientRepository ρ))) (n : String) :
    (r.withBuiltins collected).result.constructor? n =
      ((r.constructor? n).or
        (if n = defaultFactory then some (Act.done ClientAdapter.component) else none)).or
          (firstCollected collected n) := by
  rw [result_withBuiltins, constructor?_foldl_collect, constructor?_collect]

end Locator.Registry
