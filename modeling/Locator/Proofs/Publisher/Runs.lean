import Locator.Publisher
import Locator.Proofs.Bootstrap.Runs

/-!
# How publishing runs

What a publisher makes of a bootstrap, and what it reports besides. A publisher reads the plan, and
with it the attribute name, from the state in which it finds the collaborators.

* `run_init_of_error`, `run_init_of_ok`: publishing a repository;
* `run_destroy`: removing it again.
-/

namespace Locator.Publisher

variable {σ ρ π ε : Type} {p : Publisher σ ρ π} {source : ParameterSource σ} {s t : σ}
  {events : List Event}

/-- Reading the plan beside a context leaves the context alone. -/
theorem run_plan (source : ParameterSource σ) (s : σ) (c : PublishedContext π) :
    (Act.within .first (Act.ofState (Plan.ofSource source)) :
      Act (σ × PublishedContext π) ε Plan).run (s, c) =
        ⟨.ok (Plan.ofSource source s).1, ((Plan.ofSource source s).2, c), []⟩ := rfl

/-- The bootstrap of the plan that was read, beside a context. -/
theorem run_bootstrapWith_first {v : Except BootstrapError π} (c : PublishedContext π)
    (h : (p.bootstrapper.bootstrap source).run s = ⟨v, t, events⟩) :
    (Act.within .first (p.bootstrapper.bootstrapWith (Plan.ofSource source s).1)).run
      ((Plan.ofSource source s).2, c) = ⟨v, (t, c), events⟩ := by
  rw [Bootstrapper.run_bootstrap] at h
  exact Act.run_within_of h

/-- Nothing is published where the bootstrap fails. -/
theorem run_init_of_error {e : BootstrapError} (c : PublishedContext π)
    (h : (p.bootstrapper.bootstrap source).run s = ⟨.error e, t, events⟩) :
    (p.init source).run (s, c) = ⟨.error e, (t, c), events⟩ := by
  refine Eq.trans (Act.run_bind_of_silent (run_plan source s c)) ?_
  exact Act.run_bind_of_error (run_bootstrapWith_first c h)

/-- What is reported of a published repository: whether it took the place of another one. -/
def publishedEvent (c : PublishedContext π) (name : String) : Event :=
  if (c.get? name).isSome then event "Replaced previously published repository" name
  else event "Published repository" name

/-- A repository that was bootstrapped is published under the attribute name of the plan. -/
theorem run_init_of_ok {proxy : π} (c : PublishedContext π)
    (h : (p.bootstrapper.bootstrap source).run s = ⟨.ok proxy, t, events⟩) :
    let name := (Plan.ofSource source s).1.attributeName
    (p.init source).run (s, c) =
      ⟨.ok name, (t, ⟨c.attributes.insert name proxy⟩), events ++ [publishedEvent c name]⟩ := by
  intro name
  have hset : (Act.within .second (Act.ofState (PublishedContext.set name proxy)) :
      Act (σ × PublishedContext π) BootstrapError (Option π)).run (t, c) =
        ⟨.ok (c.get? name), (t, ⟨c.attributes.insert name proxy⟩), []⟩ :=
    Act.run_within_of (Act.run_ofState _ c)
  refine Eq.trans (Act.run_bind_of_silent (run_plan source s c)) ?_
  refine Act.run_bind_of_ok (run_bootstrapWith_first c h) ?_
  refine Eq.trans (Act.run_bind_of_silent hset) ?_
  unfold publishedEvent
  cases c.get? name with
  | none => rfl
  | some previous => rfl

/-- Removing gives what was published under the attribute name, and reports it if it is there. -/
theorem run_destroy (p : Publisher σ ρ π) (source : ParameterSource σ) (s : σ)
    (c : PublishedContext π) :
    let name := (Plan.ofSource source s).1.attributeName
    (p.destroy source : Act (σ × PublishedContext π) ε (Option π)).run (s, c) =
      ⟨.ok (c.get? name), ((Plan.ofSource source s).2, ⟨c.attributes.erase name⟩),
        if (c.get? name).isSome then [event "Unpublished repository" name] else []⟩ := by
  intro name
  have hremove : (Act.within .second (Act.ofState (PublishedContext.remove name)) :
      Act (σ × PublishedContext π) ε (Option π)).run ((Plan.ofSource source s).2, c) =
        ⟨.ok (c.get? name), ((Plan.ofSource source s).2, ⟨c.attributes.erase name⟩), []⟩ :=
    Act.run_within_of (Act.run_ofState _ c)
  refine Eq.trans (Act.run_bind_of_silent (run_plan source s c)) ?_
  refine Eq.trans (Act.run_bind_of_silent hremove) ?_
  cases c.get? name with
  | none => rfl
  | some previous => rfl

end Locator.Publisher
