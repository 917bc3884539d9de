import Locator.Proofs.Partition
import Locator.Proofs.Publisher.Runs

/-!
# Histories of a context

What publishers and a host do to one context, in any order, and what the context holds after it.

* `ContextOp`, `ContextOp.perform`, `performAll`: the operations and their runs, over one state that
  the collaborators of all publishers share;
* `ContextOp.Faithful`: what an operation has to answer and to leave behind;
* `Story`: a history all of whose operations are faithful;
* `published_attributes_faithful`: every history is one, and the context lists the names that were
  put last.
-/

namespace Locator

variable {σ ρ π : Type}

/-- The attribute name that parameters stand for. -/
def MapParameters.attributeName (m : MapParameters) : String :=
  (m.parameters.get? attributeKey).getD defaultAttribute

theorem MapParameters.ofSource_attributeName (m : MapParameters) (s : σ) :
    (Plan.ofSource m.source s).1.attributeName = m.attributeName := by
  rw [m.ofSource_source, Plan.attributeName, Plan.ofParameters_attribute?]
  rfl

namespace PublishedContext

/-- Contexts that hold the same under every name are equal. -/
theorem ext_get? {c d : PublishedContext π} (h : ∀ n, c.get? n = d.get? n) : c = d := by
  obtain ⟨attributes⟩ := c
  obtain ⟨attributes'⟩ := d
  obtain rfl : attributes = attributes' := NameMap.ext_get? h
  rfl

theorem mem_names_iff (c : PublishedContext π) (n : String) :
    n ∈ c.names ↔ (c.get? n).isSome = true :=
  NameMap.mem_names_iff c.attributes

end PublishedContext

/-! ## Operations -/

/-- What can be done to a context. -/
inductive ContextOp (σ ρ π : Type) where
  /-- Publish what the parameters describe. -/
  | init (publisher : Publisher σ ρ π) (params : MapParameters)
  /-- Remove what is published for the parameters. -/
  | destroy (publisher : Publisher σ ρ π) (params : MapParameters)
  /-- Put a proxy under a name. -/
  | set (name : String) (proxy : π)
  /-- Remove what is under a name. -/
  | remove (name : String)

/-- What an operation answers. -/
inductive ContextAnswer (π : Type) where
  /-- The name that something was published under, or the failure of its bootstrap. -/
  | initialized (verdict : Except BootstrapError String)
  /-- What was removed for parameters. -/
  | destroyed (previous : Option π)
  /-- What was under the name of a proxy that was put there. -/
  | replaced (previous : Option π)
  /-- What was removed under a name. -/
  | removed (previous : Option π)

namespace ContextOp

/-- Perform an operation; gives its answer. -/
def perform : ContextOp σ ρ π → Act (σ × PublishedContext π) Empty (ContextAnswer π)
  | .init publisher params => .initialized <$> (publisher.init params.source).attempt
  | .destroy publisher params => .destroyed <$> publisher.destroy params.source
  | .set name proxy =>
    .replaced <$> Act.within .second (Act.ofState (PublishedContext.set name proxy))
  | .remove name => .removed <$> Act.within .second (Act.ofState (PublishedContext.remove name))

/-- Performed where the collaborators are in a state and the context is `c`, an operation may give
the answer and lead to the state and to the context `d`.

Publishing ends as the bootstrap of the parameters ends: with its failure, and then the context is
as it was, or with its proxy under the attribute name. Every operation leaves other names alone. -/
def Faithful (s : σ) (c : PublishedContext π) (answer : ContextAnswer π) (t : σ)
    (d : PublishedContext π) : ContextOp σ ρ π → Prop
  | .init publisher params =>
    let o := (publisher.bootstrapper.bootstrap params.source).run s
    t = o.state ∧
    match o.value with
    | .error e => answer = .initialized (.error e) ∧ d = c
    | .ok proxy => answer = .initialized (.ok params.attributeName) ∧
      ∀ n, d.get? n = if n = params.attributeName then some proxy else c.get? n
  | .destroy _ params => t = s ∧ answer = .destroyed (c.get? params.attributeName) ∧
    ∀ n, d.get? n = if n = params.attributeName then none else c.get? n
  | .set name proxy => t = s ∧ answer = .replaced (c.get? name) ∧
    ∀ n, d.get? n = if n = name then some proxy else c.get? n
  | .remove name => t = s ∧ answer = .removed (c.get? name) ∧
    ∀ n, d.get? n = if n = name then none else c.get? n

/-- The name that an operation with its answer has an effect on, and whether something is there
then. A failed bootstrap has no effect, and neither has removing what is not there. -/
def effect? : ContextOp σ ρ π → ContextAnswer π → Option (String × Bool)
  | .init _ _, .initialized (.ok name) => some (name, true)
  | .destroy _ params, .destroyed previous => previous.map fun _ => (params.attributeName, false)
  | .set name _, _ => some (name, true)
  | .remove name, .removed previous => previous.map fun _ => (name, false)
  | _, _ => none

variable {s t : σ} {c d : PublishedContext π} {answer : ContextAnswer π}

/-! ## One operation -/

/-- Destroying takes away what is published under the attribute and hands it back. -/
theorem run_destroy (publisher : Publisher σ ρ π) (params : MapParameters) (s : σ)
    (c : PublishedContext π) : ∃ events,
    (perform (.destroy publisher params)).run (s, c) =
      ⟨.ok (.destroyed (c.get? params.attributeName)),
        (s, ⟨c.attributes.erase params.attributeName⟩), events⟩ := by
  refine ⟨if (c.get? params.attributeName).isSome then
    [Publisher.event "Unpublished repository" params.attributeName] else [], ?_⟩
  unfold perform
  rw [Act.run_map, Publisher.run_destroy, params.ofSource_attributeName, params.ofSource_source]
  rfl

/-- Every operation ends, and is faithful. -/
theorem exists_faithful (op : ContextOp σ ρ π) (s : σ) (c : PublishedContext π) :
    ∃ answer t d events,
      op.perform.run (s, c) = ⟨.ok answer, (t, d), events⟩ ∧ op.Faithful s c answer t d := by
  cases op with
  | init publisher params =>
    rcases h : (publisher.bootstrapper.bootstrap params.source).run s with ⟨e | proxy, t, events⟩
    · refine ⟨.initialized (.error e), t, c, events, ?_, ?_⟩
      · unfold perform
        rw [Act.run_map, Act.run_attempt, Publisher.run_init_of_error c h]
        rfl
      · dsimp only [Faithful]
        rw [h]
        exact ⟨rfl, rfl, rfl⟩
    · refine ⟨.initialized (.ok params.attributeName), t,
        ⟨c.attributes.insert params.attributeName proxy⟩,
        events ++ [Publisher.publishedEvent c params.attributeName], ?_, ?_⟩
      · unfold perform
        rw [Act.run_map, Act.run_attempt, Publisher.run_init_of_ok c h,
          params.ofSource_attributeName]
        rfl
      · dsimp only [Faithful]
        rw [h]
        exact ⟨rfl, rfl, NameMap.get?_insert c.attributes params.attributeName proxy⟩
  | destroy publisher params =>
    obtain ⟨events, hrun⟩ := run_destroy publisher params s c
    exact ⟨_, s, _, events, hrun, rfl, rfl, NameMap.get?_erase c.attributes params.attributeName⟩
  | set name proxy =>
    exact ⟨.replaced (c.get? name), s, ⟨c.attributes.insert name proxy⟩, [], rfl, rfl, rfl,
      NameMap.get?_insert c.attributes name proxy⟩
  | remove name =>
    exact ⟨.removed (c.get? name), s, ⟨c.attributes.erase name⟩, [], rfl, rfl, rfl,
      NameMap.get?_erase c.attributes name⟩

/-- Publishing under a name makes that name held, and the other names are held as before. -/
theorem isSome_get?_of_put {name : String} {proxy : π}
    (h : ∀ n, d.get? n = if n = name then some proxy else c.get? n) (n : String) :
    (d.get? n).isSome = (NameMap.lastUnder n [(name, true)]).getD (c.get? n).isSome := by
  rw [h n, NameMap.lastUnder_singleton]
  by_cases hn : n = name
  · rw [if_pos hn, if_pos hn]
    rfl
  · rw [if_neg hn, if_neg hn]
    rfl

/-- Removing what is published under a name frees the name, if it was held, and no other. -/
theorem isSome_get?_of_removed {name : String}
    (h : ∀ n, d.get? n = if n = name then none else c.get? n) (n : String) :
    (d.get? n).isSome =
      (NameMap.lastUnder n ((c.get? name).map fun _ => (name, false)).toList).getD
        (c.get? n).isSome := by
  rw [h n]
  cases hc : c.get? name with
  | none =>
    -- there was nothing to remove, under the name as well as elsewhere
    by_cases hn : n = name
    · rw [if_pos hn, hn, hc]
      rfl
    · rw [if_neg hn]
      rfl
  | some previous =>
    change _ = (NameMap.lastUnder n [(name, false)]).getD _
    rw [NameMap.lastUnder_singleton]
    by_cases hn : n = name
    · rw [if_pos hn, if_pos hn]
      rfl
    · rw [if_neg hn, if_neg hn]
      rfl

/-- A name is there after a faithful operation as its effect says, or as before if it has none. -/
theorem Faithful.isSome_get? {op : ContextOp σ ρ π} (h : op.Faithful s c answer t d) (n : String) :
    (d.get? n).isSome =
      (NameMap.lastUnder n (op.effect? answer).toList).getD (c.get? n).isSome := by
  cases op with
  | init publisher params =>
    obtain ⟨-, h⟩ := h
    split at h
    · obtain ⟨rfl, rfl⟩ := h
      rfl
    · obtain ⟨rfl, hput⟩ := h
      exact isSome_get?_of_put hput n
  | destroy publisher params =>
    obtain ⟨-, rfl, hremoved⟩ := h
    exact isSome_get?_of_removed hremoved n
  | set name proxy =>
    obtain ⟨-, rfl, hput⟩ := h
    exact isSome_get?_of_put hput n
  | remove name =>
    obtain ⟨-, rfl, hremoved⟩ := h
    exact isSome_get?_of_removed hremoved n

end ContextOp

/-! ## Histories -/

/-- Perform operations one after another; gives their answers. -/
def performAll : List (ContextOp σ ρ π) →
    Act (σ × PublishedContext π) Empty (List (ContextAnswer π))
  | [] => pure []
  | op :: rest => do
    let answer ← op.perform
    let answers ← performAll rest
    pure (answer :: answers)

/-- A history all of whose operations are faithful, each from where the one before it led. -/
inductive Story : σ → PublishedContext π → List (ContextOp σ ρ π) → List (ContextAnswer π) → σ →
    PublishedContext π → Prop where
  /-- Nothing happens. -/
  | nil (s : σ) (c : PublishedContext π) : Story s c [] [] s c
  /-- One more operation at the beginning. -/
  | cons {s t u : σ} {c d e : PublishedContext π} {op : ContextOp σ ρ π}
      {rest : List (ContextOp σ ρ π)} {answer : ContextAnswer π} {answers : List (ContextAnswer π)}
      (first : op.Faithful s c answer t d) (following : Story t d rest answers u e) :
      Story s c (op :: rest) (answer :: answers) u e

/-- The effects of operations with their answers, in order. -/
def effects : List (ContextOp σ ρ π) → List (ContextAnswer π) → List (String × Bool)
  | op :: rest, answer :: answers => (op.effect? answer).toList ++ effects rest answers
  | _, _ => []

/-- Every history is a story. -/
theorem exists_story (history : List (ContextOp σ ρ π)) (s : σ) (c : PublishedContext π) :
    ∃ answers t d events,
      (performAll history).run (s, c) = ⟨.ok answers, (t, d), events⟩ ∧
      Story s c history answers t d := by
  induction history generalizing s c with
  | nil => exact ⟨[], s, c, [], rfl, .nil s c⟩
  | cons op rest ih =>
    obtain ⟨answer, t, d, events, hrun, hfaithful⟩ := op.exists_faithful s c
    obtain ⟨answers, u, e, more, hrest, hstory⟩ := ih t d
    have hend : (do
        let answers ← performAll rest
        pure (answer :: answers)).run (t, d) = ⟨.ok (answer :: answers), (u, e), more ++ []⟩ :=
      Act.run_bind_of_ok hrest (Act.run_pure _ _)
    exact ⟨answer :: answers, u, e, _, Act.run_bind_of_ok hrun hend, .cons hfaithful hstory⟩

/-- A name is there after a story as the last effect on it says, or as before if there is none. -/
theorem Story.isSome_get? {s t : σ} {c d : PublishedContext π} {history : List (ContextOp σ ρ π)}
    {answers : List (ContextAnswer π)} (h : Story s c history answers t d) (n : String) :
    (d.get? n).isSome =
      (NameMap.lastUnder n (effects history answers)).getD (c.get? n).isSome := by
  induction h with
  | nil s c => rfl
  | cons first _ ih =>
    -- later effects count before the first one
    rw [ih, first.isSome_get? n, effects, NameMap.lastUnder_append, Option.getD_or]

/-- Publishing and removing again with the same parameters leaves all but the attribute there. -/
theorem get?_init_destroy (publisher publisher' : Publisher σ ρ π) (params : MapParameters) (s : σ)
    (c : PublishedContext π) (n : String) :
    ((performAll [.init publisher params, .destroy publisher' params]).run (s, c)).state.2.get? n =
      if n = params.attributeName then none else c.get? n := by
  obtain ⟨answers, t, d, events, hrun, hstory⟩ :=
    exists_story [.init publisher params, .destroy publisher' params] s c
  rw [hrun]
  cases hstory with
  | cons hinit hstory =>
    cases hstory with
    | cons hdestroy hstory =>
      cases hstory
      obtain ⟨-, -, hremoved⟩ := hdestroy
      obtain ⟨-, hinit⟩ := hinit
      rw [hremoved n]
      split at hinit
      · rw [hinit.2]
      · rw [hinit.2 n]
        split
        · rfl
        · rfl

/-- Whatever publishers and hosts do to a context in whatever order, all of it is faithful. The
context lists in strictly ascending order the names whose last effect put something there.
Publishing and then removing with the same parameters, through any publishers, gives back the
context exactly if there was nothing under the name before. -/
theorem published_attributes_faithful (s : σ) (history : List (ContextOp σ ρ π)) :
    ∃ answers t c events,
      (performAll history).run (s, .empty) = ⟨.ok answers, (t, c), events⟩ ∧
      Story s .empty history answers t c ∧
      c.names.Pairwise (· < ·) ∧
      (∀ name, name ∈ c.names ↔
        NameMap.lastUnder name (effects history answers) = some true) ∧
      ∀ (publisher publisher' : Publisher σ ρ π) (params : MapParameters),
        ((performAll [.init publisher params, .destroy publisher' params]).run (t, c)).state.2 = c ↔
          c.get? params.attributeName = none := by
  obtain ⟨answers, t, c, events, hrun, hstory⟩ := exists_story history s .empty
  refine ⟨answers, t, c, events, hrun, hstory, c.attributes.names_ascending, fun name => ?_,
    fun publisher publisher' params => ⟨fun h => ?_, fun habsent => ?_⟩⟩
  · have hempty : (PublishedContext.empty.get? name : Option π).isSome = false := rfl
    rw [PublishedContext.mem_names_iff, hstory.isSome_get? name, hempty]
    cases NameMap.lastUnder name (effects history answers) with
    | none => simp
    | some there => simp
  · rw [← h, get?_init_destroy, if_pos rfl]
  · refine PublishedContext.ext_get? fun n => ?_
    rw [get?_init_destroy]
    by_cases hn : n = params.attributeName
    · rw [if_pos hn, hn, habsent]
    · rw [if_neg hn]

end Locator
