import Locator.Proofs.Partition

/-!
# Plans lose nothing

A plan splits parameters in two: reserved names have places of their own, and all other entries make
up the environment. Nothing is lost on the way, nothing is made up and nothing is altered.

* `Plan.environment_toList`: the environment lists the entries under other names, as they are;
* `Plan.merged`: the environment and what the plan has for reserved names, put together again. With
  the reserved names that were there it gives the parameters back (`Plan.merged_reservedNames`);
* `Environment.Unreserved`: no reserved name has an entry. The entries of such an environment are a
  plan with that environment and defaults for the rest (`Plan.ofParameters_parameters`);
* `Plan.partition_lossless`: all of it, for every way to go through the parameters.
-/

namespace Locator

variable {σ : Type}

/-! ## Environments and parameters -/

namespace Environment

/-- The entries as parameters. -/
def parameters (env : Environment) : Parameters := ⟨env.table⟩

/-- No reserved name has an entry. -/
def Unreserved (env : Environment) : Prop := ∀ n, isReserved n = true → env.get? n = none

/-- Entries that are added to an environment leave reserved names without one. -/
theorem Unreserved.foldl_insert {env : Environment} (h : env.Unreserved)
    (pairs : List (String × String)) :
    Unreserved (pairs.foldl (fun env e => (env.insert e.1 e.2).2) env) := by
  induction pairs generalizing env with
  | nil => exact h
  | cons e rest ih =>
    refine ih fun n hn => ?_
    rw [get?_insert_of_reserved hn]
    exact h n hn

/-- What is built by insertions holds no reserved name. -/
theorem unreserved_ofList (pairs : List (String × String)) : (ofList pairs).Unreserved := by
  have hempty : Unreserved empty := fun _ _ => rfl
  exact hempty.foldl_insert pairs

end Environment

namespace Parameters

/-- The reserved names under which there are parameters. -/
def reservedNames (p : Parameters) : List String :=
  reservedKeys.filter fun name => (p.get? name).isSome

/-- The reserved names of given parameters are the reserved ones among their names. -/
theorem mem_reservedNames_iff (p : Parameters) (n : String) :
    n ∈ p.reservedNames ↔ isReserved n = true ∧ (p.get? n).isSome = true := by
  unfold reservedNames isReserved
  rw [List.mem_filter, List.contains_iff_mem]

/-- Parameters with the same values are equal. -/
theorem ext_get? {p q : Parameters} (h : ∀ n, p.get? n = q.get? n) : p = q := by
  obtain ⟨table⟩ := p
  obtain ⟨table'⟩ := q
  obtain rfl : table = table' := NameMap.ext_get? h
  rfl

end Parameters

namespace Plan

/-! ## What a plan is made of -/

/-- The value that a plan has for a reserved name. -/
def reserved? (plan : Plan) (name : String) : Option String :=
  if name = locationKey then some plan.location
  else if name = factoryKey then some plan.factory
  else if name = attributeKey then plan.attribute?
  else none

/-- The environment of a plan, and what the plan has for reserved names. -/
def merged (plan : Plan) (names : List String) : Parameters :=
  .ofList (plan.environment.toList ++
    names.filterMap fun name => (plan.reserved? name).map (name, ·))

/-- After merging back, a name has its reserved value if it is one of the names, or else what the
environment holds. -/
theorem get?_merged (plan : Plan) (names : List String) (n : String) :
    (plan.merged names).get? n =
      (if n ∈ names then plan.reserved? n else none).or (plan.environment.get? n) := by
  have hlast : (plan.merged names).get? n = NameMap.lastUnder n (plan.environment.toList ++
      names.filterMap fun name => (plan.reserved? name).map (name, ·)) :=
    NameMap.get?_ofList _ n
  have henv : NameMap.lastUnder n plan.environment.toList = plan.environment.get? n :=
    NameMap.lastUnder_entries plan.environment.table n
  rw [hlast, NameMap.lastUnder_append, NameMap.lastUnder_filterMap, henv]

section

variable (p : Parameters)

/-- The environment lists the entries under names that are not reserved, as they are. -/
theorem environment_toList :
    (ofParameters p).environment.toList = p.toList.filter fun e => !isReserved e.1 := by
  -- both sides ascend, so it is enough that they have the same under every name
  refine NameMap.entries_eq_of_valueAt (ofParameters p).environment.table.ascending
    (p.table.ascending.filter _) fun n => ?_
  have hleft : NameMap.valueAt n (ofParameters p).environment.toList =
      if isReserved n then none else p.get? n :=
    ofParameters_environment_get? p n
  have hright : NameMap.valueAt n (p.toList.filter fun e => !isReserved e.1) =
      if !isReserved n then p.get? n else none :=
    NameMap.valueAt_filter (fun name => !isReserved name) p.toList n
  rw [hleft, hright]
  cases isReserved n with
  | true => rfl
  | false => rfl

/-- A plan has the value of each reserved name that was there. -/
theorem reserved?_ofParameters {n value : String} (hreserved : isReserved n = true)
    (hvalue : p.get? n = some value) : (ofParameters p).reserved? n = some value := by
  unfold reserved?
  rcases isReserved_iff.1 hreserved with rfl | rfl | rfl
  · rw [if_neg Gathered.attributeKey_ne_locationKey, if_neg Gathered.attributeKey_ne_factoryKey,
      if_pos rfl, ofParameters_attribute?, hvalue]
  · rw [if_neg Gathered.factoryKey_ne_locationKey, if_pos rfl, ofParameters_factory, hvalue]
    rfl
  · rw [if_pos rfl, ofParameters_location, hvalue]
    rfl

/-- The environment and the reserved names that were there are the parameters again. -/
theorem merged_reservedNames : (ofParameters p).merged p.reservedNames = p := by
  refine Parameters.ext_get? fun n => ?_
  rw [get?_merged, ofParameters_environment_get?]
  cases hreserved : isReserved n with
  | false =>
    -- only the environment has it
    have hother : n ∉ p.reservedNames := by
      intro hn
      rw [Parameters.mem_reservedNames_iff, hreserved] at hn
      exact Bool.false_ne_true hn.1
    rw [if_neg hother, Option.none_or, if_neg Bool.false_ne_true]
  | true =>
    rw [if_pos rfl, Option.or_none]
    cases hvalue : p.get? n with
    | none =>
      have hmissing : n ∉ p.reservedNames := by
        intro hn
        rw [Parameters.mem_reservedNames_iff, hvalue] at hn
        exact Bool.false_ne_true hn.2
      rw [if_neg hmissing]
    | some value =>
      have hthere : n ∈ p.reservedNames := by
        rw [Parameters.mem_reservedNames_iff, hvalue]
        exact ⟨hreserved, rfl⟩
      rw [if_pos hthere, reserved?_ofParameters p hreserved hvalue]

end

/-! ## Plans of environments -/

/-- The entries of an environment without reserved names are a plan with just that environment. -/
theorem ofParameters_parameters {env : Environment} (h : env.Unreserved) :
    ofParameters env.parameters = ⟨defaultLocation, defaultFactory, none, env⟩ := by
  have hget (n : String) : env.parameters.get? n = env.get? n := rfl
  have hlocation : env.get? locationKey = none := h locationKey (by decide)
  have hfactory : env.get? factoryKey = none := h factoryKey (by decide)
  have hattribute : env.get? attributeKey = none := h attributeKey (by decide)
  refine ext_get? ?_ ?_ ?_ fun n => ?_
  · rw [ofParameters_location, hget, hlocation]
    rfl
  · rw [ofParameters_factory, hget, hfactory]
    rfl
  · rw [ofParameters_attribute?, hget, hattribute]
  · rw [ofParameters_environment_get?, hget]
    cases hreserved : isReserved n with
    | true => exact (h n hreserved).symm
    | false => rfl

/-- Whether parameters are listed in ascending order or in whatever order a map goes through them,
the plan is the same, and reading it leaves no trace. Its environment has the entries under names
that are not reserved, as they are; location, adapter factory and attribute are what the reserved
names say, with defaults for the first two. So the environment and the reserved names that were
there give the parameters back, and the entries of any environment are a plan with just that
environment. -/
theorem partition_lossless (m : MapParameters) (s : σ) :
    let p := m.parameters
    let plan := ofParameters p
    ofSource m.source s = (plan, s) ∧ ofSource (.ofParameters p) s = (plan, s) ∧
    plan.environment.toList = p.toList.filter (fun e => !isReserved e.1) ∧
    plan.location = (p.get? locationKey).getD defaultLocation ∧
    plan.factory = (p.get? factoryKey).getD defaultFactory ∧
    plan.attribute? = p.get? attributeKey ∧
    plan.merged p.reservedNames = p ∧
    ∀ pairs, ofParameters (Environment.ofList pairs).parameters =
      ⟨defaultLocation, defaultFactory, none, Environment.ofList pairs⟩ := by
  intro p plan
  have hsource : ofSource m.source s = (plan, s) := m.ofSource_source s
  have hascending : ofSource (.ofParameters p) s = (plan, s) := ofSource_ofParameters p s
  exact ⟨hsource, hascending, environment_toList p, ofParameters_location p,
    ofParameters_factory p, ofParameters_attribute? p, merged_reservedNames p,
    fun pairs => ofParameters_parameters (Environment.unreserved_ofList pairs)⟩

end Plan

end Locator
