import Locator.Plan

/-!
# What a plan takes from its parameters

A plan is read by asking a source for one name after another. Each name has one place in the plan,
and what is found there in the end is the last value that was answered for the name.

* `ParameterSource.given`: the values that a source answers, in order;
* `Gathered.get?_gather`, `Gathered.environment_get?_gather`: what has been gathered under a name;
* `MapParameters`: parameters that are kept in a map, listed in whatever order the map goes through;
* `MapParameters.ofSource_source`: the order makes no difference to the plan, and reading it leaves
  no trace.
-/

namespace Locator

variable {σ : Type}

/-- The values that a source answers when it is asked for names in order, each under its name. -/
def ParameterSource.given (p : ParameterSource σ) : List String → σ → List (String × String)
  | [], _ => []
  | name :: rest, s =>
    ((p.ask name s).1.map (name, ·)).toList ++ p.given rest (p.ask name s).2

/-! ## Where a name belongs -/

namespace Gathered

/-- What was gathered under a name, wherever it belongs. -/
def get? (g : Gathered) (name : String) : Option String :=
  if name = locationKey then g.location?
  else if name = factoryKey then g.factory?
  else if name = attributeKey then g.attribute?
  else g.environment.get? name

theorem get?_none (n : String) : Gathered.none.get? n = .none := by
  have henv : Gathered.none.environment.get? n = .none := rfl
  unfold get?
  rw [henv]
  split
  · rfl
  split
  · rfl
  split
  · rfl
  · rfl

theorem factoryKey_ne_locationKey : factoryKey ≠ locationKey := by decide

theorem attributeKey_ne_locationKey : attributeKey ≠ locationKey := by decide

theorem attributeKey_ne_factoryKey : attributeKey ≠ factoryKey := by decide

theorem location?_eq (g : Gathered) : g.location? = g.get? locationKey := rfl

theorem factory?_eq (g : Gathered) : g.factory? = g.get? factoryKey := by
  unfold get?
  rw [if_neg factoryKey_ne_locationKey, if_pos rfl]

theorem attribute?_eq (g : Gathered) : g.attribute? = g.get? attributeKey := by
  unfold get?
  rw [if_neg attributeKey_ne_locationKey, if_neg attributeKey_ne_factoryKey, if_pos rfl]

/-- A name that is not reserved belongs to the environment. -/
theorem get?_of_not_reserved {n : String} (h : isReserved n = false) (g : Gathered) :
    g.get? n = g.environment.get? n := by
  obtain ⟨hattribute, hfactory, hlocation⟩ := isReserved_eq_false_iff.1 h
  unfold get?
  rw [if_neg hlocation, if_neg hfactory, if_neg hattribute]

/-- A parameter that is taken in is found under its name, and all others stay. -/
theorem get?_add (g : Gathered) (name value n : String) :
    (g.add name value).get? n = if n = name then some value else g.get? n := by
  unfold add
  split
  · rename_i h
    subst h
    unfold get?
    split <;> rfl
  · rename_i hlocation
    split
    · rename_i h
      subst h
      unfold get?
      by_cases hn : n = locationKey
      · rw [if_pos hn, if_pos hn, if_neg (hn ▸ factoryKey_ne_locationKey.symm)]
      · rw [if_neg hn, if_neg hn]
        split <;> rfl
    · rename_i hfactory
      split
      · rename_i h
        subst h
        unfold get?
        by_cases hn : n = attributeKey
        · subst hn
          rw [if_neg hlocation, if_neg hfactory, if_pos rfl, if_pos rfl]
        · simp only [hn, if_false]
      · rename_i hattribute
        have hfree : isReserved name = false :=
          isReserved_eq_false_iff.2 ⟨hattribute, hfactory, hlocation⟩
        unfold get?
        simp only [Environment.get?_insert hfree]
        by_cases hn : n = name
        · subst hn
          rw [if_neg hlocation, if_neg hfactory, if_neg hattribute, if_pos rfl, if_pos rfl]
        · simp only [hn, if_false]

/-- No parameter gets into the environment under a reserved name. -/
theorem environment_get?_add {n : String} (h : isReserved n = true) (g : Gathered)
    (name value : String) : (g.add name value).environment.get? n = g.environment.get? n := by
  unfold add
  split
  · rfl
  split
  · rfl
  split
  · rfl
  -- what is left goes to the environment, which checks the name itself
  exact Environment.get?_insert_of_reserved h g.environment name value

/-! ## What is gathered from a source -/

/-- Under each name the last value that was answered for it is found in the end, or what was there
before if there was no such answer. -/
theorem get?_gather (p : ParameterSource σ) (names : List String) (g : Gathered) (s : σ)
    (n : String) :
    (Plan.gather p.ask names g s).1.get? n =
      (NameMap.lastUnder n (p.given names s)).or (g.get? n) := by
  induction names generalizing g s with
  | nil => rfl
  | cons name rest ih =>
    rw [Plan.gather_cons, ih, ParameterSource.given]
    cases (p.ask name s).1 with
    | none => rfl
    | some value =>
      -- answers to the rest come later, so they count before this one
      rw [addAnswer, get?_add]
      change _ = (NameMap.lastUnder n ((name, value) :: p.given rest (p.ask name s).2)).or _
      rw [NameMap.lastUnder, Option.or_assoc]
      by_cases hn : n = name
      · rw [if_pos hn, if_pos hn, Option.some_or]
      · rw [if_neg hn, if_neg hn, Option.none_or]

/-- A reserved name that is gathered does not reach the environment. -/
theorem environment_get?_gather {n : String} (h : isReserved n = true) (p : ParameterSource σ)
    (names : List String) (g : Gathered) (s : σ) :
    (Plan.gather p.ask names g s).1.environment.get? n = g.environment.get? n := by
  induction names generalizing g s with
  | nil => rfl
  | cons name rest ih =>
    rw [Plan.gather_cons, ih]
    cases (p.ask name s).1 with
    | none => rfl
    | some value => exact environment_get?_add h g name value

end Gathered

/-! ## Plans -/

namespace Plan

variable (p : ParameterSource σ) (s : σ)

/-- The last value that a source answers for a name while a plan is read from it. -/
def lastAnswer (n : String) : Option String :=
  NameMap.lastUnder n (p.given (p.listed s).1 (p.listed s).2)

/-- What is gathered under a name, reserved or not, is the last answer for it. -/
theorem get?_gathered (n : String) :
    (gather p.ask (p.listed s).1 .none (p.listed s).2).1.get? n = lastAnswer p s n := by
  rw [Gathered.get?_gather, Gathered.get?_none, Option.or_none]
  rfl

/-- The location of a plan is the last answer for it, or the default one. -/
theorem ofSource_location :
    (ofSource p s).1.location = (lastAnswer p s locationKey).getD defaultLocation := by
  rw [← get?_gathered, ← Gathered.location?_eq]
  rfl

theorem ofSource_factory :
    (ofSource p s).1.factory = (lastAnswer p s factoryKey).getD defaultFactory := by
  rw [← get?_gathered, ← Gathered.factory?_eq]
  rfl

theorem ofSource_attribute? : (ofSource p s).1.attribute? = lastAnswer p s attributeKey := by
  rw [← get?_gathered, ← Gathered.attribute?_eq]
  rfl

/-- The environment of a plan has the last value for each name that is not reserved, and nothing
under reserved names. -/
theorem ofSource_environment_get? (n : String) :
    (ofSource p s).1.environment.get? n = if isReserved n then none else lastAnswer p s n := by
  cases h : isReserved n with
  | true =>
    have henv := Gathered.environment_get?_gather h p (p.listed s).1 .none (p.listed s).2
    exact henv
  | false =>
    rw [← get?_gathered, Gathered.get?_of_not_reserved h]
    rfl

/-- Plans that agree in every name are equal. -/
theorem ext_get? {plan₁ plan₂ : Plan} (hlocation : plan₁.location = plan₂.location)
    (hfactory : plan₁.factory = plan₂.factory) (hattribute : plan₁.attribute? = plan₂.attribute?)
    (henv : ∀ n, plan₁.environment.get? n = plan₂.environment.get? n) : plan₁ = plan₂ := by
  obtain ⟨location₁, factory₁, attribute₁, ⟨table₁⟩⟩ := plan₁
  obtain ⟨location₂, factory₂, attribute₂, ⟨table₂⟩⟩ := plan₂
  obtain rfl : location₁ = location₂ := hlocation
  obtain rfl : factory₁ = factory₂ := hfactory
  obtain rfl : attribute₁ = attribute₂ := hattribute
  obtain rfl : table₁ = table₂ := NameMap.ext_get? henv
  rfl

end Plan

/-! ## Parameters kept in a map -/

namespace ParameterSource

/-- A table gives, for each name it is asked, the value it has under it. -/
theorem given_ofTable (listed : List String) (value : String → Option String)
    (names : List String) (s : σ) :
    (ofTable listed value : ParameterSource σ).given names s =
      names.filterMap fun name => (value name).map (name, ·) := by
  induction names with
  | nil => rfl
  | cons name rest ih =>
    unfold given
    change ((value name).map (name, ·)).toList ++ (ofTable listed value).given rest s = _
    rw [ih]
    cases hv : value name with
    | none => rw [List.filterMap_cons_none (by rw [hv]; rfl)]; rfl
    | some v => rw [List.filterMap_cons_some (b := (name, v)) (by rw [hv]; rfl)]; rfl

/-- Asking a table leaves the state as it is. -/
theorem gather_ofTable_state (listed : List String) (value : String → Option String)
    (names : List String) (g : Gathered) (s : σ) :
    (Plan.gather (ofTable listed value : ParameterSource σ).ask names g s).2 = s := by
  induction names generalizing g with
  | nil => rfl
  | cons name rest ih => exact ih _

end ParameterSource

/-- Parameters that are kept in a map, which lists each of their names once, in some order. -/
structure MapParameters where
  /-- The parameters. -/
  parameters : Parameters
  /-- The names in the order in which the map goes through them. -/
  order : List String
  /-- Each name is listed once. -/
  listed : order.Perm parameters.names

namespace MapParameters

/-- The parameters as a source. -/
def source (m : MapParameters) : ParameterSource σ := .ofTable m.order m.parameters.get?

/-- Parameters in ascending order. -/
def ofParameters (p : Parameters) : MapParameters := ⟨p, p.names, .refl _⟩

theorem lastAnswer_source (m : MapParameters) (s : σ) (n : String) :
    Plan.lastAnswer m.source s n = m.parameters.get? n := by
  unfold Plan.lastAnswer source
  rw [ParameterSource.given_ofTable, NameMap.lastUnder_filterMap]
  change (if n ∈ m.order then _ else none) = _
  split
  · rfl
  · rename_i hn
    rw [m.listed.mem_iff, Parameters.names, NameMap.mem_names_iff] at hn
    exact (Option.not_isSome_iff_eq_none.1 hn).symm

end MapParameters

namespace Plan

variable (p : Parameters)

theorem lastAnswer_ofParameters (n : String) :
    lastAnswer (.ofParameters p) () n = p.get? n :=
  (MapParameters.ofParameters p).lastAnswer_source () n

theorem ofParameters_location :
    (ofParameters p).location = (p.get? locationKey).getD defaultLocation := by
  rw [← lastAnswer_ofParameters]
  exact ofSource_location _ ()

theorem ofParameters_factory :
    (ofParameters p).factory = (p.get? factoryKey).getD defaultFactory := by
  rw [← lastAnswer_ofParameters]
  exact ofSource_factory _ ()

theorem ofParameters_attribute? : (ofParameters p).attribute? = p.get? attributeKey := by
  rw [← lastAnswer_ofParameters]
  exact ofSource_attribute? _ ()

/-- The environment has every parameter but the reserved ones. -/
theorem ofParameters_environment_get? (n : String) :
    (ofParameters p).environment.get? n = if isReserved n then none else p.get? n := by
  rw [← lastAnswer_ofParameters]
  exact ofSource_environment_get? _ () n

end Plan

/-- However a map goes through its names, the plan is the same, and reading it changes nothing. -/
theorem MapParameters.ofSource_source (m : MapParameters) (s : σ) :
    Plan.ofSource m.source s = (Plan.ofParameters m.parameters, s) := by
  have hanswer := m.lastAnswer_source s
  refine Prod.ext (Plan.ext_get? ?_ ?_ ?_ fun n => ?_) ?_
  · rw [Plan.ofSource_location, Plan.ofParameters_location, hanswer]
  · rw [Plan.ofSource_factory, Plan.ofParameters_factory, hanswer]
  · rw [Plan.ofSource_attribute?, Plan.ofParameters_attribute?, hanswer]
  · rw [Plan.ofSource_environment_get?, Plan.ofParameters_environment_get?, hanswer]
  · exact ParameterSource.gather_ofTable_state m.order m.parameters.get? m.order .none s

/-- Parameters describe one plan, whatever state they are read beside. -/
theorem Plan.ofSource_ofParameters (p : Parameters) (s : σ) :
    Plan.ofSource (.ofParameters p) s = (Plan.ofParameters p, s) :=
  (MapParameters.ofParameters p).ofSource_source s

end Locator
