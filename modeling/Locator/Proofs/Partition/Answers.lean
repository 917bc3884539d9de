import Locator.Proofs.Partition

/-!
# Plans from sources of any kind

A parameter source may list a name several times, list names that it has no value for, and answer
differently each time it is asked. A plan asks for each name as often as it is listed, in the
order of the list. Of the answers for a name the last one that is a value counts, and a name that
never gets a value is absent.

* `ParameterSource.recorded`: a source that keeps a record of the questions it is asked;
* `ParameterSource.transcript`: the names that a source lists, each with its answer;
* `Counts`, `Plan.Uses`: what answers come to under a name, and what a plan has for it;
* `Plan.last_value_counts`: what is asked, what counts, and what makes no difference.
-/

namespace Locator

variable {σ : Type}

/-! ## What a source is asked -/

/-- A question to a parameter source, with its answer. -/
inductive Inquiry where
  /-- The question for the names. -/
  | names (listed : List String)
  /-- The question for the value of a name. -/
  | value (name : String) (answer : Option String)
deriving DecidableEq

namespace ParameterSource

/-- The same source over a state with a record, to which each question is added. -/
def recorded (p : ParameterSource σ) : ParameterSource (σ × List Inquiry) where
  listed := fun s =>
    let r := p.listed s.1
    (r.1, (r.2, s.2 ++ [.names r.1]))
  ask := fun name s =>
    let r := p.ask name s.1
    (r.1, (r.2, s.2 ++ [.value name r.1]))

/-- Names, each with the answer that the source gives in the state in which the answers before it
left. -/
def answers (p : ParameterSource σ) : List String → σ → List (String × Option String)
  | [], _ => []
  | name :: rest, s => (name, (p.ask name s).1) :: p.answers rest (p.ask name s).2

/-- The names that a source lists, each with its answer. -/
def transcript (p : ParameterSource σ) (s : σ) : List (String × Option String) :=
  p.answers (p.listed s).1 (p.listed s).2

/-- Every name that is asked is answered, in turn. -/
theorem map_fst_answers (p : ParameterSource σ) (names : List String) (s : σ) :
    (p.answers names s).map (·.1) = names := by
  induction names generalizing s with
  | nil => rfl
  | cons name rest ih => rw [answers, List.map_cons, ih]

/-- Each name that is asked for adds one question to the record. -/
theorem gather_recorded (p : ParameterSource σ) (names : List String) (g : Gathered) (s : σ)
    (record : List Inquiry) :
    Plan.gather p.recorded.ask names g (s, record) =
      ((Plan.gather p.ask names g s).1,
        ((Plan.gather p.ask names g s).2,
          record ++ (p.answers names s).map fun e => .value e.1 e.2)) := by
  induction names generalizing g s record with
  | nil =>
    rw [answers, List.map_nil, List.append_nil]
    rfl
  | cons name rest ih =>
    let r := p.ask name s
    have hrest := ih (g.addAnswer name r.1) r.2 (record ++ [.value name r.1])
    rw [List.append_assoc] at hrest
    rw [Plan.gather_cons, Plan.gather_cons, answers, List.map_cons]
    exact hrest

/-- A plan from a source with a record is the plan from the source. The record then holds the
question for the names, and after it a question for each of them. -/
theorem ofSource_recorded (p : ParameterSource σ) (s : σ) :
    Plan.ofSource p.recorded (s, []) =
      ((Plan.ofSource p s).1,
        ((Plan.ofSource p s).2,
          .names (p.listed s).1 :: (p.transcript s).map fun e => .value e.1 e.2)) := by
  have hgather := p.gather_recorded (p.listed s).1 .none (p.listed s).2 [.names (p.listed s).1]
  rw [Plan.ofSource_apply, Plan.ofSource_apply]
  exact Prod.ext (congrArg (·.1.toPlan) hgather) (congrArg (·.2) hgather)

end ParameterSource

/-! ## What answers come to -/

/-- What answers come to under a name. -/
inductive Counts (n : String) : List (String × Option String) → Option String → Prop where
  /-- The name has a value where it occurs, and none where it occurs later on. -/
  | value (before after : List (String × Option String)) (v : String)
      (later : ∀ w, (n, some w) ∉ after) : Counts n (before ++ (n, some v) :: after) (some v)
  /-- The name does not have a value anywhere. -/
  | absent (answers : List (String × Option String)) (never : ∀ w, (n, some w) ∉ answers) :
      Counts n answers none

/-- The values among answers, each under its name. -/
def valued (answers : List (String × Option String)) : List (String × String) :=
  answers.filterMap fun e => e.2.map (e.1, ·)

/-- The values that are answered for a name. -/
def valuesFor (n : String) (answers : List (String × Option String)) : List String :=
  answers.filterMap fun e => if e.1 = n then e.2 else none

theorem valued_cons_none (name : String) (rest : List (String × Option String)) :
    valued ((name, none) :: rest) = valued rest :=
  List.filterMap_cons_none rfl

theorem valued_cons_some (name v : String) (rest : List (String × Option String)) :
    valued ((name, some v) :: rest) = (name, v) :: valued rest :=
  List.filterMap_cons_some rfl

/-- What a source gives is what its answers hold. -/
theorem given_eq_valued (p : ParameterSource σ) (names : List String) (s : σ) :
    p.given names s = valued (p.answers names s) := by
  induction names generalizing s with
  | nil => rfl
  | cons name rest ih =>
    rw [ParameterSource.given, ParameterSource.answers, ih]
    cases (p.ask name s).1 with
    | none =>
      rw [valued_cons_none]
      rfl
    | some v =>
      rw [valued_cons_some]
      rfl

theorem Counts.cons_other {n : String} {answers : List (String × Option String)}
    {v? : Option String} (h : Counts n answers v?) {e : String × Option String}
    (he : ∀ w, (n, some w) ≠ e) : Counts n (e :: answers) v? := by
  cases h with
  | value before after v later => exact .value (e :: before) after v later
  | absent _ never =>
    refine .absent _ fun w hw => ?_
    rcases List.mem_cons.1 hw with heq | hw
    · exact he w heq
    · exact never w hw

/-- The last value under a name is what counts. -/
theorem counts_lastUnder (n : String) (answers : List (String × Option String)) :
    Counts n answers (NameMap.lastUnder n (valued answers)) := by
  induction answers with
  | nil => exact .absent [] fun w => List.not_mem_nil
  | cons e rest ih =>
    obtain ⟨name, answer⟩ := e
    cases answer with
    | none =>
      -- no answer changes nothing, whatever came before it
      rw [valued_cons_none]
      exact ih.cons_other fun w heq => nomatch congrArg Prod.snd heq
    | some v =>
      rw [valued_cons_some, NameMap.lastUnder]
      by_cases hn : n = name
      · subst hn
        rw [if_pos rfl]
        generalize NameMap.lastUnder n (valued rest) = last at ih
        cases ih with
        | value before after later hlater => exact .value ((n, some v) :: before) after later hlater
        | absent _ never => exact .value [] rest v never
      · rw [if_neg hn, Option.or_none]
        exact ih.cons_other fun w heq => hn (congrArg Prod.fst heq)

theorem valuesFor_cons_none (n name : String) (rest : List (String × Option String)) :
    valuesFor n ((name, none) :: rest) = valuesFor n rest := by
  have hnone : (if name = n then (none : Option String) else none) = none := ite_self none
  exact List.filterMap_cons_none hnone

theorem valuesFor_cons_self (n v : String) (rest : List (String × Option String)) :
    valuesFor n ((n, some v) :: rest) = v :: valuesFor n rest := by
  have hsome : (if n = n then some v else none) = some v := if_pos rfl
  exact List.filterMap_cons_some hsome

theorem valuesFor_cons_of_ne {n name : String} (h : n ≠ name) (v : String)
    (rest : List (String × Option String)) :
    valuesFor n ((name, some v) :: rest) = valuesFor n rest := by
  have hnone : (if name = n then some v else none) = none := if_neg (Ne.symm h)
  exact List.filterMap_cons_none hnone

/-- Only the values for the name itself make a difference. -/
theorem lastUnder_valued (n : String) (answers : List (String × Option String)) :
    NameMap.lastUnder n (valued answers) = (valuesFor n answers).getLast? := by
  induction answers with
  | nil => rfl
  | cons e rest ih =>
    obtain ⟨name, answer⟩ := e
    cases answer with
    | none => rw [valued_cons_none, valuesFor_cons_none, ih]
    | some v =>
      rw [valued_cons_some, NameMap.lastUnder, ih]
      by_cases hn : n = name
      · subst hn
        rw [valuesFor_cons_self, if_pos rfl, List.getLast?_cons]
        cases (valuesFor n rest).getLast? with
        | none => rfl
        | some last => rfl
      · rw [valuesFor_cons_of_ne hn, if_neg hn, Option.or_none]

/-! ## What a plan has for a name -/

/-- A plan has this for a name, where nothing stands for a name that is absent. -/
structure Plan.Uses (plan : Plan) (n : String) (v? : Option String) : Prop where
  /-- Without a location there is the default one. -/
  location : n = locationKey → plan.location = v?.getD defaultLocation
  /-- Without an adapter factory there is the default one. -/
  factory : n = factoryKey → plan.factory = v?.getD defaultFactory
  /-- Without an attribute there is none. -/
  published : n = attributeKey → plan.attribute? = v?
  /-- All other names go to the environment, and no reserved one does. -/
  environment : plan.environment.get? n = if isReserved n then none else v?

namespace Plan

/-- A plan uses the last answer under each name. -/
theorem uses_lastAnswer (p : ParameterSource σ) (s : σ) (n : String) :
    (ofSource p s).1.Uses n (lastAnswer p s n) where
  location hn := by rw [hn, ofSource_location]
  factory hn := by rw [hn, ofSource_factory]
  published hn := by rw [hn, ofSource_attribute?]
  environment := ofSource_environment_get? p s n

/-- The last answer is the last one with a value in the transcript. -/
theorem lastAnswer_eq_lastUnder (p : ParameterSource σ) (s : σ) (n : String) :
    lastAnswer p s n = NameMap.lastUnder n (valued (p.transcript s)) := by
  unfold lastAnswer ParameterSource.transcript
  rw [given_eq_valued]

theorem lastAnswer_eq_getLast? (p : ParameterSource σ) (s : σ) (n : String) :
    lastAnswer p s n = (valuesFor n (p.transcript s)).getLast? := by
  rw [lastAnswer_eq_lastUnder, lastUnder_valued]

/-- From whatever source a plan is read, the source is asked for its names once, and then for the
value of each name as often as it is listed, in that order and for nothing else. For every name
the plan has the value at the last occurrence of the name that was answered by a value; a name for
which this never happens counts as absent. So no plan can tell two sources apart that answer the
same values for a name in the same order, as far as this name is concerned: questions for it that
remain without an answer make no difference, wherever they stand, and neither do other names. -/
theorem last_value_counts (p : ParameterSource σ) (s : σ) :
    let plan := (ofSource p s).1
    ofSource p.recorded (s, []) =
      (plan, ((ofSource p s).2,
        .names (p.listed s).1 :: (p.transcript s).map fun e => .value e.1 e.2)) ∧
    (p.transcript s).map (·.1) = (p.listed s).1 ∧
    (∀ n, ∃ v?, Counts n (p.transcript s) v? ∧ plan.Uses n v?) ∧
    ∀ {τ : Type} (q : ParameterSource τ) (t : τ) (n : String),
      valuesFor n (p.transcript s) = valuesFor n (q.transcript t) →
      ∃ v?, plan.Uses n v? ∧ (ofSource q t).1.Uses n v? := by
  intro plan
  refine ⟨p.ofSource_recorded s, p.map_fst_answers _ _, fun n => ?_, ?_⟩
  · have huses : plan.Uses n (lastAnswer p s n) := uses_lastAnswer p s n
    refine ⟨lastAnswer p s n, ?_, huses⟩
    rw [lastAnswer_eq_lastUnder]
    exact counts_lastUnder n (p.transcript s)
  · intro τ q t n hvalues
    have hsame : lastAnswer p s n = lastAnswer q t n := by
      rw [lastAnswer_eq_getLast?, lastAnswer_eq_getLast?, hvalues]
    refine ⟨lastAnswer p s n, uses_lastAnswer p s n, ?_⟩
    rw [hsame]
    exact uses_lastAnswer q t n

/-- A value stays when the name is asked for again and has none any more. -/
example :
    let fading : ParameterSource Nat :=
      ⟨pure ["a", "b", "a"], fun name asked =>
        (if name = "a" ∧ asked = 0 then some "1" else none, asked + 1)⟩
    (ofSource fading 0).1.environment.toList = [("a", "1")] := by
  decide

end Plan

end Locator
