import Locator.Proofs.Partition.Lossless

/-!
# Histories of an environment

However an environment comes about and whatever is added to it, no reserved name gets in, and of the
other names each has the value that was given for it last.

* `Environment.Origin`, `Environment.insertAll`: the ways to begin, and what is added afterwards;
* `Environment.insertAll_apply`: what every addition answers, and the environment in the end;
* `Environment.get?_ofList`: what is kept of a list of entries;
* `Environment.Coherent`: the views of an environment tell the same;
* `Environment.reserved_names_stay_out`: all of it, for every history.
-/

namespace Locator

/-! ## The order of names -/

/-- The code points of a text. -/
def Text.codePoints (s : String) : List Nat := s.toList.map Char.toNat

theorem Text.codePoints_lt_iff (s t : String) : codePoints s < codePoints t ↔ s < t := by
  -- texts are compared as the lists of their characters are, so one character decides
  have hlists : ∀ cs ds : List Char, cs.map Char.toNat < ds.map Char.toNat ↔ cs < ds := by
    intro cs
    induction cs with
    | nil =>
      intro ds
      cases ds with
      | nil => simp
      | cons d ds => simp
    | cons c cs ih =>
      intro ds
      cases ds with
      | nil => simp
      | cons d ds =>
        rw [List.map_cons, List.map_cons, List.cons_lt_cons_iff, List.cons_lt_cons_iff, ih]
        have hchar : c.toNat = d.toNat ↔ c = d := Char.toNat_inj
        rw [hchar]
        exact Iff.rfl
  exact hlists s.toList t.toList

namespace Environment

/-! ## Ways to begin -/

/-- How an environment comes about. -/
inductive Origin where
  /-- It is made without entries. -/
  | new
  /-- It is the one that stands for no environment in particular. -/
  | default
  /-- It is collected from a list of entries. -/
  | ofList (pairs : List (String × String))

/-- The environment to begin with. -/
def Origin.environment : Origin → Environment
  | new => empty
  | default => Inhabited.default
  | ofList pairs => Environment.ofList pairs

/-- The entries that an environment begins with, reserved names and repetitions included. -/
def Origin.pairs : Origin → List (String × String)
  | new | default => []
  | ofList pairs => pairs

/-- Add entries one after another; gives the answer to each of them. -/
def insertAll : List (String × String) → StateM Environment (List Bool)
  | [] => pure []
  | e :: rest => do
    let accepted ← fun env => env.insert e.1 e.2
    let others ← insertAll rest
    pure (accepted :: others)

/-! ## One addition -/

variable {env : Environment}

/-- Environments with the same values are equal. -/
theorem ext_get? {env' : Environment} (h : ∀ n, env.get? n = env'.get? n) : env = env' := by
  obtain ⟨table⟩ := env
  obtain ⟨table'⟩ := env'
  obtain rfl : table = table' := NameMap.ext_get? h
  rfl

/-- An insertion says whether it was carried out. -/
theorem insert_accepted (env : Environment) (name value : String) :
    (env.insert name value).1 = !isReserved name := by
  unfold insert
  cases isReserved name with
  | true => rfl
  | false => rfl

/-- An addition counts under its own name, unless the name is reserved. -/
theorem get?_insert_eq (env : Environment) (name value n : String) :
    (env.insert name value).2.get? n =
      if n = name ∧ isReserved name = false then some value else env.get? n := by
  cases hname : isReserved name with
  | true =>
    rw [insert_of_reserved hname]
    simp
  | false =>
    rw [get?_insert hname]
    simp

/-! ## Histories -/

/-- Every addition is answered by whether its name is free, and what is there in the end does not
depend on the answers. -/
theorem insertAll_apply (added : List (String × String)) (env : Environment) :
    insertAll added env =
      (added.map fun e => !isReserved e.1, added.foldl (fun env e => (env.insert e.1 e.2).2) env) := by
  induction added generalizing env with
  | nil => rfl
  | cons e rest ih =>
    have hrun : insertAll (e :: rest) env =
        ((env.insert e.1 e.2).1 :: (insertAll rest (env.insert e.1 e.2).2).1,
          (insertAll rest (env.insert e.1 e.2).2).2) := rfl
    rw [hrun, ih, insert_accepted]
    rfl

/-- A history of additions is one collection: of what came at the beginning and what was added. -/
theorem insertAll_origin (origin : Origin) (added : List (String × String)) :
    (insertAll added origin.environment).2 = ofList (origin.pairs ++ added) := by
  have hbegin : origin.environment = ofList origin.pairs := by
    cases origin with
    | new => rfl
    | default => rfl
    | ofList pairs => rfl
  rw [insertAll_apply, hbegin]
  unfold ofList
  rw [List.foldl_append]

/-- Additions keep, for each free name, the last value that is given for it. -/
theorem get?_foldl_insert (added : List (String × String)) (env : Environment) (n : String) :
    (added.foldl (fun env e => (env.insert e.1 e.2).2) env).get? n =
      if isReserved n then env.get? n else (NameMap.lastUnder n added).or (env.get? n) := by
  induction added generalizing env with
  | nil => exact (ite_self _).symm
  | cons e rest ih =>
    rw [List.foldl_cons, ih, get?_insert_eq, NameMap.lastUnder, Option.or_assoc]
    by_cases hn : n = e.1
    · -- the addition is for the very name that is looked up
      subst hn
      cases hreserved : isReserved e.1 with
      | true => simp
      | false => simp
    · simp [hn]

/-- Of a list of entries an environment keeps, for each free name, the last value that is given for
it, and nothing else. -/
theorem get?_ofList (pairs : List (String × String)) (n : String) :
    (ofList pairs).get? n = if isReserved n then none else NameMap.lastUnder n pairs := by
  have hempty : (empty : Environment).get? n = none := rfl
  unfold ofList
  rw [get?_foldl_insert, hempty, Option.or_none]

/-! ## Views -/

/-- The views of an environment tell the same. -/
structure Coherent (env : Environment) : Prop where
  /-- There is an entry under a name if a value is found under it. -/
  contains : ∀ n, env.contains n = (env.get? n).isSome
  /-- The names are those under which a value is found. -/
  names : ∀ n, n ∈ env.names ↔ (env.get? n).isSome = true
  /-- The entries are the names with the values found under them. -/
  entries : ∀ n value, (n, value) ∈ env.toList ↔ env.get? n = some value
  /-- Names and entries come in the same order. -/
  order : env.names = env.toList.map (·.1)
  /-- The size counts the entries. -/
  size : env.size = env.toList.length
  /-- Nothing is found in an environment without entries, and only there. -/
  isEmpty : env.isEmpty = true ↔ env.size = 0

theorem coherent (env : Environment) : env.Coherent where
  contains _ := rfl
  names _ := env.table.mem_names_iff
  entries _ _ := env.table.mem_entries_iff
  order := rfl
  size := rfl
  isEmpty := by
    show env.table.entries.isEmpty = true ↔ env.table.entries.length = 0
    rw [List.isEmpty_iff, List.length_eq_zero_iff]

/-- An environment without reserved names is collected again from its own entries. -/
theorem ofList_toList (h : env.Unreserved) : ofList env.toList = env := by
  refine ext_get? fun n => ?_
  have hlast : NameMap.lastUnder n env.toList = env.get? n := NameMap.lastUnder_entries env.table n
  rw [get?_ofList, hlast]
  -- what a collection would drop is not there in the first place
  cases hreserved : isReserved n with
  | true => exact (h n hreserved).symm
  | false => rfl

theorem Unreserved.not_isReserved (h : env.Unreserved) {n : String} (hn : n ∈ env.names) :
    isReserved n = false := by
  have hthere : (env.get? n).isSome = true := (env.coherent.names n).1 hn
  rw [Bool.eq_false_iff]
  intro hreserved
  rw [h n hreserved] at hthere
  exact Bool.false_ne_true hthere

/-- Whatever an environment begins with and whatever is added to it, it is the collection of all the
entries that were given, in order. Its names ascend strictly by their code points, and none of them
is reserved. An addition is refused exactly if its name is reserved, and changes nothing then;
otherwise its value is found under its name and all others stay. A collection has, for each free
name, the last value that is given for it, and nothing else. All views of the environment tell the
same, it is collected again from its own entries, and it is told from other environments by the
values it has. -/
theorem reserved_names_stay_out (origin : Origin) (added : List (String × String)) :
    let accepted := (insertAll added origin.environment).1
    let env := (insertAll added origin.environment).2
    accepted = added.map (fun e => !isReserved e.1) ∧
    env = ofList (origin.pairs ++ added) ∧
    (env.names.Pairwise fun a b => Text.codePoints a < Text.codePoints b) ∧
    (∀ n ∈ env.names, isReserved n = false) ∧
    (∀ name value,
      ((env.insert name value).1 = false ↔ isReserved name = true) ∧
      (isReserved name = true → (env.insert name value).2 = env) ∧
      (isReserved name = false → ∀ n,
        (env.insert name value).2.get? n = if n = name then some value else env.get? n)) ∧
    (∀ pairs n, (ofList pairs).get? n =
      if isReserved n then none else NameMap.lastUnder n pairs) ∧
    env.Coherent ∧
    ofList env.toList = env ∧
    ∀ (origin' : Origin) (added' : List (String × String)),
      let env' := (insertAll added' origin'.environment).2
      env = env' ↔ ∀ n, env.get? n = env'.get? n := by
  intro accepted env
  have hcollected : env = ofList (origin.pairs ++ added) := insertAll_origin origin added
  have hfree : env.Unreserved := by
    rw [hcollected]
    exact unreserved_ofList _
  refine ⟨?_, hcollected, ?_, ?_, ?_, get?_ofList, env.coherent, ofList_toList hfree, ?_⟩
  · exact congrArg Prod.fst (insertAll_apply added origin.environment)
  · apply env.table.names_ascending.imp
    intro a b hlt
    exact (Text.codePoints_lt_iff a b).2 hlt
  · intro n hn
    exact hfree.not_isReserved hn
  · intro name value
    refine ⟨?_, ?_, ?_⟩
    · rw [insert_accepted, Bool.not_eq_false']
    · intro hreserved
      rw [insert_of_reserved hreserved]
    · intro hname n
      exact get?_insert hname env value n
  · intro origin' added' env'
    constructor
    · intro heq n
      rw [heq]
    · exact ext_get?

end Environment

end Locator
