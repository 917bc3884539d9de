import Locator.Proofs.Settings.Merge
import Locator.Yaml.Value

/-!
# Paths through maps

A value of settings is found by the names of the maps around it. A variable says one value at the
end of such a path; laid over other settings, it changes what stands there and nothing that stands
elsewhere.

* `Tree.under?`: the value at the end of a path through maps;
* `Tree.Tidy`, `HostSettings.tidy_toTree`, `Yaml.tidy_of_settings?`: no map has a name twice, which
  holds of all that is written and of every document;
* `Tree.Leads`: maps stand all along a path, though maybe nothing at its end;
* `Tree.Leads.under?_merge_nested`, `Tree.under?_merge_nested_of_ne`: what is found at the end of a
  path when a value was laid there, or at the end of another path.
-/

namespace Locator

namespace Tree

/-! ## Following a path -/

/-- The value at the end of a path of names through maps. -/
def under? (t : Tree) : List String → Option Tree
  | [] => some t
  | name :: rest =>
    match t with
    | .map entries => (NameMap.valueAt name entries).bind (·.under? rest)
    | _ => none

@[simp] theorem under?_nil (t : Tree) : t.under? [] = some t := rfl

@[simp] theorem under?_cons (entries : List (String × Tree)) (name : String) (rest : List String) :
    (Tree.map entries).under? (name :: rest) =
      (NameMap.valueAt name entries).bind (·.under? rest) := rfl

theorem under?_singleton (entries : List (String × Tree)) (name : String) :
    (Tree.map entries).under? [name] = NameMap.valueAt name entries :=
  Option.bind_fun_some _

/-- A path in two parts is followed one part after the other. -/
theorem under?_append (t : Tree) (first rest : List String) :
    t.under? (first ++ rest) = (t.under? first).bind (·.under? rest) := by
  induction first generalizing t with
  | nil => rfl
  | cons name first ih =>
    cases t with
    | map es =>
      rw [List.cons_append, under?_cons, under?_cons, Option.bind_assoc]
      exact congrArg _ (funext fun v => ih v)
    | _ => rfl

/-- What is found under a longer path is found in a map. -/
theorem exists_of_under?_cons {t u : Tree} {name : String} {rest : List String}
    (h : t.under? (name :: rest) = some u) :
    ∃ es v, t = .map es ∧ NameMap.valueAt name es = some v ∧ v.under? rest = some u := by
  cases t with
  | map es =>
    obtain ⟨v, hv, hrest⟩ := Option.bind_eq_some_iff.1 h
    exact ⟨es, v, rfl, hv, hrest⟩
  | _ => cases h

/-! ## Trees without repeated names -/

/-- No map that is reached through maps has a name twice. -/
def Tidy (t : Tree) : Prop :=
  ∀ path es, t.under? path = some (.map es) → (es.map (·.1)).Nodup

variable {t u lower upper : Tree} {es : List (String × Tree)} {name : String} {path : List String}

theorem Tidy.nodup (h : (Tree.map es).Tidy) : (es.map (·.1)).Nodup := h [] es rfl

theorem Tidy.of_valueAt (h : (Tree.map es).Tidy) (hu : NameMap.valueAt name es = some u) :
    u.Tidy := by
  intro path es' hpath
  refine h (name :: path) es' ?_
  rw [under?_cons, hu]
  exact hpath

/-- A map is tidy if no name comes twice and its values are tidy. -/
theorem tidy_map (hnames : (es.map (·.1)).Nodup)
    (hvalues : ∀ name u, NameMap.valueAt name es = some u → u.Tidy) : (Tree.map es).Tidy := by
  intro path es' hpath
  cases path with
  | nil =>
    cases hpath
    exact hnames
  | cons name rest =>
    rw [under?_cons] at hpath
    obtain ⟨u, hu, hrest⟩ := Option.bind_eq_some_iff.1 hpath
    exact hvalues name u hu rest es' hrest

/-- A tidy map stays tidy when a tidy value is set in it. -/
theorem Tidy.setEntry {u : Tree} (h : (Tree.map es).Tidy) (hu : u.Tidy) (name : String) :
    (Tree.map (setEntry name u es)).Tidy := by
  refine tidy_map (nodup_setEntry _ _ h.nodup) fun n v hv => ?_
  rw [valueAt_setEntry] at hv
  by_cases hn : n = name
  · rw [if_pos hn] at hv
    cases hv
    exact hu
  · rw [if_neg hn] at hv
    exact h.of_valueAt hv

/-- A map of entries, of which the last under a name counts, has no name twice. -/
theorem tidy_ofEntries {l : List (String × Tree)} (h : ∀ e ∈ l, e.2.Tidy) :
    (ofEntries l).Tidy := by
  have hfold : ∀ es, (Tree.map es).Tidy →
      (Tree.map (l.foldl (fun es e => Tree.setEntry e.1 e.2 es) es)).Tidy := by
    induction l with
    | nil => exact fun es hes => hes
    | cons e rest ih =>
      intro es hes
      exact ih (fun e' he' => h e' (List.mem_cons_of_mem _ he')) _
        (hes.setEntry (h e List.mem_cons_self) e.1)
  exact hfold [] (tidy_map List.nodup_nil fun name u hu => by cases hu)

theorem tidy_of_not_map (h : t.summary ≠ .map) : t.Tidy := by
  intro path es hpath
  cases path with
  | nil =>
    cases hpath
    exact absurd rfl h
  | cons name rest =>
    obtain ⟨es', -, rfl, -⟩ := exists_of_under?_cons hpath
    exact absurd rfl h

/-! ## One tree over another -/

/-- One map over another is the map of both; in all other cases the upper tree counts alone. -/
theorem merge_cases (lower upper : Tree) :
    lower.merge upper = upper ∨
      ∃ ls us, lower = .map ls ∧ upper = .map us ∧
        lower.merge upper = .map (mergeEntries ls us) := by
  cases upper with
  | map us =>
    cases lower with
    | map ls => exact .inr ⟨ls, us, rfl, rfl, merge_map_map ls us⟩
    | _ => exact .inl rfl
  | _ => exact .inl (merge_of_not_map lower Summary.noConfusion)

/-- What is found in a map over another was in one of them, or was laid over what was there. -/
theorem valueAt_mergeEntries_cases {ls us : List (String × Tree)} (hupper : (us.map (·.1)).Nodup)
    (h : NameMap.valueAt name (mergeEntries ls us) = some t) :
    NameMap.valueAt name ls = some t ∨ NameMap.valueAt name us = some t ∨
      ∃ below above, NameMap.valueAt name ls = some below ∧
        NameMap.valueAt name us = some above ∧ t = below.merge above := by
  rw [valueAt_mergeEntries ls hupper] at h
  cases habove : NameMap.valueAt name us with
  | none =>
    rw [habove] at h
    exact .inl h
  | some above =>
    rw [habove, Option.map_some, Option.some_or] at h
    cases hbelow : NameMap.valueAt name ls with
    | none =>
      rw [hbelow] at h
      exact .inr (.inl h)
    | some below =>
      rw [hbelow] at h
      exact .inr (.inr ⟨below, above, rfl, rfl, (Option.some.inj h).symm⟩)

/-- Laying one tree over another repeats no name. -/
theorem Tidy.merge (hlower : lower.Tidy) (hupper : upper.Tidy) : (lower.merge upper).Tidy := by
  intro path
  -- along the path, since what stands under a name may be one tree laid over another again
  induction path generalizing lower upper with
  | nil =>
    intro es hes
    obtain heq | ⟨ls, us, rfl, rfl, heq⟩ := merge_cases lower upper
    · rw [heq] at hes
      exact hupper [] es hes
    · rw [heq] at hes
      cases hes
      exact nodup_mergeEntries us hlower.nodup
  | cons name rest ih =>
    intro es hes
    obtain heq | ⟨ls, us, rfl, rfl, heq⟩ := merge_cases lower upper
    · rw [heq] at hes
      exact hupper (name :: rest) es hes
    · rw [heq, under?_cons] at hes
      obtain ⟨v, hv, hrest⟩ := Option.bind_eq_some_iff.1 hes
      obtain hbelow | habove | ⟨below, above, hbelow, habove, rfl⟩ :=
        valueAt_mergeEntries_cases hupper.nodup hv
      · exact hlower.of_valueAt hbelow rest es hrest
      · exact hupper.of_valueAt habove rest es hrest
      · exact ih (hlower.of_valueAt hbelow) (hupper.of_valueAt habove) es hrest

/-- What the upper tree has something at, the tree of both has something at. -/
theorem isSome_under?_merge (hupper : upper.Tidy) (h : (upper.under? path).isSome = true) :
    ((lower.merge upper).under? path).isSome = true := by
  induction path generalizing lower upper with
  | nil => rfl
  | cons name rest ih =>
    obtain heq | ⟨ls, us, rfl, rfl, heq⟩ := merge_cases lower upper
    · rw [heq]
      exact h
    · rw [under?_cons, Option.isSome_bind, Option.any_eq_true] at h
      obtain ⟨above, habove, hrest⟩ := h
      rw [heq, under?_cons, valueAt_mergeEntries ls hupper.nodup, habove, Option.map_some,
        Option.some_or, Option.bind_some]
      cases NameMap.valueAt name ls with
      | none => exact hrest
      | some below => exact ih (hupper.of_valueAt habove) hrest

/-! ## A value at the end of a path -/

/-- Maps without repeated names stand all along the path. At its end there may be nothing. -/
inductive Leads : List String → Tree → Prop where
  /-- There is nothing on the way. -/
  | nil (t : Tree) : Leads [] t
  /-- The last map, with or without the name. -/
  | last (name : String) {es : List (String × Tree)} (names : (es.map (·.1)).Nodup) :
      Leads [name] (.map es)
  /-- A map with the name, and what stands under it. -/
  | cons {name : String} {rest : List String} {es : List (String × Tree)} {u : Tree}
      (names : (es.map (·.1)).Nodup) (value : NameMap.valueAt name es = some u)
      (inner : Leads rest u) : Leads (name :: rest) (.map es)

/-- In a tidy tree a path leads wherever something is found under it. -/
theorem Tidy.leads (h : t.Tidy) (hpath : (t.under? path).isSome = true) : Leads path t := by
  induction path generalizing t with
  | nil => exact .nil t
  | cons name rest ih =>
    obtain ⟨u, hu⟩ := Option.isSome_iff_exists.1 hpath
    obtain ⟨es, v, rfl, hv, hrest⟩ := exists_of_under?_cons hu
    exact .cons h.nodup hv (ih (h.of_valueAt hv) (Option.isSome_of_eq_some hrest))

/-- A path that leads on leads through a map. -/
theorem Leads.exists_of_cons {rest : List String} (h : Leads (name :: rest) t) :
    ∃ es, t = .map es ∧ (es.map (·.1)).Nodup ∧
      (rest = [] ∨ ∃ u, NameMap.valueAt name es = some u ∧ Leads rest u) := by
  cases h with
  | last _ names => exact ⟨_, rfl, names, .inl rfl⟩
  | cons names value inner => exact ⟨_, rfl, names, .inr ⟨_, value, inner⟩⟩

/-- A path in two parts leads to a tree, and on from there. -/
theorem Leads.split {first rest : List String} (h : Leads (first ++ name :: rest) t) :
    Leads first t ∧ ∃ u, t.under? first = some u ∧ Leads (name :: rest) u := by
  induction first generalizing t with
  | nil => exact ⟨.nil t, t, rfl, h⟩
  | cons step first ih =>
    obtain ⟨es, rfl, hnames, hend | ⟨u, hu, hinner⟩⟩ := h.exists_of_cons
    · exact absurd hend (List.append_ne_nil_of_right_ne_nil _ (List.cons_ne_nil _ _))
    · obtain ⟨hfirst, v, hv, hrest⟩ := ih hinner
      refine ⟨.cons hnames hu hfirst, v, ?_, hrest⟩
      rw [under?_cons, hu]
      exact hv

/-- A path can be nested in two parts. -/
theorem nested_append (first rest : List String) (t : Tree) :
    nested (first ++ rest) t = nested first (nested rest t) :=
  List.foldr_append

/-- A value at the end of a path is laid on what stands under the first name. -/
theorem merge_nested_cons (es : List (String × Tree)) (name : String) (rest : List String)
    (t : Tree) :
    (Tree.map es).merge (nested (name :: rest) t) =
      .map (setEntry name (laidOn (NameMap.valueAt name es) (nested rest t)) es) := by
  show (Tree.map es).merge (.map [(name, nested rest t)]) = _
  rw [merge_map_map, mergeEntries_cons, mergeEntries_nil]

/-- What is found under a name when a value was laid at the end of a path. -/
theorem valueAt_setEntry_nested {es : List (String × Tree)} {rest : List String}
    (hu : NameMap.valueAt name es = some u) (step : String) :
    NameMap.valueAt name (setEntry step (laidOn (NameMap.valueAt step es) (nested rest t)) es) =
      some (if name = step then u.merge (nested rest t) else u) := by
  rw [valueAt_setEntry]
  by_cases hname : name = step
  · rw [if_pos hname, if_pos hname, ← hname, hu]
    rfl
  · rw [if_neg hname, if_neg hname, hu]

/-- A path leads on when a value was laid at its end, or at the end of another path that is as
long. -/
theorem Leads.merge_nested (h : Leads path t) {path' : List String}
    (hlength : path.length ≤ path'.length) (w : Tree) : Leads path (t.merge (nested path' w)) := by
  induction h generalizing path' with
  | nil => exact .nil _
  | last name names =>
    obtain ⟨step, rest', rfl⟩ := List.exists_cons_of_length_pos hlength
    rw [merge_nested_cons]
    exact .last name (nodup_setEntry _ _ names)
  | @cons name rest es u names value inner ih =>
    obtain ⟨step, rest', rfl⟩ := List.exists_cons_of_length_pos (Nat.zero_lt_of_lt hlength)
    rw [merge_nested_cons]
    refine .cons (nodup_setEntry _ _ names) (valueAt_setEntry_nested value step) ?_
    by_cases hname : name = step
    · rw [if_pos hname]
      exact ih (Nat.le_of_succ_le_succ hlength)
    · rw [if_neg hname]
      exact inner

/-- At the end of the path stands the value, laid on what stood there. -/
theorem Leads.under?_merge_nested (h : Leads path t) (w : Tree) :
    (t.merge (nested path w)).under? path = some (laidOn (t.under? path) w) := by
  induction h with
  | nil => rfl
  | @last name es names =>
    rw [merge_nested_cons, under?_cons, valueAt_setEntry, if_pos rfl, Option.bind_some, under?_nil,
      under?_cons]
    cases NameMap.valueAt name es <;> rfl
  | @cons name rest es u names value inner ih =>
    rw [merge_nested_cons, under?_cons, valueAt_setEntry_nested value, if_pos rfl, Option.bind_some,
      ih, under?_cons, value, Option.bind_some]

/-- At the end of another path that is no longer, a value laid somewhere changes nothing, except
that it may put a map there. -/
theorem under?_merge_nested_of_ne {path' : List String} (h : t.under? path = some u)
    (hlength : path.length ≤ path'.length) (hne : path ≠ path') (w : Tree) :
    ∃ u', (t.merge (nested path' w)).under? path = some u' ∧ (u' = u ∨ u'.summary = .map) := by
  induction path generalizing t path' with
  | nil =>
    obtain ⟨step, rest', rfl⟩ := List.exists_cons_of_ne_nil hne.symm
    refine ⟨_, rfl, .inr ?_⟩
    obtain heq | ⟨ls, us, -, -, heq⟩ := merge_cases t (nested (step :: rest') w)
    · rw [heq]
      rfl
    · rw [heq]
      rfl
  | cons name rest ih =>
    obtain ⟨step, rest', rfl⟩ := List.exists_cons_of_length_pos (Nat.zero_lt_of_lt hlength)
    obtain ⟨es, v, rfl, hv, hrest⟩ := exists_of_under?_cons h
    rw [merge_nested_cons, under?_cons, valueAt_setEntry_nested hv, Option.bind_some]
    by_cases hname : name = step
    · rw [if_pos hname]
      refine ih hrest (Nat.le_of_succ_le_succ hlength) fun heq => hne ?_
      rw [hname, heq]
    · rw [if_neg hname]
      exact ⟨u, hrest, .inl rfl⟩

end Tree

/-! ## Written settings -/

namespace Tree

@[simp] theorem tidy_text (s : String) : (Tree.text s).Tidy := tidy_of_not_map Summary.noConfusion

@[simp] theorem tidy_list (items : List Tree) : (Tree.list items).Tidy :=
  tidy_of_not_map Summary.noConfusion

@[simp] theorem tidy_optionText (s? : Option String) : (optionText s?).Tidy := by
  cases s? with
  | none => exact tidy_of_not_map Summary.noConfusion
  | some s => exact tidy_text s

theorem tidy_of_mem {es : List (String × Tree)} (hnames : (es.map (·.1)).Nodup)
    (hvalues : ∀ e ∈ es, e.2.Tidy) : (Tree.map es).Tidy :=
  tidy_map hnames fun name u hu => hvalues (name, u) (NameMap.mem_of_valueAt hu)

/-- A map that is written out has each name once. -/
theorem tidy_entries {α : Type} {write : α → Tree} (h : ∀ x, (write x).Tidy) (m : NameMap α) :
    (Tree.map (m.entries.map fun e => (e.1, write e.2))).Tidy := by
  refine tidy_of_mem ?_ ?_
  · rw [List.map_map]
    exact m.nodup_names
  · intro e he
    obtain ⟨e', -, rfl⟩ := List.mem_map.1 he
    exact h e'.2

end Tree

theorem Section.tidy_toTree (s : Section) : s.toTree.Tidy :=
  Tree.tidy_of_mem (by simp) (by simp)

theorem StaticSettings.tidy_toTree (s : StaticSettings) : s.toTree.Tidy :=
  Tree.tidy_of_mem (by simp) (by simp)

theorem DirectorySettings.tidy_toTree (d : DirectorySettings) : d.toTree.Tidy :=
  Tree.tidy_of_mem (by simp) (by simp [d.static.tidy_toTree])

/-- No map in written settings has a name twice. -/
theorem HostSettings.tidy_toTree (s : HostSettings) : s.toTree.Tidy := by
  have hlogging : (Logging.toTree s.logging).Tidy := Tree.tidy_entries Section.tidy_toTree s.logging
  have hparameters : s.parameters.toTree.Tidy := Tree.tidy_entries Tree.tidy_text s.parameters.table
  exact Tree.tidy_of_mem (by simp) (by simp [hlogging, hparameters, s.directory.tidy_toTree])

/-! ## Documents -/

namespace Yaml

/-- A plain word is never read as a map. -/
theorem not_map_of_whole? {cs : List Char} {t : Tree} (h : whole? cs = some t) :
    t.summary ≠ .map := by
  unfold whole? at h
  split at h
  · cases h
  · split at h
    all_goals
      obtain ⟨n, -, hn⟩ := Option.bind_eq_some_iff.1 h
      split at hn
      · cases hn
        exact Summary.noConfusion
      · cases hn

theorem not_map_plainValue (s : String) : (plainValue s).summary ≠ .map := by
  unfold plainValue
  split
  · exact Summary.noConfusion
  · split
    · exact Summary.noConfusion
    · cases hwhole : whole? s.toList with
      | some t =>
        exact not_map_of_whole? hwhole
      | none =>
        cases float? s.toList with
        | some d => exact Summary.noConfusion
        | none => exact Summary.noConfusion

theorem not_map_of_taggedValue? {tag s : String} {t : Tree} (h : taggedValue? tag s = some t) :
    t.summary ≠ .map := by
  unfold taggedValue? at h
  split at h
  · obtain ⟨b, -, rfl⟩ := Option.map_eq_some_iff.1 h
    exact Summary.noConfusion
  · split at h
    · exact not_map_of_whole? h
    · split at h
      · obtain ⟨d, -, rfl⟩ := Option.map_eq_some_iff.1 h
        exact Summary.noConfusion
      · split at h
        · split at h
          · cases h
            exact Summary.noConfusion
          · cases h
        · split at h
          · cases h
          · cases h
            exact Summary.noConfusion

namespace Node

mutual

/-- The value of a node repeats no name. -/
theorem tidy_of_settingsAt? (depth : Nat) (n : Node) {t : Tree} (h : n.settingsAt? depth = some t) :
    t.Tidy := by
  cases n with
  | scalar tag? isPlain text =>
    refine Tree.tidy_of_not_map ?_
    unfold settingsAt? at h
    cases tag? with
    | some tag => exact not_map_of_taggedValue? h
    | none =>
      cases isPlain with
      | true =>
        cases h
        exact not_map_plainValue text
      | false =>
        cases h
        exact Summary.noConfusion
  | list tag? items =>
    refine Tree.tidy_of_not_map ?_
    unfold settingsAt? at h
    cases depth with
    | zero => cases h
    | succ depth =>
      simp only at h
      split at h
      · cases h
      · obtain ⟨ts, -, rfl⟩ := Option.map_eq_some_iff.1 h
        exact Summary.noConfusion
  | map tag? entries =>
    unfold settingsAt? at h
    cases depth with
    | zero => cases h
    | succ depth =>
      simp only at h
      split at h
      · cases h
      · obtain ⟨l, hl, rfl⟩ := Option.map_eq_some_iff.1 h
        exact Tree.tidy_ofEntries (tidy_of_settingsEntries? depth entries hl)

/-- The entries of a settings file are tidy. -/
theorem tidy_of_settingsEntries? (depth : Nat) (entries : List (Node × Node))
    {l : List (String × Tree)} (h : settingsEntries? depth entries = some l) :
    ∀ e ∈ l, e.2.Tidy := by
  cases entries with
  | nil =>
    cases h
    simp
  | cons entry rest =>
    obtain ⟨key, value⟩ := entry
    obtain ⟨first, hfirst, h⟩ := Option.bind_eq_some_iff.1 h
    obtain ⟨others, hothers, h⟩ := Option.bind_eq_some_iff.1 h
    cases h
    intro e he
    rcases List.mem_cons.1 he with rfl | he
    · obtain ⟨name, -, hnamed⟩ := Option.bind_eq_some_iff.1 hfirst
      obtain ⟨t, ht, hpair⟩ := Option.bind_eq_some_iff.1 hnamed
      cases hpair
      exact tidy_of_settingsAt? depth value ht
    · exact tidy_of_settingsEntries? depth rest hothers e he

end

end Node

/-- No map in a document has a name twice, since of a repeated name the last entry counts. -/
theorem tidy_of_settings? {s : String} {t : Tree} (h : settings? s = some t) : t.Tidy := by
  obtain ⟨n, -, hn⟩ := Option.bind_eq_some_iff.1 h
  unfold Node.settings? at hn
  split at hn
  · cases hn
    exact Tree.tidy_ofEntries (l := []) (by simp)
  · exact Node.tidy_of_settingsAt? _ _ hn
  · cases hn

end Yaml

end Locator
