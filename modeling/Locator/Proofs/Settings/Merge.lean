import Locator.Proofs.Settings.Decode

/-!
# Laws of merging

What is found in a tree that was laid over another one.

* `Tree.merge_of_not_map`: what is no map replaces everything below it;
* `Tree.valueAt_mergeEntries`: under each name the upper entry counts, laid over the lower one if
  there is one, and else the lower entry;
* `Tree.ofList_mergeEntries_written`: a map that is written out over another one is read back, as
  long as what it covers is covered completely.
-/

namespace Locator

namespace NameMap

variable {α : Type}

/-- Where no name occurs twice, the first entry under a name is the last one. -/
theorem lastUnder_eq_valueAt_of_nodup {l : List (String × α)} (h : (l.map (·.1)).Nodup)
    (n : String) : lastUnder n l = valueAt n l := by
  induction l with
  | nil => rfl
  | cons e r ih =>
    have hr := List.nodup_cons.1 h
    rw [lastUnder, ih hr.2, valueAt]
    by_cases hn : n = e.1
    · have hnone : valueAt n r = none := by
        rw [← ih hr.2, ← Option.not_isSome_iff_eq_none, isSome_lastUnder_iff, hn]
        exact hr.1
      rw [if_pos hn, if_pos hn, hnone, Option.none_or]
    · rw [if_neg hn, if_neg hn, Option.or_none]

/-- A name has no value exactly if it is not among the names. -/
theorem valueAt_eq_none_iff {l : List (String × α)} {n : String} :
    valueAt n l = none ↔ n ∉ l.map (·.1) := by
  induction l with
  | nil => simp [valueAt]
  | cons e r ih =>
    rw [valueAt, List.map_cons, List.mem_cons, not_or]
    by_cases hn : n = e.1
    · simp [hn]
    · simp [hn, ih]

end NameMap

namespace Tree

/-! ## Entries of one map -/

/-- An entry that is set has its value, and the others keep theirs. -/
theorem valueAt_setEntry (name : String) (value : Tree) (l : List (String × Tree)) (n : String) :
    NameMap.valueAt n (setEntry name value l) =
      if n = name then some value else NameMap.valueAt n l := by
  induction l with
  | nil => rfl
  | cons e r ih =>
    rw [setEntry]
    by_cases hname : name = e.1
    · rw [if_pos hname, NameMap.valueAt, NameMap.valueAt, hname]
      by_cases hn : n = e.1
      · rw [if_pos hn, if_pos hn]
      · rw [if_neg hn, if_neg hn, if_neg hn]
    · rw [if_neg hname, NameMap.valueAt, NameMap.valueAt, ih]
      by_cases hn : n = e.1
      · rw [if_pos hn, if_pos hn, if_neg (hn ▸ Ne.symm hname)]
      · rw [if_neg hn, if_neg hn]

/-- A name that is there keeps its place, another one is put at the end. -/
theorem names_setEntry (name : String) (value : Tree) (l : List (String × Tree)) :
    (setEntry name value l).map (·.1) =
      if name ∈ l.map (·.1) then l.map (·.1) else l.map (·.1) ++ [name] := by
  induction l with
  | nil => rfl
  | cons e r ih =>
    rw [setEntry]
    by_cases hname : name = e.1
    · rw [if_pos hname, hname]
      simp
    · rw [if_neg hname, List.map_cons, ih]
      by_cases hr : name ∈ r.map (·.1)
      · simp only [hr, List.map_cons, List.mem_cons, or_true, if_true]
      · simp only [hr, hname, List.map_cons, List.mem_cons, or_self, if_false, List.cons_append]

/-- Setting an entry does not write a name twice. -/
theorem nodup_setEntry (name : String) (value : Tree) {l : List (String × Tree)}
    (h : (l.map (·.1)).Nodup) : ((setEntry name value l).map (·.1)).Nodup := by
  rw [names_setEntry]
  by_cases hname : name ∈ l.map (·.1)
  · rwa [if_pos hname]
  · rw [if_neg hname]
    exact List.nodup_append_comm.1 (List.nodup_cons.2 ⟨hname, h⟩)

/-! ## Trees over trees -/

/-- What lies over a tree, or stands where there is none. -/
def laidOn (below? : Option Tree) (t : Tree) : Tree :=
  match below? with
  | some below => below.merge t
  | none => t

/-- What is no map replaces everything below it. -/
theorem merge_of_not_map (lower : Tree) {upper : Tree} (h : upper.summary ≠ .map) :
    lower.merge upper = upper := by
  cases upper with
  | map entries => exact absurd rfl h
  | _ =>
    rw [merge]
    intro entries heq
    cases heq

@[simp] theorem merge_text (lower : Tree) (s : String) : lower.merge (.text s) = .text s :=
  merge_of_not_map lower Summary.noConfusion

@[simp] theorem merge_list (lower : Tree) (items : List Tree) :
    lower.merge (.list items) = .list items :=
  merge_of_not_map lower Summary.noConfusion

@[simp] theorem merge_optionText (lower : Tree) (s? : Option String) :
    lower.merge (optionText s?) = optionText s? := by
  cases s? with
  | none => exact merge_of_not_map lower Summary.noConfusion
  | some s => exact merge_text lower s

@[simp] theorem merge_map_map (lower upper : List (String × Tree)) :
    (Tree.map lower).merge (.map upper) = .map (mergeEntries lower upper) := by
  rw [merge]

@[simp] theorem mergeEntries_nil (lower : List (String × Tree)) : mergeEntries lower [] = lower := by
  rw [mergeEntries]

/-- A merge goes through the upper entries in turn. -/
theorem mergeEntries_cons (lower upper : List (String × Tree)) (name : String) (value : Tree) :
    mergeEntries lower ((name, value) :: upper) =
      mergeEntries (setEntry name (laidOn (NameMap.valueAt name lower) value) lower) upper := by
  rw [mergeEntries]
  cases NameMap.valueAt name lower <;> rfl

/-- The map without entries says nothing. -/
theorem merge_empty (entries : List (String × Tree)) :
    (Tree.map entries).merge .empty = .map entries := by
  rw [Tree.empty, merge_map_map, mergeEntries_nil]

theorem nodup_mergeEntries {lower : List (String × Tree)} (upper : List (String × Tree))
    (h : (lower.map (·.1)).Nodup) : ((mergeEntries lower upper).map (·.1)).Nodup := by
  induction upper generalizing lower with
  | nil => rwa [mergeEntries_nil]
  | cons e r ih =>
    rw [mergeEntries_cons]
    exact ih (nodup_setEntry _ _ h)

/-- Under each name the upper entry counts, laid over the lower one. -/
theorem valueAt_mergeEntries (lower : List (String × Tree)) {upper : List (String × Tree)}
    (h : (upper.map (·.1)).Nodup) (n : String) :
    NameMap.valueAt n (mergeEntries lower upper) =
      ((NameMap.valueAt n upper).map (laidOn (NameMap.valueAt n lower))).or
        (NameMap.valueAt n lower) := by
  induction upper generalizing lower with
  | nil => rw [mergeEntries_nil, NameMap.valueAt, Option.map_none, Option.none_or]
  | cons e r ih =>
    have hr := List.nodup_cons.1 h
    rw [mergeEntries_cons, ih _ hr.2, valueAt_setEntry, NameMap.valueAt]
    by_cases hn : n = e.1
    · -- no later entry has the name of this one
      have hlater : NameMap.valueAt n r = none := NameMap.valueAt_eq_none_iff.2 (hn ▸ hr.1)
      rw [hlater, if_pos hn, if_pos hn, hn]
      rfl
    · rw [if_neg hn, if_neg hn]

/-- A map that is written out in some order over other entries is read back if it has a value under
each name below, and each of its values covers what is below it. -/
theorem ofList_mergeEntries_written {α : Type} {m : NameMap α} {write : α → Tree}
    {lower : List (String × Tree)} {listed : List (String × α)}
    (hlower : (lower.map (·.1)).Nodup) (hlisted : listed.Perm m.entries)
    (hcover : ∀ n below, NameMap.valueAt n lower = some below →
      ∃ x, m.get? n = some x ∧ below.merge (write x) = write x) :
    NameMap.ofList (mergeEntries lower (listed.map fun e => (e.1, write e.2))) =
      m.mapValues fun _ => write := by
  let upper : List (String × Tree) := listed.map fun e => (e.1, write e.2)
  have hupper : (upper.map (·.1)).Nodup := by
    have hnames : upper.map (·.1) = listed.map (·.1) := by
      simp only [upper, List.map_map, Function.comp_def]
    rw [hnames]
    exact (hlisted.map _).nodup_iff.2 m.nodup_names
  have hvalue : ∀ n, NameMap.valueAt n upper = (m.get? n).map write := by
    intro n
    rw [← NameMap.lastUnder_eq_valueAt_of_nodup hupper, ← NameMap.get?_ofList,
      NameMap.ofList_map_snd, NameMap.ofList_of_perm hlisted, NameMap.get?_mapValues]
  refine NameMap.ext_get? fun n => ?_
  rw [NameMap.get?_ofList, NameMap.lastUnder_eq_valueAt_of_nodup (nodup_mergeEntries upper hlower),
    valueAt_mergeEntries lower hupper, hvalue, NameMap.get?_mapValues]
  cases hbelow : NameMap.valueAt n lower with
  | none =>
    rw [Option.or_none, Option.map_map]
    rfl
  | some below =>
    obtain ⟨x, hx, hcovered⟩ := hcover n below hbelow
    rw [hx]
    simp only [Option.map_some, Option.some_or, laidOn, hcovered]

end Tree

end Locator
