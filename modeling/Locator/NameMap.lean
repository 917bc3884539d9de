/-!
# Maps keyed by name

A `NameMap` is a finite map from names to values, kept as a list of entries whose names ascend
strictly in code point order. So `entries` is the one listing of the map, and two maps with the same
look-ups are equal (`NameMap.ext_get?`).

* `get?` is the view; `get?_empty`, `get?_insert`, `get?_erase`, `get?_mapValues` say what each
  operation does to it.
* `names_ascending`: the names are listed in strictly ascending order; `names_eq_of_contains`: they
  are told by `contains` alone.
* `mem_entries_iff`: the entries are the pairs that `get?` finds.
* `lastUnder`, `get?_ofList`: the map of a list holds the last entry under each name.
-/

namespace Locator

/-- A finite map from names to values, listed in ascending order of the names. -/
structure NameMap (α : Type) where
  /-- The entries in ascending order of their names. -/
  entries : List (String × α)
  /-- Names ascend strictly. -/
  ascending : entries.Pairwise fun a b => a.1 < b.1

namespace NameMap

variable {α β : Type}

/-! ## Ascending lists of entries -/

/-- Put an entry in its place, replacing the one under the same name. -/
def putEntry (name : String) (value : α) : List (String × α) → List (String × α)
  | [] => [(name, value)]
  | e :: r =>
    if name < e.1 then (name, value) :: e :: r
    else if name = e.1 then (name, value) :: r
    else e :: putEntry name value r

/-- What is in a list after an entry is put there was there before, or is the entry. -/
theorem mem_putEntry {name : String} {value : α} {x : String × α} {l : List (String × α)}
    (h : x ∈ putEntry name value l) : x = (name, value) ∨ x ∈ l := by
  induction l with
  | nil => simp [putEntry] at h; exact .inl h
  | cons e r ih =>
    simp only [putEntry] at h
    split at h
    · simpa using h
    · split at h
      · rcases List.mem_cons.1 h with h | h
        · exact .inl h
        · exact .inr (List.mem_cons_of_mem _ h)
      · rcases List.mem_cons.1 h with h | h
        · exact .inr (h ▸ List.mem_cons_self)
        · rcases ih h with h | h
          · exact .inl h
          · exact .inr (List.mem_cons_of_mem _ h)

/-- A name that is neither below nor equal to another lies above it. -/
theorem lt_of_not_lt_of_ne {a b : String} (h : ¬ a < b) (hne : a ≠ b) : b < a :=
  Std.lt_of_le_of_ne (String.not_lt.1 h) (Ne.symm hne)

/-- Putting an entry keeps the names in strictly ascending order. -/
theorem putEntry_ascending (name : String) (value : α) {l : List (String × α)}
    (h : l.Pairwise fun a b => a.1 < b.1) :
    (putEntry name value l).Pairwise fun a b => a.1 < b.1 := by
  induction l with
  | nil => simp [putEntry]
  | cons e r ih =>
    have hr := List.pairwise_cons.1 h
    simp only [putEntry]
    split
    · rename_i hlt
      refine List.pairwise_cons.2 ⟨fun x hx => ?_, h⟩
      rcases List.mem_cons.1 hx with rfl | hx
      · exact hlt
      · exact String.lt_trans hlt (hr.1 x hx)
    · split
      · rename_i heq
        exact List.pairwise_cons.2 ⟨fun x hx => heq ▸ hr.1 x hx, hr.2⟩
      · rename_i hlt hne
        refine List.pairwise_cons.2 ⟨fun x hx => ?_, ih hr.2⟩
        rcases mem_putEntry hx with rfl | hx
        · exact lt_of_not_lt_of_ne hlt hne
        · exact hr.1 x hx

/-- The value of the first entry under a name. -/
def valueAt (name : String) : List (String × α) → Option α
  | [] => none
  | e :: r => if name = e.1 then some e.2 else valueAt name r

/-- After an entry is put, its name has its value, and all other names keep theirs. -/
theorem valueAt_putEntry (name : String) (value : α) (l : List (String × α)) (n : String) :
    valueAt n (putEntry name value l) = if n = name then some value else valueAt n l := by
  induction l with
  | nil => rfl
  | cons e r ih =>
    simp only [putEntry]
    split
    · rfl
    · split
      · rename_i heq
        simp only [valueAt]
        split
        · rfl
        · rename_i hn
          rw [if_neg (heq ▸ hn)]
      · rename_i hne
        simp only [valueAt, ih]
        by_cases hn : n = e.1
        · rw [if_pos hn, if_neg (hn ▸ Ne.symm hne), if_pos hn]
        · rw [if_neg hn, if_neg hn]

/-! ## Operations -/

/-- The map without entries. -/
def empty : NameMap α := ⟨[], .nil⟩

instance : EmptyCollection (NameMap α) := ⟨empty⟩
instance : Inhabited (NameMap α) := ⟨empty⟩

/-- The value under a name. -/
def get? (m : NameMap α) (name : String) : Option α := valueAt name m.entries

/-- Something is held under a name. -/
def contains (m : NameMap α) (name : String) : Bool := (m.get? name).isSome

/-- The names, in ascending order. -/
def names (m : NameMap α) : List String := m.entries.map (·.1)

/-- The number of entries. -/
def size (m : NameMap α) : Nat := m.entries.length

/-- There are no entries. -/
def isEmpty (m : NameMap α) : Bool := m.entries.isEmpty

/-- Put a value under a name, replacing the one that is there. -/
def insert (m : NameMap α) (name : String) (value : α) : NameMap α :=
  ⟨putEntry name value m.entries, putEntry_ascending name value m.ascending⟩

/-- Put a value under a name unless one is there already. -/
def insertNew (m : NameMap α) (name : String) (value : α) : NameMap α :=
  if m.contains name then m else m.insert name value

/-- Remove what is under a name. -/
def erase (m : NameMap α) (name : String) : NameMap α :=
  ⟨m.entries.filter (·.1 ≠ name), m.ascending.filter _⟩

/-- Replace each value by a function of name and value. -/
def mapValues (f : String → α → β) (m : NameMap α) : NameMap β :=
  ⟨m.entries.map fun e => (e.1, f e.1 e.2), List.pairwise_map.2 m.ascending⟩

/-- The map of a list of entries, of which the last under a name counts. -/
def ofList (l : List (String × α)) : NameMap α := l.foldl (fun m e => m.insert e.1 e.2) empty

/-! ## The view of each operation -/

@[simp] theorem get?_empty (n : String) : (empty : NameMap α).get? n = none := rfl

/-- After a value is inserted its name has it, and all other names keep theirs. -/
theorem get?_insert (m : NameMap α) (name : String) (value : α) (n : String) :
    (m.insert name value).get? n = if n = name then some value else m.get? n :=
  valueAt_putEntry name value m.entries n

/-- Keeping entries by their names keeps what is held under those names. -/
theorem valueAt_filter (keep : String → Bool) (l : List (String × α)) (n : String) :
    valueAt n (l.filter fun e => keep e.1) = if keep n then valueAt n l else none := by
  induction l with
  | nil => exact (ite_self none).symm
  | cons e r ih =>
    cases he : keep e.1 with
    | false =>
      rw [List.filter_cons_of_neg (by simp [he]), ih, valueAt]
      by_cases hn : n = e.1
      · rw [hn, he, if_neg Bool.false_ne_true, if_neg Bool.false_ne_true]
      · rw [if_neg hn]
    | true =>
      rw [List.filter_cons_of_pos (by simp [he]), valueAt, valueAt, ih]
      by_cases hn : n = e.1
      · rw [if_pos hn, if_pos hn, hn, he, if_pos rfl]
      · rw [if_neg hn, if_neg hn]

/-- After a name is erased it has no value, and all other names keep theirs. -/
theorem get?_erase (m : NameMap α) (name n : String) :
    (m.erase name).get? n = if n = name then none else m.get? n := by
  have hkept : (m.erase name).get? n = if decide (n ≠ name) then m.get? n else none :=
    valueAt_filter (fun x => decide (x ≠ name)) m.entries n
  rw [hkept]
  by_cases hn : n = name
  · rw [if_pos hn, if_neg (by simp [hn])]
  · rw [if_neg hn, if_pos (by simp [hn])]

/-- A function on the values is applied to the value under each name. -/
theorem get?_mapValues (f : String → α → β) (m : NameMap α) (n : String) :
    (m.mapValues f).get? n = (m.get? n).map (f n) := by
  simp only [get?, mapValues]
  induction m.entries with
  | nil => rfl
  | cons e r ih =>
    simp only [List.map_cons, valueAt, ih]
    by_cases hn : n = e.1
    · rw [if_pos hn, if_pos hn, Option.map_some, hn]
    · rw [if_neg hn, if_neg hn]

/-- A value that is found under a name stands in the list with it. -/
theorem mem_of_valueAt {l : List (String × α)} {n : String} {v : α} (h : valueAt n l = some v) :
    (n, v) ∈ l := by
  induction l with
  | nil => simp [valueAt] at h
  | cons e r ih =>
    simp only [valueAt] at h
    split at h
    · rename_i hn
      cases h
      exact hn ▸ List.mem_cons_self
    · exact List.mem_cons_of_mem _ (ih h)

/-- In a list of ascending names every value is found under its name. -/
theorem valueAt_of_mem {l : List (String × α)} (h : l.Pairwise fun a b => a.1 < b.1) {n : String}
    {v : α} (hm : (n, v) ∈ l) : valueAt n l = some v := by
  induction l with
  | nil => simp at hm
  | cons e r ih =>
    have hr := List.pairwise_cons.1 h
    rcases List.mem_cons.1 hm with rfl | hm
    · simp [valueAt]
    · have hne : n ≠ e.1 := fun hn => String.lt_irrefl n (by
        have := hr.1 _ hm
        rwa [← hn] at this)
      rw [valueAt, if_neg hne, ih hr.2 hm]

/-- The entries are the pairs that `get?` finds. -/
theorem mem_entries_iff (m : NameMap α) {n : String} {v : α} :
    (n, v) ∈ m.entries ↔ m.get? n = some v :=
  ⟨valueAt_of_mem m.ascending, mem_of_valueAt⟩

/-- The names of a map are those that it has values for. -/
theorem mem_names_iff (m : NameMap α) {n : String} : n ∈ m.names ↔ m.contains n = true := by
  simp only [names, List.mem_map, contains, Option.isSome_iff_exists, ← mem_entries_iff]
  exact ⟨fun ⟨e, he, hn⟩ => ⟨e.2, hn ▸ he⟩, fun ⟨v, hv⟩ => ⟨(n, v), hv, rfl⟩⟩

/-- The names are listed in strictly ascending order. -/
theorem names_ascending (m : NameMap α) : m.names.Pairwise (· < ·) :=
  List.pairwise_map.2 m.ascending

/-- No name is listed twice. -/
theorem nodup_names (m : NameMap α) : m.names.Nodup := by
  refine m.names_ascending.imp fun hlt heq => ?_
  rw [heq] at hlt
  exact String.lt_irrefl _ hlt

/-- A map is its list of entries. -/
theorem ext {m₁ m₂ : NameMap α} (h : m₁.entries = m₂.entries) : m₁ = m₂ := by
  cases m₁; cases m₂; simp only [mk.injEq]; exact h

/-- Nothing is held under a name below all names of a list. -/
theorem valueAt_of_forall_lt {l : List (String × α)} {n : String} (h : ∀ e ∈ l, n < e.1) :
    valueAt n l = none := by
  cases hv : valueAt n l with
  | none => rfl
  | some v => exact absurd (h _ (mem_of_valueAt hv)) (String.lt_irrefl n)

/-- Ascending lists of entries with the same look-ups are equal. -/
theorem entries_eq_of_valueAt {l₁ l₂ : List (String × α)}
    (h₁ : l₁.Pairwise fun a b => a.1 < b.1) (h₂ : l₂.Pairwise fun a b => a.1 < b.1)
    (h : ∀ n, valueAt n l₁ = valueAt n l₂) : l₁ = l₂ := by
  induction l₁ generalizing l₂ with
  | nil =>
    cases l₂ with
    | nil => rfl
    | cons e r => have := h e.1; simp [valueAt] at this
  | cons e r ih =>
    cases l₂ with
    | nil => have := h e.1; simp [valueAt] at this
    | cons e' r' =>
      have p := List.pairwise_cons.1 h₁
      have p' := List.pairwise_cons.1 h₂
      have hmem : (e.1, e.2) ∈ e' :: r' := mem_of_valueAt (by rw [← h]; simp [valueAt])
      have hmem' : (e'.1, e'.2) ∈ e :: r := mem_of_valueAt (by rw [h]; simp [valueAt])
      have hfirst : e = e' := by
        rcases List.mem_cons.1 hmem with he | he
        · exact he
        · rcases List.mem_cons.1 hmem' with he' | he'
          · exact he'.symm
          · exact absurd (p'.1 _ he) (String.lt_asymm (p.1 _ he'))
      subst hfirst
      refine congrArg _ (ih p.2 p'.2 fun n => ?_)
      by_cases hn : n = e.1
      · rw [hn, valueAt_of_forall_lt p.1, valueAt_of_forall_lt p'.1]
      · have := h n
        rwa [valueAt, valueAt, if_neg hn, if_neg hn] at this

/-- Maps with the same look-ups are equal. -/
theorem ext_get? {m₁ m₂ : NameMap α} (h : ∀ n, m₁.get? n = m₂.get? n) : m₁ = m₂ :=
  ext (entries_eq_of_valueAt m₁.ascending m₂.ascending h)

/-- A function on the values leaves the names as they are. -/
theorem names_mapValues (f : String → α → β) (m : NameMap α) : (m.mapValues f).names = m.names := by
  unfold names mapValues
  rw [List.map_map]
  rfl

/-- Maps that hold something under the same names list the same names. -/
theorem names_eq_of_contains {m₁ : NameMap α} {m₂ : NameMap β}
    (h : ∀ n, m₁.contains n = m₂.contains n) : m₁.names = m₂.names := by
  have hsame : m₁.mapValues (fun _ _ => ()) = m₂.mapValues fun _ _ => () := by
    refine ext_get? fun n => ?_
    have hn := h n
    unfold contains at hn
    rw [get?_mapValues, get?_mapValues]
    cases h₁ : m₁.get? n with
    | none =>
      rw [h₁] at hn
      rw [Option.not_isSome_iff_eq_none.1 (Bool.eq_false_iff.1 hn.symm)]
      rfl
    | some v =>
      rw [h₁] at hn
      obtain ⟨w, hw⟩ := Option.isSome_iff_exists.1 hn.symm
      rw [hw]
      rfl
  rw [← names_mapValues (fun _ _ => ()) m₁, hsame, names_mapValues]

theorem length_names (m : NameMap α) : m.names.length = m.size := List.length_map _

/-! ## Lists in which the last entry counts -/

/-- The value of the last entry under a name. -/
def lastUnder (name : String) : List (String × α) → Option α
  | [] => none
  | e :: r => (lastUnder name r).or (if name = e.1 then some e.2 else none)

/-- The only entry of a list is found under its name. -/
theorem lastUnder_singleton (name : String) (value : α) (n : String) :
    lastUnder n [(name, value)] = if n = name then some value else none := Option.none_or

/-- Of two lists, one after the other, the second one counts first. -/
theorem lastUnder_append (n : String) (l₁ l₂ : List (String × α)) :
    lastUnder n (l₁ ++ l₂) = (lastUnder n l₂).or (lastUnder n l₁) := by
  induction l₁ with
  | nil => exact Option.or_none.symm
  | cons e r ih => rw [List.cons_append, lastUnder, lastUnder, ih, Option.or_assoc]

/-- Something is found under the names that are in the list. -/
theorem isSome_lastUnder_iff {l : List (String × α)} {n : String} :
    (lastUnder n l).isSome = true ↔ n ∈ l.map (·.1) := by
  induction l with
  | nil => simp [lastUnder]
  | cons e r ih =>
    rw [lastUnder, Option.isSome_or, Bool.or_eq_true, ih, List.map_cons, List.mem_cons, or_comm]
    by_cases hn : n = e.1
    · simp [hn]
    · simp [hn]

/-- Where no name occurs twice, every entry is the last one under its name. -/
theorem lastUnder_of_nodup {l : List (String × α)} (h : (l.map (·.1)).Nodup) {e : String × α}
    (he : e ∈ l) : lastUnder e.1 l = some e.2 := by
  induction l with
  | nil => cases he
  | cons first r ih =>
    have hr := List.nodup_cons.1 h
    rw [lastUnder]
    obtain rfl | hlater := List.mem_cons.1 he
    · have hnone : lastUnder e.1 r = none := by
        rw [← Option.not_isSome_iff_eq_none, isSome_lastUnder_iff]
        exact hr.1
      rw [hnone, Option.none_or, if_pos rfl]
    · rw [ih hr.2 hlater, Option.some_or]

/-- Of entries that are inserted one after another the last one under a name counts, and all of them
come before what was in the map. -/
theorem get?_foldl_insert (l : List (String × α)) (m : NameMap α) (n : String) :
    (l.foldl (fun m e => m.insert e.1 e.2) m).get? n = (lastUnder n l).or (m.get? n) := by
  induction l generalizing m with
  | nil => rfl
  | cons e r ih =>
    rw [List.foldl_cons, ih, lastUnder, get?_insert, Option.or_assoc]
    by_cases hn : n = e.1
    · rw [if_pos hn, if_pos hn, Option.some_or]
    · rw [if_neg hn, if_neg hn, Option.none_or]

/-- The map of a list finds the last entry under each name. -/
theorem get?_ofList (l : List (String × α)) (n : String) : (ofList l).get? n = lastUnder n l := by
  rw [ofList, get?_foldl_insert, get?_empty, Option.or_none]

/-- In an ascending list the last entry under a name is the only one. -/
theorem lastUnder_eq_valueAt {l : List (String × α)} (h : l.Pairwise fun a b => a.1 < b.1)
    (n : String) : lastUnder n l = valueAt n l := by
  induction l with
  | nil => rfl
  | cons e r ih =>
    have hr := List.pairwise_cons.1 h
    rw [lastUnder, ih hr.2, valueAt]
    by_cases hn : n = e.1
    · rw [if_pos hn, if_pos hn, hn, valueAt_of_forall_lt hr.1, Option.none_or]
    · rw [if_neg hn, if_neg hn, Option.or_none]

/-- In the entries of a map each name stands once, so the last one is the only one. -/
theorem lastUnder_entries (m : NameMap α) (n : String) : lastUnder n m.entries = m.get? n :=
  lastUnder_eq_valueAt m.ascending n

/-- The last entry of a list of names with what a function has for them is what the function has, as
long as the name is listed. -/
theorem lastUnder_filterMap (value : String → Option α) (names : List String) (n : String) :
    lastUnder n (names.filterMap fun name => (value name).map (name, ·)) =
      if n ∈ names then value n else none := by
  induction names with
  | nil => rfl
  | cons name r ih =>
    cases hv : value name with
    | none =>
      rw [List.filterMap_cons_none (by rw [hv]; rfl), ih]
      by_cases hn : n = name
      · rw [hn, hv, ite_self, ite_self]
      · simp only [List.mem_cons, hn, false_or]
    | some v =>
      rw [List.filterMap_cons_some (b := (name, v)) (by rw [hv]; rfl), lastUnder, ih]
      by_cases hn : n = name
      · subst hn
        rw [if_pos rfl, if_pos List.mem_cons_self, hv]
        split <;> rfl
      · simp only [List.mem_cons, hn, false_or, if_false, Option.or_none]

instance [DecidableEq α] : DecidableEq (NameMap α) := fun m₁ m₂ =>
  decidable_of_iff (m₁.entries = m₂.entries) ⟨ext, fun h => h ▸ rfl⟩

end NameMap

end Locator
