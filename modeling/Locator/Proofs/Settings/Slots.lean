import Mathlib.Data.List.Forall2
import Locator.Proofs.Settings.Closed
import Locator.Proofs.Settings.Paths

/-!
# One value laid over settings

A value at the end of a path changes one place of what is read, as long as it is of the right shape
there. `Slot` says so of a decoder and a path: what stands at the end of the path is what the place
holds, and a value that is laid there goes into the place.

* `Decoder.map_eq_ok_iff`, `Decoder.slot_map`: the names of a map;
* `FieldOf`, `FieldOf.slot`: the fields of a record;
* `Slot.trans`: a place within a place.
-/

namespace Locator

variable {α β γ : Type}

/-- A place in what a decoder reads: it is found at the end of a path, has a decoder of its own, and
can be looked at and filled. -/
structure Slot (dialect : Dialect) (d : Decoder α) (path : List String) (inner : Decoder γ)
    (get : α → γ) (put : γ → α → α) : Prop where
  /-- What was filled in is there. -/
  get_put : ∀ y x, get (put y x) = y
  /-- What stands at the end of the path is what the place holds. -/
  reads : ∀ {t u : Tree} {x : α}, d dialect t = .ok x → t.Leads path → t.under? path = some u →
    inner dialect u = .ok (get x) ∧ put (get x) x = x
  /-- A value that is laid at the end of the path goes into the place. -/
  writes : ∀ {t w : Tree} {x : α} {y : γ}, d dialect t = .ok x → t.Leads path →
    inner dialect (Tree.laidOn (t.under? path) w) = .ok y →
    d dialect (t.merge (Tree.nested path w)) = .ok (put y x)

/-- A place within a place. -/
theorem Slot.trans {dialect : Dialect} {d : Decoder α} {middle : Decoder β} {inner : Decoder γ}
    {first rest : List String} {name : String} {get : α → β} {put : β → α → α} {get' : β → γ}
    {put' : γ → β → β} (h : Slot dialect d first middle get put)
    (h' : Slot dialect middle (name :: rest) inner get' put') :
    Slot dialect d (first ++ name :: rest) inner (fun x => get' (get x))
      (fun y x => put (put' y (get x)) x) where
  get_put y x := by rw [h.get_put, h'.get_put]
  reads := by
    intro t u x hd hleads hu
    obtain ⟨hfirst, v, hv, hrest⟩ := hleads.split
    rw [Tree.under?_append, hv, Option.bind_some] at hu
    obtain ⟨hmiddle, hsame⟩ := h.reads hd hfirst hv
    obtain ⟨hinner, hsame'⟩ := h'.reads hmiddle hrest hu
    refine ⟨hinner, ?_⟩
    rw [hsame', hsame]
  writes := by
    intro t w x y hd hleads hinner
    obtain ⟨hfirst, v, hv, hrest⟩ := hleads.split
    rw [Tree.under?_append, hv, Option.bind_some] at hinner
    have hmiddle : middle dialect (v.merge (Tree.nested (name :: rest) w)) =
        .ok (put' y (get x)) := h'.writes (h.reads hd hfirst hv).1 hrest hinner
    rw [Tree.nested_append]
    refine h.writes hd hfirst ?_
    rw [hv]
    exact hmiddle

/-! ## Entries with one more value -/

namespace NameMap

/-- One more value makes one more entry of the map, or another value of an entry. -/
theorem ofList_setEntry {es : List (String × Tree)} (hnames : (es.map (·.1)).Nodup) (name : String)
    (t : Tree) : ofList (Tree.setEntry name t es) = (ofList es).insert name t := by
  refine ext_get? fun n => ?_
  rw [get?_insert, get?_ofList, get?_ofList,
    lastUnder_eq_valueAt_of_nodup (Tree.nodup_setEntry name t hnames),
    lastUnder_eq_valueAt_of_nodup hnames, Tree.valueAt_setEntry]

/-- Where no name comes twice, the map has the value that stands in the list. -/
theorem get?_ofList_of_nodup {es : List (String × α)} (hnames : (es.map (·.1)).Nodup)
    (name : String) : (ofList es).get? name = valueAt name es := by
  rw [get?_ofList, lastUnder_eq_valueAt_of_nodup hnames]

/-- A new entry stands between two parts of a list, with at most the old one left out. -/
theorem exists_putEntry (name : String) (x : α) (l : List (String × α)) :
    ∃ before after, putEntry name x l = before ++ (name, x) :: after ∧
      (l = before ++ after ∨ ∃ old, l = before ++ (name, old) :: after) := by
  induction l with
  | nil => exact ⟨[], [], rfl, .inl rfl⟩
  | cons e rest ih =>
    rw [putEntry]
    split
    · exact ⟨[], e :: rest, rfl, .inl rfl⟩
    · split
      · rename_i heq
        exact ⟨[], rest, rfl, .inr ⟨e.2, by rw [heq]; rfl⟩⟩
      · obtain ⟨before, after, hput, hl⟩ := ih
        refine ⟨e :: before, after, by rw [hput]; rfl, ?_⟩
        rcases hl with rfl | ⟨old, rfl⟩
        · exact .inl rfl
        · exact .inr ⟨old, rfl⟩

/-- The entries of a map around the entry of one name, whatever is put there. No other entry has the
name. -/
theorem exists_entries_insert (m : NameMap α) (name : String) (x : α) :
    ∃ before after, (m.insert name x).entries = before ++ (name, x) :: after ∧
      (m.entries = before ++ after ∨ ∃ old, m.entries = before ++ (name, old) :: after) ∧
      ∀ e ∈ before ++ after, e.1 ≠ name := by
  obtain ⟨before, after, hput, hentries⟩ := exists_putEntry name x m.entries
  have hsorted : (m.insert name x).entries = before ++ (name, x) :: after := hput
  refine ⟨before, after, hsorted, hentries, ?_⟩
  -- the names ascend, so none stands twice
  have hnodup : ((before ++ (name, x) :: after).map (·.1)).Nodup := by
    rw [← hsorted]
    exact nodup_names (m.insert name x)
  have hperm : ((before ++ (name, x) :: after).map (·.1)).Perm
      (name :: (before ++ after).map (·.1)) :=
    (List.perm_middle (a := (name, x))).map _
  intro e he hname
  exact (List.nodup_cons.1 (hperm.nodup_iff.1 hnodup)).1 (hname ▸ List.mem_map_of_mem he)

end NameMap

/-! ## Maps -/

namespace Decoder

variable {d : Decoder α} {dialect : Dialect}

/-- Entries that are read have the names of what they are read from, and the values read. -/
theorem lastUnder_of_entries {es : List (String × Tree)} {l : List (String × α)}
    (h : d.entries dialect es = .ok l) (n : String) :
    (NameMap.lastUnder n es).map (d dialect) = (NameMap.lastUnder n l).map .ok := by
  induction es generalizing l with
  | nil =>
    cases h
    rfl
  | cons e rest ih =>
    obtain ⟨x, hfirst, h⟩ := exists_of_bind_eq_ok h
    obtain ⟨others, hrest, h⟩ := exists_of_bind_eq_ok h
    cases h
    have hx : d dialect e.2 = .ok x := eq_ok_of_mapError_eq_ok hfirst
    rw [NameMap.lastUnder, NameMap.lastUnder, Option.map_or, Option.map_or, ih hrest]
    by_cases hn : n = e.1
    · rw [if_pos hn, if_pos hn, Option.map_some, hx, Option.map_some]
    · rw [if_neg hn, if_neg hn, Option.map_none, Option.map_none]

/-- Entries are read if each of their values is. -/
theorem exists_entries {es : List (String × Tree)} (h : ∀ e ∈ es, ∃ x, d dialect e.2 = .ok x) :
    ∃ l, d.entries dialect es = .ok l := by
  induction es with
  | nil => exact ⟨[], rfl⟩
  | cons e rest ih =>
    obtain ⟨x, hx⟩ := h e List.mem_cons_self
    obtain ⟨others, hothers⟩ := ih fun e' he' => h e' (List.mem_cons_of_mem _ he')
    have hfirst : d.underName dialect e.1 e.2 = .ok x := by
      rw [underName, hx]
      rfl
    refine ⟨(e.1, x) :: others, ?_⟩
    rw [entries, hfirst, hothers]
    rfl

/-- A map is read name by name. -/
theorem map_eq_ok_iff {es : List (String × Tree)} {m : NameMap α} :
    d.map dialect (.map es) = .ok m ↔
      ∀ n, ((NameMap.ofList es).get? n).map (d dialect) = (m.get? n).map .ok := by
  have hnamed : ∀ l, d.entries dialect (NameMap.ofList es).entries = .ok l → ∀ n,
      ((NameMap.ofList es).get? n).map (d dialect) = ((NameMap.ofList l).get? n).map .ok := by
    intro l hl n
    rw [← NameMap.lastUnder_entries, NameMap.get?_ofList l]
    exact lastUnder_of_entries hl n
  constructor
  · intro h
    obtain ⟨l, hl, rfl⟩ := exists_of_map_eq_ok h
    exact hnamed l hl
  · intro h
    have hvalues : ∀ e ∈ (NameMap.ofList es).entries, ∃ x, d dialect e.2 = .ok x := by
      intro e he
      have hn := h e.1
      rw [(NameMap.mem_entries_iff _).1 he, Option.map_some] at hn
      obtain ⟨x, -, hx⟩ := Option.map_eq_some_iff.1 hn.symm
      exact ⟨x, hx.symm⟩
    obtain ⟨l, hl⟩ := exists_entries hvalues
    have hsame : NameMap.ofList l = m := by
      refine NameMap.ext_get? fun n => ?_
      have hn := (hnamed l hl n).symm.trans (h n)
      exact Option.map_injective (fun _ _ => Except.ok.inj) hn
    have hread : d.map dialect (.map es) =
        NameMap.ofList <$> d.entries dialect (NameMap.ofList es).entries := rfl
    rw [hread, hl, ← hsame]
    rfl

/-- Under each name of a map there is a place. Where nothing stands there, it holds a given value.
-/
theorem slot_map (d : Decoder α) (dialect : Dialect) (name : String) (start : α) :
    Slot dialect d.map [name] d (fun m => (m.get? name).getD start)
      (fun x m => m.insert name x) where
  get_put x m := by rw [NameMap.get?_insert, if_pos rfl, Option.getD_some]
  reads := by
    intro t u m hd hleads hu
    obtain ⟨es, rfl, hnames, -⟩ := hleads.exists_of_cons
    rw [Tree.under?_singleton] at hu
    have hname := map_eq_ok_iff.1 hd name
    rw [NameMap.get?_ofList_of_nodup hnames, hu, Option.map_some] at hname
    obtain ⟨x, hx, hread⟩ := Option.map_eq_some_iff.1 hname.symm
    rw [hx, Option.getD_some]
    refine ⟨hread.symm, NameMap.ext_get? fun n => ?_⟩
    rw [NameMap.get?_insert]
    by_cases hn : n = name
    · rw [if_pos hn, hn, hx]
    · rw [if_neg hn]
  writes := by
    intro t w m x hd hleads hinner
    obtain ⟨es, rfl, hnames, -⟩ := hleads.exists_of_cons
    rw [Tree.under?_singleton] at hinner
    rw [Tree.merge_nested_cons, map_eq_ok_iff]
    intro n
    rw [NameMap.ofList_setEntry hnames, NameMap.get?_insert, NameMap.get?_insert]
    by_cases hn : n = name
    · rw [if_pos hn, if_pos hn, Option.map_some, Option.map_some]
      exact congrArg some hinner
    · rw [if_neg hn, if_neg hn]
      exact map_eq_ok_iff.1 hd n

end Decoder

/-! ## Records -/

/-- Reading a field leaves a place in the record alone: the place holds what it held, and another
value in it makes no difference to what is read. -/
def Field.LeavesAlone (field : Field α) (get : α → γ) (put : γ → α → α) : Prop :=
  ∀ dialect t x x', field.read dialect t x = .ok x' →
    get x' = get x ∧ ∀ y, field.read dialect t (put y x) = .ok (put y x')

/-- A field that is put elsewhere leaves a place alone. -/
theorem Field.leavesAlone_of {name : String} {d : Decoder β} {fill : β → α → α} {get : α → γ}
    {put : γ → α → α} (hget : ∀ z x, get (fill z x) = get x)
    (hput : ∀ z y x, fill z (put y x) = put y (fill z x)) :
    (Field.of name d fill).LeavesAlone get put := by
  intro dialect t x _ hread
  obtain ⟨z, hz, rfl⟩ := exists_of_map_eq_ok hread
  refine ⟨hget z x, fun y => ?_⟩
  simp only [Field.of, hz]
  exact congrArg Except.ok (hput z y x)

/-- A field of a record that is read into itself: the field can be looked at and filled, and reading
any other field leaves it alone. -/
structure FieldOf (f : RecordFormat α α) (name : String) (d : Decoder γ) (get : α → γ)
    (put : γ → α → α) : Prop where
  /-- It is the field of the name. -/
  field : f.field? name = some (.of name d put)
  /-- What was filled in is there. -/
  get_put : ∀ y x, get (put y x) = y
  /-- Filling in what is there changes nothing. -/
  put_get : ∀ x, put (get x) x = x
  /-- What is filled in last counts. -/
  put_put : ∀ y y' x, put y (put y' x) = put y x
  /-- Reading any other field leaves it alone. -/
  others : ∀ field ∈ f.fields, field.name ≠ name → field.LeavesAlone get put
  /-- There is nothing that has to be filled in. -/
  finish : ∀ x, f.finish x = .ok x

namespace FieldOf

variable {f : RecordFormat α α} {name : String} {d : Decoder γ} {get : α → γ} {put : γ → α → α}
  {dialect : Dialect} {es : List (String × Tree)} {t : Tree} {x x' : α} {y : γ}

/-- A record takes the value that the field's decoder reads. -/
theorem readEntry (h : FieldOf f name d get put) (hd : d dialect t = .ok y) (x : α) :
    f.readEntry dialect x (name, t) = .ok (put y x) :=
  RecordFormat.takes_of h.field hd x

/-- An entry of the name puts a value into the field. -/
theorem exists_of_readEntry (h : FieldOf f name d get put)
    (hread : f.readEntry dialect x (name, t) = .ok x') :
    ∃ y, d dialect t = .ok y ∧ put y x = x' := by
  unfold RecordFormat.readEntry at hread
  simp only [h.field] at hread
  exact exists_of_map_eq_ok (eq_ok_of_mapError_eq_ok hread)

/-- Reading an entry of another name leaves the field alone. -/
theorem readEntry_of_ne (h : FieldOf f name d get put) {e : String × Tree} (hne : e.1 ≠ name)
    (hread : f.readEntry dialect x e = .ok x') :
    get x' = get x ∧ ∀ y, f.readEntry dialect (put y x) e = .ok (put y x') := by
  unfold RecordFormat.readEntry at hread ⊢
  cases hfield : f.field? e.1 with
  | none =>
    rw [hfield] at hread
    cases hread
  | some field =>
    simp only [hfield] at hread ⊢
    have hname : field.name = e.1 := by simpa using List.find?_some hfield
    obtain ⟨hget, hput⟩ := h.others field (List.mem_of_find?_eq_some hfield) (hname ▸ hne)
      dialect e.2 x x' (eq_ok_of_mapError_eq_ok hread)
    refine ⟨hget, fun y => ?_⟩
    rw [hput y]
    rfl

/-- Reading entries of other names leaves the field alone. -/
theorem foldlM_of_ne (h : FieldOf f name d get put) (hne : ∀ e ∈ es, e.1 ≠ name)
    (hread : es.foldlM (f.readEntry dialect) x = .ok x') :
    get x' = get x ∧ ∀ y, es.foldlM (f.readEntry dialect) (put y x) = .ok (put y x') := by
  induction es generalizing x with
  | nil =>
    cases hread
    exact ⟨rfl, fun y => rfl⟩
  | cons e rest ih =>
    rw [List.foldlM_cons] at hread
    obtain ⟨next, hfirst, hrest⟩ := exists_of_bind_eq_ok hread
    obtain ⟨hget, hput⟩ := h.readEntry_of_ne (hne e List.mem_cons_self) hfirst
    obtain ⟨hgets, hputs⟩ := ih (fun e' he' => hne e' (List.mem_cons_of_mem _ he')) hrest
    refine ⟨hgets.trans hget, fun y => ?_⟩
    rw [List.foldlM_cons, hput y]
    exact hputs y

variable {m : NameMap Tree} {start : α}

/-- The value under the name is what the field holds at the end. -/
theorem get_of_foldlM (h : FieldOf f name d get put)
    (hread : m.entries.foldlM (f.readEntry dialect) start = .ok x) (ht : m.get? name = some t) :
    d dialect t = .ok (get x) := by
  have hsame : m.insert name t = m := by
    refine NameMap.ext_get? fun n => ?_
    rw [NameMap.get?_insert]
    by_cases hn : n = name
    · rw [if_pos hn, hn, ht]
    · rw [if_neg hn]
  obtain ⟨before, after, hentries, -, hne⟩ := m.exists_entries_insert name t
  rw [hsame] at hentries
  rw [hentries, List.foldlM_append] at hread
  obtain ⟨x₁, -, hread⟩ := exists_of_bind_eq_ok hread
  rw [List.foldlM_cons] at hread
  obtain ⟨x₂, hentry, hafter⟩ := exists_of_bind_eq_ok hread
  obtain ⟨y, hy, rfl⟩ := h.exists_of_readEntry hentry
  -- what comes after the entry does not touch the field
  rw [(h.foldlM_of_ne (fun e he => hne e (List.mem_append_right _ he)) hafter).1, h.get_put]
  exact hy

/-- With another value under the name, the field holds that value at the end, and all else is as it
was. -/
theorem foldlM_insert (h : FieldOf f name d get put)
    (hread : m.entries.foldlM (f.readEntry dialect) start = .ok x) (hd : d dialect t = .ok y) :
    (m.insert name t).entries.foldlM (f.readEntry dialect) start = .ok (put y x) := by
  obtain ⟨before, after, hnew, hold, hne⟩ := m.exists_entries_insert name t
  have hother : ∀ e ∈ after, e.1 ≠ name := fun e he => hne e (List.mem_append_right _ he)
  have hgoes : ∀ x₁, before.foldlM (f.readEntry dialect) start = .ok x₁ →
      after.foldlM (f.readEntry dialect) (put y x₁) = .ok (put y x) →
      (before ++ (name, t) :: after).foldlM (f.readEntry dialect) start = .ok (put y x) := by
    intro x₁ hbefore hafter
    rw [List.foldlM_append, hbefore]
    show ((name, t) :: after).foldlM (f.readEntry dialect) x₁ = _
    rw [List.foldlM_cons, h.readEntry hd]
    exact hafter
  rw [hnew]
  rcases hold with hold | ⟨old, hold⟩
  · rw [hold, List.foldlM_append] at hread
    obtain ⟨x₁, hbefore, hafter⟩ := exists_of_bind_eq_ok hread
    exact hgoes x₁ hbefore ((h.foldlM_of_ne hother hafter).2 y)
  · rw [hold, List.foldlM_append] at hread
    obtain ⟨x₁, hbefore, hread⟩ := exists_of_bind_eq_ok hread
    rw [List.foldlM_cons] at hread
    obtain ⟨x₂, hentry, hafter⟩ := exists_of_bind_eq_ok hread
    obtain ⟨y', -, rfl⟩ := h.exists_of_readEntry hentry
    -- the new value goes in place of the old one
    have hafter' := (h.foldlM_of_ne hother hafter).2 y
    rw [h.put_put] at hafter'
    exact hgoes x₁ hbefore hafter'

/-- A field is a place in its record. -/
theorem slot (h : FieldOf f name d get put) (dialect : Dialect) :
    Slot dialect f.decode [name] d get put where
  get_put := h.get_put
  reads := by
    intro t u x hd hleads hu
    obtain ⟨es, rfl, hnames, -⟩ := hleads.exists_of_cons
    rw [Tree.under?_singleton] at hu
    obtain ⟨draft, hread, hfinish⟩ := RecordFormat.exists_draft_of_ok hd
    rw [h.finish] at hfinish
    cases hfinish
    refine ⟨h.get_of_foldlM hread ?_, h.put_get _⟩
    rw [NameMap.get?_ofList_of_nodup hnames, hu]
  writes := by
    intro t w x y hd hleads hinner
    obtain ⟨es, rfl, hnames, -⟩ := hleads.exists_of_cons
    rw [Tree.under?_singleton] at hinner
    obtain ⟨draft, hread, hfinish⟩ := RecordFormat.exists_draft_of_ok hd
    rw [h.finish] at hfinish
    cases hfinish
    rw [Tree.merge_nested_cons]
    have hwrite := h.foldlM_insert hread hinner
    rw [← NameMap.ofList_setEntry hnames] at hwrite
    show f.ofEntries dialect
      (Tree.setEntry name (Tree.laidOn (NameMap.valueAt name es) w) es) = .ok (put y x)
    unfold RecordFormat.ofEntries
    rw [hwrite]
    exact congrArg (Except.mapError _) (h.finish _)

end FieldOf

end Locator
