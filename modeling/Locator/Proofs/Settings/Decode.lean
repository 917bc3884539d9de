import Mathlib.Data.List.Nodup
import Mathlib.Data.List.Pairwise
import Locator.HostSettings

/-!
# Reading what is written

What is written in some form is read back from it, in every dialect.

* `Decoder.ReadsBack`: a decoder gives back what a form writes; `text_readsBack`,
  `optionText_readsBack` and `map_of_ofList` say it of plain shapes, and by `ReadsBack.injective`
  such a form tells everything apart;
* `Written`, `RecordFormat.ofEntries_written`: a record is read from the named values of its fields,
  in whatever order they are written, as long as no name occurs twice.
-/

namespace Locator

/-! ## Maps of lists without repetitions -/

namespace NameMap

variable {α β : Type}

theorem mem_iff_lastUnder {l : List (String × α)} (h : (l.map (·.1)).Nodup) {n : String} {v : α} :
    (n, v) ∈ l ↔ lastUnder n l = some v := by
  constructor
  · intro hmem
    exact lastUnder_of_nodup h hmem
  · intro hlast
    have hlisted : n ∈ l.map (·.1) := isSome_lastUnder_iff.1 (by rw [hlast]; rfl)
    obtain ⟨e, he, rfl⟩ := List.mem_map.1 hlisted
    rw [lastUnder_of_nodup h he] at hlast
    cases hlast
    exact he

/-- Sorting a list without repeated names loses no entry. -/
theorem perm_entries_ofList {l : List (String × α)} (h : (l.map (·.1)).Nodup) :
    (ofList l).entries.Perm l := by
  have hsorted : (ofList l).entries.Nodup := List.Nodup.of_map _ (nodup_names (ofList l))
  refine (List.perm_ext_iff_of_nodup hsorted (List.Nodup.of_map _ h)).2 ?_
  intro e
  rw [mem_entries_iff, get?_ofList]
  exact (mem_iff_lastUnder h).symm

/-- The entries of a map in any order make up the map. -/
theorem ofList_of_perm {l : List (String × α)} {m : NameMap α} (h : l.Perm m.entries) :
    ofList l = m := by
  have hnodup : (l.map (·.1)).Nodup := (h.map _).nodup_iff.2 m.nodup_names
  refine ext_get? fun n => ?_
  rw [get?_ofList, ← lastUnder_entries]
  refine Option.ext fun v => ?_
  have hl : (n, v) ∈ l ↔ lastUnder n l = some v := mem_iff_lastUnder hnodup
  have hm : (n, v) ∈ m.entries ↔ lastUnder n m.entries = some v := mem_iff_lastUnder m.nodup_names
  rw [← hl, ← hm]
  exact h.mem_iff

/-- Values can be mapped before the map is made of the entries, or after. -/
theorem ofList_map_snd (f : α → β) (l : List (String × α)) :
    ofList (l.map fun e => (e.1, f e.2)) = (ofList l).mapValues fun _ => f := by
  have hlast : ∀ n, lastUnder n (l.map fun e => (e.1, f e.2)) = (lastUnder n l).map f := by
    intro n
    induction l with
    | nil => rfl
    | cons e r ih =>
      rw [List.map_cons, lastUnder, lastUnder, ih, Option.map_or]
      by_cases hn : n = e.1
      · simp [hn]
      · simp [hn]
  refine ext_get? fun n => ?_
  rw [get?_ofList, hlast, get?_mapValues, get?_ofList]

end NameMap

/-! ## Plain shapes -/

namespace Decoder

variable {α : Type} {d : Decoder α} {write : α → Tree}

/-- A decoder gives back what is written in a form. -/
def ReadsBack (d : Decoder α) (write : α → Tree) : Prop :=
  ∀ dialect x, d dialect (write x) = .ok x

theorem text_readsBack : text.ReadsBack Tree.text := fun _ _ => rfl

/-- What is read back is not written like anything else. -/
theorem ReadsBack.injective (h : d.ReadsBack write) : Function.Injective write := by
  intro x y hxy
  have hread : d .layered (write x) = .ok y := by
    rw [hxy]
    exact h .layered y
  rw [h .layered x] at hread
  exact Except.ok.inj hread

theorem optionText_readsBack : text.optional.ReadsBack Tree.optionText := by
  intro dialect s?
  cases s? with
  | none => rfl
  | some s => rfl

/-- Written entries are read as they were. -/
theorem entries_map (h : d.ReadsBack write) (dialect : Dialect) (l : List (String × α)) :
    d.entries dialect (l.map fun e => (e.1, write e.2)) = .ok l := by
  induction l with
  | nil => rfl
  | cons e rest ih =>
    have hfirst : d.underName dialect e.1 (write e.2) = .ok e.2 := by
      rw [underName, h]
      rfl
    rw [List.map_cons, entries, hfirst, ih]
    rfl

/-- A map is read from any entries that make up what is written of it. -/
theorem map_of_ofList (h : d.ReadsBack write) (dialect : Dialect) {es : List (String × Tree)}
    {m : NameMap α} (hes : NameMap.ofList es = m.mapValues fun _ => write) :
    d.map dialect (.map es) = .ok m := by
  have hentries : d.entries dialect (NameMap.ofList es).entries = .ok m.entries := by
    rw [hes]
    exact entries_map h dialect m.entries
  have hread : d.map dialect (.map es) =
      NameMap.ofList <$> d.entries dialect (NameMap.ofList es).entries := rfl
  rw [hread, hentries]
  exact congrArg Except.ok (NameMap.ofList_of_perm (List.Perm.refl _))

end Decoder

/-! ## Records -/

/-- A named value of a record, and what it makes of a draft of the record. -/
structure Written (β : Type) where
  /-- The name of the field. -/
  name : String
  /-- Its value. -/
  tree : Tree
  /-- The draft with the value. -/
  effect : β → β

namespace Written

variable {β γ : Type}

/-- A named value that stands for `x`, which is put into the draft. -/
def of (name : String) (tree : Tree) (put : γ → β → β) (x : γ) : Written β := ⟨name, tree, put x⟩

/-- It makes no difference which of two values comes first. -/
def Commutes (w w' : Written β) : Prop :=
  ∀ draft, w.effect (w'.effect draft) = w'.effect (w.effect draft)

instance : Std.Symm (Commutes : Written β → Written β → Prop) :=
  ⟨fun _ _ h draft => (h draft).symm⟩

end Written

namespace RecordFormat

variable {α β γ : Type} {f : RecordFormat β α} {dialect : Dialect}

/-- The value has the effect that is written down for it, on every draft. -/
def Takes (f : RecordFormat β α) (dialect : Dialect) (w : Written β) : Prop :=
  ∀ draft, f.readEntry dialect draft (w.name, w.tree) = .ok (w.effect draft)

/-- A value that the decoder of its field reads goes into the draft. -/
theorem takes_of {name : String} {d : Decoder γ} {put : γ → β → β} {t : Tree} {x : γ}
    (hfield : f.field? name = some (.of name d put)) (hd : d dialect t = .ok x) :
    f.Takes dialect (.of name t put x) := by
  intro draft
  show f.readEntry dialect draft (name, t) = .ok (put x draft)
  unfold readEntry
  rw [hfield]
  simp only [Field.of, hd]
  rfl

/-- Written entries have their effects one after the other. -/
theorem foldlM_written {ws : List (Written β)} (hread : ∀ w ∈ ws, f.Takes dialect w) (draft : β) :
    (ws.map fun w => (w.name, w.tree)).foldlM (f.readEntry dialect) draft =
      .ok (ws.foldl (fun draft w => w.effect draft) draft) := by
  induction ws generalizing draft with
  | nil => rfl
  | cons w rest ih =>
    rw [List.map_cons, List.foldlM_cons, hread w List.mem_cons_self]
    exact ih (fun w' hw' => hread w' (List.mem_cons_of_mem _ hw')) _

/-- A record is read from the values of its fields. They are visited in the order of their names,
which makes no difference where each of them changes a part of the draft of its own. -/
theorem ofEntries_written (ws : List (Written β)) {x : α} (hnames : (ws.map (·.name)).Nodup)
    (hread : ∀ w ∈ ws, f.Takes dialect w)
    (hcomm : ws.Pairwise Written.Commutes)
    (hfinish : f.finish (ws.foldl (fun draft w => w.effect draft) f.start) = .ok x) :
    f.ofEntries dialect (ws.map fun w => (w.name, w.tree)) = .ok x := by
  -- the values with their names, sorted by them
  let named : List (String × Written β) := ws.map fun w => (w.name, w)
  let sorted : List (Written β) := (NameMap.ofList named).entries.map (·.2)
  have hnamed : (named.map (·.1)).Nodup := by
    simp only [named, List.map_map]
    exact hnames
  have hperm : sorted.Perm ws := by
    have h := (NameMap.perm_entries_ofList hnamed).map (·.2)
    simpa only [named, List.map_map, Function.comp_def, List.map_id'] using h
  have hsorted : (NameMap.ofList (ws.map fun w => (w.name, w.tree))).entries =
      sorted.map fun w => (w.name, w.tree) := by
    have hvalues : NameMap.ofList (ws.map fun w => (w.name, w.tree)) =
        (NameMap.ofList named).mapValues fun _ w => w.tree := by
      rw [← NameMap.ofList_map_snd]
      simp only [named, List.map_map, Function.comp_def]
    rw [hvalues]
    simp only [NameMap.mapValues, sorted, List.map_map, Function.comp_def]
    refine List.map_congr_left fun e he => ?_
    -- the name beside a value is its own
    have hmem : e ∈ named := (NameMap.perm_entries_ofList hnamed).mem_iff.1 he
    obtain ⟨w, -, rfl⟩ := List.mem_map.1 hmem
    rfl
  have hfold : sorted.foldl (fun draft w => w.effect draft) f.start =
      ws.foldl (fun draft w => w.effect draft) f.start := by
    refine hperm.foldl_eq' (fun w hw w' hw' draft => ?_) f.start
    have hall := hcomm.forall_of_forall fun w _ draft => rfl
    exact hall (hperm.mem_iff.1 hw') (hperm.mem_iff.1 hw) draft
  unfold ofEntries
  rw [hsorted, foldlM_written fun w hw => hread w (hperm.mem_iff.1 hw)]
  simp only [bind, Except.bind]
  rw [hfold, hfinish]
  rfl

end RecordFormat

end Locator
