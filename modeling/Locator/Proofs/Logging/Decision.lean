import Mathlib.Data.List.Nodup
import Locator.Logging

/-!
# Which section decides about a target

Several sections may govern one target, as their names begin one another. The one of the longest name
decides, in whatever order the sections are taken; where none governs the target, the section
`default` stands in, and the standard one where that is missing.

* `Logging.Decides`: the section that decides, told by the names of the sections alone;
* `ConsoleFilter.exists_decides`, `Logging.Decides.eq_of_decides`: there is one, whose level a filter
  has for the target, and only one;
* `ConsoleFilter.most_specific_section_decides`: what a filter shows, whatever the order.
-/

namespace Locator

/-- A section shows reports of a level: it has a level itself, and this one is not beyond it. -/
def Section.Shows (s : Section) (level : Level) : Prop :=
  ∃ shown, s.console? = some shown ∧ level.verbosity ≤ shown.verbosity

namespace Logging

/-! ## The section that decides -/

/-- A section other than `default` is named by a text with which the target begins. -/
structure Governs (l : Logging) (name : String) (s : Section) (target : String) : Prop where
  /-- It is the section of the name. -/
  held : l.get? name = some s
  /-- It is not the section for other targets. -/
  special : name ≠ defaultName
  /-- The target begins with the name. -/
  begins : name.toList <+: target.toList

/-- No section other than `default` governs the target. -/
def Free (l : Logging) (target : String) : Prop := ∀ name s, ¬ l.Governs name s target

/-- The section that decides about a target. -/
inductive Decides (l : Logging) (target : String) : Section → Prop where
  /-- Of those that govern the target, the one of the longest name. -/
  | longest {name : String} {s : Section} (governs : l.Governs name s target)
      (most : ∀ other x, l.Governs other x target → other.length ≤ name.length) :
      Decides l target s
  /-- The section `default`, where none governs the target. -/
  | default {s : Section} (free : l.Free target) (held : l.get? defaultName = some s) :
      Decides l target s
  /-- A section up to level `info`, where none governs the target and `default` is missing. -/
  | missing (free : l.Free target) (absent : l.get? defaultName = none) :
      Decides l target ⟨some .info⟩

/-- The section for targets that none governs. -/
def defaultSection (l : Logging) : Section := (l.get? defaultName).getD .default

variable {l : Logging} {target name other : String} {s x : Section}

/-- A target that no section governs is decided by the default section. -/
theorem Decides.of_free (h : l.Free target) : l.Decides target l.defaultSection := by
  unfold defaultSection
  cases hd : l.get? defaultName with
  | none => exact .missing h hd
  | some s => exact .default h hd

/-- Texts of one length with which a target begins are the same. -/
theorem Governs.name_eq (h : l.Governs name s target) (h' : l.Governs other x target)
    (hlength : name.length = other.length) : name = other := by
  rw [← String.length_toList, ← String.length_toList] at hlength
  have hbegins : name.toList <+: other.toList :=
    List.prefix_of_prefix_length_le h.begins h'.begins (Nat.le_of_eq hlength)
  exact String.toList_injective (hbegins.eq_of_length hlength)

/-- Only one section decides about a target. -/
theorem Decides.eq_of_decides (h : l.Decides target s) (h' : l.Decides target x) : s = x := by
  cases h with
  | longest governs most =>
    cases h' with
    | longest governs' most' =>
      have hname := governs.name_eq governs' (Nat.le_antisymm (most' _ _ governs) (most _ _ governs'))
      subst hname
      exact Option.some.inj (governs.held.symm.trans governs'.held)
    | default free held => exact absurd governs (free _ _)
    | missing free absent => exact absurd governs (free _ _)
  | default free held =>
    cases h' with
    | longest governs' most' => exact absurd governs' (free _ _)
    | default free' held' => exact Option.some.inj (held.symm.trans held')
    | missing free' absent =>
      rw [held] at absent
      cases absent
  | missing free absent =>
    cases h' with
    | longest governs' most' => exact absurd governs' (free _ _)
    | default free' held =>
      rw [held] at absent
      cases absent
    | missing free' absent' => rfl

end Logging

namespace ConsoleFilter

variable {l : Logging} {listing : List (String × Section)} {target : String}

/-! ## The sections of a filter -/

/-- Sections that are new to a filter are added in their order. -/
theorem foldl_withSection (listing : List (String × Section)) (f : ConsoleFilter)
    (hdistinct : (listing.map (·.1)).Nodup)
    (hnew : ∀ e ∈ listing, ∀ held ∈ f.sections, held.1 ≠ e.1) :
    listing.foldl (fun f e => f.withSection e.1 e.2.console?) f =
      { f with sections := f.sections ++ listing.map fun e => (e.1, e.2.console?) } := by
  induction listing generalizing f with
  | nil => rw [List.foldl_nil, List.map_nil, List.append_nil]
  | cons e rest ih =>
    obtain ⟨hfirst, hrest⟩ := List.nodup_cons.1 hdistinct
    have hadded : f.withSection e.1 e.2.console? =
        { f with sections := f.sections ++ [(e.1, e.2.console?)] } := by
      have hkept : f.sections.filter (·.1 ≠ e.1) = f.sections :=
        List.filter_eq_self.2 fun held hheld => by simpa using hnew e List.mem_cons_self held hheld
      unfold withSection
      rw [hkept]
    rw [List.foldl_cons, hadded, ih _ hrest, List.map_cons, List.append_assoc, List.singleton_append]
    intro e' he' held hheld
    obtain hheld | hheld := List.mem_append.1 hheld
    · exact hnew e' (List.mem_cons_of_mem _ he') held hheld
    · -- the section that was just added comes first in the listing, and nowhere else
      obtain rfl := List.mem_singleton.1 hheld
      intro heq
      exact hfirst (List.mem_map.2 ⟨e', he', heq.symm⟩)

/-- The filter has the default section's level and the levels of the other sections in the order of
the listing. -/
theorem ofListing_eq (h : listing.Perm l.entries) :
    ofListing l listing = ⟨l.defaultSection.console?,
      (listing.filter (·.1 ≠ Logging.defaultName)).map fun e => (e.1, e.2.console?)⟩ := by
  have hnames : (listing.map (·.1)).Nodup := (h.map _).nodup_iff.2 l.nodup_names
  unfold ofListing
  rw [foldl_withSection _ _ (hnames.sublist (List.filter_sublist.map _)) (by simp)]
  rfl

/-- In whatever order the sections are taken, a filter has the levels of those other than
`default`. -/
theorem mem_sections_ofListing_iff (h : listing.Perm l.entries) {name : String}
    {shown? : Option Level} :
    (name, shown?) ∈ (ofListing l listing).sections ↔
      name ≠ Logging.defaultName ∧ ∃ s, l.get? name = some s ∧ s.console? = shown? := by
  rw [ofListing_eq h, List.mem_map]
  constructor
  · rintro ⟨⟨n, s⟩, hmem, heq⟩
    cases heq
    obtain ⟨hlisted, hname⟩ := List.mem_filter.1 hmem
    exact ⟨by simpa using hname, s, l.mem_entries_iff.1 (h.mem_iff.1 hlisted), rfl⟩
  · rintro ⟨hname, s, hheld, rfl⟩
    have hlisted : (name, s) ∈ listing := h.mem_iff.2 (l.mem_entries_iff.2 hheld)
    exact ⟨(name, s), List.mem_filter.2 ⟨hlisted, by simpa using hname⟩, rfl⟩

/-- A section governs the targets that start with its name. -/
theorem governs_iff {name : String} :
    governs name target = true ↔ name.toList <+: target.toList :=
  List.isPrefixOf_iff_prefix

/-- The sections of a filter that govern a target are those that are configured to. -/
theorem mem_governing_iff (h : listing.Perm l.entries) {name : String} {shown? : Option Level} :
    (name, shown?) ∈ (ofListing l listing).sections.filter (governs ·.1 target) ↔
      ∃ s, l.Governs name s target ∧ s.console? = shown? := by
  rw [List.mem_filter, mem_sections_ofListing_iff h, governs_iff]
  constructor
  · rintro ⟨⟨hname, s, hheld, hshown⟩, hbegins⟩
    exact ⟨s, ⟨hheld, hname, hbegins⟩, hshown⟩
  · rintro ⟨s, hgoverns, hshown⟩
    exact ⟨⟨hgoverns.special, s, hgoverns.held, hshown⟩, hgoverns.begins⟩

/-! ## The longest one -/

/-- The more specific of two sections is one of the two, and neither has a longer name. -/
theorem moreSpecific_spec (a b : String × Option Level) :
    moreSpecific a b ∈ [a, b] ∧
      a.1.length ≤ (moreSpecific a b).1.length ∧ b.1.length ≤ (moreSpecific a b).1.length := by
  unfold moreSpecific
  split
  · rename_i hlt
    exact ⟨by simp, Nat.le_of_lt hlt, Nat.le_refl _⟩
  · rename_i hle
    exact ⟨by simp, Nat.le_refl _, Nat.not_lt.1 hle⟩

/-- The most specific of some sections is one of them, and no other one has a longer name. -/
theorem foldl_moreSpecific (first : String × Option Level) (others : List (String × Option Level)) :
    others.foldl moreSpecific first ∈ first :: others ∧
      ∀ e ∈ first :: others, e.1.length ≤ (others.foldl moreSpecific first).1.length := by
  induction others generalizing first with
  | nil => simp
  | cons next rest ih =>
    obtain ⟨hone, hfirst, hnext⟩ := moreSpecific_spec first next
    obtain ⟨hmem, hmost⟩ := ih (moreSpecific first next)
    have hlonger := hmost _ List.mem_cons_self
    rw [List.foldl_cons]
    refine ⟨?_, fun e he => ?_⟩
    · obtain heq | hmem := List.mem_cons.1 hmem
      · rw [heq]
        exact List.mem_append_left rest hone
      · exact List.mem_cons_of_mem _ (List.mem_cons_of_mem _ hmem)
    · obtain rfl | he := List.mem_cons.1 he
      · exact Nat.le_trans hfirst hlonger
      obtain rfl | he := List.mem_cons.1 he
      · exact Nat.le_trans hnext hlonger
      · exact hmost e (List.mem_cons_of_mem _ he)

/-- The section that decides about a target is the one whose level a filter has for it. -/
theorem exists_decides (h : listing.Perm l.entries) (target : String) :
    ∃ s, l.Decides target s ∧ (ofListing l listing).levelFor target = s.console? := by
  unfold levelFor
  cases hgoverning : (ofListing l listing).sections.filter (governs ·.1 target) with
  | nil =>
    have hfree : l.Free target := by
      intro name s hgoverns
      have hmem := (mem_governing_iff h).2 ⟨s, hgoverns, rfl⟩
      rw [hgoverning] at hmem
      cases hmem
    exact ⟨l.defaultSection, .of_free hfree, by rw [ofListing_eq h]⟩
  | cons first others =>
    obtain ⟨hmem, hmost⟩ := foldl_moreSpecific first others
    rw [← hgoverning] at hmem hmost
    obtain ⟨s, hgoverns, hshown⟩ := (mem_governing_iff h).1 hmem
    refine ⟨s, .longest hgoverns fun other x hother => ?_, hshown.symm⟩
    exact hmost _ ((mem_governing_iff h).2 ⟨x, hother, rfl⟩)

/-! ## What is shown -/

/-- What the filter lets through is what the section it finds shows. -/
theorem enables_iff (f : ConsoleFilter) {s : Section} (h : f.levelFor target = s.console?)
    (level : Level) : f.enables target level = true ↔ s.Shows level := by
  unfold enables allows Section.Shows
  rw [h]
  cases s.console? with
  | none => simp
  | some shown => simp

/-- In any listing order the deciding section is the one the filter goes by. -/
theorem enables_ofListing_iff (h : listing.Perm l.entries) {s : Section}
    (hs : l.Decides target s) (level : Level) :
    (ofListing l listing).enables target level = true ↔ s.Shows level := by
  obtain ⟨x, hx, hlevel⟩ := exists_decides h target
  exact enables_iff _ (hs.eq_of_decides hx ▸ hlevel) level

/-- One section decides about a target, and in whatever order the sections are taken, a filter shows
reports of the target as this section does: none at all if it is off. So all orders come to the same,
that of the names among them. -/
theorem most_specific_section_decides (l : Logging) {listing : List (String × Section)}
    (h : listing.Perm l.entries) (target : String) :
    ∃ s, (∀ x, l.Decides target x ↔ x = s) ∧
      (∀ level, (ofListing l listing).enables target level = true ↔ s.Shows level) ∧
      (s.console? = none → ∀ level, (ofListing l listing).enables target level = false) ∧
      ∀ level, (ofListing l listing).enables target level = (ofLogging l).enables target level := by
  obtain ⟨s, hs, -⟩ := exists_decides h target
  have hunique : ∀ x, l.Decides target x ↔ x = s :=
    fun x => ⟨fun hx => hx.eq_of_decides hs, fun heq => heq ▸ hs⟩
  have hshown : ∀ level, (ofListing l listing).enables target level = true ↔ s.Shows level :=
    enables_ofListing_iff h hs
  have hoff : s.console? = none →
      ∀ level, (ofListing l listing).enables target level = false := by
    intro hnone level
    rw [Bool.eq_false_iff, ne_eq, hshown level]
    rintro ⟨shown, hsome, -⟩
    rw [hnone] at hsome
    cases hsome
  refine ⟨s, hunique, hshown, hoff, fun level => ?_⟩
  have hsorted := enables_ofListing_iff (List.Perm.refl l.entries) hs level
  exact Bool.eq_iff_iff.2 ((hshown level).trans hsorted.symm)

/-- Sections whose names begin one another, one of them off. -/
def nested : List (String × Section) :=
  [("app::db", ⟨none⟩), ("default", ⟨some .warn⟩), ("", ⟨some .error⟩), ("app", ⟨some .debug⟩)]

theorem most_specific_section_decides_example :
    nested.Perm (NameMap.ofList nested).entries ∧
    ∃ s, (∀ x, Logging.Decides (.ofList nested) "app::db::pool" x ↔ x = s) ∧
      (∀ level, (ofListing (.ofList nested) nested).enables "app::db::pool" level = true ↔
        s.Shows level) ∧
      (s.console? = none →
        ∀ level, (ofListing (.ofList nested) nested).enables "app::db::pool" level = false) ∧
      ∀ level, (ofListing (.ofList nested) nested).enables "app::db::pool" level =
        (ofLogging (.ofList nested)).enables "app::db::pool" level :=
  ⟨by decide, most_specific_section_decides (.ofList nested) (by decide) "app::db::pool"⟩

end ConsoleFilter

end Locator
