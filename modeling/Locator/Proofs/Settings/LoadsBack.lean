import Locator.Proofs.Settings.Merge
import Locator.Proofs.Settings.Redaction

/-!
# Printed settings load back

A host prints its settings without secrets. From what is printed, settings are loaded again: they
are those that were printed.

* `HostSettings.IsShownBy`: the documents that show settings, in which the order of sections is left
  open;
* `HostSettings.settings_listedTree`: settings that are laid over the defaults are read back, as long
  as they have a default section, which the defaults have too;
* `HostSettings.printed_loads_back`: all of it, where the document is read as it was written.
-/

namespace Locator

/-- A variable of this name says something about settings. -/
def Variable.isMarked (name : String) : Bool := (afterMark? (VariableValue.trim name.toList)).isSome

/-! ## Variables of other names -/

theorem Variable.tree_of_unmarked {name : String} (h : isMarked name = false) (value : String) :
    tree name value = .empty := by
  have hrest : afterMark? (VariableValue.trim name.toList) = none := by
    rw [← Option.not_isSome_iff_eq_none]
    exact Bool.eq_false_iff.1 h
  have hpath : path? name = none := by
    unfold path?
    rw [hrest]
    rfl
  unfold tree
  rw [hpath]

/-- Variables without the prefix say nothing. -/
theorem Layers.ofVariables_of_unmarked {vs : List (String × String)}
    (h : ∀ v ∈ vs, Variable.isMarked v.1 = false) : ofVariables vs = .empty := by
  unfold ofVariables
  induction vs with
  | nil => rfl
  | cons v rest ih =>
    rw [List.foldl_cons, Variable.tree_of_unmarked (h v List.mem_cons_self) v.2]
    have hempty : Tree.empty.merge .empty = .empty := Tree.merge_empty []
    rw [hempty]
    exact ih fun w hw => h w (List.mem_cons_of_mem _ hw)

/-! ## Settings over the defaults -/

/-- A section that is written in full hides whatever lies below it. -/
theorem Section.merge_toTree (below s : Section) : below.toTree.merge s.toTree = s.toTree := by
  unfold toTree
  rw [Tree.merge_map_map, Tree.mergeEntries_cons, Tree.mergeEntries_nil]
  simp [NameMap.valueAt, Tree.setEntry, Tree.laidOn]

theorem StaticSettings.merge_toTree (below s : StaticSettings) :
    below.toTree.merge s.toTree = s.toTree := by
  unfold toTree
  simp [Tree.mergeEntries_cons, NameMap.valueAt, Tree.setEntry, Tree.laidOn]

theorem DirectorySettings.merge_toTree (below d : DirectorySettings) :
    below.toTree.merge d.toTree = d.toTree := by
  unfold toTree
  simp [Tree.mergeEntries_cons, NameMap.valueAt, Tree.setEntry, Tree.laidOn,
    StaticSettings.merge_toTree]

namespace HostSettings

/-- The document shows the settings without secrets, with the sections in some order. -/
def IsShownBy (s : HostSettings) (doc : String) : Prop :=
  ∃ listed, listed.Perm s.logging.entries ∧
    doc = Yaml.Printer.document (s.redacted.listedTree listed)

theorem isShownBy_printed (s : HostSettings) : s.IsShownBy s.printed :=
  ⟨s.logging.entries, List.Perm.refl _, rfl⟩

/-- The default sections with those of a document over them. -/
def sectionsOver (listed : List (String × Section)) : List (String × Tree) :=
  Tree.mergeEntries [(Logging.defaultName, Section.default.toTree)]
    (listed.map fun e => (e.1, e.2.toTree))

/-- Over the defaults, a listed tree has its own sections, over the default one, its parameters and
its directory. -/
theorem merge_listedTree (s : HostSettings) (listed : List (String × Section)) :
    default.toTree.merge (s.listedTree listed) =
      .map [("logging", .map (sectionsOver listed)),
        ("init_parameters",
          .map (Tree.mergeEntries [] (s.parameters.table.entries.map fun e => (e.1, .text e.2)))),
        ("directory", s.directory.toTree)] := by
  have hlogging : Logging.toTree default.logging =
      .map [(Logging.defaultName, Section.default.toTree)] := rfl
  have hparameters : default.parameters.toTree = .map [] := rfl
  unfold toTree listedTree
  rw [hlogging, hparameters]
  simp [Tree.mergeEntries_cons, NameMap.valueAt, Tree.setEntry, Tree.laidOn, Parameters.toTree,
    Tree.textMap, DirectorySettings.merge_toTree, sectionsOver]

/-- Sections that are laid over the default ones are read back if a default section is among
them. -/
theorem decode_sectionsOver {dialect : Dialect} {l : Logging} {listed : List (String × Section)}
    (hdefault : l.contains Logging.defaultName = true) (hlisted : listed.Perm l.entries) :
    Logging.decoder dialect (.map (sectionsOver listed)) = .ok l := by
  refine Decoder.map_of_ofList Section.format_readsBack dialect
    (Tree.ofList_mergeEntries_written ?_ hlisted ?_)
  · simp
  · intro n below hbelow
    have hmem := NameMap.mem_of_valueAt hbelow
    simp only [List.mem_singleton, Prod.mk.injEq] at hmem
    obtain ⟨rfl, rfl⟩ := hmem
    obtain ⟨s, hs⟩ := Option.isSome_iff_exists.1 hdefault
    exact ⟨s, hs, Section.merge_toTree _ s⟩

/-- Settings with a default section, laid over the defaults, are read back. -/
theorem settings_listedTree {s : HostSettings} {listed : List (String × Section)}
    (hdefault : s.logging.contains Logging.defaultName = true)
    (hlisted : listed.Perm s.logging.entries) :
    Layers.settings ⟨s.listedTree listed, .empty⟩ = .ok s := by
  let parameterEntries : List (String × Tree) :=
    Tree.mergeEntries [] (s.parameters.table.entries.map fun e => (e.1, .text e.2))
  have htable : NameMap.ofList parameterEntries = s.parameters.table.mapValues fun _ => .text := by
    refine Tree.ofList_mergeEntries_written List.nodup_nil (List.Perm.refl _) ?_
    intro n below hbelow
    cases hbelow
  have hparameters :
      Parameters.decoder .layered (.map parameterEntries) = .ok s.parameters := by
    unfold Parameters.decoder
    rw [Decoder.map_of_ofList Decoder.text_readsBack .layered htable]
    rfl
  unfold Layers.settings Layers.merged
  rw [merge_listedTree, Tree.merge_empty]
  exact decode_of_parts (decode_sectionsOver hdefault hlisted) hparameters
    (DirectorySettings.format_readsBack .layered s.directory)

theorem contains_default_raiseVerbosity (count : Nat) (s : HostSettings) :
    (s.raiseVerbosity count).logging.contains Logging.defaultName = true := by
  unfold raiseVerbosity NameMap.contains
  rw [NameMap.get?_insert, if_pos rfl, Option.isSome_some]

/-- The same documents show the settings and the redacted settings. -/
theorem isShownBy_redacted_iff {s : HostSettings} {doc : String} :
    s.redacted.IsShownBy doc ↔ s.IsShownBy doc := by
  unfold IsShownBy
  rw [redacted_redacted]
  exact Iff.rfl

/-- Settings with a default section are loaded from any document that shows them, in whatever order
it lists the sections: what is loaded is the settings without secrets. What is printed of them is
such a document, and printing what was loaded gives such documents again and no others. It is assumed
that the document is read as it was written, and that no variable says anything about settings. Every
host has a default section by the time it prints, whatever it was asked to show. -/
theorem printed_loads_back {s : HostSettings} {listed : List (String × Section)}
    {around : Surroundings} {path : String}
    (hdefault : s.logging.contains Logging.defaultName = true)
    (hlisted : listed.Perm s.logging.entries)
    (hpreserved : Yaml.Preserves (s.redacted.listedTree listed))
    (hfile : around.file path = .present (Yaml.Printer.document (s.redacted.listedTree listed)))
    (hprocess : ∀ v ∈ around.process, Variable.isMarked v.1 = false) :
    around.loadLayered path = .ok s.redacted ∧
    s.IsShownBy s.printed ∧ s.redacted.printed = s.printed ∧
    (∀ doc, s.redacted.IsShownBy doc ↔ s.IsShownBy doc) ∧
    ∀ count, (s.raiseVerbosity count).logging.contains Logging.defaultName = true := by
  have hsettings : Layers.settings ⟨s.redacted.listedTree listed, .empty⟩ = .ok s.redacted :=
    settings_listedTree (s := s.redacted) hdefault hlisted
  have hload : around.loadLayered path = .ok s.redacted := by
    unfold Surroundings.loadLayered
    rw [hfile, Layers.ofVariables_of_unmarked hprocess]
    simp only
    rw [hpreserved]
    simp only
    rw [hsettings]
    rfl
  have hagain : s.redacted.printed = s.printed := by
    unfold printed
    rw [redacted_redacted]
  exact ⟨hload, s.isShownBy_printed, hagain, fun doc => isShownBy_redacted_iff,
    fun count => s.contains_default_raiseVerbosity count⟩

/-! ### A document that is loaded -/

/-- The sample is loaded from its document, next to a foreign variable. -/
theorem sample_loads_back :
    sample.logging.contains Logging.defaultName = true ∧
    sampleSections.Perm sample.logging.entries ∧
    Yaml.Preserves (sample.redacted.listedTree sampleSections) ∧
    (Surroundings.mk (fun _ => .present sampleDocument) [("PATH", "/bin")]).loadLayered "host.yaml" =
      .ok sample.redacted ∧
    sample.redacted.printed = sample.printed := by
  let around : Surroundings := ⟨fun _ => .present sampleDocument, [("PATH", "/bin")]⟩
  have hdefault : sample.logging.contains Logging.defaultName = true := by decide +kernel
  have hlisted : sampleSections.Perm sample.logging.entries := by decide +kernel
  have hfile : around.file "host.yaml" =
      .present (Yaml.Printer.document (sample.redacted.listedTree sampleSections)) := by
    rw [document_sample]
  have hprocess : ∀ v ∈ around.process, Variable.isMarked v.1 = false := by decide +kernel
  obtain ⟨hload, -, hagain, -⟩ :=
    printed_loads_back hdefault hlisted preserves_sample hfile hprocess
  exact ⟨hdefault, hlisted, preserves_sample, hload, hagain⟩

end HostSettings

end Locator
