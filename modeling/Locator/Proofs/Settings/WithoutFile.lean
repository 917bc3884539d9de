import Locator.Proofs.Settings.Overrides

/-!
# Settings without a file

A host that is told no file uses the defaults, whatever the variables say. A host that is told a
file that says nothing lays the variables over the defaults.

* `SettingsKey.decode_default_merge`: a value for a key over the defaults, section or not;
* `Surroundings.load_without_file`: when the two hosts load the same settings;
* `Surroundings.variables_need_a_file`: variables for which they do not.
-/

namespace Locator

namespace SettingsKey

variable {k : SettingsKey} {dialect : Dialect} {v : String} {y : k.Value}

/-- A section that is not there is made from the text for its level. -/
theorem decode_merge_section {sect : String} {t : Tree} {s : HostSettings}
    {console? : Option Level} (hread : HostSettings.format.decode dialect t = .ok s)
    (hleads : t.Leads ["logging", sect]) (hnone : t.under? ["logging", sect] = none)
    (hlevel : Section.level? v = some console?) :
    HostSettings.format.decode dialect (t.merge (.nested (level sect).path (.text v))) =
      .ok ((level sect).set console? s) := by
  have hsections := Decoder.slot_map Section.format.decode dialect sect .default
  have hslot := (HostSettings.loggingField.slot dialect).trans hsections
  have hsection : Section.format.decode dialect (.map [("console_level", .text v)]) =
      .ok ⟨console?⟩ := Section.decode_text_iff.2 (Section.level?_eq_some_iff.1 hlevel)
  refine hslot.writes hread hleads ?_
  rw [List.singleton_append, hnone]
  exact hsection

/-- A text for a value of a key sets the key over the defaults. -/
theorem decode_default_merge (hvalue : k.ofText? v = some y) :
    HostSettings.format.decode dialect
      (HostSettings.default.toTree.merge (.nested k.path (.text v))) =
        .ok (k.set y .default) := by
  have hread := HostSettings.format_readsBack dialect .default
  have htidy := HostSettings.tidy_toTree .default
  cases k with
  | level sect =>
    by_cases hsect : sect = Logging.defaultName
    · subst hsect
      exact decode_merge (k := level Logging.defaultName) hread (htidy.leads rfl) hvalue
    · -- no other section is there from the start
      have hnone : HostSettings.default.toTree.under? ["logging", sect] = none := by
        show NameMap.valueAt sect [(Logging.defaultName, Section.default.toTree)] >>= _ = none
        simp [NameMap.valueAt, hsect]
      have hleads : HostSettings.default.toTree.Leads ["logging", sect] :=
        .cons (by decide) rfl (.last sect (by decide))
      exact decode_merge_section hread hleads hnone hvalue
  | parameter name =>
    refine decode_merge (k := parameter name) hread ?_ hvalue
    exact .cons (by decide) rfl (.last name List.nodup_nil)
  | connector => exact decode_merge (k := connector) hread (htidy.leads rfl) hvalue
  | principal => exact decode_merge (k := principal) hread (htidy.leads rfl) hvalue
  | credentials => exact decode_merge (k := credentials) hread (htidy.leads rfl) hvalue

end SettingsKey

namespace Surroundings

variable {files : String → FileState} {path content : String}

/-- Without a file the defaults are loaded, and nothing can be wrong with them. From a file that
says nothing, what the variables say is loaded over the defaults. So both are the same exactly if
the defaults are read from that too. They are if no variable says anything; and if one variable
alone says something, which is a text for a value of a key, that key is set over the defaults, so
they are the same exactly if the key has this value by default. -/
theorem load_without_file (hfile : files path = .present content)
    (hyaml : Yaml.settings? content = some .empty) (process : List (String × String)) :
    let around : Surroundings := ⟨files, process⟩
    around.load none = .ok .default ∧
    (around.load none = around.load (some path) ↔
      Layers.settings ⟨.empty, Layers.ofVariables process⟩ = .ok .default) ∧
    ((∀ x ∈ process, Variable.isMarked x.1 = false) → around.load none = around.load (some path)) ∧
    ∀ (before after : List (String × String)) (k : SettingsKey) (v : String) (y : k.Value),
      process = before ++ (k.variableName, v) :: after →
      (∀ x ∈ before ++ after, Variable.isMarked x.1 = false) → k.Unpaired → k.Addressable →
      k.ofText? v = some y → VariableValue.read v = .text v →
      around.load (some path) = .ok (k.set y .default) ∧
        (around.load none = around.load (some path) ↔ k.set y .default = .default) := by
  intro around
  have hnone : around.load none = .ok .default := rfl
  have hsame : around.load none = around.load (some path) ↔
      Layers.settings ⟨.empty, Layers.ofVariables process⟩ = .ok .default := by
    rw [hnone, eq_comm]
    exact load_eq_ok_iff hfile hyaml
  -- the empty file changes nothing in the defaults
  have hlayers : ∀ t, Layers.settings ⟨.empty, t⟩ =
      HostSettings.format.decode .layered (HostSettings.default.toTree.merge t) := by
    intro t
    unfold Layers.settings Layers.merged
    rw [HostSettings.toTree, Tree.merge_empty]
  refine ⟨hnone, hsame, fun hprocess => ?_, ?_⟩
  · rw [hsame, Layers.ofVariables_of_unmarked hprocess, hlayers, HostSettings.toTree,
      Tree.merge_empty]
    exact HostSettings.format_readsBack .layered .default
  · intro before after k v y hvariable hothers hunpaired haddressable hvalue hself
    have hload : around.load (some path) = .ok (k.set y .default) := by
      refine (load_eq_ok_iff hfile hyaml).2 ?_
      rw [hvariable, Layers.ofVariables_of_one_marked hothers, Variable.tree,
        SettingsKey.path?_variableName hunpaired haddressable, hlayers]
      simp only [hself]
      exact SettingsKey.decode_default_merge hvalue
    refine ⟨hload, ?_⟩
    rw [hnone, hload, Except.ok.injEq, eq_comm]

/-! ### A variable and no file -/

/-- A document with an empty map. -/
def emptyDocument : String := .ofList ['\x7b', '\x7d']

/-- A host that finds the document everywhere. -/
def emptyFiles : String → FileState := fun _ => .present emptyDocument

theorem emptyFiles_apply (path : String) : emptyFiles path = .present emptyDocument := rfl

theorem settings?_emptyDocument : Yaml.settings? emptyDocument = some .empty := by
  unfold Yaml.settings? Yaml.Node.ofString?
  rw [Yaml.marks?_of_eq_ofList (s := emptyDocument) rfl]
  decide +kernel

/-- The variable for the level of the default section, next to a foreign one. -/
theorem load_without_file_example :
    let around : Surroundings :=
      ⟨emptyFiles, [("PATH", "/bin"), ("RB__LOGGING__DEFAULT__CONSOLE_LEVEL", "debug")]⟩
    around.load none = .ok .default ∧
      around.load (some "host.yaml") =
        .ok ⟨.ofList [("default", ⟨some .debug⟩)], .empty, .default⟩ := by
  intro around
  let k : SettingsKey := .level "default"
  have hname : k.variableName = "RB__LOGGING__DEFAULT__CONSOLE_LEVEL" := by decide +kernel
  have hprocess : around.process = [("PATH", "/bin")] ++ (k.variableName, "debug") :: [] := by
    rw [hname]
    rfl
  have hothers : ∀ x ∈ [("PATH", "/bin")] ++ [], Variable.isMarked x.1 = false := by decide +kernel
  have hunpaired : k.Unpaired := by decide +kernel
  have haddressable : k.Addressable := by decide +kernel
  have hvalue : Section.level? "debug" = some (some .debug) := by decide +kernel
  obtain ⟨hnone, -, -, hset⟩ :=
    load_without_file (emptyFiles_apply "host.yaml") settings?_emptyDocument around.process
  obtain ⟨hload, -⟩ := hset _ _ k "debug" (some .debug) hprocess hothers hunpaired haddressable
    hvalue (VariableValue.read_of_level hvalue)
  exact ⟨hnone, hload⟩

/-- With that variable, a host without a file does not load what it loads from an empty one. -/
theorem variables_need_a_file :
    ¬ ∀ (files : String → FileState) (path content : String) (process : List (String × String)),
      files path = .present content → Yaml.settings? content = some .empty →
      Surroundings.load ⟨files, process⟩ none =
        Surroundings.load ⟨files, process⟩ (some path) := by
  intro h
  have hsame := h emptyFiles "host.yaml" _ [("RB__LOGGING__DEFAULT__CONSOLE_LEVEL", "debug")]
    (emptyFiles_apply _) settings?_emptyDocument
  have hload : Surroundings.load ⟨emptyFiles, [("RB__LOGGING__DEFAULT__CONSOLE_LEVEL", "debug")]⟩
      (some "host.yaml") = .ok ⟨.ofList [("default", ⟨some .debug⟩)], .empty, .default⟩ := by
    refine (load_eq_ok_iff (emptyFiles_apply _) settings?_emptyDocument).2 ?_
    decide +kernel
  rw [hload] at hsame
  exact absurd (Except.ok.inj hsame) (by decide +kernel)

end Surroundings

end Locator
