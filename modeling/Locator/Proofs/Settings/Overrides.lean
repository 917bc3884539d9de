import Locator.Proofs.Settings.LoadsBack
import Locator.Proofs.Settings.VariableNames
import Locator.Proofs.Settings.VariableValues

/-!
# Overriding a key

Every key of a file is meant to be overridden by the variable that is called by its path. It is,
exactly where the name of the variable stands for the path and its value stands for itself.

* `SettingsKey.decode_merge_iff`: when a value that is laid over settings sets a key;
* `Layers.ofVariables_of_one_marked`: what the variables say if one of them says something;
* `Surroundings.load_override`: the settings that are loaded with the variable for a key;
* `Surroundings.override_of_capitals`: a parameter that is not overridden.
-/

namespace Locator

/-! ## A key under another value -/

namespace Tree

/-- Only a text makes a text, whatever it is laid on. -/
theorem text_of_laidOn {below? : Option Tree} {w : Tree} {v : String}
    (h : laidOn below? w = .text v) : w = .text v := by
  cases below? with
  | none => exact h
  | some below =>
    obtain heq | ⟨ls, us, -, -, heq⟩ := merge_cases below w
    · rw [← heq]
      exact h
    · exact absurd (heq.symm.trans h) (by simp)

end Tree

namespace SettingsKey

variable {k : SettingsKey} {dialect : Dialect} {t u w : Tree} {s : HostSettings} {v : String}
  {y : k.Value} {path' : List String}

/-- A text for a value of the key sets the key if it is laid at the end of the path. -/
theorem decode_merge (hread : HostSettings.format.decode dialect t = .ok s)
    (hleads : t.Leads k.path) (hvalue : k.ofText? v = some y) :
    HostSettings.format.decode dialect (t.merge (.nested k.path (.text v))) = .ok (k.set y s) := by
  refine (k.slot dialect).writes hread hleads ?_
  cases t.under? k.path with
  | none => exact decoder_text hvalue
  | some below =>
    show k.decoder dialect (below.merge (.text v)) = .ok y
    rw [Tree.merge_text]
    exact decoder_text hvalue

/-- Whatever is laid over settings at the end of a path that is no shorter than that to a key, it
sets the key to another value exactly if it is a text for the value, at the end of the path to the
key. -/
theorem decode_merge_iff (hread : HostSettings.format.decode dialect t = .ok s)
    (hleads : t.Leads k.path) (hu : t.under? k.path = some u) (hvalue : k.ofText? v = some y)
    (hother : k.set y s ≠ s) (hlength : k.path.length ≤ path'.length) :
    HostSettings.format.decode dialect (t.merge (.nested path' w)) = .ok (k.set y s) ↔
      path' = k.path ∧ ∃ v', w = .text v' ∧ k.ofText? v' = some y := by
  have hslot := k.slot dialect
  constructor
  · intro hset
    have hleads' := hleads.merge_nested hlength w
    -- what stands at the end of the path to the key is read as the new value
    have hvalue' : ∀ u', (t.merge (.nested path' w)).under? k.path = some u' →
        ∃ v', u' = .text v' ∧ k.ofText? v' = some y := by
      intro u' hu'
      have hread' := (hslot.reads hset hleads' hu').1
      rw [hslot.get_put] at hread'
      exact exists_text_of_decoder hvalue hread'
    by_cases hpath : path' = k.path
    · subst hpath
      obtain ⟨v', hlaid, hv'⟩ := hvalue' _ (hleads.under?_merge_nested w)
      exact ⟨rfl, v', Tree.text_of_laidOn hlaid, hv'⟩
    · -- elsewhere the old value stays, which would be the new one then
      exfalso
      obtain ⟨u', hu', hsame⟩ := Tree.under?_merge_nested_of_ne hu hlength (Ne.symm hpath) w
      obtain ⟨v', rfl, hv'⟩ := hvalue' u' hu'
      rcases hsame with rfl | hmap
      · obtain ⟨hold, hput⟩ := hslot.reads hread hleads hu
        rw [decoder_text hv'] at hold
        rw [← Except.ok.inj hold] at hput
        exact hother hput
      · cases hmap
  · rintro ⟨rfl, v', rfl, hv'⟩
    exact decode_merge hread hleads hv'

/-- A text for a value of the key stands for itself, unless it stands for no text for the value. -/
theorem read_eq_self {v' : String} (hvalue : k.ofText? v = some y) (hvalue' : k.ofText? v' = some y)
    (h : VariableValue.read v = .text v') : VariableValue.read v = .text v := by
  cases k with
  | level sect => exact VariableValue.read_of_level hvalue
  | parameter name | connector =>
    rw [h, Option.some.inj (hvalue.trans hvalue'.symm)]
  | principal | credentials =>
    rw [h, Option.some.inj (Option.some.inj (hvalue.trans hvalue'.symm))]

end SettingsKey

/-! ## What one variable says -/

namespace Variable

/-- What a variable says is a map, and the whole map if nothing else is said. -/
theorem empty_merge_tree (name value : String) :
    ∃ es, Tree.empty.merge (tree name value) = .map es ∧ tree name value = .map es := by
  unfold tree
  cases hpath : path? name with
  | none => exact ⟨[], Tree.merge_empty [], rfl⟩
  | some path =>
    obtain ⟨first, rest, rfl⟩ := List.exists_cons_of_ne_nil (path?_ne_nil hpath)
    exact ⟨_, Tree.merge_nested_cons [] first rest _, rfl⟩

end Variable

namespace Layers

/-- Variables that are not marked add nothing to what is said. -/
theorem foldl_of_unmarked {vs : List (String × String)}
    (h : ∀ v ∈ vs, Variable.isMarked v.1 = false) (es : List (String × Tree)) :
    vs.foldl (fun t v => Tree.merge t (Variable.tree v.1 v.2)) (Tree.map es) = .map es := by
  induction vs with
  | nil => rfl
  | cons v rest ih =>
    rw [List.foldl_cons, Variable.tree_of_unmarked (h v List.mem_cons_self) v.2, Tree.merge_empty]
    exact ih fun w hw => h w (List.mem_cons_of_mem _ hw)

/-- Where one variable alone is marked, the variables say what it says. -/
theorem ofVariables_of_one_marked {before after : List (String × String)}
    (h : ∀ v ∈ before ++ after, Variable.isMarked v.1 = false) (name value : String) :
    ofVariables (before ++ (name, value) :: after) = Variable.tree name value := by
  obtain ⟨es, hempty, htree⟩ := Variable.empty_merge_tree name value
  unfold ofVariables
  rw [List.foldl_append, List.foldl_cons, Tree.empty,
    foldl_of_unmarked fun v hv => h v (List.mem_append_left _ hv)]
  rw [Tree.empty] at hempty
  rw [hempty, foldl_of_unmarked fun v hv => h v (List.mem_append_right _ hv), htree]

end Layers

/-! ## Loading -/

namespace Surroundings

variable {files : String → FileState} {process before after : List (String × String)}
  {path content v : String} {file : Tree} {s : HostSettings} {k : SettingsKey} {y : k.Value}

/-- Settings are loaded from a file that is there if its document and the variables are read
together. -/
theorem load_eq_ok_iff (hfile : files path = .present content)
    (hyaml : Yaml.settings? content = some file) :
    Surroundings.load ⟨files, process⟩ (some path) = .ok s ↔
      Layers.settings ⟨file, Layers.ofVariables process⟩ = .ok s := by
  have hload : Surroundings.load ⟨files, process⟩ (some path) =
      (Layers.settings ⟨file, Layers.ofVariables process⟩).mapError fun m =>
        .misfit path (Layers.origin ⟨file, Layers.ofVariables process⟩ m.path) m := by
    unfold load loadLayered
    simp only [hfile, hyaml]
  rw [hload]
  constructor
  · exact eq_ok_of_mapError_eq_ok
  · intro h
    rw [h]
    rfl

/-- What a file says, laid over the defaults, leads to every key that the file has something at. -/
theorem leads_over_defaults (hyaml : Yaml.settings? content = some file)
    (hkey : (file.under? k.path).isSome = true) :
    (HostSettings.default.toTree.merge file).Leads k.path ∧
      ∃ u, (HostSettings.default.toTree.merge file).under? k.path = some u := by
  have hfile : file.Tidy := Yaml.tidy_of_settings? hyaml
  have htidy : (HostSettings.default.toTree.merge file).Tidy :=
    (HostSettings.tidy_toTree .default).merge hfile
  have hfound : ((HostSettings.default.toTree.merge file).under? k.path).isSome = true :=
    Tree.isSome_under?_merge hfile hkey
  exact ⟨htidy.leads hfound, Option.isSome_iff_exists.1 hfound⟩

/-- A file that has something at a key holds a map, so that laying nothing over it and the defaults
changes neither. -/
theorem defaults_merge_empty (hkey : (file.under? k.path).isSome = true) :
    (HostSettings.default.toTree.merge file).merge .empty =
      HostSettings.default.toTree.merge file := by
  obtain ⟨first, rest, hpath⟩ := k.exists_path_eq_cons
  obtain ⟨u, hu⟩ := Option.isSome_iff_exists.1 hkey
  obtain ⟨fs, -, rfl, -⟩ := Tree.exists_of_under?_cons (hpath ▸ hu)
  exact Tree.merge_empty _

/-- Without the variable for a key, settings are loaded from the file and the defaults. -/
theorem load_unmarked_iff (hfile : files path = .present content)
    (hyaml : Yaml.settings? content = some file) (hkey : (file.under? k.path).isSome = true)
    (hothers : ∀ x ∈ before ++ after, Variable.isMarked x.1 = false) :
    Surroundings.load ⟨files, before ++ after⟩ (some path) = .ok s ↔
      HostSettings.format.decode .layered (HostSettings.default.toTree.merge file) = .ok s := by
  rw [load_eq_ok_iff hfile hyaml, Layers.ofVariables_of_unmarked hothers]
  unfold Layers.settings Layers.merged
  rw [defaults_merge_empty hkey]

/-- With one variable that is marked, settings are loaded from what it says, laid over the file and
the defaults. -/
theorem load_one_marked_iff (hfile : files path = .present content)
    (hyaml : Yaml.settings? content = some file)
    (hothers : ∀ x ∈ before ++ after, Variable.isMarked x.1 = false) (name : String) :
    Surroundings.load ⟨files, before ++ (name, v) :: after⟩ (some path) = .ok s ↔
      HostSettings.format.decode .layered
        ((HostSettings.default.toTree.merge file).merge (Variable.tree name v)) = .ok s := by
  rw [load_eq_ok_iff hfile hyaml, Layers.ofVariables_of_one_marked hothers]
  rfl

/-- The file has something at the key, and no variable but the one for the key says anything. Then
the settings are loaded with the value of the variable at the key, and all else as it was, if the
name of the variable stands for the path to the key and its value stands for itself. Unless that
changes nothing, they are loaded so in no other case. Words for levels always stand for
themselves. -/
theorem load_override (hfile : files path = .present content)
    (hyaml : Yaml.settings? content = some file) (hkey : (file.under? k.path).isSome = true)
    (hothers : ∀ x ∈ before ++ after, Variable.isMarked x.1 = false)
    (hload : Surroundings.load ⟨files, before ++ after⟩ (some path) = .ok s)
    (hunpaired : k.Unpaired) (hvalue : k.ofText? v = some y) :
    let loaded := Surroundings.load ⟨files, before ++ (k.variableName, v) :: after⟩ (some path)
    (k.Addressable ∧ VariableValue.read v = .text v → loaded = .ok (k.set y s)) ∧
    (k.set y s ≠ s →
      (loaded = .ok (k.set y s) ↔ k.Addressable ∧ VariableValue.read v = .text v)) ∧
    ∀ sect, k = .level sect → VariableValue.read v = .text v := by
  intro loaded
  have hread := (load_unmarked_iff hfile hyaml hkey hothers).1 hload
  have hloaded := @load_one_marked_iff files before after path content v file (k.set y s) hfile
    hyaml hothers k.variableName
  obtain ⟨hleads, u, hu⟩ := leads_over_defaults hyaml hkey
  have hreached : k.Addressable ∧ VariableValue.read v = .text v → loaded = .ok (k.set y s) := by
    rintro ⟨haddressable, hself⟩
    rw [hloaded, Variable.tree, SettingsKey.path?_variableName hunpaired haddressable, hself]
    exact SettingsKey.decode_merge hread hleads hvalue
  refine ⟨hreached, fun hchange => ⟨fun hset => ?_, hreached⟩, ?_⟩
  · rw [hloaded, Variable.tree] at hset
    cases hname : Variable.path? k.variableName with
    | none =>
      -- the variable says nothing, so nothing changes
      rw [hname, defaults_merge_empty hkey, hread] at hset
      exact absurd (Except.ok.inj hset).symm hchange
    | some path' =>
      rw [hname] at hset
      obtain ⟨hlength, haddressable⟩ := SettingsKey.addressable_of_path? hunpaired hname
      obtain ⟨hsame, v', hv, hvalue'⟩ :=
        (SettingsKey.decode_merge_iff hread hleads hu hvalue hchange hlength).1 hset
      exact ⟨haddressable hsame, SettingsKey.read_eq_self hvalue hvalue' hv⟩
  · rintro sect rfl
    exact VariableValue.read_of_level hvalue

/-! ### A file with two parameters -/

/-- One parameter has a capital in its name. -/
def twoParameters : String :=
  .ofList (["init_parameters:", "  Location: a", "  timeout: b"].flatMap fun line =>
    line.toList ++ ['\n'])

/-- The settings of the file. -/
def twoParameterSettings : HostSettings :=
  ⟨.standard, .ofList [("Location", "a"), ("timeout", "b")], .default⟩

/-- What the file says. -/
def twoParameterTree : Tree :=
  .map [("init_parameters", .map [("Location", .text "a"), ("timeout", .text "b")])]

/-- A host that finds the file everywhere. -/
def twoParameterFiles : String → FileState := fun _ => .present twoParameters

theorem twoParameterFiles_apply (path : String) :
    twoParameterFiles path = .present twoParameters := rfl

theorem settings?_twoParameters : Yaml.settings? twoParameters = some twoParameterTree := by
  unfold Yaml.settings? Yaml.Node.ofString?
  rw [Yaml.marks?_of_eq_ofList (s := twoParameters) rfl]
  decide +kernel

theorem load_twoParameters :
    Surroundings.load ⟨twoParameterFiles, []⟩ (some "host.yaml") =
      .ok twoParameterSettings := by
  refine (load_eq_ok_iff (twoParameterFiles_apply _) settings?_twoParameters).2 ?_
  decide +kernel

/-- The parameter in small letters is overridden. -/
theorem load_override_example :
    Surroundings.load ⟨twoParameterFiles, [("RB__INIT_PARAMETERS__TIMEOUT", "c")]⟩
        (some "host.yaml") =
      .ok ⟨.standard, .ofList [("Location", "a"), ("timeout", "c")], .default⟩ := by
  let k : SettingsKey := .parameter "timeout"
  have hkey : (twoParameterTree.under? k.path).isSome = true := by decide +kernel
  have hunpaired : k.Unpaired := by decide +kernel
  have hname : k.variableName = "RB__INIT_PARAMETERS__TIMEOUT" := by decide +kernel
  have hload := @load_override twoParameterFiles [] [] "host.yaml" twoParameters "c"
    twoParameterTree twoParameterSettings k "c" (twoParameterFiles_apply _) settings?_twoParameters
    hkey (by simp) load_twoParameters hunpaired rfl
  have hset : k.set "c" twoParameterSettings =
      ⟨.standard, .ofList [("Location", "a"), ("timeout", "c")], .default⟩ := by decide +kernel
  rw [← hname, ← hset]
  exact hload.1 (by decide +kernel)

/-- The parameter with a capital in its name is not, though it is there to be overridden. -/
theorem override_of_capitals :
    ¬ ∀ (files : String → FileState) (path content v : String) (file : Tree) (s : HostSettings)
      (k : SettingsKey) (y : k.Value), files path = .present content →
      Yaml.settings? content = some file → (file.under? k.path).isSome = true →
      Surroundings.load ⟨files, []⟩ (some path) = .ok s → k.Unpaired → k.ofText? v = some y →
      Surroundings.load ⟨files, [(k.variableName, v)]⟩ (some path) = .ok (k.set y s) := by
  intro h
  let k : SettingsKey := .parameter "Location"
  have hkey : (twoParameterTree.under? k.path).isSome = true := by decide +kernel
  have hunpaired : k.Unpaired := by decide +kernel
  have hset := h _ "host.yaml" _ "c" _ _ k "c" (twoParameterFiles_apply _) settings?_twoParameters
    hkey load_twoParameters hunpaired rfl
  -- another parameter is loaded, and the one that is meant stays as it was
  have hadded : Surroundings.load ⟨twoParameterFiles, [(k.variableName, "c")]⟩
      (some "host.yaml") = .ok ⟨.standard,
        .ofList [("Location", "a"), ("location", "c"), ("timeout", "b")], .default⟩ := by
    refine (load_eq_ok_iff (twoParameterFiles_apply _) settings?_twoParameters).2 ?_
    decide +kernel
  rw [hadded] at hset
  exact absurd (Except.ok.inj hset) (by decide +kernel)

end Surroundings

end Locator
