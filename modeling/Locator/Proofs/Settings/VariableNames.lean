import Locator.Proofs.Settings.Keys
import Locator.Proofs.Text.Letters
import Locator.Settings.Layers

/-!
# Names of variables

The variable that is meant to override a key is called by the path of the key, in capitals, with
`__` between its parts. What such a name is read as need not be that path: the capitals are
lowered again, a point divides a part in two, a pair of underscores may stand one place too early,
and blanks at the end are dropped.

* `SettingsKey.variableName`: the name of the variable for a key;
* `SettingsKey.Addressable`: the keys whose names survive all this;
* `SettingsKey.path?_variableName`: the name of such a key is read as its path;
* `SettingsKey.addressable_of_path?`: the name of no other key is, nor is it read as a shorter path.
-/

namespace Locator

/-! ## Reading names -/

namespace VariableValue

/-- Blanks are dropped at the end only, where a text begins with a character that stays. -/
theorem trim_append {first last : Char} (hfirst : Text.isBlank first = false)
    (hlast : Text.isBlank last = false) (middle cs : List Char) :
    trim (first :: middle ++ last :: cs) =
      first :: middle ++ last :: cs.rdropWhile Text.isBlank := by
  have hend : ∀ l : List Char, (l ++ last :: cs).rdropWhile Text.isBlank =
      l ++ last :: cs.rdropWhile Text.isBlank := by
    intro l
    unfold List.rdropWhile
    rw [List.reverse_append, List.reverse_cons, List.append_assoc, List.dropWhile_append]
    by_cases hblank : (cs.reverse.dropWhile Text.isBlank).isEmpty
    · -- there are blanks only, and they go
      rw [if_pos hblank, List.isEmpty_iff.1 hblank, List.singleton_append,
        List.dropWhile_cons_of_neg (by simp [hlast])]
      simp
    · rw [if_neg hblank]
      simp
  unfold trim
  rw [List.cons_append, List.dropWhile_cons_of_neg (by simp [hfirst]), ← List.cons_append]
  exact hend (first :: middle)

end VariableValue

namespace Variable

/-- A pair of underscores stands in a list. -/
def HasPair (cs : List Char) : Prop := ['_', '_'] <:+: cs

/-- Raising a text to capitals brings in no pair of underscores. -/
theorem hasPair_of_raised {cs : List Char} (h : HasPair (Text.raised cs)) : HasPair cs := by
  obtain ⟨before, after, h⟩ := h
  obtain ⟨l, r, rfl, hl, -⟩ := List.map_eq_append_iff.1 h.symm
  obtain ⟨x, y, rfl, -, hy⟩ := List.map_eq_append_iff.1 hl
  obtain ⟨c, y, rfl, hc, hy⟩ := List.map_eq_cons_iff.1 hy
  obtain ⟨d, y, rfl, hd, hy⟩ := List.map_eq_cons_iff.1 hy
  obtain rfl := List.map_eq_nil_iff.1 hy
  rw [(Text.toUpper_eq_iff (by decide)).1 hc, (Text.toUpper_eq_iff (by decide)).1 hd]
  exact ⟨x, r, rfl⟩

theorem dotted_cons {c : Char} {r : List Char} (h : c = '_' → r.head? ≠ some '_') :
    dotted (c :: r) = c :: dotted r := by
  rw [dotted]
  rintro r' rfl rfl
  exact h rfl rfl

/-- What holds no pair of underscores is left as it is, unless a pair is where it ends. -/
theorem dotted_append {cs r : List Char} (hpair : ¬ HasPair cs)
    (hseam : cs.getLast? = some '_' → r.head? ≠ some '_') : dotted (cs ++ r) = cs ++ dotted r := by
  induction cs with
  | nil => rfl
  | cons c cs ih =>
    have hrest : ¬ HasPair cs := fun ⟨before, after, h⟩ => hpair ⟨c :: before, after, by simp [← h]⟩
    rw [List.cons_append, dotted_cons, ih hrest]
    · rfl
    · intro hlast
      refine hseam ?_
      cases cs with
      | nil => cases hlast
      | cons d cs => rwa [List.getLast?_cons_cons]
    · rintro rfl
      cases cs with
      | nil => exact hseam rfl
      | cons d cs =>
        intro hd
        have hd' : d = '_' := Option.some.inj hd
        exact hpair ⟨[], cs, by rw [hd']; rfl⟩

/-- A part without a pair that does not end with an underscore stays as it is in front of what
follows. -/
theorem dotted_raised_append {cs : List Char} (hpair : ¬ HasPair cs)
    (hlast : cs.getLast? ≠ some '_') (r : List Char) :
    dotted (Text.raised cs ++ r) = Text.raised cs ++ dotted r := by
  refine dotted_append (mt hasPair_of_raised hpair) fun h => absurd ?_ hlast
  unfold Text.raised at h
  rw [List.getLast?_map] at h
  obtain ⟨c, hc, hraised⟩ := Option.map_eq_some_iff.1 h
  rw [hc, (Text.toUpper_eq_iff (by decide)).1 hraised]

/-- A text without a pair stays as it is. -/
theorem dotted_of_not_hasPair {cs : List Char} (hpair : ¬ HasPair cs) : dotted cs = cs := by
  have h := dotted_append (r := []) hpair fun _ => by simp
  rwa [List.append_nil, dotted, List.append_nil] at h

/-! ## Parts of names -/

/-- A character that is no point belongs to the first part. -/
theorem parts_cons_of_ne {c : Char} (h : c ≠ '.') (r : List Char) :
    ∃ first others, parts r = first :: others ∧ parts (c :: r) = (c :: first) :: others := by
  induction r generalizing c with
  | nil => exact ⟨[], [], rfl, by simp [parts]⟩
  | cons d r ih =>
    by_cases hd : d = '.'
    · subst hd
      exact ⟨[], parts r, rfl, by simp [parts]⟩
    · obtain ⟨first, others, -, hparts⟩ := ih hd
      refine ⟨d :: first, others, hparts, ?_⟩
      rw [parts, hparts]
      exact h

theorem parts_ne_nil (cs : List Char) : parts cs ≠ [] := by
  cases cs with
  | nil => exact List.cons_ne_nil _ _
  | cons c r =>
    by_cases hc : c = '.'
    · subst hc
      exact List.cons_ne_nil _ _
    · obtain ⟨first, others, -, hparts⟩ := parts_cons_of_ne hc r
      rw [hparts]
      exact List.cons_ne_nil _ _

/-- A point separates parts. -/
theorem parts_append_point (cs r : List Char) : parts (cs ++ '.' :: r) = parts cs ++ parts r := by
  induction cs with
  | nil => rfl
  | cons c cs ih =>
    by_cases hc : c = '.'
    · subst hc
      exact congrArg ([] :: ·) ih
    · obtain ⟨first, others, hcs, hparts⟩ := parts_cons_of_ne hc cs
      obtain ⟨first', others', hall, hparts'⟩ := parts_cons_of_ne hc (cs ++ '.' :: r)
      rw [ih, hcs] at hall
      obtain ⟨rfl, rfl⟩ := List.cons.inj hall
      rw [List.cons_append, hparts', hparts]
      rfl

theorem parts_of_no_point {cs : List Char} (h : '.' ∉ cs) : parts cs = [cs] := by
  induction cs with
  | nil => rfl
  | cons c cs ih =>
    obtain ⟨first, others, hcs, hparts⟩ := parts_cons_of_ne (List.ne_of_not_mem_cons h).symm cs
    rw [ih (List.not_mem_of_not_mem_cons h)] at hcs
    obtain ⟨rfl, rfl⟩ := List.cons.inj hcs
    exact hparts

/-- A name is one part if it holds no point. -/
theorem parts_eq_singleton_iff {cs key : List Char} : parts cs = [key] ↔ cs = key ∧ '.' ∉ cs := by
  constructor
  · intro h
    by_cases hpoint : '.' ∈ cs
    · obtain ⟨before, after, rfl⟩ := List.append_of_mem hpoint
      rw [parts_append_point] at h
      have hlength := congrArg List.length h
      have hbefore := List.length_pos_of_ne_nil (parts_ne_nil before)
      have hafter := List.length_pos_of_ne_nil (parts_ne_nil after)
      rw [List.length_append, List.length_singleton] at hlength
      omega
    · rw [parts_of_no_point hpoint] at h
      exact ⟨List.singleton_inj.1 h, hpoint⟩
  · rintro ⟨rfl, hpoint⟩
    exact parts_of_no_point hpoint

/-- The path of named parts, unless one of them is empty. -/
def pathOf? (keys : List (List Char)) : Option (List String) :=
  if keys.any (·.isEmpty) then none else some (keys.map String.ofList)

/-- Keys are a path exactly if none of them is empty. -/
theorem pathOf?_eq_some_iff {keys : List (List Char)} {path : List String} :
    pathOf? keys = some path ↔ [] ∉ keys ∧ keys = path.map String.toList := by
  have hempty : keys.any (·.isEmpty) = true ↔ [] ∈ keys := by
    simp [List.any_eq_true]
  have hnamed : keys.map String.ofList = path ↔ keys = path.map String.toList := by
    constructor
    · rintro rfl
      simp [Function.comp_def]
    · rintro rfl
      simp [Function.comp_def]
  unfold pathOf?
  by_cases h : [] ∈ keys
  · rw [if_pos (hempty.2 h)]
    exact ⟨nofun, fun hkeys => absurd h hkeys.1⟩
  · rw [if_neg (mt hempty.1 h), Option.some_inj, hnamed]
    exact ⟨fun hkeys => ⟨h, hkeys⟩, And.right⟩

/-- A name is read in three steps: the mark is taken off, pairs of underscores become points, and
the parts between points are taken in lower case. -/
theorem path?_eq {name : String} {rest pointed : List Char}
    (hmark : VariableValue.trim name.toList = variablePrefix.toList ++ rest)
    (hpointed : VariableValue.trim (dotted rest) = pointed) :
    path? name = pathOf? (parts (lowered pointed)) := by
  have hafter : afterMark? (variablePrefix.toList ++ rest) = some rest := by
    simp [afterMark?]
  unfold path?
  rw [hmark, hafter, ← hpointed]
  rfl

/-- No name stands for the empty path. -/
theorem path?_ne_nil {name : String} {path : List String} (h : path? name = some path) :
    path ≠ [] := by
  obtain ⟨rest, -, hpath⟩ := Option.bind_eq_some_iff.1 h
  obtain ⟨-, hkeys⟩ := pathOf?_eq_some_iff.1 hpath
  rintro rfl
  exact parts_ne_nil _ hkeys

end Variable

/-! ## Names of keys -/

namespace SettingsKey

/-- The name of the variable that is meant to override the key. -/
def variableName (k : SettingsKey) : String :=
  variablePrefix ++ "__".intercalate (k.path.map String.toUpper)

/-- A part of a path without points and capitals. -/
def IsPlain (part : String) : Prop := part ≠ "" ∧ ∀ c ∈ part.toList, c ≠ '.' ∧ c.isUpper = false

/-- A part is plain if it is one part again after its letters have been lowered. -/
theorem isPlain_iff {part : String} : IsPlain part ↔
    part.toList ≠ [] ∧ Variable.parts (lowered part.toList) = [part.toList] := by
  rw [Variable.parts_eq_singleton_iff, Text.lowered_eq_self_iff]
  refine and_congr (not_congr String.toList_eq_nil_iff.symm) ⟨fun h => ?_, fun ⟨h, hpoint⟩ => ?_⟩
  · have hlowered : ∀ c ∈ part.toList, c.isUpper = false := fun c hc => (h c hc).2
    rw [Text.lowered_eq_self_iff.2 hlowered]
    exact ⟨hlowered, fun hpoint => (h '.' hpoint).1 rfl⟩
  · rw [Text.lowered_eq_self_iff.2 h] at hpoint
    exact fun c hc => ⟨fun heq => hpoint (heq ▸ hc), h c hc⟩

/-- The name of the variable stands for the path to the key: what is free in the path has neither
points nor capitals, a section does not end with an underscore and a parameter does not end with a
blank. -/
def Addressable : SettingsKey → Prop
  | level sect => IsPlain sect ∧ sect.toList.getLast? ≠ some '_'
  | parameter name => IsPlain name ∧ name.toList.getLast?.any Text.isBlank = false
  | connector | principal | credentials => True

instance (part : String) : Decidable (IsPlain part) :=
  @instDecidableAnd (part ≠ "") (∀ c ∈ part.toList, c ≠ '.' ∧ c.isUpper = false) inferInstance
    (List.decidableBAll _ _)

instance : (k : SettingsKey) → Decidable k.Addressable
  | level sect => inferInstanceAs (Decidable (IsPlain sect ∧ sect.toList.getLast? ≠ some '_'))
  | parameter name => inferInstanceAs
      (Decidable (IsPlain name ∧ name.toList.getLast?.any Text.isBlank = false))
  | connector | principal | credentials => inferInstanceAs (Decidable True)

open Variable

/-- No part of the path holds a pair of underscores. -/
def Unpaired (k : SettingsKey) : Prop := ∀ part ∈ k.path, ¬ HasPair part.toList

instance (k : SettingsKey) : Decidable k.Unpaired :=
  @List.decidableBAll _ _
    (fun part => inferInstanceAs (Decidable (¬ ['_', '_'] <:+: String.toList part))) k.path

/-- The name of a variable is the prefix and the parts of the path in capitals. -/
theorem toList_variableName (k : SettingsKey) : k.variableName.toList = variablePrefix.toList ++
    ['_', '_'].intercalate (k.path.map fun part => Text.raised part.toList) := by
  unfold variableName Text.raised
  rw [String.toList_append, String.toList_intercalate, List.map_map]
  simp [Function.comp_def, String.toUpper, String.toList_map]

/-- The name for a section, as far as the section is left open. -/
theorem path?_level_of_dotted {sect : String} {cs : List Char} (last : List Char)
    (hdotted : dotted (Text.raised sect.toList ++ "__CONSOLE_LEVEL".toList) =
      Text.raised cs ++ '.' :: last)
    (hlast : last.rdropWhile Text.isBlank = last) (hpoint : '.' ∉ lowered last) :
    path? (level sect).variableName =
      pathOf? ("logging".toList :: (parts (lowered cs) ++ [lowered last])) := by
  let rest : List Char :=
    "LOGGING__".toList ++ (Text.raised sect.toList ++ "__CONSOLE_LEVEL".toList)
  have hname : (level sect).variableName.toList =
      'R' :: ("B__LOGGING__".toList ++ Text.raised sect.toList ++ ['_']) ++
        '_' :: "CONSOLE_LEVEL".toList := by
    rw [toList_variableName]
    simp [path, List.intercalate, variablePrefix, Text.raised]
  have hmark : VariableValue.trim (level sect).variableName.toList =
      variablePrefix.toList ++ rest := by
    have hfixed : "CONSOLE_LEVEL".toList.rdropWhile Text.isBlank = "CONSOLE_LEVEL".toList := by
      decide
    rw [hname, VariableValue.trim_append (by decide) (by decide), hfixed]
    simp [rest, variablePrefix]
  have hrest : dotted rest = 'L' :: ("OGGING.".toList ++ Text.raised cs) ++ '.' :: last := by
    show "LOGGING.".toList ++ dotted (Text.raised sect.toList ++ "__CONSOLE_LEVEL".toList) = _
    rw [hdotted]
    simp
  have hpointed : VariableValue.trim (dotted rest) =
      'L' :: ("OGGING.".toList ++ Text.raised cs) ++ '.' :: last := by
    rw [hrest, VariableValue.trim_append (by decide) (by decide), hlast]
  rw [path?_eq hmark hpointed]
  refine congrArg pathOf? ?_
  have hlowered : lowered ('L' :: ("OGGING.".toList ++ Text.raised cs) ++ '.' :: last) =
      "logging".toList ++ '.' :: (lowered cs ++ '.' :: lowered last) := by
    rw [← Text.lowered_raised cs]
    simp [lowered]
  rw [hlowered, parts_append_point, parts_append_point, parts_of_no_point hpoint]
  rfl

/-- A section that ends with an underscore has its pair one place too early. -/
theorem path?_level {sect : String} (hpair : ¬ HasPair sect.toList) :
    (sect.toList.getLast? ≠ some '_' ∧ path? (level sect).variableName = pathOf?
      ("logging".toList :: (parts (lowered sect.toList) ++ ["console_level".toList]))) ∨
    (sect.toList.getLast? = some '_' ∧ ∃ cs, path? (level sect).variableName = pathOf?
      ("logging".toList :: (parts (lowered cs) ++ ["_console_level".toList]))) := by
  by_cases hlast : sect.toList.getLast? = some '_'
  · refine .inr ⟨hlast, ?_⟩
    obtain ⟨cs, hcs⟩ := List.getLast?_eq_some_iff.1 hlast
    refine ⟨cs, path?_level_of_dotted "_CONSOLE_LEVEL".toList ?_ (by decide) (by decide)⟩
    rw [hcs] at hpair ⊢
    have hfirst : ¬ HasPair cs := fun h => hpair (h.trans (List.prefix_append ..).isInfix)
    have hsingle : cs.getLast? ≠ some '_' := by
      intro h
      obtain ⟨l, rfl⟩ := List.getLast?_eq_some_iff.1 h
      exact hpair ⟨l, [], by simp⟩
    have hsplit : Text.raised (cs ++ ['_']) ++ "__CONSOLE_LEVEL".toList =
        Text.raised cs ++ '_' :: "__CONSOLE_LEVEL".toList := by
      simp [Text.raised]
    rw [hsplit, dotted_raised_append hfirst hsingle]
    rfl
  · refine .inl ⟨hlast, path?_level_of_dotted "CONSOLE_LEVEL".toList ?_ (by decide) (by decide)⟩
    rw [dotted_raised_append hpair hlast]
    rfl

/-- A parameter's variable stands for the lowered name, split at its points, without blanks at the
end. -/
theorem path?_parameter {name : String} (hpair : ¬ HasPair name.toList) :
    path? (parameter name).variableName = pathOf? ("init_parameters".toList ::
      parts (lowered (name.toList.rdropWhile Text.isBlank))) := by
  let cs : List Char := name.toList.rdropWhile Text.isBlank
  have hname : (parameter name).variableName.toList =
      'R' :: "B__INIT_PARAMETERS_".toList ++ '_' :: Text.raised name.toList := by
    rw [toList_variableName]
    simp [path, List.intercalate, variablePrefix, Text.raised]
  have hmark : VariableValue.trim (parameter name).variableName.toList =
      variablePrefix.toList ++ ("INIT_PARAMETERS__".toList ++ Text.raised cs) := by
    rw [hname, VariableValue.trim_append (by decide) (by decide), Text.rdropWhile_raised]
    rfl
  have hpair' : ¬ HasPair (Text.raised cs) := by
    intro h
    exact hpair ((hasPair_of_raised h).trans (List.rdropWhile_prefix _ _).isInfix)
  have hpointed : VariableValue.trim (dotted ("INIT_PARAMETERS__".toList ++ Text.raised cs)) =
      "INIT_PARAMETERS".toList ++ '.' :: Text.raised cs := by
    have hdotted : dotted ("INIT_PARAMETERS__".toList ++ Text.raised cs) =
        'I' :: "NIT_PARAMETERS".toList ++ '.' :: dotted (Text.raised cs) := rfl
    rw [hdotted, dotted_of_not_hasPair hpair', VariableValue.trim_append (by decide) (by decide),
      Text.rdropWhile_raised, List.rdropWhile_idempotent]
    rfl
  rw [path?_eq hmark hpointed]
  refine congrArg pathOf? ?_
  have hlowered : lowered ("INIT_PARAMETERS".toList ++ '.' :: Text.raised cs) =
      "init_parameters".toList ++ '.' :: lowered cs := by
    rw [← Text.lowered_raised cs]
    simp [lowered]
  rw [hlowered, parts_append_point]
  rfl

/-- The name of the variable for an addressable key stands for the path to the key. -/
theorem path?_variableName {k : SettingsKey} (hunpaired : k.Unpaired) (h : k.Addressable) :
    path? k.variableName = some k.path := by
  cases k with
  | level sect =>
    obtain ⟨hplain, hlast⟩ := h
    obtain ⟨hne, hparts⟩ := isPlain_iff.1 hplain
    obtain ⟨-, hpath⟩ | ⟨hlast', -⟩ := path?_level (hunpaired sect (by simp [path]))
    · rw [hpath, hparts, pathOf?_eq_some_iff]
      exact ⟨by simpa using Ne.symm hne, rfl⟩
    · exact absurd hlast' hlast
  | parameter name =>
    obtain ⟨hplain, hlast⟩ := h
    obtain ⟨hne, hparts⟩ := isPlain_iff.1 hplain
    have hkept : name.toList.rdropWhile Text.isBlank = name.toList := by
      refine List.rdropWhile_eq_self_iff.2 fun hl => ?_
      rw [List.getLast?_eq_some_getLast hl, Option.any_some] at hlast
      rw [hlast]
      exact Bool.false_ne_true
    rw [path?_parameter (hunpaired name (by simp [path])), hkept, hparts, pathOf?_eq_some_iff]
    exact ⟨by simpa using Ne.symm hne, rfl⟩
  | connector | principal | credentials => decide +kernel

/-- The path that the name for a section stands for has three parts or more, and is the path to its
level only if the section is plain and does not end with an underscore. -/
theorem addressable_of_path?_level {sect : String} {path' : List String}
    (hpair : ¬ HasPair sect.toList) (h : path? (level sect).variableName = some path') :
    3 ≤ path'.length ∧ (path' = (level sect).path → (level sect).Addressable) := by
  obtain ⟨hlast, hpath⟩ | ⟨-, cs, hpath⟩ := path?_level hpair
  · rw [hpath, pathOf?_eq_some_iff] at h
    obtain ⟨hkeys, hnames⟩ := h
    have hparts := List.length_pos_of_ne_nil (parts_ne_nil (lowered sect.toList))
    have hlength := congrArg List.length hnames
    simp only [List.length_cons, List.length_append, List.length_nil, List.length_map] at hlength
    refine ⟨by omega, ?_⟩
    rintro rfl
    have hnamed : parts (lowered sect.toList) ++ ["console_level".toList] =
        [sect.toList] ++ ["console_level".toList] := (List.cons.inj hnames).2
    have hsect := List.append_cancel_right hnamed
    refine ⟨isPlain_iff.2 ⟨fun hempty => hkeys ?_, hsect⟩, hlast⟩
    rw [hsect, hempty]
    simp
  · rw [hpath, pathOf?_eq_some_iff] at h
    obtain ⟨-, hnames⟩ := h
    have hparts := List.length_pos_of_ne_nil (parts_ne_nil (lowered cs))
    have hlength := congrArg List.length hnames
    simp only [List.length_cons, List.length_append, List.length_nil, List.length_map] at hlength
    refine ⟨by omega, ?_⟩
    rintro rfl
    -- the last names differ
    have hnamed : parts (lowered cs) ++ ["_console_level".toList] =
        [sect.toList] ++ ["console_level".toList] := (List.cons.inj hnames).2
    exact absurd (List.append_inj_right' hnamed rfl) (by decide)

/-- The path that the name for a parameter stands for has two parts or more, and is the path to the
parameter only if the parameter is plain and does not end with a blank. -/
theorem addressable_of_path?_parameter {name : String} {path' : List String}
    (hpair : ¬ HasPair name.toList) (h : path? (parameter name).variableName = some path') :
    2 ≤ path'.length ∧ (path' = (parameter name).path → (parameter name).Addressable) := by
  rw [path?_parameter hpair, pathOf?_eq_some_iff] at h
  obtain ⟨hkeys, hnames⟩ := h
  have hparts := List.length_pos_of_ne_nil
    (parts_ne_nil (lowered (name.toList.rdropWhile Text.isBlank)))
  have hlength := congrArg List.length hnames
  simp only [List.length_cons, List.length_map] at hlength
  refine ⟨by omega, ?_⟩
  rintro rfl
  have hnamed : parts (lowered (name.toList.rdropWhile Text.isBlank)) = [name.toList] :=
    (List.cons.inj hnames).2
  -- nothing was dropped, since the part is as long as the name
  have hsame : name.toList.rdropWhile Text.isBlank = name.toList := by
    refine (List.rdropWhile_prefix _ _).eq_of_length ?_
    have hpart := (parts_eq_singleton_iff.1 hnamed).1
    rw [← List.length_map (f := Char.toLower)]
    exact congrArg List.length hpart
  rw [hsame] at hnamed
  have hne : name.toList ≠ [] := by
    intro hempty
    rw [hsame, hnamed, hempty] at hkeys
    exact hkeys (by simp)
  refine ⟨isPlain_iff.2 ⟨hne, hnamed⟩, ?_⟩
  rw [List.getLast?_eq_some_getLast hne, Option.any_some]
  exact Bool.eq_false_iff.2 (List.rdropWhile_eq_self_iff.1 hsame hne)

/-- The name of the variable for a key stands for no shorter path than the one to the key, and for
that one only if the key is addressable. -/
theorem addressable_of_path? {k : SettingsKey} (hunpaired : k.Unpaired) {path' : List String}
    (h : path? k.variableName = some path') :
    k.path.length ≤ path'.length ∧ (path' = k.path → k.Addressable) := by
  cases k with
  | level sect => exact addressable_of_path?_level (hunpaired sect (by simp [path])) h
  | parameter name => exact addressable_of_path?_parameter (hunpaired name (by simp [path])) h
  | connector | principal | credentials =>
    rw [path?_variableName hunpaired trivial] at h
    cases h
    exact ⟨le_refl _, fun _ => trivial⟩

end SettingsKey

end Locator
