import Locator.Loading
import Locator.Proofs.Host.Secrecy
import Locator.Proofs.Partition.Lossless
import Locator.Proofs.Settings.Abridged

/-!
# Printed settings hide secrets and nothing else

A host prints its settings with every secret replaced by the same text. What is printed is the same
for settings that differ in secrets only, and it is different for all others.

* `Tree.masked`: a tree in which the texts at certain places are replaced, and nothing else;
* `HostSettings.isSecretPlace`: where secrets stand in the tree of settings;
* `masked_toTree`, for bindings, static directories and whole settings: the tree that is printed is
  the tree of the settings, masked at the places of secrets;
* `redacted_eq_iff`, for the same three: what is printed tells everything but secrets apart;
* `HostSettings.listedTree`: the tree of settings with its sections in the order of a listing;
* `Yaml.Preserves`: a tree is read back from its document; `Yaml.document_eq_iff`: documents of such
  trees are equal only for equal trees;
* `HostSettings.printed_hides_secrets_only`: all of it.
-/

namespace Locator

/-! ## Trees with masked texts -/

namespace Tree

mutual

/-- The tree with the texts at certain places replaced. Places are told by their paths from the
root. -/
def masked (secret : List String → Bool) : Tree → Tree
  | .text s => .text (if secret [] then redacted else s)
  | .list items => .list (maskedItems secret 0 items)
  | .map entries => .map (maskedEntries secret entries)
  | .null => .null
  | .bool b => .bool b
  | .unsigned n => .unsigned n
  | .signed n => .signed n
  | .float x => .float x

/-- The items of a list from a position on, masked. -/
def maskedItems (secret : List String → Bool) : Nat → List Tree → List Tree
  | _, [] => []
  | i, t :: rest =>
    t.masked (fun path => secret (toString i :: path)) :: maskedItems secret (i + 1) rest

/-- The entries of a map, masked. -/
def maskedEntries (secret : List String → Bool) : List (String × Tree) → List (String × Tree)
  | [] => []
  | (name, t) :: rest =>
    (name, t.masked fun path => secret (name :: path)) :: maskedEntries secret rest

end

mutual

/-- Where nothing is secret, nothing is replaced. -/
theorem masked_of_open (t : Tree) {secret : List String → Bool} (h : ∀ path, secret path = false) :
    t.masked secret = t := by
  cases t with
  | text s => rw [masked, h, if_neg Bool.false_ne_true]
  | list items => rw [masked, maskedItems_of_open items 0 h]
  | map entries => rw [masked, maskedEntries_of_open entries h]
  | null => rw [masked]
  | bool b => rw [masked]
  | unsigned n => rw [masked]
  | signed n => rw [masked]
  | float x => rw [masked]

/-- With nothing secret, no item is hidden. -/
theorem maskedItems_of_open (items : List Tree) (i : Nat) {secret : List String → Bool}
    (h : ∀ path, secret path = false) : maskedItems secret i items = items := by
  cases items with
  | nil => rw [maskedItems]
  | cons t rest =>
    rw [maskedItems, masked_of_open t fun path => h _, maskedItems_of_open rest (i + 1) h]

theorem maskedEntries_of_open (entries : List (String × Tree)) {secret : List String → Bool}
    (h : ∀ path, secret path = false) : maskedEntries secret entries = entries := by
  cases entries with
  | nil => rw [maskedEntries]
  | cons e rest =>
    rw [maskedEntries, masked_of_open e.2 fun path => h _, maskedEntries_of_open rest h]

end

/-- Each item of a list is masked at the same places. -/
theorem maskedItems_map {α : Type} {secret inner : List String → Bool} {write : α → Tree}
    (h : ∀ position path, secret (position :: path) = inner path) (i : Nat) (xs : List α) :
    maskedItems secret i (xs.map write) = xs.map fun x => (write x).masked inner := by
  induction xs generalizing i with
  | nil => rw [List.map_nil, maskedItems, List.map_nil]
  | cons x rest ih =>
    have hinner : (fun path => secret (toString i :: path)) = inner := funext (h (toString i))
    rw [List.map_cons, maskedItems, ih, hinner, List.map_cons]

/-- In a map of texts, those under secret names are hidden. -/
theorem masked_textMap (secret : List String → Bool) (m : NameMap String) :
    (textMap m).masked secret =
      textMap (m.mapValues fun n v => if secret [n] then redacted else v) := by
  have hentries : ∀ l : List (String × String),
      maskedEntries secret (l.map fun e => (e.1, .text e.2)) =
        l.map fun e => (e.1, .text (if secret [e.1] then redacted else e.2)) := by
    intro l
    induction l with
    | nil => rw [List.map_nil, maskedEntries, List.map_nil]
    | cons e rest ih => rw [List.map_cons, maskedEntries, ih, masked, List.map_cons]
  unfold textMap
  rw [masked, hentries]
  simp only [NameMap.mapValues, List.map_map, Function.comp_def]

theorem masked_optionText (secret : List String → Bool) (s? : Option String) :
    (optionText s?).masked secret =
      optionText (s?.map fun s => if secret [] then redacted else s) := by
  cases s? with
  | none => simp only [optionText, masked, Option.map_none]
  | some s => simp only [optionText, masked, Option.map_some]

end Tree

/-! ## The places of secrets -/

/-- The place of a secret in the tree of a binding: below the users. -/
def BindingSettings.isSecretPlace : List String → Bool
  | ["users", _] => true
  | _ => false

/-- The place of a secret in the tree of a static directory. -/
def StaticSettings.isSecretPlace : List String → Bool
  | ["credentials"] => true
  | "bindings" :: _ :: path => BindingSettings.isSecretPlace path
  | _ => false

/-- The place of a secret in the tree of settings. -/
def HostSettings.isSecretPlace : List String → Bool
  | ["init_parameters", name] => name = StaticConnector.credentialsKey
  | "directory" :: "static_directory" :: path => StaticSettings.isSecretPlace path
  | _ => false

/-! ## What differs when secrets are hidden -/

/-- Two options hold something or nothing alike exactly if they look the same once what they hold is
hidden. -/
theorem map_const_eq_iff {α β : Type} (c : β) {x? y? : Option α} :
    (x?.map fun _ => c) = (y?.map fun _ => c) ↔ x?.isSome = y?.isSome := by
  cases x? <;> cases y? <;> simp

/-- Two lists look the same exactly if their members do, one by one. -/
theorem map_eq_map_iff {α β : Type} {f : α → β} {alike : α → α → Prop}
    (h : ∀ x y, f x = f y ↔ alike x y) {xs ys : List α} :
    xs.map f = ys.map f ↔ List.Forall₂ alike xs ys := by
  rw [← List.forall₂_eq_eq_eq, List.forall₂_map_left_iff, List.forall₂_map_right_iff]
  simp only [h]

namespace NameMap

variable {α β : Type}

/-- Two maps list the same names exactly if they look the same once all values are hidden. -/
theorem mapValues_const_eq_iff (c : β) {m m' : NameMap α} :
    (m.mapValues fun _ _ => c) = (m'.mapValues fun _ _ => c) ↔ m.names = m'.names := by
  constructor
  · intro h
    rw [← names_mapValues (fun _ _ => c) m, h, names_mapValues]
  · intro h
    refine ext_get? fun n => ?_
    rw [get?_mapValues, get?_mapValues, map_const_eq_iff]
    show m.contains n = m'.contains n
    rw [Bool.eq_iff_iff, ← mem_names_iff, ← mem_names_iff, h]

end NameMap

/-! ## Bindings -/

namespace BindingSettings

/-- Hiding the secret places of a binding's tree gives the tree of the redacted binding. -/
theorem masked_toTree (b : BindingSettings) : b.toTree.masked isSecretPlace = b.redacted.toTree := by
  have hname : isSecretPlace ["name"] = false := rfl
  have hdescriptors : ∀ path, isSecretPlace ("descriptors" :: path) = false := by
    intro path
    simp [isSecretPlace]
  have husers : ∀ n, isSecretPlace ["users", n] = true := fun n => rfl
  unfold toTree
  simp only [Tree.masked, Tree.maskedEntries, hname, Bool.false_eq_true, if_false]
  rw [Tree.masked_of_open _ hdescriptors, Tree.masked_textMap]
  simp only [husers, if_true]
  rfl

/-- Redacted bindings are equal exactly if the bindings differ in secrets only. -/
theorem redacted_eq_iff {b b' : BindingSettings} : b.redacted = b'.redacted ↔ b.SameButSecrets b' := by
  have hparts : b.redacted = b'.redacted ↔ b.name = b'.name ∧ b.descriptors = b'.descriptors ∧
      (b.users.mapValues fun _ _ => Locator.redacted) =
        b'.users.mapValues fun _ _ => Locator.redacted := by
    simp only [redacted, mk.injEq]
  rw [hparts, NameMap.mapValues_const_eq_iff, sameButSecrets_iff]

theorem redacted_redacted (b : BindingSettings) : b.redacted.redacted = b.redacted := by
  rw [redacted_eq_iff]
  exact ⟨rfl, rfl, NameMap.names_mapValues _ _⟩

end BindingSettings

/-! ## Static directories -/

namespace StaticSettings

theorem masked_toTree (s : StaticSettings) : s.toTree.masked isSecretPlace = s.redacted.toTree := by
  have hprincipal : ∀ path, isSecretPlace ("principal" :: path) = false := by
    intro path
    simp [isSecretPlace]
  have hcredentials : isSecretPlace ["credentials"] = true := rfl
  have hbindings : ∀ position path,
      isSecretPlace ("bindings" :: position :: path) = BindingSettings.isSecretPlace path :=
    fun position path => rfl
  unfold toTree
  simp only [Tree.masked, Tree.maskedEntries]
  rw [Tree.masked_of_open _ hprincipal, Tree.masked_optionText, Tree.maskedItems_map hbindings]
  simp only [hcredentials, if_true, BindingSettings.masked_toTree]
  simp only [redacted, List.map_map, Function.comp_def]

theorem redacted_eq_iff {s s' : StaticSettings} : s.redacted = s'.redacted ↔ s.SameButSecrets s' := by
  have hparts : s.redacted = s'.redacted ↔ s.principal? = s'.principal? ∧
      (s.credentials?.map fun _ => Locator.redacted) =
        (s'.credentials?.map fun _ => Locator.redacted) ∧
      s.bindings.map (·.redacted) = s'.bindings.map (·.redacted) := by
    simp only [redacted, mk.injEq]
  rw [hparts, map_const_eq_iff, map_eq_map_iff fun _ _ => BindingSettings.redacted_eq_iff,
    sameButSecrets_iff]

theorem redacted_redacted (s : StaticSettings) : s.redacted.redacted = s.redacted := by
  simp only [redacted, List.map_map, Function.comp_def, BindingSettings.redacted_redacted,
    Option.map_map]

end StaticSettings

/-! ## Documents that are read as they were written -/

/-- A document that is written of the tree is read as the tree. -/
def Yaml.Preserves (t : Tree) : Prop := Yaml.settings? (Yaml.Printer.document t) = some t

/-- The marks of a document that is given by its characters. -/
theorem Yaml.marks?_of_eq_ofList {s : String} {cs : List Char} (h : s = String.ofList cs) :
    marks? s =
      (let cs := match cs with
        | '\ufeff' :: r => r
        | cs => cs
      if cs.all isAllowed then some (placed 0 0 0 (unifyBreaks cs)) else none) := by
  have hchars : cs = s.toList := by rw [h, String.toList_ofList]
  subst hchars
  rfl

/-- Documents that are read as they were written are the same exactly if they were written of the
same tree. -/
theorem Yaml.document_eq_iff {t t' : Tree} (h : Yaml.Preserves t) (h' : Yaml.Preserves t') :
    Yaml.Printer.document t = Yaml.Printer.document t' ↔ t = t' := by
  constructor
  · intro heq
    unfold Yaml.Preserves at h h'
    rw [heq, h'] at h
    exact (Option.some.inj h).symm
  · intro heq
    rw [heq]

/-! ## Whole settings -/

namespace HostSettings

/-- Only the credentials among the parameters are hidden, and only if they are there. -/
theorem get?_redactedParameters (p : Parameters) (n : String) :
    (redactedParameters p).get? n =
      if n = StaticConnector.credentialsKey then (p.get? n).map fun _ => Locator.redacted
      else p.get? n := by
  unfold redactedParameters
  cases hp : p.get? StaticConnector.credentialsKey with
  | none =>
    rw [if_neg (by simp)]
    by_cases hn : n = StaticConnector.credentialsKey
    · rw [if_pos hn, hn, hp, Option.map_none]
    · rw [if_neg hn]
  | some secret =>
    rw [if_pos Option.isSome_some]
    have hinsert : (p.insert StaticConnector.credentialsKey Locator.redacted).get? n =
        if n = StaticConnector.credentialsKey then some Locator.redacted else p.get? n :=
      NameMap.get?_insert p.table _ _ n
    rw [hinsert]
    by_cases hn : n = StaticConnector.credentialsKey
    · rw [if_pos hn, if_pos hn, hn, hp, Option.map_some]
    · rw [if_neg hn, if_neg hn]

/-- Hiding the secret among parameters is hiding the value of one name. -/
theorem redactedParameters_table (p : Parameters) :
    (redactedParameters p).table = p.table.mapValues fun n v =>
      if n = StaticConnector.credentialsKey then Locator.redacted else v := by
  refine NameMap.ext_get? fun n => ?_
  have hget : (redactedParameters p).table.get? n = _ := get?_redactedParameters p n
  rw [hget, NameMap.get?_mapValues]
  by_cases hn : n = StaticConnector.credentialsKey
  · simp only [hn, if_true]
    rfl
  · simp only [hn, if_false, Option.map_id']
    rfl

/-- Redacted parameters show all parameters but the credentials, and whether there are any. -/
theorem redactedParameters_eq_iff {p p' : Parameters} :
    redactedParameters p = redactedParameters p' ↔
      (∀ n, n ≠ StaticConnector.credentialsKey → p.get? n = p'.get? n) ∧
      (p.get? StaticConnector.credentialsKey).isSome =
        (p'.get? StaticConnector.credentialsKey).isSome := by
  constructor
  · intro h
    have hget : ∀ n, (redactedParameters p).get? n = (redactedParameters p').get? n := by
      intro n
      rw [h]
    refine ⟨fun n hn => ?_, ?_⟩
    · have hother := hget n
      rwa [get?_redactedParameters, get?_redactedParameters, if_neg hn, if_neg hn] at hother
    · have hsecret := hget StaticConnector.credentialsKey
      rwa [get?_redactedParameters, get?_redactedParameters, if_pos rfl, if_pos rfl,
        map_const_eq_iff] at hsecret
  · rintro ⟨hothers, hpresence⟩
    refine Parameters.ext_get? fun n => ?_
    rw [get?_redactedParameters, get?_redactedParameters]
    by_cases hn : n = StaticConnector.credentialsKey
    · rw [if_pos hn, if_pos hn, map_const_eq_iff, hn, hpresence]
    · rw [if_neg hn, if_neg hn, hothers n hn]

/-- The tree that is printed is the tree of the settings, masked where secrets stand. -/
theorem masked_toTree (s : HostSettings) : s.toTree.masked isSecretPlace = s.redacted.toTree := by
  have hlogging : ∀ path, isSecretPlace ("logging" :: path) = false := by
    intro path
    simp [isSecretPlace]
  have hparameter : ∀ n, isSecretPlace ["init_parameters", n] =
      decide (n = StaticConnector.credentialsKey) := fun n => rfl
  have hconnector : isSecretPlace ["directory", "connector"] = false := rfl
  have hstatic : ∀ path, isSecretPlace ("directory" :: "static_directory" :: path) =
      StaticSettings.isSecretPlace path := fun path => rfl
  unfold toTree DirectorySettings.toTree Parameters.toTree
  simp only [Tree.masked, Tree.maskedEntries, hconnector, Bool.false_eq_true, if_false]
  rw [Tree.masked_of_open _ hlogging, Tree.masked_textMap, funext hstatic,
    StaticSettings.masked_toTree]
  simp only [hparameter, decide_eq_true_eq, redacted, redactedParameters_table]

/-- Redacted settings are equal exactly if the settings differ in secrets only. -/
theorem redacted_eq_iff {s s' : HostSettings} : s.redacted = s'.redacted ↔ s.SameButSecrets s' := by
  have hparts : s.redacted = s'.redacted ↔ s.logging = s'.logging ∧
      redactedParameters s.parameters = redactedParameters s'.parameters ∧
      s.directory.connector = s'.directory.connector ∧
      s.directory.static.redacted = s'.directory.static.redacted := by
    simp only [redacted, mk.injEq, DirectorySettings.mk.injEq]
  rw [hparts, redactedParameters_eq_iff, StaticSettings.redacted_eq_iff]
  constructor
  · rintro ⟨hlogging, ⟨hparameters, hpresence⟩, hconnector, hstatic⟩
    exact ⟨hlogging, hparameters, hpresence, hconnector, hstatic⟩
  · intro h
    exact ⟨h.logging, ⟨h.parameters, h.presence⟩, h.connector, h.static⟩

/-- Redacting twice is redacting once. -/
theorem redacted_redacted (s : HostSettings) : s.redacted.redacted = s.redacted := by
  have hparameters : redactedParameters (redactedParameters s.parameters) =
      redactedParameters s.parameters := by
    rw [redactedParameters_eq_iff]
    refine ⟨fun n hn => ?_, ?_⟩
    · rw [get?_redactedParameters, if_neg hn]
    · rw [get?_redactedParameters, if_pos rfl, Option.isSome_map]
  simp only [redacted, hparameters, StaticSettings.redacted_redacted]

/-! ## Documents of settings -/

/-- The settings as a tree, with the sections in a given order. -/
def listedTree (listed : List (String × Section)) (s : HostSettings) : Tree :=
  .map [("logging", .map (listed.map fun e => (e.1, e.2.toTree))),
    ("init_parameters", s.parameters.toTree), ("directory", s.directory.toTree)]

variable {s s' : HostSettings} {listed listed' : List (String × Section)}

/-- In whatever order sections are listed, the settings are read back. -/
theorem decode_listedTree (dialect : Dialect) (h : listed.Perm s.logging.entries) :
    format.decode dialect (s.listedTree listed) = .ok s := by
  have hlogging : Logging.decoder dialect (.map (listed.map fun e => (e.1, e.2.toTree))) =
      .ok s.logging := by
    refine Decoder.map_of_ofList Section.format_readsBack dialect ?_
    rw [NameMap.ofList_map_snd, NameMap.ofList_of_perm h]
  have hparameters : Parameters.decoder dialect s.parameters.toTree = .ok s.parameters :=
    Parameters.decoder_reads dialect s.parameters _ (Tree.holdsTexts_textMap _)
  exact decode_of_parts hlogging hparameters (DirectorySettings.format_readsBack dialect s.directory)

/-- Trees that list sections tell the settings and the order of the sections. -/
theorem listedTree_eq_iff (h : listed.Perm s.logging.entries)
    (h' : listed'.Perm s'.logging.entries) :
    s.listedTree listed = s'.listedTree listed' ↔ listed = listed' ∧ s = s' := by
  constructor
  · intro heq
    have hsettings : s = s' := by
      have hread := decode_listedTree .layered h
      rw [heq, decode_listedTree .layered h'] at hread
      exact (Except.ok.inj hread).symm
    have hentry : Function.Injective fun e : String × Section => (e.1, e.2.toTree) := by
      rintro ⟨n, x⟩ ⟨n', x'⟩ hx
      obtain ⟨hn, hx⟩ := Prod.mk.inj hx
      exact Prod.ext hn (Section.format_readsBack.injective hx)
    unfold listedTree at heq
    have hsections := (Prod.mk.inj (List.cons.inj (Tree.map.inj heq)).1).2
    exact ⟨List.map_injective_iff.2 hentry (Tree.map.inj hsections), hsettings⟩
  · rintro ⟨rfl, rfl⟩
    rfl

/-- What a host prints of its settings, which stay as they are, is the same for settings that differ
in secrets only, and for no others. It is written of the tree of the settings, in which the texts at
the places of secrets are replaced and all else is as it was, in its order. In whatever order the
sections are listed, two documents that are read as they were written are the same exactly if they
list the sections in the same order, and the settings differ in secrets only. Hiding secrets again
changes nothing. -/
theorem printed_hides_secrets_only (s s' : HostSettings) :
    (s.redacted = s'.redacted ↔ s.SameButSecrets s') ∧
    (s.redacted.toTree = s'.redacted.toTree ↔ s.SameButSecrets s') ∧
    s.redacted.toTree = s.toTree.masked isSecretPlace ∧
    s.printed = Yaml.Printer.document (s.toTree.masked isSecretPlace) ∧
    (∀ listed listed', listed.Perm s.logging.entries → listed'.Perm s'.logging.entries →
      Yaml.Preserves (s.redacted.listedTree listed) →
      Yaml.Preserves (s'.redacted.listedTree listed') →
      (Yaml.Printer.document (s.redacted.listedTree listed) =
          Yaml.Printer.document (s'.redacted.listedTree listed') ↔
        listed = listed' ∧ s.SameButSecrets s')) ∧
    s.redacted.redacted = s.redacted := by
  have hsettings : s.redacted = s'.redacted ↔ s.SameButSecrets s' := redacted_eq_iff
  have htrees : s.redacted.toTree = s'.redacted.toTree ↔ s.SameButSecrets s' := by
    rw [toTree_inj, hsettings]
  have hmasked := s.masked_toTree
  have hprinted : s.printed = Yaml.Printer.document (s.toTree.masked isSecretPlace) := by
    rw [hmasked]
    rfl
  refine ⟨hsettings, htrees, hmasked.symm, hprinted, ?_, s.redacted_redacted⟩
  intro listed listed' hlisted hlisted' hpreserved hpreserved'
  have hlistings : s.redacted.listedTree listed = s'.redacted.listedTree listed' ↔
      listed = listed' ∧ s.redacted = s'.redacted := listedTree_eq_iff hlisted hlisted'
  rw [Yaml.document_eq_iff hpreserved hpreserved', hlistings, hsettings]

/-! ### A document that lists sections in another order -/

/-- Settings with a section that shows nothing, and with all three kinds of secrets. -/
def sample : HostSettings where
  logging := .ofList [("default", ⟨some .debug⟩), ("app", ⟨none⟩)]
  parameters := .ofList [(locationKey, "repo"), (StaticConnector.credentialsKey, "key")]
  directory := ⟨"mine", ⟨none, some "key", [⟨"repo", .empty, .ofList [("ann", "pw")]⟩]⟩⟩

/-- The sections of the sample, not in the order of their names. -/
def sampleSections : List (String × Section) := [("default", ⟨some .debug⟩), ("app", ⟨none⟩)]

/-- What is printed of the sample, line by line. -/
def sampleLines : List String :=
  ["logging:",
    "  default:", "    console_level: debug",
    "  app:", "    console_level: \"off\"",
    "init_parameters:", "  Location: repo", "  directory.credentials: \"[REDACTED]\"",
    "directory:", "  connector: mine",
    "  static_directory:", "    principal: null", "    credentials: \"[REDACTED]\"",
    "    bindings:", "    - name: repo", "      descriptors: \x7b\x7d",
    "      users:", "        ann: \"[REDACTED]\""]

/-- What is printed of the sample. -/
def sampleDocument : String := .ofList (sampleLines.flatMap fun line => line.toList ++ ['\n'])

theorem document_sample :
    Yaml.Printer.document (sample.redacted.listedTree sampleSections) = sampleDocument := by
  decide +kernel

theorem preserves_sample : Yaml.Preserves (sample.redacted.listedTree sampleSections) := by
  unfold Yaml.Preserves Yaml.settings? Yaml.Node.ofString?
  rw [document_sample, Yaml.marks?_of_eq_ofList (s := sampleDocument) rfl]
  decide +kernel

/-- The sample with other secrets. -/
def otherSample : HostSettings where
  logging := sample.logging
  parameters := .ofList [(locationKey, "repo"), (StaticConnector.credentialsKey, "lock")]
  directory := ⟨"mine", ⟨none, some "latch", [⟨"repo", .empty, .ofList [("ann", "word")]⟩]⟩⟩

/-- What is printed of the sample is printed of the sample with other secrets. -/
theorem printed_hides_secrets_only_example :
    sample ≠ otherSample ∧ sampleSections.Perm sample.logging.entries ∧
      Yaml.Preserves (sample.redacted.listedTree sampleSections) ∧
      sample.SameButSecrets otherSample ∧
      Yaml.Printer.document (otherSample.redacted.listedTree sampleSections) = sampleDocument := by
  have hother : sample ≠ otherSample := by decide +kernel
  have hlisted : sampleSections.Perm sample.logging.entries := by decide +kernel
  have hredacted : sample.redacted = otherSample.redacted := by decide +kernel
  obtain ⟨hsettings, -, -, -, hdocuments, -⟩ := printed_hides_secrets_only sample otherSample
  have hsame := hsettings.1 hredacted
  have hpreserved : Yaml.Preserves (otherSample.redacted.listedTree sampleSections) := by
    rw [← hredacted]
    exact preserves_sample
  have hprinted := (hdocuments sampleSections sampleSections hlisted hlisted preserves_sample
    hpreserved).2 ⟨rfl, hsame⟩
  exact ⟨hother, hlisted, preserves_sample, hsame, hprinted.symm.trans document_sample⟩

end HostSettings

end Locator
