import Locator.Proofs.Settings.Decode

/-!
# Settings with fields left out

A field that holds its declared default need not be written. Whatever is left out of settings in this
way, in whichever records, and in whatever order the rest is written, the same settings are read.

* `Declared`, `Abridges`, `Tree.IsRecord`: a record of which fields with their defaults may be left
  out;
* `HostSettings.Abridged`: settings so written, and so is every record in them;
* `RecordFormat.decode_record`: what is left out of a record is read as its default;
* `HostSettings.decode_abridged`: settings are read from all that is written of them.
-/

namespace Locator

variable {α β γ : Type}

/-! ## What is written -/

/-- A map of the entries, in any order. -/
def Tree.Holds (entries : List (String × Tree)) (t : Tree) : Prop :=
  ∃ es, t = .map es ∧ es.Perm entries

/-- A map from the names to what stands for their values, in any order. -/
def Tree.HoldsMap (Writes : α → Tree → Prop) (m : NameMap α) (t : Tree) : Prop :=
  ∃ es, List.Forall₂ (fun e e' => e'.1 = e.1 ∧ Writes e.2 e'.2) m.entries es ∧ t.Holds es

/-- A list of what stands for the items. -/
def Tree.HoldsList (Writes : α → Tree → Prop) (xs : List α) (t : Tree) : Prop :=
  ∃ ts, List.Forall₂ Writes xs ts ∧ t = .list ts

/-- A map from names to texts, in any order. -/
def Tree.HoldsTexts : NameMap String → Tree → Prop := HoldsMap fun s t => t = .text s

/-- A field of a record, together with its value. -/
structure Declared where
  /-- The name of the field. -/
  name : String
  /-- The trees that stand for the value. -/
  Writes : Tree → Prop
  /-- The value is the one that is declared for the field in case it is left out. -/
  IsDefault : Prop

/-- The entries of a record in the order of its fields. A field that holds its default may be left
out. -/
inductive Abridges : List Declared → List (String × Tree) → Prop where
  /-- There are no more fields. -/
  | nil : Abridges [] []
  /-- The next field is written. -/
  | written {d : Declared} {rest : List Declared} {es : List (String × Tree)} {t : Tree}
      (writes : d.Writes t) (h : Abridges rest es) : Abridges (d :: rest) ((d.name, t) :: es)
  /-- The next field is left out. -/
  | omitted {d : Declared} {rest : List Declared} {es : List (String × Tree)}
      (isDefault : d.IsDefault) (h : Abridges rest es) : Abridges (d :: rest) es

/-- A record with the fields, in any order, and without some of those that hold their defaults. -/
def Tree.IsRecord (fields : List Declared) (t : Tree) : Prop :=
  ∃ es, Abridges fields es ∧ t.Holds es

/-- The words for levels in lower case, two of them for no level. -/
def Section.levelWords : List (String × Option Level) :=
  [("trace", some .trace), ("debug", some .debug), ("info", some .info), ("warn", some .warn),
    ("error", some .error), ("off", none), ("none", none)]

/-- A text that is a word for the level once it is in lower case. -/
def Section.WritesLevel (console? : Option Level) (t : Tree) : Prop :=
  ∃ raw, t = .text raw ∧ (raw.toLower, console?) ∈ levelWords

/-- A section as it may be written. -/
def Section.Abridged (s : Section) : Tree → Prop :=
  Tree.IsRecord [⟨"console_level", WritesLevel s.console?, s.console? = some .info⟩]

/-- A binding as it may be written. Its name is never left out. -/
def BindingSettings.Abridged (b : BindingSettings) : Tree → Prop :=
  Tree.IsRecord
    [⟨"name", (· = .text b.name), False⟩,
      ⟨"descriptors", Tree.HoldsTexts b.descriptors, b.descriptors = .empty⟩,
      ⟨"users", Tree.HoldsTexts b.users, b.users = .empty⟩]

/-- Settings of a static directory as they may be written. -/
def StaticSettings.Abridged (s : StaticSettings) : Tree → Prop :=
  Tree.IsRecord
    [⟨"principal", (· = .optionText s.principal?), s.principal? = none⟩,
      ⟨"credentials", (· = .optionText s.credentials?), s.credentials? = none⟩,
      ⟨"bindings", Tree.HoldsList BindingSettings.Abridged s.bindings, s.bindings = []⟩]

/-- The naming service of a host as it may be written. -/
def DirectorySettings.Abridged (d : DirectorySettings) : Tree → Prop :=
  Tree.IsRecord
    [⟨"connector", (· = .text d.connector), d.connector = StaticConnector.registeredName⟩,
      ⟨"static_directory", d.static.Abridged, d.static = .empty⟩]

/-- Settings of a host as they may be written. -/
def HostSettings.Abridged (s : HostSettings) : Tree → Prop :=
  Tree.IsRecord
    [⟨"logging", Tree.HoldsMap Section.Abridged s.logging, s.logging = .standard⟩,
      ⟨"init_parameters", Tree.HoldsTexts s.parameters.table, s.parameters = .empty⟩,
      ⟨"directory", s.directory.Abridged, s.directory = .default⟩]

/-! ## Maps and lists -/

/-- The order of entries makes no difference to the map that they make up. -/
theorem NameMap.ofList_eq_of_perm {l l' : List (String × α)} (hnames : (l.map (·.1)).Nodup)
    (h : l'.Perm l) : ofList l' = ofList l :=
  ofList_of_perm (h.trans (perm_entries_ofList hnames).symm)

namespace Decoder

variable {d : Decoder α} {Writes : α → Tree → Prop}

/-- A decoder reads what stands for a value as the value. -/
def Reads (d : Decoder α) (Writes : α → Tree → Prop) : Prop :=
  ∀ dialect x t, Writes x t → d dialect t = .ok x

theorem text_reads : text.Reads fun s t => t = .text s := by
  rintro dialect s _ rfl
  rfl

theorem optionText_reads : text.optional.Reads fun s? t => t = .optionText s? := by
  rintro dialect s? _ rfl
  exact optionText_readsBack dialect s?

/-- Items are read one by one, wherever they stand. -/
theorem items_reads (h : d.Reads Writes) (dialect : Dialect) {xs : List α} {ts : List Tree}
    (hts : List.Forall₂ Writes xs ts) (i : Nat) : d.items dialect i ts = .ok xs := by
  induction hts generalizing i with
  | nil => rfl
  | cons hfirst _ ih =>
    rw [items, underName, h dialect _ _ hfirst, ih (i + 1)]
    rfl

theorem list_reads (h : d.Reads Writes) : d.list.Reads (Tree.HoldsList Writes) := by
  rintro dialect xs _ ⟨ts, hts, rfl⟩
  exact items_reads h dialect hts 0

/-- Entries are read one by one. -/
theorem entries_reads (h : d.Reads Writes) (dialect : Dialect) {l : List (String × α)}
    {es : List (String × Tree)}
    (hes : List.Forall₂ (fun e e' => e'.1 = e.1 ∧ Writes e.2 e'.2) l es) :
    d.entries dialect es = .ok l := by
  induction hes with
  | nil => rfl
  | @cons e e' _ _ hfirst _ ih =>
    obtain ⟨hname, hwrites⟩ := hfirst
    rw [entries, underName, h dialect _ _ hwrites, ih, hname]
    rfl

theorem map_fst_of_forall₂ {l : List (String × α)} {es : List (String × Tree)}
    (hes : List.Forall₂ (fun e e' => e'.1 = e.1 ∧ Writes e.2 e'.2) l es) :
    es.map (·.1) = l.map (·.1) := by
  induction hes with
  | nil => rfl
  | cons hfirst _ ih => rw [List.map_cons, List.map_cons, hfirst.1, ih]

theorem map_reads (h : d.Reads Writes) : d.map.Reads (Tree.HoldsMap Writes) := by
  rintro dialect m _ ⟨es, hes, es', rfl, hperm⟩
  -- the names are those of the map, so they ascend, and sorting the entries gives them back
  have hascending : es.Pairwise fun a b => a.1 < b.1 := by
    rw [← List.pairwise_map (f := Prod.fst) (R := (· < ·)), map_fst_of_forall₂ hes]
    exact m.names_ascending
  have hsorted : NameMap.ofList es' = ⟨es, hascending⟩ := NameMap.ofList_of_perm hperm
  have hread : d.map dialect (.map es') =
      NameMap.ofList <$> d.entries dialect (NameMap.ofList es').entries := rfl
  rw [hread, hsorted, entries_reads h dialect hes]
  exact congrArg Except.ok (NameMap.ofList_of_perm (List.Perm.refl _))

theorem texts_reads : text.map.Reads Tree.HoldsTexts := map_reads text_reads

end Decoder

/-! ## Records -/

namespace RecordFormat

variable {f : RecordFormat β α} {dialect : Dialect} {fields : List Declared}
  {effects : List (β → β)} {es : List (String × Tree)}

/-- What a declared field does to a draft: whatever is written of it is read with one effect, which
is none at the start if the field holds its default. -/
structure Fills (f : RecordFormat β α) (dialect : Dialect) (d : Declared) (effect : β → β) :
    Prop where
  /-- What is written has the effect. -/
  reads : ∀ t, d.Writes t → f.Takes dialect ⟨d.name, t, effect⟩
  /-- The draft has the default from the start. -/
  omitted : d.IsDefault → effect f.start = f.start

/-- A field fills the draft with the value that its decoder reads. -/
theorem fills_of {name : String} {d : Decoder γ} {put : γ → β → β} {x : γ} {Writes : Tree → Prop}
    {IsDefault : Prop} (hfield : f.field? name = some (.of name d put))
    (hreads : ∀ t, Writes t → d dialect t = .ok x) (hdefault : IsDefault → put x f.start = f.start) :
    f.Fills dialect ⟨name, Writes, IsDefault⟩ (put x) where
  reads t ht := takes_of hfield (hreads t ht)
  omitted := hdefault

/-- A field that may be left out while it holds the value that the draft has from the start. -/
theorem fills_of_default {name : String} {d : Decoder γ} {put : γ → β → β} {x start : γ}
    {Writes : Tree → Prop} (hfield : f.field? name = some (.of name d put))
    (hreads : ∀ t, Writes t → d dialect t = .ok x) (hstart : put start f.start = f.start) :
    f.Fills dialect ⟨name, Writes, x = start⟩ (put x) := by
  refine fills_of hfield hreads fun hx => ?_
  rw [hx]
  exact hstart

/-- What is written of a record has the effect of all of its fields on drafts that have the defaults of
the fields which are left out. -/
theorem exists_written (hfills : List.Forall₂ (f.Fills dialect) fields effects)
    (hcomm : effects.Pairwise fun e e' => ∀ draft, e (e' draft) = e' (e draft))
    (h : Abridges fields es) (draft : β)
    (hdraft : ∀ p ∈ fields.zip effects, p.1.IsDefault → p.2 draft = draft) :
    ∃ ws : List (Written β), es = ws.map (fun w => (w.name, w.tree)) ∧
      (∀ w ∈ ws, f.Takes dialect w) ∧
      (ws.map (·.name)).Sublist (fields.map (·.name)) ∧ (ws.map (·.effect)).Sublist effects ∧
      ws.foldl (fun draft w => w.effect draft) draft =
        effects.foldl (fun draft effect => effect draft) draft := by
  induction h generalizing effects draft with
  | nil =>
    cases hfills
    exact ⟨[], rfl, by simp, .slnil, .slnil, rfl⟩
  | @written d rest es t writes _ ih =>
    obtain - | @⟨_, effect, _, effects, hfirst, hrest⟩ := hfills
    rw [List.pairwise_cons] at hcomm
    -- the other fields keep the defaults that they have
    have hnext : ∀ p ∈ rest.zip effects, p.1.IsDefault → p.2 (effect draft) = effect draft := by
      intro p hp hdefault
      rw [← hcomm.1 p.2 (List.of_mem_zip hp).2, hdraft p (List.mem_cons_of_mem _ hp) hdefault]
    obtain ⟨ws, rfl, htakes, hnames, heffects, hfold⟩ := ih hrest hcomm.2 (effect draft) hnext
    refine ⟨⟨d.name, t, effect⟩ :: ws, rfl, ?_, hnames.cons_cons _, heffects.cons_cons _,
      hfold⟩
    intro w hw
    rcases List.mem_cons.1 hw with rfl | hw
    · exact hfirst.reads t writes
    · exact htakes w hw
  | @omitted d rest es isDefault _ ih =>
    obtain - | @⟨_, effect, _, effects, hfirst, hrest⟩ := hfills
    have hsame : effect draft = draft := hdraft (d, effect) List.mem_cons_self isDefault
    obtain ⟨ws, rfl, htakes, hnames, heffects, hfold⟩ := ih hrest hcomm.of_cons draft
      fun p hp => hdraft p (List.mem_cons_of_mem _ hp)
    refine ⟨ws, rfl, htakes, hnames.cons _, heffects.cons _, ?_⟩
    rw [List.foldl_cons, hsame, hfold]

/-- A record is read from what is written of it, with the defaults of all that is left out. -/
theorem decode_record {x : α} (hnames : (fields.map (·.name)).Nodup)
    (hfills : List.Forall₂ (f.Fills dialect) fields effects)
    (hcomm : effects.Pairwise fun e e' => ∀ draft, e (e' draft) = e' (e draft))
    (hfinish : f.finish (effects.foldl (fun draft effect => effect draft) f.start) = .ok x)
    {t : Tree} (h : t.IsRecord fields) : f.decode dialect t = .ok x := by
  obtain ⟨es, hes, es', rfl, hperm⟩ := h
  obtain ⟨ws, rfl, htakes, hsub, heffects, hfold⟩ :=
    exists_written hfills hcomm hes f.start
      fun p hp => ((List.forall₂_iff_zip.1 hfills).2 hp).omitted
  -- some of the fields are written, so their names differ and their effects commute
  have hwritten : (ws.map (·.name)).Nodup := hsub.nodup hnames
  have hcommutes := hcomm.sublist heffects
  rw [List.pairwise_map] at hcommutes
  rw [← hfold] at hfinish
  have hread := ofEntries_written ws hwritten htakes hcommutes hfinish
  -- the entries are sorted before they are read
  show f.ofEntries dialect es' = .ok x
  unfold ofEntries at hread ⊢
  rw [NameMap.ofList_eq_of_perm ?_ hperm]
  · exact hread
  · simpa [List.map_map, Function.comp_def] using hwritten

end RecordFormat

/-! ## The records of a host -/

/-- The words for levels are those that are read as levels, whatever the case of their letters. -/
theorem Section.level?_eq_some_iff {raw : String} {console? : Option Level} :
    level? raw = some console? ↔ (raw.toLower, console?) ∈ levelWords := by
  have hlevel : level? raw = if raw.toLower = "off" ∨ raw.toLower = "none" then some none
      else (Level.all.find? (·.name = raw.toLower)).map some := rfl
  rw [hlevel]
  generalize raw.toLower = word
  constructor
  · intro h
    split at h
    · rename_i hoff
      cases h
      rcases hoff with rfl | rfl
      · decide
      · decide
    · obtain ⟨l, hl, rfl⟩ := Option.map_eq_some_iff.1 h
      have hname : l.name = word := by simpa using List.find?_some hl
      rw [← hname]
      cases l <;> decide
  · intro h
    have hall : ∀ e ∈ levelWords, (if e.1 = "off" ∨ e.1 = "none" then some none
        else (Level.all.find? (·.name = e.1)).map some) = some e.2 := by decide
    exact hall _ h

/-- A level is read from any way of writing it. -/
theorem Section.levelDecoder_reads : levelDecoder.Reads WritesLevel := by
  rintro dialect console? _ ⟨raw, rfl, hword⟩
  unfold levelDecoder
  rw [Decoder.text_reads dialect raw _ rfl]
  simp only [bind, Except.bind, level?_eq_some_iff.2 hword]

/-- A section is read from any abridged form. -/
theorem Section.decode_abridged : Section.format.decode.Reads Section.Abridged := by
  intro dialect s t ht
  have hlevel := levelDecoder_reads dialect s.console?
  refine RecordFormat.decode_record ?_
    (.cons (RecordFormat.fills_of_default rfl hlevel rfl) .nil) ?_ rfl ht
  · simp
  · simp

theorem BindingSettings.decode_abridged :
    BindingSettings.format.decode.Reads BindingSettings.Abridged := by
  intro dialect b t ht
  -- the name has no default, so it is there
  have hname := Decoder.text_reads dialect b.name
  have hdescriptors := Decoder.texts_reads dialect b.descriptors
  have husers := Decoder.texts_reads dialect b.users
  refine RecordFormat.decode_record ?_
    (.cons (RecordFormat.fills_of rfl hname False.elim)
      (.cons (RecordFormat.fills_of_default rfl hdescriptors rfl)
        (.cons (RecordFormat.fills_of_default rfl husers rfl) .nil))) ?_ rfl ht
  · simp
  · simp

theorem StaticSettings.decode_abridged :
    StaticSettings.format.decode.Reads StaticSettings.Abridged := by
  intro dialect s t ht
  have hprincipal := Decoder.optionText_reads dialect s.principal?
  have hcredentials := Decoder.optionText_reads dialect s.credentials?
  have hbindings := Decoder.list_reads BindingSettings.decode_abridged dialect s.bindings
  refine RecordFormat.decode_record ?_
    (.cons (RecordFormat.fills_of_default rfl hprincipal rfl)
      (.cons (RecordFormat.fills_of_default rfl hcredentials rfl)
        (.cons (RecordFormat.fills_of_default rfl hbindings rfl) .nil))) ?_ rfl ht
  · simp
  · simp

theorem DirectorySettings.decode_abridged :
    DirectorySettings.format.decode.Reads DirectorySettings.Abridged := by
  intro dialect d t ht
  have hconnector := Decoder.text_reads dialect d.connector
  have hstatic := StaticSettings.decode_abridged dialect d.static
  refine RecordFormat.decode_record ?_
    (.cons (RecordFormat.fills_of_default rfl hconnector rfl)
      (.cons (RecordFormat.fills_of_default rfl hstatic rfl) .nil)) ?_ rfl ht
  · simp
  · simp

/-- Parameters are read from a map of texts. -/
theorem Parameters.decoder_reads :
    Parameters.decoder.Reads fun p => Tree.HoldsTexts p.table := by
  intro dialect p t ht
  unfold decoder
  rw [Decoder.texts_reads dialect p.table t ht]
  rfl

/-- Whatever is left out of settings, wherever it holds its default, they are read from what is
written. -/
theorem HostSettings.decode_abridged : HostSettings.format.decode.Reads HostSettings.Abridged := by
  intro dialect s t ht
  have hlogging := Decoder.map_reads Section.decode_abridged dialect s.logging
  have hparameters := Parameters.decoder_reads dialect s.parameters
  have hdirectory := DirectorySettings.decode_abridged dialect s.directory
  refine RecordFormat.decode_record ?_
    (.cons (RecordFormat.fills_of_default rfl hlogging rfl)
      (.cons (RecordFormat.fills_of_default rfl hparameters rfl)
        (.cons (RecordFormat.fills_of_default rfl hdirectory rfl) .nil))) ?_ rfl ht
  · simp
  · simp

/-! ## Settings with all of their fields -/

namespace Tree

theorem holds_map (entries : List (String × Tree)) : Holds entries (.map entries) :=
  ⟨entries, rfl, .refl _⟩

variable {Writes : α → Tree → Prop} {write : α → Tree}

/-- A map that is written value by value holds the map. -/
theorem holdsMap_map (h : ∀ x, Writes x (write x)) (m : NameMap α) :
    HoldsMap Writes m (.map (m.entries.map fun e => (e.1, write e.2))) := by
  refine ⟨_, ?_, holds_map _⟩
  rw [List.forall₂_map_right_iff, List.forall₂_same]
  intro e _
  exact ⟨rfl, h e.2⟩

theorem holdsList_list (h : ∀ x, Writes x (write x)) (xs : List α) :
    HoldsList Writes xs (.list (xs.map write)) := by
  refine ⟨_, ?_, rfl⟩
  rw [List.forall₂_map_right_iff, List.forall₂_same]
  intro x _
  exact h x

theorem holdsTexts_textMap (m : NameMap String) : HoldsTexts m (textMap m) := by
  refine holdsMap_map ?_ m
  intro s
  rfl

end Tree

theorem Section.abridged_toTree (s : Section) : s.Abridged s.toTree := by
  have hlevel : (s.levelName.toLower, s.console?) ∈ levelWords := by
    obtain ⟨console?⟩ := s
    rcases console? with - | l
    · decide +kernel
    · cases l <;> decide +kernel
  exact ⟨_, .written ⟨_, rfl, hlevel⟩ .nil, Tree.holds_map _⟩

theorem BindingSettings.abridged_toTree (b : BindingSettings) : b.Abridged b.toTree :=
  ⟨_, .written rfl (.written (Tree.holdsTexts_textMap _)
    (.written (Tree.holdsTexts_textMap _) .nil)), Tree.holds_map _⟩

theorem StaticSettings.abridged_toTree (s : StaticSettings) : s.Abridged s.toTree :=
  ⟨_, .written rfl (.written rfl (.written
    (Tree.holdsList_list BindingSettings.abridged_toTree _) .nil)), Tree.holds_map _⟩

theorem DirectorySettings.abridged_toTree (d : DirectorySettings) : d.Abridged d.toTree :=
  ⟨_, .written rfl (.written d.static.abridged_toTree .nil), Tree.holds_map _⟩

theorem HostSettings.abridged_toTree (s : HostSettings) : s.Abridged s.toTree :=
  ⟨_, .written (Tree.holdsMap_map Section.abridged_toTree _)
    (.written (Tree.holdsTexts_textMap _) (.written s.directory.abridged_toTree .nil)),
    Tree.holds_map _⟩

theorem Section.format_readsBack : Section.format.decode.ReadsBack Section.toTree :=
  fun dialect s => decode_abridged dialect s _ s.abridged_toTree

theorem DirectorySettings.format_readsBack :
    DirectorySettings.format.decode.ReadsBack DirectorySettings.toTree :=
  fun dialect d => decode_abridged dialect d _ d.abridged_toTree

namespace HostSettings

theorem format_readsBack : HostSettings.format.decode.ReadsBack HostSettings.toTree :=
  fun dialect s => decode_abridged dialect s _ s.abridged_toTree

/-- Settings that are written alike are the same. -/
theorem toTree_inj {s s' : HostSettings} : s.toTree = s'.toTree ↔ s = s' :=
  format_readsBack.injective.eq_iff

/-- Settings are read from any trees of which their three parts are read. -/
theorem decode_of_parts {dialect : Dialect} {s : HostSettings}
    {loggingTree parametersTree directoryTree : Tree}
    (hlogging : Logging.decoder dialect loggingTree = .ok s.logging)
    (hparameters : Parameters.decoder dialect parametersTree = .ok s.parameters)
    (hdirectory : DirectorySettings.format.decode dialect directoryTree = .ok s.directory) :
    format.decode dialect (.map [("logging", loggingTree), ("init_parameters", parametersTree),
      ("directory", directoryTree)]) = .ok s := by
  have hrecord : (Tree.map [("logging", loggingTree), ("init_parameters", parametersTree),
      ("directory", directoryTree)]).IsRecord
        [⟨"logging", (· = loggingTree), False⟩, ⟨"init_parameters", (· = parametersTree), False⟩,
          ⟨"directory", (· = directoryTree), False⟩] :=
    ⟨_, .written rfl (.written rfl (.written rfl .nil)), Tree.holds_map _⟩
  refine RecordFormat.decode_record ?_
    (.cons (RecordFormat.fills_of rfl (fun t ht => ht ▸ hlogging) False.elim)
      (.cons (RecordFormat.fills_of rfl (fun t ht => ht ▸ hparameters) False.elim)
        (.cons (RecordFormat.fills_of rfl (fun t ht => ht ▸ hdirectory) False.elim) .nil)))
    ?_ rfl hrecord
  · simp
  · simp

end HostSettings

end Locator
