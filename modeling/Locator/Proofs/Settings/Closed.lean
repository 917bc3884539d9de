import Locator.Proofs.Settings.Abridged
import Locator.Proofs.Text.AsciiCase

/-!
# Settings without foreign fields

Settings are accepted only if every record in them is, wherever it stands, and a record is accepted
only if it has no field of a name that is not its own.

* `RecordFormat.Places`: what stands for a field in a tree that is read as a record;
* `RecordFormat.names_of_ok`, `RecordFormat.reads_of_ok`: what is known of a record that is read;
* `RecordKind`, `Inside`: the records of a host, and where they stand in a tree;
* `RecordKind.accepts_inside`: whoever accepts a tree accepts every record in it;
* `Section.decode_text_iff`, `Section.mem_levelWords_iff_spells`: the texts that name levels;
* `HostSettings.format_round_trips_and_is_closed`: settings are read as they are written, with fields
  left out and levels in any case, and nothing else is read as settings.
-/

namespace Locator

variable {α β γ ε ε' : Type}

/-! ## Reading that succeeds -/

/-- A chain of readings that succeeds had a first step that succeeded. -/
theorem exists_of_bind_eq_ok {v : Except ε α} {g : α → Except ε β} {y : β}
    (h : v >>= g = .ok y) : ∃ x, v = .ok x ∧ g x = .ok y := by
  rcases v with e | x
  · cases h
  · exact ⟨x, rfl, h⟩

theorem exists_of_map_eq_ok {v : Except ε α} {g : α → β} {y : β} (h : g <$> v = .ok y) :
    ∃ x, v = .ok x ∧ g x = y := by
  rcases v with e | x
  · cases h
  · exact ⟨x, rfl, Except.ok.inj h⟩

theorem eq_ok_of_mapError_eq_ok {v : Except ε α} {g : ε → ε'} {x : α}
    (h : v.mapError g = .ok x) : v = .ok x := by
  rcases v with e | y
  · cases h
  · exact congrArg Except.ok (Except.ok.inj h)

/-- Where a fold that may fail succeeds, each of its steps does. -/
theorem exists_step_of_foldlM {g : β → α → Except ε β} {l : List α} {start final : β}
    (h : l.foldlM g start = .ok final) {e : α} (he : e ∈ l) : ∃ x y, g x e = .ok y := by
  induction l generalizing start with
  | nil => cases he
  | cons first rest ih =>
    rw [List.foldlM_cons] at h
    obtain ⟨next, hfirst, hrest⟩ := exists_of_bind_eq_ok h
    rcases List.mem_cons.1 he with rfl | he
    · exact ⟨start, next, hfirst⟩
    · exact ih hrest he

/-- What each step of a fold keeps, the fold keeps. -/
theorem foldlM_keeps {g : β → α → Except ε β} {P : β → Prop} {l : List α} {start final : β}
    (hstep : ∀ e ∈ l, ∀ x y, g x e = .ok y → P x → P y) (h : l.foldlM g start = .ok final)
    (hstart : P start) : P final := by
  induction l generalizing start with
  | nil =>
    cases h
    exact hstart
  | cons first rest ih =>
    rw [List.foldlM_cons] at h
    obtain ⟨next, hfirst, hrest⟩ := exists_of_bind_eq_ok h
    have hnext : P next := hstep first List.mem_cons_self start next hfirst hstart
    exact ih (fun e he => hstep e (List.mem_cons_of_mem _ he)) hrest hnext

namespace Decoder

variable {d : Decoder α} {dialect : Dialect}

/-- Each item of a list that is read is read. -/
theorem exists_of_items {i : Nat} {ts : List Tree} {xs : List α}
    (h : d.items dialect i ts = .ok xs) {t : Tree} (ht : t ∈ ts) : ∃ x, d dialect t = .ok x := by
  induction ts generalizing i xs with
  | nil => cases ht
  | cons first rest ih =>
    obtain ⟨x, hfirst, h⟩ := exists_of_bind_eq_ok h
    obtain ⟨others, hrest, -⟩ := exists_of_bind_eq_ok h
    rcases List.mem_cons.1 ht with rfl | ht
    · exact ⟨x, eq_ok_of_mapError_eq_ok hfirst⟩
    · exact ih hrest ht

/-- Each value of a map that is read is read. -/
theorem exists_of_entries {es : List (String × Tree)} {l : List (String × α)}
    (h : d.entries dialect es = .ok l) {e : String × Tree} (he : e ∈ es) :
    ∃ x, d dialect e.2 = .ok x := by
  induction es generalizing l with
  | nil => cases he
  | cons first rest ih =>
    obtain ⟨x, hfirst, h⟩ := exists_of_bind_eq_ok h
    obtain ⟨others, hrest, -⟩ := exists_of_bind_eq_ok h
    rcases List.mem_cons.1 he with rfl | he
    · exact ⟨x, eq_ok_of_mapError_eq_ok hfirst⟩
    · exact ih hrest he

theorem exists_of_list {ts : List Tree} {xs : List α} (h : d.list dialect (.list ts) = .ok xs)
    {t : Tree} (ht : t ∈ ts) : ∃ x, d dialect t = .ok x :=
  exists_of_items h ht

theorem exists_of_map {es : List (String × Tree)} {m : NameMap α}
    (h : d.map dialect (.map es) = .ok m) {name : String} {t : Tree}
    (ht : NameMap.lastUnder name es = some t) : ∃ x, d dialect t = .ok x := by
  obtain ⟨l, hl, -⟩ := exists_of_map_eq_ok h
  have hentry : (name, t) ∈ (NameMap.ofList es).entries := by
    rw [NameMap.mem_entries_iff, NameMap.get?_ofList]
    exact ht
  exact exists_of_entries hl hentry

end Decoder

namespace RecordFormat

variable {f : RecordFormat β α} {dialect : Dialect} {es : List (String × Tree)} {x : α}
  {name : String} {t u : Tree}

/-- In a tree that is read as a record, this is what stands for the field: the value under its name in
a map, or the item at its position in a list. -/
inductive Places (f : RecordFormat β α) (name : String) : Tree → Tree → Prop where
  /-- The last value under the name. -/
  | named {es : List (String × Tree)} {u : Tree} (h : NameMap.lastUnder name es = some u) :
      Places f name (.map es) u
  /-- The item where the field is in the order of the fields. -/
  | positional {items : List Tree} {i : Nat} {u : Tree} (hfield : f.names[i]? = some name)
      (h : items[i]? = some u) : Places f name (.list items) u

/-- A record that is read was read entry by entry and then finished. -/
theorem exists_draft_of_ok (h : f.ofEntries dialect es = .ok x) :
    ∃ draft, (NameMap.ofList es).entries.foldlM (f.readEntry dialect) f.start = .ok draft ∧
      f.finish draft = .ok x := by
  obtain ⟨draft, hread, hfinish⟩ := exists_of_bind_eq_ok h
  exact ⟨draft, hread, eq_ok_of_mapError_eq_ok hfinish⟩

/-- A named value that is read is that of a field. -/
theorem exists_field_of_readEntry {draft draft' : β}
    (h : f.readEntry dialect draft (name, t) = .ok draft') :
    ∃ field ∈ f.fields, field.name = name ∧ field.read dialect t draft = .ok draft' := by
  unfold readEntry at h
  rcases hfield : f.field? name with - | field
  · simp [hfield] at h
  · simp only [hfield] at h
    have hname : field.name = name := by simpa using List.find?_some hfield
    exact ⟨field, List.mem_of_find?_eq_some hfield, hname, eq_ok_of_mapError_eq_ok h⟩

/-- Every value that counts in a record that is read, is read for the field of its name. -/
theorem exists_field_of_ok (h : f.ofEntries dialect es = .ok x)
    (ht : NameMap.lastUnder name es = some t) :
    ∃ field ∈ f.fields, field.name = name ∧
      ∃ draft draft', field.read dialect t draft = .ok draft' := by
  obtain ⟨draft, hread, -⟩ := exists_draft_of_ok h
  have hentry : (name, t) ∈ (NameMap.ofList es).entries := by
    rw [NameMap.mem_entries_iff, NameMap.get?_ofList]
    exact ht
  obtain ⟨before, after, hstep⟩ := exists_step_of_foldlM hread hentry
  obtain ⟨field, hfield, hname, hvalue⟩ := exists_field_of_readEntry hstep
  exact ⟨field, hfield, hname, before, after, hvalue⟩

/-- A record that is read has fields of its own names only. -/
theorem names_of_ok (h : f.decode dialect (.map es) = .ok x) (hname : name ∈ es.map (·.1)) :
    name ∈ f.names := by
  -- of the values under the name the last one counts, and that one is read
  have hlisted : (NameMap.lastUnder name es).isSome = true := NameMap.isSome_lastUnder_iff.2 hname
  obtain ⟨t, ht⟩ := Option.isSome_iff_exists.1 hlisted
  obtain ⟨field, hfield, rfl, -⟩ := exists_field_of_ok h ht
  exact List.mem_map_of_mem hfield

/-- Every item of a list in place of a record that stands for a field is read for it. -/
theorem exists_read_of_readItems {i : Nat} {fields : List (Field β)} {items : List Tree}
    {draft : β} {result : β × Nat} (h : readItems dialect i fields items draft = .ok result)
    {j : Nat} {field : Field β} (hfield : fields[j]? = some field) (hitem : items[j]? = some u) :
    ∃ before after, field.read dialect u before = .ok after := by
  -- fields and items are gone through side by side, and the position counts down with them
  induction fields generalizing i items draft j with
  | nil => simp at hfield
  | cons first fields ih =>
    rcases items with - | ⟨item, items⟩
    · simp at hitem
    · obtain ⟨next, hfirst, hrest⟩ := exists_of_bind_eq_ok h
      rcases j with - | j
      · obtain rfl : first = field := by simpa using hfield
        obtain rfl : item = u := by simpa using hitem
        exact ⟨draft, next, eq_ok_of_mapError_eq_ok hfirst⟩
      · exact ih hrest (by simpa using hfield) (by simpa using hitem)

/-- Whatever stands for a field of a record that is read, is read for the field. -/
theorem reads_of_ok (h : f.decode dialect t = .ok x) (hplace : f.Places name t u) :
    ∃ field ∈ f.fields, field.name = name ∧
      ∃ draft draft', field.read dialect u draft = .ok draft' := by
  rcases hplace with hlast | @⟨items, i, _, hname, hitem⟩
  · exact exists_field_of_ok h hlast
  · have hitems : (if dialect.positional then f.ofItems dialect items
        else Decoder.refuse (.list items) ("struct " ++ f.name)) = .ok x := h
    split at hitems
    · obtain ⟨result, hread, -⟩ := exists_of_bind_eq_ok hitems
      rw [names, List.getElem?_map] at hname
      obtain ⟨field, hfield, rfl⟩ := Option.map_eq_some_iff.1 hname
      exact ⟨field, List.mem_of_getElem? hfield, rfl, exists_read_of_readItems hread hfield hitem⟩
    · cases hitems

/-- Whatever stands for a field of a record that is read, is read by the decoder of the field. -/
theorem exists_of_places {d : Decoder γ} {put : γ → β → β} (hnames : f.names.Nodup)
    (hfield : Field.of name d put ∈ f.fields) (h : f.decode dialect t = .ok x)
    (hplace : f.Places name t u) : ∃ y, d dialect u = .ok y := by
  obtain ⟨field, hmem, hname, draft, draft', hread⟩ := reads_of_ok h hplace
  obtain rfl : field = Field.of name d put := List.inj_on_of_nodup_map hnames hmem hfield hname
  obtain ⟨y, hy, -⟩ := exists_of_map_eq_ok hread
  exact ⟨y, hy⟩

end RecordFormat

/-! ## The records of a host -/

/-- The records that settings of a host are made of. -/
inductive RecordKind where
  | host | directory | static | binding | sect

namespace RecordKind

/-- The names of the fields of a record. -/
def names : RecordKind → List String
  | host => HostSettings.format.names
  | directory => DirectorySettings.format.names
  | static => StaticSettings.format.names
  | binding => BindingSettings.format.names
  | sect => Section.format.names

/-- The tree is read as a record. -/
def Accepts (dialect : Dialect) (t : Tree) : RecordKind → Prop
  | host => ∃ s, HostSettings.format.decode dialect t = .ok s
  | directory => ∃ d, DirectorySettings.format.decode dialect t = .ok d
  | static => ∃ s, StaticSettings.format.decode dialect t = .ok s
  | binding => ∃ b, BindingSettings.format.decode dialect t = .ok b
  | sect => ∃ s, Section.format.decode dialect t = .ok s

end RecordKind

/-- In a tree that is read as a record of the first kind, the second tree stands for a record of the
second kind: for the record itself, or for a part of it. -/
inductive Inside : RecordKind → Tree → RecordKind → Tree → Prop where
  /-- It is the record itself. -/
  | here (k : RecordKind) (t : Tree) : Inside k t k t
  /-- It is in a section of the host. -/
  | sect {t u v : Tree} {es : List (String × Tree)} {name : String} {k : RecordKind}
      (logging : HostSettings.format.Places "logging" t (.map es))
      (named : NameMap.lastUnder name es = some u) (h : Inside .sect u k v) : Inside .host t k v
  /-- It is in the naming service of the host. -/
  | directory {t u v : Tree} {k : RecordKind}
      (directory : HostSettings.format.Places "directory" t u) (h : Inside .directory u k v) :
      Inside .host t k v
  /-- It is in the static directory of the naming service. -/
  | static {t u v : Tree} {k : RecordKind}
      (static : DirectorySettings.format.Places "static_directory" t u) (h : Inside .static u k v) :
      Inside .directory t k v
  /-- It is in a binding of the static directory. -/
  | binding {t u v : Tree} {us : List Tree} {k : RecordKind}
      (bindings : StaticSettings.format.Places "bindings" t (.list us)) (listed : u ∈ us)
      (h : Inside .binding u k v) : Inside .static t k v

namespace RecordKind

variable {dialect : Dialect} {k k' : RecordKind} {t v : Tree}

/-- Whoever accepts a tree accepts every record in it. -/
theorem accepts_inside (hinside : Inside k t k' v) (h : k.Accepts dialect t) :
    k'.Accepts dialect v := by
  -- the way from the outside in: what stands for a part is read by the decoder of the part
  induction hinside with
  | here => exact h
  | sect logging named _ ih =>
    obtain ⟨s, hs⟩ := h
    obtain ⟨l, hl⟩ := RecordFormat.exists_of_places (by decide) (.head _) hs logging
    exact ih (Decoder.exists_of_map hl named)
  | directory directory _ ih =>
    obtain ⟨s, hs⟩ := h
    exact ih (RecordFormat.exists_of_places (by decide) (.tail _ (.tail _ (.head _))) hs directory)
  | static static _ ih =>
    obtain ⟨d, hd⟩ := h
    exact ih (RecordFormat.exists_of_places (by decide) (.tail _ (.head _)) hd static)
  | binding bindings listed _ ih =>
    obtain ⟨s, hs⟩ := h
    obtain ⟨l, hl⟩ := RecordFormat.exists_of_places (by decide) (.tail _ (.tail _ (.head _))) hs
      bindings
    exact ih (Decoder.exists_of_list hl listed)

/-- A record that is accepted has fields of its own names only. -/
theorem names_of_accepts {es : List (String × Tree)} (h : k.Accepts dialect (.map es))
    {name : String} (hname : name ∈ es.map (·.1)) : name ∈ k.names := by
  cases k with
  | host => exact RecordFormat.names_of_ok h.choose_spec hname
  | directory => exact RecordFormat.names_of_ok h.choose_spec hname
  | static => exact RecordFormat.names_of_ok h.choose_spec hname
  | binding => exact RecordFormat.names_of_ok h.choose_spec hname
  | sect => exact RecordFormat.names_of_ok h.choose_spec hname

end RecordKind

namespace BindingSettings

variable {dialect : Dialect}

/-- Reading values of other names leaves the name of a binding open. -/
theorem name?_of_readEntry {draft draft' : Draft} {entry : String × Tree}
    (h : format.readEntry dialect draft entry = .ok draft') (hname : entry.1 ≠ "name") :
    draft'.name? = draft.name? := by
  obtain ⟨field, hfield, hentry, hread⟩ := RecordFormat.exists_field_of_readEntry h
  rw [← hentry] at hname
  simp only [format, List.mem_cons, List.not_mem_nil, or_false] at hfield
  rcases hfield with rfl | rfl | rfl
  · exact absurd rfl hname
  -- descriptors and users are put elsewhere in the draft
  · obtain ⟨x, -, rfl⟩ := exists_of_map_eq_ok hread
    rfl
  · obtain ⟨x, -, rfl⟩ := exists_of_map_eq_ok hread
    rfl

/-- A binding that is read has a name. -/
theorem name_of_ok {es : List (String × Tree)} {b : BindingSettings}
    (h : format.decode dialect (.map es) = .ok b) : "name" ∈ es.map (·.1) := by
  obtain ⟨draft, hread, hfinish⟩ := RecordFormat.exists_draft_of_ok h
  by_contra hno
  -- nothing that is read fills in the name, and a draft without a name is not finished
  have hother : ∀ e ∈ (NameMap.ofList es).entries, e.1 ≠ "name" := by
    intro e he heq
    rw [NameMap.mem_entries_iff, NameMap.get?_ofList, heq] at he
    exact hno (NameMap.isSome_lastUnder_iff.1 (Option.isSome_of_eq_some he))
  have hopen : draft.name? = none := by
    refine foldlM_keeps (P := fun d => d.name? = none) (fun e he x y hstep hx => ?_) hread rfl
    rw [name?_of_readEntry hstep (hother e he), hx]
  simp [format, hopen] at hfinish

end BindingSettings

namespace Section

variable {dialect : Dialect}

/-- A level is read from what writes it and from nothing else. -/
theorem levelDecoder_eq_ok_iff {t : Tree} {console? : Option Level} :
    levelDecoder dialect t = .ok console? ↔ WritesLevel console? t := by
  constructor
  · intro h
    obtain ⟨raw, hraw, hlevel⟩ := exists_of_bind_eq_ok h
    have ht : t = .text raw := by
      cases t with
      | text content =>
        cases hraw
        rfl
      | _ => cases hraw
    refine ⟨raw, ht, level?_eq_some_iff.1 ?_⟩
    rcases hfound : level? raw with - | l
    · simp [hfound] at hlevel
    · simpa [hfound] using hlevel
  · intro h
    exact levelDecoder_reads dialect console? t h

/-- A section that is read has a word for a level, if it says anything about the level. -/
theorem level_of_ok {es : List (String × Tree)} {s : Section}
    (h : format.decode dialect (.map es) = .ok s) {u : Tree}
    (hu : NameMap.lastUnder "console_level" es = some u) : ∃ console?, WritesLevel console? u := by
  obtain ⟨console?, hlevel⟩ :=
    RecordFormat.exists_of_places (by decide) (.head _) h (.named hu)
  exact ⟨console?, levelDecoder_eq_ok_iff.1 hlevel⟩

/-- A text is accepted as a level if it is one of the words for levels in lower case. -/
theorem decode_text_iff {raw : String} {s : Section} :
    format.decode dialect (.map [("console_level", .text raw)]) = .ok s ↔
      (raw.toLower, s.console?) ∈ levelWords := by
  have hread : ∀ s' : Section, (raw.toLower, s'.console?) ∈ levelWords →
      format.decode dialect (.map [("console_level", .text raw)]) = .ok s' := fun s' hword =>
    decode_abridged dialect s' _ ⟨_, .written ⟨raw, rfl, hword⟩ .nil, Tree.holds_map _⟩
  constructor
  · intro h
    have hraw : NameMap.lastUnder "console_level" [("console_level", Tree.text raw)] =
        some (.text raw) := NameMap.lastUnder_singleton ..
    obtain ⟨console?, raw', hsame, hword⟩ := level_of_ok h hraw
    cases hsame
    -- the word decides what is read
    rw [hread ⟨console?⟩ hword] at h
    cases h
    exact hword
  · exact hread s

/-- The words for levels may be spelt with capitals. -/
theorem mem_levelWords_iff_spells {raw : String} {console? : Option Level} :
    (raw.toLower, console?) ∈ levelWords ↔
      ∃ word, (word, console?) ∈ levelWords ∧ Text.Spells raw word := by
  -- there are no capitals in the words themselves
  have hlower : ∀ e ∈ levelWords, ∀ letter ∈ e.1.toList, letter.isUpper = false := by
    simp [levelWords]
  constructor
  · intro h
    exact ⟨raw.toLower, h, (Text.toLower_eq_iff_spells (hlower _ h)).1 rfl⟩
  · rintro ⟨word, hword, hspells⟩
    rw [(Text.toLower_eq_iff_spells (hlower _ hword)).2 hspells]
    exact hword

end Section

/-- In every dialect, settings are read as they are written, and as they were if fields that hold their
defaults are left out anywhere. No record is accepted, settings of a host among them, if any record in
it has a field of another name than its own, if a binding in it has no name, or if the level of a
section in it is no word for a level. The words for levels are the five levels, `off` and `none`, and
the case of their letters makes no difference. -/
theorem HostSettings.format_round_trips_and_is_closed (dialect : Dialect) :
    (∀ s : HostSettings, format.decode dialect s.toTree = .ok s) ∧
    (∀ (s : HostSettings) (t : Tree), s.Abridged t → format.decode dialect t = .ok s) ∧
    (∀ (root : RecordKind) (t : Tree) (k : RecordKind) (es : List (String × Tree)),
      Inside root t k (.map es) →
      ((∃ name ∈ es.map (·.1), name ∉ k.names) ∨
        (k = .binding ∧ "name" ∉ es.map (·.1)) ∨
        (k = .sect ∧ ∃ u, NameMap.lastUnder "console_level" es = some u ∧
          ∀ console?, ¬ Section.WritesLevel console? u)) →
      ¬ root.Accepts dialect t) ∧
    (∀ (raw : String) (s : Section),
      Section.format.decode dialect (.map [("console_level", .text raw)]) = .ok s ↔
        (raw.toLower, s.console?) ∈ Section.levelWords) ∧
    ∀ (raw : String) (console? : Option Level), (raw.toLower, console?) ∈ Section.levelWords ↔
      ∃ word, (word, console?) ∈ Section.levelWords ∧ Text.Spells raw word := by
  refine ⟨format_readsBack dialect, decode_abridged dialect, ?_,
    fun _ _ => Section.decode_text_iff, fun _ _ => Section.mem_levelWords_iff_spells⟩
  intro root t k es hinside hforeign haccepted
  have haccepts : k.Accepts dialect (.map es) := RecordKind.accepts_inside hinside haccepted
  rcases hforeign with ⟨name, hname, hno⟩ | ⟨rfl, hno⟩ | ⟨rfl, u, hu, hno⟩
  · exact hno (RecordKind.names_of_accepts haccepts hname)
  · obtain ⟨b, hb⟩ := haccepts
    exact hno (BindingSettings.name_of_ok hb)
  · obtain ⟨sect, hsect⟩ := haccepts
    obtain ⟨console?, hlevel⟩ := Section.level_of_ok hsect hu
    exact hno console? hlevel

/-- Nothing has to be said. -/
example : HostSettings.format.decode .json (.map []) = .ok .default := rfl

end Locator
