import Locator.Proofs.Settings.Redaction
import Locator.Proofs.StaticDirectory.Build
import Locator.Proofs.StaticDirectory.Sessions

/-!
# Views tell everything but secrets

What a person is shown of the settings of a static directory, of a binding, of credentials and of a
connector is the same for values that differ in secrets only, in both of its texts. Of settings,
bindings and credentials nothing else is hidden.

* `Shown.SameTexts`: views that nobody tells apart;
* `shown_eq_iff`, for bindings, settings and credentials, and `StaticConnector.view_eq_iff`: what a
  view tells;
* `StaticConnector.viewsDuring`: what is shown of a connector at each moment of a history of its
  service; `Session.SameNames.perform` is one operation, `viewsDuring_eq` the whole history;
* `StaticSettings.views_hide_secrets_only`: all of it.
-/

namespace Locator

/-! ## Views -/

namespace Shown

/-- Views with the same text on one line, and the same text with an item per line. -/
def SameTexts (v v' : Shown) : Prop := v.compact = v'.compact ∧ v.indented = v'.indented

theorem SameTexts.of_eq {v v' : Shown} (h : v = v') : v.SameTexts v' := by
  rw [h]
  exact ⟨rfl, rfl⟩

theorem optionText_inj {s? s'? : Option String} : optionText s? = optionText s'? ↔ s? = s'? := by
  cases s? <;> cases s'? <;> simp [optionText, option]

theorem texts_inj {names names' : List String} : texts names = texts names' ↔ names = names' := by
  have htext : Function.Injective Shown.text := fun _ _ => Shown.text.inj
  unfold texts
  rw [Shown.list.injEq, (List.map_injective_iff.2 htext).eq_iff]

theorem textMap_inj {entries entries' : List (String × String)} :
    textMap entries = textMap entries' ↔ entries = entries' := by
  have hentry : Function.Injective fun e : String × String => (e.1, Shown.text e.2) := by
    rintro ⟨n, v⟩ ⟨n', v'⟩ h
    simpa using h
  unfold textMap
  rw [Shown.map.injEq, (List.map_injective_iff.2 hentry).eq_iff]

end Shown

/-- The view of credentials tells the user. -/
theorem Credentials.shown_eq_iff {c c' : Credentials} :
    shown c = shown c' ↔ c.userId = c'.userId := by
  simp [shown]

/-- The view of a binding tells everything but passwords. -/
theorem BindingSettings.shown_eq_iff {b b' : BindingSettings} :
    shown b = shown b' ↔ b.SameButSecrets b' := by
  have hparts : shown b = shown b' ↔ b.name = b'.name ∧
      Shown.textMap b.descriptors.entries = Shown.textMap b'.descriptors.entries ∧
      Shown.texts b.users.names = Shown.texts b'.users.names := by
    simp [shown]
  have hdescriptors : b.descriptors.entries = b'.descriptors.entries ↔
      b.descriptors = b'.descriptors := ⟨NameMap.ext, congrArg NameMap.entries⟩
  rw [hparts, Shown.textMap_inj, Shown.texts_inj, hdescriptors, sameButSecrets_iff]

/-- The view of settings tells everything but secrets. -/
theorem StaticSettings.shown_eq_iff {s s' : StaticSettings} :
    shown s = shown s' ↔ s.SameButSecrets s' := by
  have hparts : shown s = shown s' ↔
      Shown.optionText s.principal? = Shown.optionText s'.principal? ∧
      Shown.optionText (s.credentials?.map fun _ => Locator.redacted) =
        Shown.optionText (s'.credentials?.map fun _ => Locator.redacted) ∧
      s.bindings.map shown = s'.bindings.map shown := by
    simp [shown]
  rw [hparts, Shown.optionText_inj, Shown.optionText_inj, map_const_eq_iff,
    map_eq_map_iff fun _ _ => BindingSettings.shown_eq_iff, sameButSecrets_iff]

/-- The view of a connector tells the names that are bound, and the principal. -/
theorem StaticConnector.view_eq_iff {c c' : StaticConnector} {d d' : StaticDirectory Remote} :
    c.view d = c'.view d' ↔ d.names = d'.names ∧ c.principal? = c'.principal? := by
  have hparts : c.view d = c'.view d' ↔ Shown.texts d.names = Shown.texts d'.names ∧
      Shown.optionText c.principal? = Shown.optionText c'.principal? := by
    simp [view]
  rw [hparts, Shown.texts_inj, Shown.optionText_inj]

/-! ## Which names are bound -/

/-- The same names are bound. -/
def Bindings.SameNames {ρ : Type} (b b' : Bindings ρ) : Prop := ∀ n, (b n).isSome = (b' n).isSome

theorem StaticDirectory.names_eq_of_sameNames {ρ : Type} {d d' : StaticDirectory ρ}
    (h : d.bindings.SameNames d'.bindings) : d.names = d'.names := NameMap.names_eq_of_contains h

theorem StaticDirectory.Alike.sameNames {d d' : StaticDirectory Remote}
    (h : StaticDirectory.Alike d d') : d.bindings.SameNames d'.bindings := h.contains_eq

namespace Bindings.SameNames

variable {ρ : Type} {b b' : Bindings ρ}

/-- Updating both at one name leaves them with the same names. -/
theorem update (h : b.SameNames b') (name : String) (held? : Option (Handle ρ)) :
    Bindings.SameNames (Function.update b name held?) (Function.update b' name held?) := by
  intro n
  rw [Function.update_apply, Function.update_apply]
  split
  · rfl
  · exact h n

/-- Which names are bound after an operation depends on the names that were bound, and not on what
was bound under them. -/
theorem onMap (h : b.SameNames b') (op : DirectoryOp ρ) :
    Bindings.SameNames (op.onMap b).2 (op.onMap b').2 := by
  unfold DirectoryOp.onMap
  split
  · cases op with
    | bind name handle =>
      have hname := h name
      cases hb : b name with
      | some held =>
        rw [hb] at hname
        obtain ⟨held', hb'⟩ := Option.isSome_iff_exists.1 hname.symm
        rw [DirectoryOp.onName_bind_of_taken hb, DirectoryOp.onName_bind_of_taken hb']
        exact h
      | none =>
        rw [hb] at hname
        have hb' : b' name = .none :=
          Option.isNone_iff_eq_none.1 (Option.isSome_eq_false_iff.1 hname.symm)
        rw [DirectoryOp.onName_bind_of_free hb, DirectoryOp.onName_bind_of_free hb']
        exact h.update name (some handle)
    | rebind name handle => exact h.update name (some handle)
    | unbind name => exact h.update name .none
    | lookup name =>
      have hsame : ∀ b : Bindings ρ, ((DirectoryOp.lookup name).onName b).2 = b := by
        intro b
        cases hb : b name with
        | some handle => rw [DirectoryOp.onName_lookup_of_bound hb]
        | none => rw [DirectoryOp.onName_lookup_of_missing hb]
      rw [hsame, hsame]
      exact h
  · -- a name that is refused is not looked at
    exact h

end Bindings.SameNames

/-! ## Histories -/

/-- Sessions with directories in which the same names are bound. All contexts that were obtained
show the directory. -/
structure Session.SameNames {ρ : Type} (s t : Session ρ) : Prop where
  /-- The contexts of the one are live. -/
  left : s.AllLive
  /-- The contexts of the other are live. -/
  right : t.AllLive
  /-- The same names are bound. -/
  names : s.service.directory.bindings.SameNames t.service.directory.bindings

/-- What an operation makes of the directory: work on it has its effect, and clients have none. -/
theorem ServiceOp.Faithful.bindings {ρ : Type} {c : StaticConnector} {op : ServiceOp ρ}
    {s t : Session ρ} {answer : ServiceAnswer ρ} (h : op.Faithful c s answer t) :
    t.service.directory.bindings =
      op.directoryOp?.elim s.service.directory.bindings
        fun work => (work.onMap s.service.directory.bindings).2 := by
  cases op with
  | connect env =>
    obtain ⟨-, -, hdirectory, -⟩ := h
    exact congrArg StaticDirectory.bindings hdirectory
  | onDirectory work =>
    obtain ⟨-, -, directoryAnswer, events, -, hrun⟩ := h
    obtain ⟨d, more, hmap, hbindings⟩ := work.exists_run_perform s.service.directory
    rw [hrun] at hmap
    cases hmap
    exact hbindings
  | lookup position name =>
    obtain ⟨rfl, -⟩ := h
    rfl

/-- Whatever two connectors make of it, an operation leaves the same names bound. -/
theorem Session.SameNames.perform {ρ : Type} {s t : Session ρ} (h : s.SameNames t)
    (c c' : StaticConnector) (op : ServiceOp ρ) :
    Session.SameNames ((op.perform c).run s).state ((op.perform c').run t).state := by
  obtain ⟨answer, s', events, hrun, hfaithful, hlive⟩ := op.exists_faithful c h.left
  obtain ⟨answer', t', events', hrun', hfaithful', hlive'⟩ := op.exists_faithful c' h.right
  rw [hrun, hrun']
  refine ⟨hlive, hlive', ?_⟩
  rw [hfaithful.bindings, hfaithful'.bindings]
  cases op.directoryOp? with
  | none => exact h.names
  | some work => exact h.names.onMap work

namespace StaticConnector

/-- What is shown of a connector at each moment of a history of its service: before it, and after
each operation. -/
def viewsDuring (c : StaticConnector) (s : Session Remote) : List (ServiceOp Remote) → List Shown
  | [] => [c.view s.service.directory]
  | op :: rest =>
    c.view s.service.directory :: c.viewsDuring ((op.perform c).run s).state rest

section

variable {c c' : StaticConnector} {s t : Session Remote}

theorem view_eq_of_sameNames (hc : c.principal? = c'.principal?) (h : s.SameNames t) :
    c.view s.service.directory = c'.view t.service.directory :=
  view_eq_iff.2 ⟨StaticDirectory.names_eq_of_sameNames h.names, hc⟩

/-- At each moment of a history the same is shown of two connectors that ask for the same principal,
if the same names were bound at the beginning. -/
theorem viewsDuring_eq (hc : c.principal? = c'.principal?) (h : s.SameNames t)
    (history : List (ServiceOp Remote)) : c.viewsDuring s history = c'.viewsDuring t history := by
  induction history generalizing s t with
  | nil => rw [viewsDuring, viewsDuring, view_eq_of_sameNames hc h]
  | cons op rest ih =>
    rw [viewsDuring, viewsDuring, view_eq_of_sameNames hc h, ih (h.perform c c' op)]

end

/-- Two connectors to two directories that nobody has connected to yet are shown in the same words,
at each moment of any history. -/
def SameViews (c : StaticConnector) (d : StaticDirectory Remote) (c' : StaticConnector)
    (d' : StaticDirectory Remote) : Prop :=
  ∀ history : List (ServiceOp Remote), List.Forall₂ Shown.SameTexts
    (c.viewsDuring (Session.start d) history) (c'.viewsDuring (Session.start d') history)

/-- Connectors that differ in the secret only, to directories that differ in secrets only, are shown
in the same words. -/
theorem SameButSecret.sameViews {c c' : StaticConnector} (hc : c.SameButSecret c')
    {d d' : StaticDirectory Remote} (hd : StaticDirectory.Alike d d') : c.SameViews d c' d' := by
  intro history
  have hstart : Session.SameNames (Session.start d) (Session.start d') :=
    ⟨Session.allLive_start d, Session.allLive_start d', hd.sameNames⟩
  rw [viewsDuring_eq hc.principal? hstart history]
  exact List.forall₂_same.2 fun v _ => .of_eq rfl

end StaticConnector

/-! ## Views hide secrets -/

/-- Settings, bindings and credentials are shown in the same words if they differ in secrets only;
what differs in anything else has another view. The directories of settings that differ in secrets
only are made alike, or fail alike. The connectors to them are shown in the same words at each
moment of any history, though the one may accept a client that the other one refuses. -/
theorem StaticSettings.views_hide_secrets_only :
    (∀ s s' : StaticSettings, (s.SameButSecrets s' → (shown s).SameTexts (shown s')) ∧
      (shown s = shown s' → s.SameButSecrets s')) ∧
    (∀ b b' : BindingSettings, (b.SameButSecrets b' → (shown b).SameTexts (shown b')) ∧
      (shown b = shown b' → b.SameButSecrets b')) ∧
    (∀ c c' : Credentials, (c.userId = c'.userId → (shown c).SameTexts (shown c')) ∧
      (shown c = shown c' → c.userId = c'.userId)) ∧
    ∀ s s' : StaticSettings, s.SameButSecrets s' → ∀ {σ : Type} (w : σ),
      SameVerdict
        (fun d d' => (StaticConnector.ofSettings s).SameViews d (StaticConnector.ofSettings s') d')
        (s.build.run w).value (s'.build.run w).value := by
  refine ⟨fun s s' => ⟨fun h => ?_, shown_eq_iff.1⟩,
    fun b b' => ⟨fun h => ?_, BindingSettings.shown_eq_iff.1⟩,
    fun c c' => ⟨fun h => ?_, Credentials.shown_eq_iff.1⟩, fun s s' h σ w => ?_⟩
  · exact .of_eq (shown_eq_iff.2 h)
  · exact .of_eq (BindingSettings.shown_eq_iff.2 h)
  · exact .of_eq (Credentials.shown_eq_iff.2 h)
  · have hbuild : Act.Alike (Eq (α := σ)) StaticDirectory.Alike s.build s'.build := h.build
    have hconnectors : (StaticConnector.ofSettings s).SameButSecret (.ofSettings s') :=
      ⟨h.principal?, h.presence⟩
    exact (hbuild rfl).value.imp fun d d' hd => hconnectors.sameViews hd

/-- A directory that asks for one secret, and one that asks for another, with one user each. -/
theorem StaticSettings.views_hide_secrets_only_example :
    let bound (password : String) : BindingSettings :=
      ⟨"svc/Repository", .ofList [("kind", "memory")], .ofList [("ada", password)]⟩
    let s : StaticSettings := ⟨some "admin", some "hunter2", [bound "lovelace"]⟩
    let s' : StaticSettings := ⟨some "admin", some "swordfish", [bound "byron"]⟩
    (shown s).SameTexts (shown s') ∧ shown s ≠ shown StaticSettings.empty ∧
      (shown (bound "lovelace")).SameTexts (shown (bound "byron")) ∧
      (shown (Credentials.mk "ada" "lovelace")).SameTexts (shown (Credentials.mk "ada" "byron")) ∧
      ∃ d d', (s.build.run ()).value = .ok d ∧ (s'.build.run ()).value = .ok d' ∧
        (StaticConnector.ofSettings s).SameViews d (.ofSettings s') d' := by
  intro bound s s'
  have hbound : (bound "lovelace").SameButSecrets (bound "byron") := ⟨rfl, rfl, rfl⟩
  have hsame : s.SameButSecrets s' := ⟨rfl, rfl, .cons hbound .nil⟩
  obtain ⟨hsettings, hbindings, hcredentials, hconnectors⟩ := views_hide_secrets_only
  refine ⟨(hsettings s s').1 hsame, fun h => ?_, (hbindings _ _).1 hbound,
    (hcredentials _ _).1 rfl, ?_⟩
  · have hprincipal : some "admin" = none := ((hsettings s .empty).2 h).principal?
    cases hprincipal
  · have hname : WellFormedName "svc/Repository" := by decide
    have haccepted : ∀ password, Acceptable [bound password] := fun password =>
      Acceptable.nil.concat hname List.not_mem_nil
    have hbuilt : (s.build.run ()).value = .ok (stocked s.bindings) := by
      rw [run_build_of_acceptable (haccepted _)]
    have hbuilt' : (s'.build.run ()).value = .ok (stocked s'.bindings) := by
      rw [run_build_of_acceptable (haccepted _)]
    have hverdict := hconnectors s s' hsame ()
    rw [hbuilt, hbuilt'] at hverdict
    cases hverdict with
    | ok hviews => exact ⟨_, _, hbuilt, hbuilt', hviews⟩

end Locator
