import Mathlib.Data.List.Forall2
import Mathlib.Tactic.MkIffOfInductiveProp
import Locator.StaticConnector
import Locator.Proofs.Alike.Bootstrap

/-!
# Static directories that differ in secrets only

Two static directories with the same names and descriptors, but with other passwords and another
secret, answer alike to two clients that present the same, but for the secret, as long as both
present the right secret or both a wrong one.

* `StaticSettings.SameButSecrets.build`: building the directories;
* `StaticConnector.SameButSecret.connect`: connecting to them, and looking up.
-/

namespace Locator

/-! ## What differs in secrets only -/

/-- Repositories that have the same descriptors, or fail in the same way. -/
inductive Remote.Alike : Remote → Remote → Prop where
  /-- The same descriptors. -/
  | inMemory {r r' : InMemoryRepository} (h : r.descriptors = r'.descriptors) :
      Remote.Alike (.inMemory r) (.inMemory r')
  /-- The same failure. -/
  | offline (reason : RemoteError) : Remote.Alike (.offline reason) (.offline reason)

/-- Directories in which the same names are bound, to handles that are alike. -/
def StaticDirectory.Alike (d d' : StaticDirectory Remote) : Prop :=
  ∀ name, Option.Rel (Handle.Alike Remote.Alike) (d.table.get? name) (d'.table.get? name)

/-- Services of directories that are alike, whoever connected to them. -/
def StaticService.Alike (w w' : StaticService Remote) : Prop :=
  StaticDirectory.Alike w.directory w'.directory

/-- Environments that differ in the secret they present only. -/
structure Environment.SameButSecret (env env' : Environment) : Prop where
  /-- All other entries are the same. -/
  others : ∀ n, n ≠ StaticConnector.credentialsKey → env.get? n = env'.get? n
  /-- A secret is presented in both or in none. -/
  presence : (env.get? StaticConnector.credentialsKey).isSome =
    (env'.get? StaticConnector.credentialsKey).isSome

/-- Connectors that differ in the secret they ask for only. -/
structure StaticConnector.SameButSecret (c c' : StaticConnector) : Prop where
  /-- The same principal. -/
  principal? : c.principal? = c'.principal?
  /-- A secret is set in both or in none. -/
  presence : c.credentials?.isSome = c'.credentials?.isSome

/-- Bindings that differ in the passwords of their users only. -/
structure BindingSettings.SameButSecrets (b b' : BindingSettings) : Prop where
  /-- The same name. -/
  name : b.name = b'.name
  /-- The same descriptors. -/
  descriptors : b.descriptors = b'.descriptors
  /-- The same users. -/
  users : b.users.names = b'.users.names

/-- Settings of static directories that differ in secrets only. -/
structure StaticSettings.SameButSecrets (s s' : StaticSettings) : Prop where
  /-- The same principal. -/
  principal? : s.principal? = s'.principal?
  /-- A secret is set in both or in none. -/
  presence : s.credentials?.isSome = s'.credentials?.isSome
  /-- The same bindings in the same order, but for passwords. -/
  bindings : List.Forall₂ BindingSettings.SameButSecrets s.bindings s'.bindings

attribute [mk_iff] BindingSettings.SameButSecrets StaticSettings.SameButSecrets

/-! ## Directories -/

namespace StaticDirectory.Alike

variable {d d' : StaticDirectory Remote}

theorem empty : StaticDirectory.Alike .empty .empty := fun _ => .none

theorem contains_eq (h : StaticDirectory.Alike d d') (name : String) :
    d.table.contains name = d'.table.contains name := by
  have hname := h name
  unfold NameMap.contains
  generalize d.table.get? name = held at hname ⊢
  generalize d'.table.get? name = held' at hname ⊢
  cases hname with
  | none => rfl
  | some _ => rfl

/-- Alike directories stay alike when alike handles are put under one name. -/
theorem put (h : StaticDirectory.Alike d d') (name : String) {handle handle' : Handle Remote}
    (hh : Handle.Alike Remote.Alike handle handle') :
    StaticDirectory.Alike (d.put name handle) (d'.put name handle') := by
  intro n
  unfold StaticDirectory.put
  rw [NameMap.get?_insert, NameMap.get?_insert]
  split
  · exact .some hh
  · exact h n

end StaticDirectory.Alike

namespace StaticDirectory

/-- Checking a name does not look at the directory. -/
theorem alike_checkName {ε : Type} {S : StaticDirectory Remote → StaticDirectory Remote → Prop}
    (name : String) (f : NamingError → ε) :
    Act.Alike S Eq ((Act.ofExcept (checkName name)).mapError f)
      ((Act.ofExcept (checkName name)).mapError f) :=
  (Act.Alike.ofExcept (.refl (fun _ => rfl) _)).mapError f

/-- Binding handles that are alike. -/
theorem alike_bind (name : String) {handle handle' : Handle Remote}
    (h : Handle.Alike Remote.Alike handle handle') :
    Act.Alike StaticDirectory.Alike Eq (bind name handle) (bind name handle') := by
  refine (alike_checkName name BindError.naming).bind fun _ _ _ => ?_
  refine Act.Alike.get.bind fun d d' hd => ?_
  rw [hd.contains_eq name]
  split
  · exact .fail _
  · unfold bindingEvent
    rw [h.typeName_eq]
    refine Act.Alike.after_emit _ ?_
    exact .modify fun s t hst => hst.put name h

/-- Looking a name up. -/
theorem alike_lookup (name : String) :
    Act.Alike StaticDirectory.Alike (Handle.Alike Remote.Alike) (lookup name) (lookup name) := by
  refine (Act.Alike.ofExcept (.refl (fun _ => rfl) _)).bind fun _ _ _ => ?_
  refine Act.Alike.get.bind fun d d' hd => ?_
  have hname := hd name
  generalize d.table.get? name = held at hname ⊢
  generalize d'.table.get? name = held' at hname ⊢
  cases hname with
  | none => exact .fail _
  | some hh => exact .pure hh

end StaticDirectory

namespace StaticSettings

/-- Bindings that differ in secrets only make alike directories. -/
theorem alike_bindAll {bindings bindings' : List BindingSettings}
    (h : List.Forall₂ BindingSettings.SameButSecrets bindings bindings') :
    Act.Alike StaticDirectory.Alike Eq (bindAll bindings) (bindAll bindings') := by
  induction h with
  | nil => exact .pure rfl
  | cons hb _ ih =>
    unfold bindAll
    rw [hb.name]
    refine (StaticDirectory.alike_bind _ (.repository (.inMemory ?_))).bind fun _ _ _ => ih
    exact hb.descriptors

/-- Passwords and the secret make no difference to building a directory. -/
theorem SameButSecrets.build {s s' : StaticSettings} (h : s.SameButSecrets s') {σ : Type}
    {S : σ → σ → Prop} : Act.Alike S StaticDirectory.Alike s.build s'.build :=
  ((alike_bindAll h.bindings).isolated .empty).map fun _ _ hxy => hxy.2

end StaticSettings

/-! ## Connecting -/

theorem Environment.SameButSecret.size_eq {env env' : Environment} (h : env.SameButSecret env') :
    env.size = env'.size := by
  have hnames : env.table.names = env'.table.names := by
    refine NameMap.names_eq_of_contains fun n => ?_
    by_cases hn : n = StaticConnector.credentialsKey
    · rw [hn]
      exact h.presence
    · exact congrArg Option.isSome (h.others n hn)
  unfold size
  rw [← NameMap.length_names, ← NameMap.length_names, hnames]

namespace StaticConnector

/-- The environment presents what is set as the secret, or leaves it out where none is set. -/
def Presented (c : StaticConnector) (env : Environment) : Prop :=
  env.get? credentialsKey = c.credentials?

namespace SameButSecret

variable {c c' : StaticConnector} {env env' : Environment}

theorem checkAvailable_eq (h : env.SameButSecret env') :
    checkAvailable env = checkAvailable env' := by
  unfold checkAvailable
  rw [h.others availableKey (by decide)]

/-- Clients that both present the secret, or both do not, are authenticated alike. -/
theorem authenticate_eq (hc : c.SameButSecret c') (henv : env.SameButSecret env')
    (h : c.Presented env ↔ c'.Presented env') : c.authenticate env = c'.authenticate env' := by
  have hpresence := hc.presence
  unfold Presented at h
  unfold authenticate
  rw [hc.principal?, henv.others principalKey (by decide)]
  generalize c.credentials? = asked at hpresence h ⊢
  generalize c'.credentials? = asked' at hpresence h ⊢
  cases c'.principal? with
  | none => rfl
  | some principal =>
    cases asked with
    | none =>
      cases asked' with
      | none => rfl
      | some _ => cases hpresence
    | some secret =>
      cases asked' with
      | none => cases hpresence
      -- both ask for a secret, and it is presented to both or to neither
      | some secret' => simp only [ne_eq, h]

/-- Such clients pass the whole check alike. -/
theorem checkAccess_eq (hc : c.SameButSecret c') (henv : env.SameButSecret env')
    (h : c.Presented env ↔ c'.Presented env') : c.checkAccess env = c'.checkAccess env' := by
  unfold checkAccess
  rw [checkAvailable_eq henv, authenticate_eq hc henv h]

end SameButSecret

/-- What counts as alike to clients of two static directories with these connectors. -/
def likeness (c c' : StaticConnector) :
    Likeness (StaticService Remote) Remote (ClientRepository Remote) where
  state := StaticService.Alike
  reference := Remote.Alike
  proxy p p' := Remote.Alike p.remote p'.remote
  environment env env' := env.SameButSecret env' ∧ (c.Presented env ↔ c'.Presented env')
  size_eq h := h.1.size_eq

/-- Connecting to directories that differ in secrets only, and looking up through the connection. -/
theorem SameButSecret.connect {c c' : StaticConnector} (hc : c.SameButSecret c') :
    DirectoryConnector.Alike (likeness c c') c.connector c'.connector := by
  intro env env' henv
  have hrecord : Act.Alike (ε := NamingError) StaticService.Alike Eq
      (Act.modify (StaticService.record env)) (Act.modify (StaticService.record env')) :=
    .modify fun w w' hw => hw
  have hrefused : ∀ e, Act.Alike StaticService.Alike Eq
      (do Act.emit (refusalEvent e); Act.fail e : Act (StaticService Remote) NamingError Unit)
      (do Act.emit (refusalEvent e); Act.fail e) :=
    fun e => Act.Alike.after_emit _ (.fail _)
  have hlookup : DirectoryContext.Alike (likeness c c') context context :=
    fun name => (StaticDirectory.alike_lookup name).within (fun _ _ hw => hw)
      fun _ _ _ _ _ hd => hd
  refine hrecord.bind fun _ _ _ => ?_
  rw [hc.checkAccess_eq henv.1 henv.2]
  refine ((Act.Alike.ofExcept (.refl (fun _ => rfl) _)).onError hrefused).bind fun _ _ _ => ?_
  unfold acceptanceEvent
  rw [henv.1.size_eq]
  exact Act.Alike.after_emit _ (.pure hlookup)

end StaticConnector

end Locator
