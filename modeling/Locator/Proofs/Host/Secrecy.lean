import Locator.Proofs.Host.Components
import Locator.Proofs.Partition
import Locator.Proofs.StaticDirectory.Alike

/-!
# Secrets do not leak from a host

A host is told three kinds of secrets: the one that it presents to its naming service, the one that
the naming service asks for, and the passwords of users. Two hosts that are told the same apart from
secrets run alike, as long as both present the right secret or neither does.

* `HostSettings.SameButSecrets`, `HostSettings.PresentsSecret`: the settings that are compared;
* `Host.secrets_do_not_leak`: failures and events do not depend on the secrets, as long as collected
  components are plain.
-/

namespace Locator

/-! ## What is compared -/

/-- Settings that differ in secrets only: in the secret that is presented, in the one that is asked
for, and in the passwords of users. A secret that is missing in one is missing in the other. -/
structure HostSettings.SameButSecrets (s s' : HostSettings) : Prop where
  /-- The same reports are shown. -/
  logging : s.logging = s'.logging
  /-- All other parameters are the same. -/
  parameters : ∀ n, n ≠ StaticConnector.credentialsKey →
    s.parameters.get? n = s'.parameters.get? n
  /-- A secret is presented in both or in none. -/
  presence : (s.parameters.get? StaticConnector.credentialsKey).isSome =
    (s'.parameters.get? StaticConnector.credentialsKey).isSome
  /-- The same connector. -/
  connector : s.directory.connector = s'.directory.connector
  /-- The same static directory, but for secrets. -/
  static : s.directory.static.SameButSecrets s'.directory.static

/-- The secret that is presented is the one that is asked for. -/
def HostSettings.PresentsSecret (s : HostSettings) : Prop :=
  s.parameters.get? StaticConnector.credentialsKey = s.directory.static.credentials?

namespace Host

/-! ## The components of a host -/

variable {c c' : StaticConnector}

/-- The client adapter does not look at secrets. -/
theorem alike_clientAdapter : Component.Alike (StaticConnector.likeness c c')
    ClientAdapter.component ClientAdapter.component := by
  refine .adapterFactory fun h h' hh => ?_
  unfold ClientAdapter.factory ClientAdapter.wrap
  cases hh with
  | repository hr => exact Act.Alike.after_emit _ (.pure hr)
  | foreign object => exact .fail _

/-- A plain constructor does the same for both hosts. -/
theorem alike_plain {entry : Collected} (h : Collected.Plain entry) :
    Constructor.Alike (StaticConnector.likeness c c') entry.make entry.make := by
  obtain ⟨verdict, events, hrun⟩ := h
  intro w w' hw
  rw [hrun w, hrun w']
  refine ⟨?_, hw, rfl⟩
  cases verdict with
  | error e => exact .error e
  | ok _ => exact .ok alike_clientAdapter

/-- The registries of two hosts, whose static directories differ in secrets only. -/
theorem alike_registry {collected : List Collected}
    (hcollected : ∀ entry ∈ collected, Collected.Plain entry) (hc : c.SameButSecret c') :
    Registry.Alike (StaticConnector.likeness c c') (registry collected c)
      (registry collected c') := by
  intro name
  rw [constructor?_registry, constructor?_registry]
  split
  · exact .some fun w w' hw => ⟨.ok (.directoryConnector hc.connect), hw, rfl⟩
  -- under all other names both hold the same constructor
  · unfold Registry.builtin?
    split
    · exact .some fun w w' hw => ⟨.ok alike_clientAdapter, hw, rfl⟩
    · cases hfirst : Registry.firstCollected collected name with
      | none => exact .none
      | some make =>
        obtain ⟨entry, hentry, rfl⟩ := Registry.mem_of_firstCollected hfirst
        exact .some (alike_plain (hcollected entry hentry))

/-- Two hosts whose components are alike report the same when they put them together. -/
theorem alike_assemble {collected : List Collected} {τ ε : Type} {alike : τ → τ → Prop}
    (h : Registry.Alike (StaticConnector.likeness c c') (registry collected c)
      (registry collected c')) :
    Act.Alike (ε := ε) alike (Registry.Alike (StaticConnector.likeness c c'))
      (assemble collected c) (assemble collected c') := by
  intro w w' hw
  rw [run_assemble, run_assemble]
  exact ⟨.ok h, hw, rfl⟩

/-! ## The parameters of a host -/

/-- Parameters that differ in the secret only are plans that differ in it only. -/
theorem alike_source {s s' : HostSettings} (h : s.SameButSecrets s')
    (hpresents : s.PresentsSecret ↔ s'.PresentsSecret) :
    ParameterSource.Alike
      (StaticConnector.likeness (.ofSettings s.directory.static) (.ofSettings s'.directory.static))
      (.ofParameters s.parameters) (.ofParameters s'.parameters) := by
  have hfree : isReserved StaticConnector.credentialsKey = false := by decide
  have hget : ∀ p : Parameters, (Plan.ofParameters p).environment.get?
      StaticConnector.credentialsKey = p.get? StaticConnector.credentialsKey := by
    intro p
    rw [Plan.ofParameters_environment_get?, hfree]
    rfl
  intro w w' hw
  rw [Plan.ofSource_ofParameters, Plan.ofSource_ofParameters]
  refine ⟨⟨?_, ?_, ?_, ⟨fun n hn => ?_, ?_⟩, ?_⟩, hw⟩
  · rw [Plan.ofParameters_location, Plan.ofParameters_location,
      h.parameters locationKey (by decide)]
  · rw [Plan.ofParameters_factory, Plan.ofParameters_factory, h.parameters factoryKey (by decide)]
  · rw [Plan.ofParameters_attribute?, Plan.ofParameters_attribute?,
      h.parameters attributeKey (by decide)]
  · rw [Plan.ofParameters_environment_get?, Plan.ofParameters_environment_get?,
      h.parameters n hn]
  · rw [hget, hget]
    exact h.presence
  · unfold StaticConnector.Presented
    rw [hget, hget]
    exact hpresents

/-! ## The report of a host -/

/-- A proxy reads the same descriptors from repositories that are alike. -/
theorem alike_descriptorKeys {r r' : Remote} (h : Remote.Alike r r') :
    Act.Alike StaticService.Alike Eq (RemoteRepository.forwarded r.repository).descriptorKeys
      (RemoteRepository.forwarded r'.repository).descriptorKeys := by
  refine Act.Alike.after_emit _ (Act.Alike.mapError ?_ _)
  cases h with
  | inMemory h => exact .pure (congrArg NameMap.names h)
  | offline reason => exact .fail reason

theorem alike_descriptor {r r' : Remote} (h : Remote.Alike r r') (key : String) :
    Act.Alike StaticService.Alike Eq ((RemoteRepository.forwarded r.repository).descriptor key)
      ((RemoteRepository.forwarded r'.repository).descriptor key) := by
  refine Act.Alike.after_emit _ (Act.Alike.mapError ?_ _)
  cases h with
  | inMemory h => exact .pure (congrArg (NameMap.get? · key) h)
  | offline reason => exact .fail reason

/-- Through alike remotes the same descriptors are reported, key by key. -/
theorem alike_reportDescriptors (attributeName : String) {r r' : Remote} (h : Remote.Alike r r')
    (keys : List String) :
    Act.Alike (StaticConnector.likeness c c').withContext Eq
      (reportDescriptors attributeName (RemoteRepository.forwarded r.repository) keys)
      (reportDescriptors attributeName (RemoteRepository.forwarded r'.repository) keys) := by
  induction keys with
  | nil => exact .pure rfl
  | cons key rest ih =>
    refine (alike_descriptor h key).first.bind fun value value' hvalue => ?_
    rw [hvalue]
    exact Act.Alike.after_emit _ ih

theorem alike_report (attributeName : String) {p p' : Proxy} (h : Remote.Alike p.remote p'.remote) :
    Act.Alike (StaticConnector.likeness c c').withContext Eq (report attributeName p)
      (report attributeName p') := by
  refine (alike_descriptorKeys h).first.bind fun keys keys' hkeys => ?_
  rw [hkeys]
  exact alike_reportDescriptors attributeName h keys'

/-! ## The run of a host -/

/-- Hosts that differ in secrets only, and present them alike, run alike. -/
theorem alike_run {collected : List Collected} {s s' : HostSettings}
    (hcollected : ∀ entry ∈ collected, Collected.Plain entry) (h : s.SameButSecrets s')
    (hpresents : s.PresentsSecret ↔ s'.PresentsSecret) :
    Act.Alike (StaticConnector.likeness (.ofSettings s.directory.static)
        (.ofSettings s'.directory.static)).withContext Eq
      (run collected s) (run collected s') := by
  have hc : (StaticConnector.ofSettings s.directory.static).SameButSecret
      (.ofSettings s'.directory.static) := ⟨h.static.principal?, h.static.presence⟩
  have hregistry := alike_registry hcollected hc
  have hsource := alike_source h hpresents
  unfold run
  rw [h.connector]
  -- the directories are built side by side and take the place of the empty ones
  refine (h.static.build.mapError _).bind fun d d' hd => ?_
  refine (Act.Alike.modify fun w w' hw => ⟨hd, hw.2⟩).bind fun _ _ _ => ?_
  -- both come to their components, and report the same collected ones
  refine (alike_assemble hregistry).bind fun components components' hcomponents => ?_
  -- from here on the two naming services are alike, and so is what is published
  refine ((hcomponents.directoryConnector _).first.mapError _).bind
    fun connector connector' hconnector => ?_
  refine ((Publisher.alike_init ⟨hcomponents, hconnector⟩ hsource).mapError _).bind
    fun name name' hname => ?_
  subst hname
  refine Act.Alike.get.bind fun w w' hw => ?_
  have hend (publisher publisher' : Publisher (StaticService Remote) Remote Proxy) :=
    (Publisher.alike_destroy (ε := HostError) publisher publisher' hsource).bind fun _ _ _ =>
      Act.Alike.pure (x := ()) (y := ()) rfl
  have hpublished := hw.2 name
  generalize w.2.get? name = published at hpublished ⊢
  generalize w'.2.get? name = published' at hpublished ⊢
  cases hpublished with
  | none => exact hend _ _
  | some hproxy => exact ((alike_report name hproxy).mapError _).bind fun _ _ _ => hend _ _

/-- Nothing about secrets is learned from a host. Whatever two hosts are told, if it is the same
apart from secrets, and if both present the right secret or neither does, then both end in the same
way, a failure having the same message and the same causes, and report the same events. -/
theorem secrets_do_not_leak {collected : List Collected} {s s' : HostSettings}
    (hcollected : ∀ entry ∈ collected, Collected.Plain entry) (h : s.SameButSecrets s')
    (hpresents : s.PresentsSecret ↔ s'.PresentsSecret) :
    let o := (run collected s).run World.initial
    let o' := (run collected s').run World.initial
    o.value = o'.value ∧ o.events = o'.events := by
  intro o o'
  have halike := alike_run hcollected h hpresents
  have hinitial : StaticService.Alike World.initial.1 World.initial.1 := StaticDirectory.Alike.empty
  have ho : o.Alike _ Eq o' := halike ⟨hinitial, PublishedContext.Alike.empty⟩
  exact ⟨ho.value.eq, ho.events⟩

/-- A host that presents one secret and is asked for another one, with one user. -/
def exampleSettings (presented asked password : String) : HostSettings where
  logging := .standard
  parameters := (Parameters.ofList [("Location", "svc/Repository"),
    ("directory.principal", "admin")]).insert StaticConnector.credentialsKey presented
  directory := ⟨StaticConnector.registeredName, ⟨some "admin", some asked,
    [⟨"svc/Repository", .ofList [("kind", "memory")], .ofList [("ada", password)]⟩]⟩⟩

/-- Two hosts that are told different secrets, and present the right one, with a collected component
that is not to be had. -/
theorem secrets_do_not_leak_example :
    let collected : List Collected := [⟨"acme::Adapter", Act.fail (.error ⟨"not linked", []⟩)⟩]
    let o := (run collected (exampleSettings "hunter2" "hunter2" "lovelace")).run World.initial
    let o' := (run collected (exampleSettings "swordfish" "swordfish" "byron")).run World.initial
    o.value = o'.value ∧ o.events = o'.events := by
  have hget : ∀ presented asked password n,
      (exampleSettings presented asked password).parameters.get? n =
        if n = StaticConnector.credentialsKey then some presented
        else (Parameters.ofList [("Location", "svc/Repository"),
          ("directory.principal", "admin")]).get? n :=
    fun presented asked password n => NameMap.get?_insert _ _ _ _
  refine secrets_do_not_leak (fun entry hentry => ?_) ⟨rfl, fun n hn => ?_, ?_, rfl, ?_⟩ ?_
  · obtain rfl : entry = _ := List.mem_singleton.1 hentry
    exact ⟨.error (.error ⟨"not linked", []⟩), [], fun w => rfl⟩
  · rw [hget, hget, if_neg hn, if_neg hn]
  · rw [hget, hget, if_pos rfl, if_pos rfl]
    rfl
  · exact ⟨rfl, rfl, .cons ⟨rfl, rfl, rfl⟩ .nil⟩
  · unfold HostSettings.PresentsSecret
    rw [hget, hget, if_pos rfl, if_pos rfl]
    exact ⟨fun _ => rfl, fun _ => rfl⟩

end Host

end Locator
