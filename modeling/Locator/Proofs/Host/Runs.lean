import Locator.Proofs.Host.Components
import Locator.Proofs.Partition
import Locator.Proofs.Publisher.Runs

/-!
# How a host runs

One rule for each way in which a host run can go: it ends at the static directory or at the connector,
or it goes on to the publication, which is refused or reports a repository in memory.

* `run_of_build_error`, `run_of_connector_error`, `run_of_connector`: what comes before;
* `run_report`: every descriptor of a repository in memory is reported, in the order of the keys;
* `run_publication_of_error`, `run_publication_of_ok`: the publication.
-/

namespace Locator.Host

variable {collected : List Collected} {s : HostSettings} {d : StaticDirectory Remote}
  {connector : DirectoryConnector (StaticService Remote) Remote} {w w' : StaticService Remote}
  {building connecting bootstrapping : List Event}

/-- Work on the naming service leaves alone what is published. -/
theorem run_onService_of {ε α : Type} {a : Act (StaticService Remote) ε α} {v : Except ε α}
    {events : List Event} (h : a.run w = ⟨v, w', events⟩) (c : PublishedContext Proxy) :
    (onService a).run (w, c) = ⟨v, (w', c), events⟩ := Act.run_within_of h

/-! ## Before the publication -/

/-- What a host does once it has its connector: it publishes a repository, reports it and takes it
back. -/
def publication (b : Bootstrapper (StaticService Remote) Remote Proxy) (p : Parameters) :
    Act World HostError Unit := do
  let publisher : Publisher (StaticService Remote) Remote Proxy := ⟨b⟩
  let source := ParameterSource.ofParameters p
  let attributeName ← (publisher.init source).mapError .bootstrap
  let w ← Act.get
  match w.2.get? attributeName with
  | some proxy => (report attributeName proxy).mapError .repository
  | none => pure ()
  let _ ← publisher.destroy source

/-- A directory that cannot be built ends the run before any component is collected. -/
theorem run_of_build_error {e : BindError}
    (hbuild : s.directory.static.build.run World.initial = ⟨.error e, World.initial, building⟩) :
    (run collected s).run World.initial = ⟨.error (.directory e), World.initial, building⟩ := by
  unfold run
  exact Act.run_bind_of_error (Act.run_mapError_of_error _ hbuild)

section

variable (hbuild : s.directory.static.build.run World.initial = ⟨.ok d, World.initial, building⟩)
include hbuild

/-- A connector that cannot be made ends the run once the components are collected. -/
theorem run_of_connector_error {e : ComponentError}
    (hconnector : ((registry collected (.ofSettings s.directory.static)).directoryConnector
      s.directory.connector).run (.ofDirectory d) = ⟨.error e, w, connecting⟩) :
    (run collected s).run World.initial =
      ⟨.error (.connector s.directory.connector e), (w, .empty),
        building ++ (collectedEvents collected ++ connecting)⟩ := by
  have hservice := run_onService_of hconnector .empty
  unfold run
  refine Act.run_bind_of_ok (Act.run_mapError_of_ok _ hbuild) ?_
  refine Eq.trans (Act.run_bind_of_silent (Act.run_modify _ _)) ?_
  refine Act.run_bind_of_ok (run_assemble _ _ _) ?_
  exact Act.run_bind_of_error (Act.run_mapError_of_error _ hservice)

/-- With its directory and its connector at hand, all that is left for a host is the publication. -/
theorem run_of_connector {v : Except HostError Unit} {W : World} {publishing : List Event}
    (hconnector : ((registry collected (.ofSettings s.directory.static)).directoryConnector
      s.directory.connector).run (.ofDirectory d) = ⟨.ok connector, w, connecting⟩)
    (h : (publication ⟨registry collected (.ofSettings s.directory.static), connector⟩
      s.parameters).run (w, .empty) = ⟨v, W, publishing⟩) :
    (run collected s).run World.initial =
      ⟨v, W, building ++ (collectedEvents collected ++ (connecting ++ publishing))⟩ := by
  have hservice := run_onService_of hconnector .empty
  unfold run
  refine Act.run_bind_of_ok (Act.run_mapError_of_ok _ hbuild) ?_
  refine Eq.trans (Act.run_bind_of_silent (Act.run_modify _ _)) ?_
  refine Act.run_bind_of_ok (run_assemble _ _ _) ?_
  exact Act.run_bind_of_ok (Act.run_mapError_of_ok _ hservice) h

end

/-! ## The report -/

/-- What is reported of one descriptor: that it is asked for, and what it is. -/
def entryEvents (attributeName : String) (e : String × String) : List Event :=
  [forwardingEvent "Forwarding descriptor" [("key", e.1)], descriptorEvent attributeName e.1 e.2]

/-- Descriptors that are there are reported one after another. -/
theorem run_reportDescriptors (attributeName : String) (r : InMemoryRepository)
    (l : List (String × String)) (h : ∀ e ∈ l, r.descriptors.get? e.1 = some e.2) (W : World) :
    (reportDescriptors attributeName (RemoteRepository.forwarded r.repository)
      (l.map (·.1))).run W = ⟨.ok (), W, l.flatMap (entryEvents attributeName)⟩ := by
  induction l with
  | nil => rfl
  | cons e rest ih =>
    -- the key is one of the repository, so that its value is there
    have hvalue := h e List.mem_cons_self
    have hask : (onService ((RemoteRepository.forwarded r.repository).descriptor e.1)).run W =
        ⟨.ok (some e.2), W, [forwardingEvent "Forwarding descriptor" [("key", e.1)]]⟩ := by
      rw [← hvalue]
      rfl
    have htold : (Act.emit (descriptorEvent attributeName e.1 ((some e.2).getD "")) :
        Act World RepositoryError Unit).run W =
          ⟨.ok (), W, [descriptorEvent attributeName e.1 e.2]⟩ := Act.run_emit _ W
    have hrest := ih fun x hx => h x (List.mem_cons_of_mem _ hx)
    have hevents : (e :: rest).flatMap (entryEvents attributeName) =
        [forwardingEvent "Forwarding descriptor" [("key", e.1)]] ++
          ([descriptorEvent attributeName e.1 e.2] ++ rest.flatMap (entryEvents attributeName)) :=
      List.flatMap_cons
    rw [hevents, List.map_cons, reportDescriptors]
    refine Act.run_bind_of_ok hask ?_
    exact Act.run_bind_of_ok htold hrest

/-- What is reported of a repository: that its keys are asked for, and then its descriptors. -/
def reportEvents (attributeName : String) (r : InMemoryRepository) : List Event :=
  forwardingEvent "Forwarding descriptor_keys" [] ::
    r.descriptors.entries.flatMap (entryEvents attributeName)

/-- A repository in memory is reported completely. -/
theorem run_report (attributeName : String) (r : InMemoryRepository) (W : World) :
    (report attributeName ⟨.inMemory r⟩).run W = ⟨.ok (), W, reportEvents attributeName r⟩ := by
  have hkeys : (onService (RemoteRepository.forwarded r.repository).descriptorKeys).run W =
      ⟨.ok r.descriptors.names, W, [forwardingEvent "Forwarding descriptor_keys" []]⟩ := rfl
  have hentries := run_reportDescriptors attributeName r r.descriptors.entries
    (fun e he => r.descriptors.mem_entries_iff.1 he) W
  exact Act.run_bind_of_ok hkeys hentries

/-! ## The publication -/

variable {b : Bootstrapper (StaticService Remote) Remote Proxy} {p : Parameters}

/-- Parameters are read without a trace. -/
theorem run_bootstrap_ofParameters (b : Bootstrapper (StaticService Remote) Remote Proxy)
    (p : Parameters) (w : StaticService Remote) :
    (b.bootstrap (.ofParameters p)).run w = (b.bootstrapWith (Plan.ofParameters p)).run w := by
  rw [Bootstrapper.run_bootstrap, Plan.ofSource_ofParameters]

/-- Where the bootstrap fails, nothing is published. -/
theorem run_publication_of_error {e : BootstrapError}
    (h : (b.bootstrapWith (Plan.ofParameters p)).run w = ⟨.error e, w', bootstrapping⟩) :
    (publication b p).run (w, .empty) = ⟨.error (.bootstrap e), (w', .empty), bootstrapping⟩ := by
  have hinit : ((⟨b⟩ : Publisher _ _ _).init (.ofParameters p)).run (w, .empty) =
      ⟨.error e, (w', .empty), bootstrapping⟩ := by
    refine Publisher.run_init_of_error .empty ?_
    rw [run_bootstrap_ofParameters]
    exact h
  unfold publication
  exact Act.run_bind_of_error (Act.run_mapError_of_error _ hinit)

/-- A repository in memory that is bootstrapped is published, reported and taken back. -/
theorem run_publication_of_ok {r : InMemoryRepository}
    (h : (b.bootstrapWith (Plan.ofParameters p)).run w =
      ⟨.ok ⟨.inMemory r⟩, w', bootstrapping⟩) :
    let name := (Plan.ofParameters p).attributeName
    ∃ W, (publication b p).run (w, .empty) =
      ⟨.ok (), W, (bootstrapping ++ [Publisher.event "Published repository" name]) ++
        (reportEvents name r ++ [Publisher.event "Unpublished repository" name])⟩ := by
  intro name
  let published : PublishedContext Proxy := ⟨NameMap.empty.insert name ⟨.inMemory r⟩⟩
  have hget : published.get? name = some ⟨.inMemory r⟩ := by
    unfold PublishedContext.get?
    rw [NameMap.get?_insert, if_pos rfl]
  have hinit : ((⟨b⟩ : Publisher _ _ _).init (.ofParameters p)).run (w, .empty) =
      ⟨.ok name, (w', published),
        bootstrapping ++ [Publisher.event "Published repository" name]⟩ := by
    have hrun := Publisher.run_init_of_ok (p := ⟨b⟩) .empty
      ((run_bootstrap_ofParameters b p w).trans h)
    rwa [Plan.ofSource_ofParameters] at hrun
  have hreport := Act.run_mapError_of_ok HostError.repository (run_report name r (w', published))
  have hdestroy : ((⟨b⟩ : Publisher _ _ _).destroy (.ofParameters p) :
      Act World HostError (Option Proxy)).run (w', published) =
        ⟨.ok (some ⟨.inMemory r⟩), (w', ⟨published.attributes.erase name⟩),
          [Publisher.event "Unpublished repository" name]⟩ := by
    have hrun := Publisher.run_destroy (ε := HostError) ⟨b⟩ (.ofParameters p) w' published
    simp only [Plan.ofSource_ofParameters] at hrun
    rw [hrun, hget]
    rfl
  refine ⟨(w', ⟨published.attributes.erase name⟩), ?_⟩
  unfold publication
  refine Act.run_bind_of_ok (Act.run_mapError_of_ok _ hinit) ?_
  refine Eq.trans (Act.run_bind_of_silent (Act.run_get _)) ?_
  -- what is found under the attribute name is what was just put there
  simp only [hget]
  refine Act.run_bind_of_ok hreport ?_
  rw [← List.append_nil [_]]
  exact Act.run_bind_of_ok hdestroy (Act.run_pure () _)

end Locator.Host
