import Locator.Proofs.Bootstrap.Independence
import Locator.Proofs.Publisher.History
import Locator.Proofs.Registry.Held

/-!
# Publications in any order

Publications over a static directory do not get in each other's way, since their bootstraps do not.
Where every set of parameters names an attribute of its own, the order in which they are published
leaves no trace in the context.

* `PublishedContext.publish`, `publishAll`: what ends of bootstraps make of a context;
* `PublishedContext.publishAll_of_perm`: their order is of no account if the names are distinct;
* `StaticConnector.bootstraps_are_independent`: bootstraps and publications in every order.
-/

namespace Locator

variable {σ τ ρ π : Type}

/-! ## What is published in the end -/

namespace PublishedContext

/-- The context after a bootstrap for an attribute: the proxy is put there if there is one. -/
def publish (c : PublishedContext π) (name : String) : Except BootstrapError π → PublishedContext π
  | .ok proxy => ⟨c.attributes.insert name proxy⟩
  | .error _ => c

/-- The context after any number of bootstraps, which end as `verdict` says. -/
def publishAll (verdict : MapParameters → Except BootstrapError π) (sets : List MapParameters)
    (c : PublishedContext π) : PublishedContext π :=
  sets.foldl (fun c m => c.publish m.attributeName (verdict m)) c

variable {verdict : MapParameters → Except BootstrapError π} {sets order : List MapParameters}

theorem publishAll_append (c : PublishedContext π) (before after : List MapParameters) :
    c.publishAll verdict (before ++ after) = (c.publishAll verdict before).publishAll verdict after :=
  List.foldl_append

/-- A success replaces what is held under the name, and a failure leaves it. -/
theorem get?_publish_self (c : PublishedContext π) (name : String) (v : Except BootstrapError π) :
    (c.publish name v).get? name = v.toOption.or (c.get? name) := by
  cases v with
  | error e => rfl
  | ok proxy =>
    have hput : (c.attributes.insert name proxy).get? name = some proxy := by
      rw [NameMap.get?_insert, if_pos rfl]
    exact hput

theorem get?_publish_of_ne (c : PublishedContext π) {name n : String} (hn : n ≠ name)
    (v : Except BootstrapError π) : (c.publish name v).get? n = c.get? n := by
  cases v with
  | error e => rfl
  | ok proxy =>
    have hput : (c.attributes.insert name proxy).get? n = c.attributes.get? n := by
      rw [NameMap.get?_insert, if_neg hn]
    exact hput

/-- What nobody publishes under stays. -/
theorem get?_publishAll_of_not_mem (c : PublishedContext π) {n : String}
    (hn : n ∉ sets.map (·.attributeName)) : (publishAll verdict sets c).get? n = c.get? n := by
  induction sets generalizing c with
  | nil => rfl
  | cons m rest ih =>
    rw [List.map_cons, List.mem_cons, not_or] at hn
    show (publishAll verdict rest (c.publish m.attributeName (verdict m))).get? n = _
    rw [ih _ hn.2, get?_publish_of_ne c hn.1]

/-- Among distinct names each has the proxy that was published under it, if the bootstrap gave one. -/
theorem get?_publishAll_of_mem (c : PublishedContext π)
    (hdistinct : (sets.map (·.attributeName)).Nodup) {m : MapParameters} (hm : m ∈ sets) :
    (publishAll verdict sets c).get? m.attributeName =
      (verdict m).toOption.or (c.get? m.attributeName) := by
  induction sets generalizing c with
  | nil => cases hm
  | cons first rest ih =>
    rw [List.map_cons, List.nodup_cons] at hdistinct
    show (publishAll verdict rest (c.publish first.attributeName (verdict first))).get? _ = _
    rcases List.mem_cons.1 hm with rfl | hm
    · -- nobody after the first one publishes under its name
      rw [get?_publishAll_of_not_mem _ hdistinct.1, get?_publish_self]
    · have hne : m.attributeName ≠ first.attributeName := by
        intro heq
        apply hdistinct.1
        rw [← heq]
        exact List.mem_map_of_mem hm
      rw [ih _ hdistinct.2 hm, get?_publish_of_ne c hne]

/-- Under distinct names the order of publications is of no account. -/
theorem publishAll_of_perm (c : PublishedContext π) (horder : order.Perm sets)
    (hdistinct : (sets.map (·.attributeName)).Nodup) :
    publishAll verdict order c = publishAll verdict sets c := by
  have hdistinct' : (order.map (·.attributeName)).Nodup := (horder.map _).nodup_iff.2 hdistinct
  refine ext_get? fun n => ?_
  -- under each name there is one publication at most, so what is found there has no order
  by_cases hn : n ∈ sets.map (·.attributeName)
  · obtain ⟨m, hm, rfl⟩ := List.mem_map.1 hn
    rw [get?_publishAll_of_mem c hdistinct hm,
      get?_publishAll_of_mem c hdistinct' (horder.mem_iff.2 hm)]
  · have hn' : n ∉ order.map (·.attributeName) := fun h => hn ((horder.map _).mem_iff.1 h)
    rw [get?_publishAll_of_not_mem c hn, get?_publishAll_of_not_mem c hn']

end PublishedContext

/-! ## Publications in order -/

/-- Publish one set of parameters after another; gives the end of each publication. -/
def initAll (p : Publisher σ ρ π) (sets : List MapParameters) :
    Act (σ × PublishedContext π) Empty (List (Except BootstrapError String)) :=
  sets.mapM fun m => (p.init m.source).attempt

namespace StaticConnector

variable {r : Registry τ ρ π}

section

variable (hsteady : r.Steady) (c : StaticConnector) (fresh : τ) (d : StaticDirectory ρ)
include hsteady

/-- A publication ends with the verdict on its parameters, and does to the context what that makes of
it. -/
theorem exists_run_init (m : MapParameters) (t : τ) (environments : List Environment)
    (context : PublishedContext π) :
    ∃ t' events, ((Publisher.mk (c.bootstrapper r)).init m.source).run
        ((t, ⟨d, environments⟩), context) =
      ⟨(c.verdict r fresh d m).map fun _ => m.attributeName,
        ((t', ⟨d, environments ++ r.recorded fresh [m]⟩),
          context.publish m.attributeName (c.verdict r fresh d m)), events⟩ := by
  obtain ⟨t', events, hrun⟩ := exists_run_bootstrap hsteady c fresh d m t environments
  rcases hverdict : c.verdict r fresh d m with e | proxy
  · rw [hverdict] at hrun
    exact ⟨t', _, Publisher.run_init_of_error (p := ⟨c.bootstrapper r⟩) context hrun⟩
  · rw [hverdict] at hrun
    have hinit := Publisher.run_init_of_ok (p := ⟨c.bootstrapper r⟩) context hrun
    rw [m.ofSource_attributeName] at hinit
    exact ⟨t', _, hinit⟩

/-- Any number of publications end with their verdicts, and do to the context what those make of
it. -/
theorem exists_run_initAll (sets : List MapParameters) (t : τ) (environments : List Environment)
    (context : PublishedContext π) :
    ∃ t' events, (initAll ⟨c.bootstrapper r⟩ sets).run ((t, ⟨d, environments⟩), context) =
      ⟨.ok (sets.map fun m => (c.verdict r fresh d m).map fun _ => m.attributeName),
        ((t', ⟨d, environments ++ r.recorded fresh sets⟩),
          context.publishAll (c.verdict r fresh d) sets), events⟩ := by
  have hstart : environments ++ r.recorded fresh [] = environments := List.append_nil _
  have hrun := Act.exists_run_mapM_attempt
    (fun t before => ((t, (⟨d, environments ++ r.recorded fresh before⟩ : StaticService ρ)),
      context.publishAll (c.verdict r fresh d) before))
    (a := fun m => (Publisher.mk (c.bootstrapper r)).init m.source)
    (v := fun m => (c.verdict r fresh d m).map fun _ => m.attributeName)
    (fun t before m => by
      rw [Registry.recorded_append, ← List.append_assoc, PublishedContext.publishAll_append]
      exact exists_run_init hsteady c fresh d m t _ _) sets [] t
  rw [hstart] at hrun
  exact hrun

end

/-- Over a registry whose constructors have the same outcome on every call, and a directory that
nobody modifies, bootstraps in any order end each as if it were the first one, whatever state the
constructors are in and whoever connected before. They leave the directory as it is and put on record,
in their order, the environments of the plans whose adapter factory could be instantiated. So do
publications; and if the attribute names are distinct, publications in any order end with the same
context, in which each name has the proxy of its bootstrap, if there is one, and all else is as it
was. -/
theorem bootstraps_are_independent (hsteady : r.Steady) (c : StaticConnector) (fresh t : τ)
    (d : StaticDirectory ρ) (earlier : List Environment) (context : PublishedContext π)
    {sets order : List MapParameters} (horder : order.Perm sets) :
    let b := c.bootstrapper r
    let alone := fun m : MapParameters => ((b.bootstrap m.source).run (fresh, .ofDirectory d)).value
    let start : τ × StaticService ρ := (t, ⟨d, earlier⟩)
    (∃ t' events, (bootstrapAll b order).run start =
      ⟨.ok (order.map alone), (t', ⟨d, earlier ++ r.recorded fresh order⟩), events⟩) ∧
    ∃ t' context' events, (initAll ⟨b⟩ order).run (start, context) =
      ⟨.ok (order.map fun m => (alone m).map fun _ => m.attributeName),
        ((t', ⟨d, earlier ++ r.recorded fresh order⟩), context'), events⟩ ∧
      ((sets.map (·.attributeName)).Nodup →
        context' = ((initAll ⟨b⟩ sets).run (start, context)).state.2 ∧
        (∀ m ∈ sets, context'.get? m.attributeName =
          (alone m).toOption.or (context.get? m.attributeName)) ∧
        ∀ n ∉ sets.map (·.attributeName), context'.get? n = context.get? n) := by
  intro b alone start
  have halone : alone = c.verdict r fresh d := funext (run_bootstrap_alone hsteady c fresh d)
  obtain ⟨t', events, hrun⟩ := exists_run_initAll hsteady c fresh d order t earlier context
  rw [halone]
  refine ⟨exists_run_bootstrapAll hsteady c fresh d order t earlier, t', _, events, hrun, ?_⟩
  intro hdistinct
  -- what was said of the order given is said of the other one from here on
  rw [context.publishAll_of_perm horder hdistinct]
  refine ⟨?_, ?_, ?_⟩
  · obtain ⟨u, others, hsets⟩ := exists_run_initAll hsteady c fresh d sets t earlier context
    exact (congrArg (·.state.2) hsets).symm
  · intro m hm
    exact context.get?_publishAll_of_mem hdistinct hm
  · intro n hn
    exact context.get?_publishAll_of_not_mem hn

/-! ## Constructors that count -/

/-- Constructors that count their calls. The one makes adapter factories that count what they wrap,
the other one breaks down. -/
def sampleRegistry : Registry Nat Nat Nat :=
  let counting : Act Nat ConstructorFailure (Component Nat Nat Nat) := do
    Act.modify (· + 1)
    pure (.adapterFactory ⟨fun
      | .repository remote => do Act.modify (· + 1); pure remote
      | .foreign object => Act.fail ⟨Handle.repositoryTypeName, object.typeName⟩⟩)
  let broken : Act Nat ConstructorFailure (Component Nat Nat Nat) := do
    Act.modify (· + 1)
    Act.fail (.panic (.literal "out of order"))
  (Registry.empty.register "acme::Counting" counting).register "acme::Broken" broken

theorem steady_sampleRegistry : sampleRegistry.Steady := by
  intro name make held t u
  unfold sampleRegistry at held
  rw [Registry.constructor?_register, Registry.constructor?_register] at held
  split at held
  · cases held
    rfl
  · split at held
    · cases held
      refine congrArg (fun answer => Except.ok (some answer)) (funext fun found => ?_)
      cases found with
      | repository remote => rfl
      | foreign object => rfl
    · cases held

/-- Asked for in any state, the adapter factories that count take what holds a repository. -/
theorem answers_sampleRegistry (t : Nat) : sampleRegistry.answers "acme::Counting" t =
    .ok fun
      | .repository remote => .ok remote
      | .foreign object => .error ⟨Handle.repositoryTypeName, object.typeName⟩ := by
  refine congrArg Except.ok (funext fun found => ?_)
  cases found with
  | repository remote => rfl
  | foreign object => rfl

/-- A directory of one repository. -/
def sampleDirectory : StaticDirectory Nat := ⟨.ofList [("svc/Mail", .repository 7)]⟩

/-- What a user asks for: a repository, with an adapter for it and a name to publish it under. -/
def sampleParameters (factory location published user : String) : MapParameters :=
  .ofParameters (.ofList [(factoryKey, factory), (locationKey, location), (attributeKey, published),
    ("user", user)])

/-- Three bootstraps, of which one has no adapter factory and one finds nothing, after others, and
the three publications. -/
theorem bootstraps_are_independent_example :
    let b := StaticConnector.bootstrapper ⟨none, none⟩ sampleRegistry
    let mail := sampleParameters "acme::Counting" "svc/Mail" "mail" "ada"
    let lost := sampleParameters "acme::Counting" "svc/Lost" "lost" "byron"
    let broken := sampleParameters "acme::Broken" "svc/Mail" "broken" "claire"
    let start : Nat × StaticService Nat := (5, ⟨sampleDirectory, [.ofList [("user", "dorothy")]]⟩)
    (∃ t' events, (bootstrapAll b [broken, mail, lost]).run start =
      ⟨.ok [.error (.configuration "acme::Broken" (.panicked "out of order")), .ok 7,
          .error (.directoryUnavailable "svc/Lost" (.nameNotBound "svc/Lost"))],
        (t', ⟨sampleDirectory, [.ofList [("user", "dorothy")], .ofList [("user", "ada")],
          .ofList [("user", "byron")]]⟩), events⟩) ∧
    ((initAll ⟨b⟩ [broken, mail, lost]).run (start, .empty)).state.2 =
      ((initAll ⟨b⟩ [mail, lost, broken]).run (start, .empty)).state.2 := by
  intro b mail lost broken start
  have horder : [broken, mail, lost].Perm [mail, lost, broken] := by
    show ([broken] ++ [mail, lost]).Perm ([mail, lost] ++ [broken])
    exact List.perm_append_comm
  obtain ⟨⟨t', events, hrun⟩, u, context', events', hinit, hcontext⟩ :=
    bootstraps_are_independent steady_sampleRegistry ⟨none, none⟩ 0 5 sampleDirectory
      [.ofList [("user", "dorothy")]] .empty horder
  -- the three of them alone
  have hbroken : ((b.bootstrap broken.source).run (0, .ofDirectory sampleDirectory)).value =
      .error (.configuration "acme::Broken" (.panicked "out of order")) := rfl
  have hmail : ((b.bootstrap mail.source).run (0, .ofDirectory sampleDirectory)).value =
      .ok 7 := by
    have hname : checkName "svc/Mail" = .ok () := checkName_eq_ok_iff.2 (by decide +kernel)
    have hfound := StaticDirectory.run_lookup_of_bound (d := sampleDirectory) hname rfl
    have hplan : mail.plan =
        ⟨"svc/Mail", "acme::Counting", some "mail", .ofList [("user", "ada")]⟩ := by decide +kernel
    rw [run_bootstrap_alone steady_sampleRegistry, verdict, hplan, answers_sampleRegistry]
    exact (settled_of_found rfl (congrArg Outcome.value hfound)).trans rfl
  have hlost : ((b.bootstrap lost.source).run (0, .ofDirectory sampleDirectory)).value =
      .error (.directoryUnavailable "svc/Lost" (.nameNotBound "svc/Lost")) := by
    have hname : checkName "svc/Lost" = .ok () := checkName_eq_ok_iff.2 (by decide +kernel)
    have hmissing := StaticDirectory.run_lookup_of_missing (d := sampleDirectory) hname rfl
    have hplan : lost.plan =
        ⟨"svc/Lost", "acme::Counting", some "lost", .ofList [("user", "byron")]⟩ := by
      decide +kernel
    rw [run_bootstrap_alone steady_sampleRegistry, verdict, hplan, answers_sampleRegistry]
    exact settled_of_missing rfl (congrArg Outcome.value hmissing)
  have hrecorded : sampleRegistry.recorded 0 [broken, mail, lost] =
      [.ofList [("user", "ada")], .ofList [("user", "byron")]] := by decide +kernel
  have hdistinct : ([mail, lost, broken].map (·.attributeName)).Nodup := by decide +kernel
  refine ⟨⟨t', events, hrun.trans ?_⟩, ?_⟩
  · rw [List.map_cons, List.map_cons, List.map_cons, hbroken, hmail, hlost, hrecorded]
    rfl
  · rw [← (hcontext hdistinct).1]
    exact congrArg (·.state.2) hinit

end StaticConnector

end Locator
