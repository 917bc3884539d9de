import Locator.Host
import Locator.Proofs.Bootstrap.Runs
import Locator.Proofs.CauseChain
import Locator.Proofs.Registry.Construct

/-!
# Causes of a failed bootstrap

The messages of a constructor that fails are handed on from the registry to the bootstrap, and from
there to the line that a host reports. None is lost, none is reworded, and the root comes last. A
failed connection has one cause, which its own message ends with already.

* `Bootstrapper.value_of_constructor_error`: what a bootstrap makes of a failed constructor;
* `BootstrapError.chain_of_connection`: the line of a failed connection;
* `Bootstrapper.causes_reach_the_line`: both, with what the line holds.
-/

namespace Locator

namespace Causes

/-- There is at least one cause. -/
theorem messages_ne_nil (c : Causes) : c.messages ≠ [] := List.cons_ne_nil _ _

/-- The innermost message. -/
def root (c : Causes) : String := c.messages.getLast c.messages_ne_nil

/-- The root is the last message of a chain, behind whatever is put before the chain. -/
theorem append_messages_eq (lead : List String) (c : Causes) :
    lead ++ c.messages = (lead ++ c.messages.dropLast) ++ [c.root] := by
  unfold root
  rw [List.append_assoc, List.dropLast_concat_getLast]

end Causes

/-! ## What is handed on -/

namespace Bootstrapper

variable {σ ρ π : Type} {b : Bootstrapper σ ρ π} {plan : Plan} {s : σ}
  {make : Constructor σ ρ π} {causes : Causes}

/-- A constructor that reports a failure is the reason why its factory cannot be prepared. -/
theorem value_of_constructor_error (hheld : b.registry.constructor? plan.factory = some make)
    (hfails : (make.run s).value = .error (.error causes)) :
    ((b.bootstrapWith plan).run s).value =
      .error (.configuration plan.factory (.constructorFailed causes)) := by
  have hrequest : (b.registry.adapterFactory plan.factory).run s =
      ⟨.error (.constructorFailed causes), (make.run s).state, (make.run s).events⟩ := by
    rw [Registry.run_adapterFactory_of_known hheld, hfails]
    rfl
  rw [run_bootstrapWith_of_factory_error (run_adapterFactory_of_error hrequest)]

end Bootstrapper

namespace BootstrapError

/-! ## The line -/

/-- The line of a failed bootstrap is made of its message and the causes behind it. -/
theorem chain_eq (e : BootstrapError) :
    (HostError.bootstrap e).chain = CauseChain.line (e.message :: e.sources) :=
  rfl

/-- The message of a failed connection is a lead that does not know the cause, and the cause. -/
theorem connectionMessage_eq (kind : ConnectionErrorKind) (location cause : String) :
    connectionMessage kind location cause = connectionMessage kind location "" ++ cause := by
  have hlead : ∀ lead : String, lead ++ cause = lead ++ "" ++ cause := fun lead => by
    rw [String.append_empty]
  exact hlead _

/-- The line of a failed connection is its message, since that ends with the cause. -/
theorem chain_of_connection {e : BootstrapError} {kind : ConnectionErrorKind}
    {location cause : String} (hmessage : e.message = connectionMessage kind location cause)
    (hsources : e.sources = [cause]) :
    (HostError.bootstrap e).chain = e.message := by
  have hends : CauseChain.EndsWith e.message cause := by
    rw [hmessage, connectionMessage_eq]
    exact CauseChain.endsWith_append _ _
  rw [chain_eq, hsources]
  exact CauseChain.line_pair hends

/-- The message of a configuration that failed names the factory. -/
theorem endsWith_message_configuration (className : String) (cause : ComponentError) :
    CauseChain.EndsWith (configuration className cause).message className :=
  CauseChain.endsWith_append _ _

/-- The line of a failed constructor: it names the factory, holds every message and ends with the
root. -/
theorem chain_of_constructorFailed (className : String) (causes : Causes) :
    let chain := (HostError.bootstrap (.configuration className (.constructorFailed causes))).chain
    CauseChain.Contains chain className ∧
      (∀ message ∈ (ComponentError.constructorFailed causes).message :: causes.messages,
        CauseChain.Contains chain message) ∧
      CauseChain.EndsWith chain causes.root := by
  intro chain
  let e := configuration className (.constructorFailed causes)
  have hchain : chain = CauseChain.line
      ([e.message, (ComponentError.constructorFailed causes).message] ++ causes.messages) := rfl
  refine ⟨?_, fun message hmessage => ?_, ?_⟩
  · -- the class name stands at the end of the outermost message
    have houter : CauseChain.Contains chain e.message := by
      rw [hchain]
      exact CauseChain.contains_line List.mem_cons_self
    exact (endsWith_message_configuration className _).isInfix.trans houter
  · rw [hchain]
    exact CauseChain.contains_line (List.mem_cons_of_mem _ hmessage)
  · rw [hchain, Causes.append_messages_eq]
    exact CauseChain.endsWith_line _ _

end BootstrapError

/-! ## Causes reach the line -/

namespace Bootstrapper

variable {σ ρ π : Type}

/-- A constructor that reports a failure, with any number of messages from the outermost one to
the root, fails the bootstraps that name it: the configuration is the matter, behind it stand the
failure of the request and then the messages as they are, and the line of the failure names the
factory, holds every message and ends with the root. The one thing behind a failed connection is
the failure of the naming service or of the adapter; its line is its own message, which puts the
cause once, at the end. -/
theorem causes_reach_the_line (b : Bootstrapper σ ρ π) (plan : Plan) (s : σ)
    {make : Constructor σ ρ π} {causes : Causes}
    (hheld : b.registry.constructor? plan.factory = some make)
    (hfails : (make.run s).value = .error (.error causes)) :
    (∃ e : BootstrapError,
      ((b.bootstrapWith plan).run s).value = .error e ∧
      (∀ source start, Plan.ofSource source start = (plan, s) →
        ((b.bootstrap source).run start).value = .error e) ∧
      e = .configuration plan.factory (.constructorFailed causes) ∧
      e.isConfiguration = true ∧
      e.sources = (ComponentError.constructorFailed causes).message :: causes.messages ∧
      CauseChain.Contains (HostError.bootstrap e).chain plan.factory ∧
      (∀ message ∈ e.sources, CauseChain.Contains (HostError.bootstrap e).chain message) ∧
      CauseChain.EndsWith (HostError.bootstrap e).chain causes.root) ∧
    (∀ (location : String) (cause : NamingError),
      let e := BootstrapError.directoryUnavailable location cause
      e.isConnection = true ∧ e.sources = [cause.message] ∧
      (HostError.bootstrap e).chain = e.message ∧
      e.message =
        BootstrapError.connectionMessage .directoryUnavailable location "" ++ cause.message) ∧
    (∀ (location : String) (cause : AdapterError),
      let e := BootstrapError.incompatibleHandle location cause
      e.isConnection = true ∧ e.sources = [cause.message] ∧
      (HostError.bootstrap e).chain = e.message ∧
      e.message =
        BootstrapError.connectionMessage .incompatibleHandle location "" ++ cause.message) := by
  refine ⟨?_, fun location cause => ?_, fun location cause => ?_⟩
  · have hvalue := value_of_constructor_error hheld hfails
    obtain ⟨hname, hmessages, hroot⟩ :=
      BootstrapError.chain_of_constructorFailed plan.factory causes
    refine ⟨_, hvalue, fun source start hplan => ?_, rfl, rfl, rfl, hname, hmessages, hroot⟩
    rw [run_bootstrap, hplan]
    exact hvalue
  · exact ⟨rfl, rfl, BootstrapError.chain_of_connection rfl rfl,
      BootstrapError.connectionMessage_eq ..⟩
  · exact ⟨rfl, rfl, BootstrapError.chain_of_connection rfl rfl,
      BootstrapError.connectionMessage_eq ..⟩

/-- An adapter factory that cannot be made, for a reason with two contexts around it. -/
theorem causes_reach_the_line_example :
    let causes : Causes := ⟨"adapter not ready", ["key not read", "disk full"]⟩
    let b : Bootstrapper Unit Unit Unit :=
      ⟨Registry.empty.register defaultFactory (Act.fail (.error causes)),
        ⟨fun _ => Act.fail (.other "not reached")⟩⟩
    ∃ e, ((b.bootstrap (.ofParameters .empty)).run ()).value = .error e ∧
      e.sources =
        ["component constructor failed", "adapter not ready", "key not read", "disk full"] ∧
      CauseChain.Contains (HostError.bootstrap e).chain "key not read" ∧
      CauseChain.EndsWith (HostError.bootstrap e).chain "disk full" := by
  intro causes b
  let plan : Plan := ⟨defaultLocation, defaultFactory, none, .empty⟩
  let make : Constructor Unit Unit Unit := Act.fail (.error causes)
  have hheld : b.registry.constructor? plan.factory = some make := rfl
  have hfails : (make.run ()).value = .error (.error causes) := rfl
  obtain ⟨⟨e, -, hbootstrap, -, -, hsources, -, hmessages, hroot⟩, -⟩ :=
    causes_reach_the_line b plan () hheld hfails
  refine ⟨e, hbootstrap (.ofParameters .empty) () rfl, hsources, hmessages _ ?_, hroot⟩
  rw [hsources]
  decide

end Bootstrapper

end Locator
