import Locator.Client
import Locator.Registry
import Locator.StaticConnector

/-!
# Rehearsals

Stand-ins for collaborators that a host would bring along: a connector that answers as prepared, an
adapter factory that refuses every handle, a constructor that succeeds only now and then, and a
parameter source that changes its answers. They work over a `Stage`, which remembers what they have
been asked.
-/

namespace Locator.Rehearsal

/-- What stand-ins remember. -/
structure Stage where
  /-- The static directory, and the environments of those who connected. -/
  service : StaticService Remote
  /-- How often each counting constructor was called. -/
  calls : NameMap Nat
  /-- The answers that the parameter source has left. -/
  script : Script

namespace Stage

/-- Nobody has asked anything of a directory yet. -/
def ofDirectory (d : StaticDirectory Remote) : Stage := ⟨.ofDirectory d, .empty, ⟨.empty⟩⟩

/-- The naming service. -/
def servicePart : Part Stage (StaticService Remote) :=
  ⟨(·.service), fun s stage => { stage with service := s }⟩

/-- The static directory. -/
def directoryPart : Part Stage (StaticDirectory Remote) :=
  servicePart.andThen StaticService.directoryPart

/-- The same stage with other answers to come. -/
def withScript (script : Script) (stage : Stage) : Stage := { stage with script := script }

end Stage

/-- A source that lists given names and answers by the script on the stage. -/
def scripted (listed : List String) : ParameterSource Stage :=
  (ParameterSource.scripted listed).within (·.script) Stage.withScript

/-- Local proxies. -/
abbrev Proxy : Type := ClientRepository Remote

/-- Components on the stage. -/
abbrev StageComponent : Type := Component Stage Remote Proxy

/-- An adapter factory that refuses every handle, as of an unexpected type. -/
def rejecting {σ ρ π : Type} (expected : String) : AdapterFactory σ ρ π :=
  ⟨fun h => Act.fail ⟨expected, h.typeName⟩⟩

/-- An empty static directory that everybody may connect to. -/
def emptyDirectory {σ π : Type} : Component σ Remote π :=
  .directoryConnector (.isolated (.ofDirectory .empty) StaticConnector.anonymous.connector)

/-- A constructor that counts its calls under a key, and succeeds when the count is a multiple of a
number. -/
def counting (key : String) (every : Nat) (c : StageComponent) : Constructor Stage Remote Proxy :=
  Act.next Act.get fun stage =>
    let n := (stage.calls.get? key).getD 0 + 1
    Act.next (Act.modify fun s => { s with calls := s.calls.insert key n }) fun _ =>
      if every ≠ 0 ∧ n % every = 0 then Act.done c
      else Act.fail (.error (.ofContexts [s!"call {n}"]))

/-- A naming service that answers as prepared. -/
structure PreparedConnector where
  /-- What is bound; the last binding of a name counts. -/
  bindings : List (String × Handle Remote)
  /-- The failure of every connection, if it is to fail. -/
  connectError? : Option NamingError
  /-- The failure of every look-up, if it is to fail. -/
  lookupError? : Option NamingError

namespace PreparedConnector

/-- Look a name up as prepared. -/
def lookup (c : PreparedConnector) (name : String) : Except NamingError (Handle Remote) :=
  match c.lookupError?, (NameMap.ofList c.bindings).get? name with
  | some e, _ => .error e
  | none, some handle => .ok handle
  | none, none => .error (.nameNotBound name)

/-- Put the environment on record, and connect as prepared. -/
def connect (c : PreparedConnector) (env : Environment) :
    Act (StaticService Remote) NamingError (DirectoryContext (StaticService Remote) Remote) := do
  Act.modify (StaticService.record env)
  match c.connectError? with
  | some e => Act.fail e
  | none => pure ⟨fun name => Act.ofExcept (c.lookup name)⟩

/-- The connector, as components use it. -/
def connector (c : PreparedConnector) : DirectoryConnector (StaticService Remote) Remote :=
  ⟨c.connect⟩

end PreparedConnector

end Locator.Rehearsal
