import Locator.Remote
import Locator.StaticDirectory

/-!
# Settings of a static directory

Who may connect to a static directory, and which repositories are bound in it. A repository in
memory stands behind each binding. Diagnostic views and printed settings never show the secret of
the directory or a password of a user.

* `StaticSettings.build` makes the directory; it stops at the first binding that is refused.
* `StaticSettings.redacted` replaces every secret by the same text.
-/

namespace Locator

/-- A repository to be bound. -/
structure BindingSettings where
  /-- The name to bind it under. -/
  name : String
  /-- Its descriptors by key. -/
  descriptors : NameMap String
  /-- The passwords of its users. -/
  users : NameMap String
deriving DecidableEq

namespace BindingSettings

/-- The repository behind the binding. -/
def repository (b : BindingSettings) : InMemoryRepository := ⟨b.descriptors, b.users⟩

/-- The handle to be bound. -/
def handle (b : BindingSettings) : Handle Remote := .repository (.inMemory b.repository)

/-- The binding without passwords. -/
def redacted (b : BindingSettings) : BindingSettings :=
  { b with users := b.users.mapValues fun _ _ => Locator.redacted }

instance : Display BindingSettings := ⟨fun b =>
  .record "BindingConfig"
    [("name", .text b.name), ("descriptors", .textMap b.descriptors.entries),
      ("users", .texts b.users.names)] false⟩

end BindingSettings

/-- What a static directory is made of. -/
structure StaticSettings where
  /-- Who has to be named by those who connect, if anybody. -/
  principal? : Option String
  /-- The secret they have to present, if any. -/
  credentials? : Option String
  /-- The repositories, in the order in which they are bound. -/
  bindings : List BindingSettings
deriving DecidableEq

namespace StaticSettings

/-- Nothing is bound, and everybody may connect. -/
def empty : StaticSettings := ⟨none, none, []⟩

/-- The settings without secrets. -/
def redacted (s : StaticSettings) : StaticSettings where
  principal? := s.principal?
  credentials? := s.credentials?.map fun _ => Locator.redacted
  bindings := s.bindings.map (·.redacted)

instance : Display StaticSettings := ⟨fun s =>
  .record "StaticDirectoryConfig"
    [("principal", .optionText s.principal?),
      ("credentials", .optionText (s.credentials?.map fun _ => Locator.redacted)),
      ("bindings", .list (s.bindings.map shown))] false⟩

/-- Bind repositories one after another. -/
def bindAll : List BindingSettings → Act (StaticDirectory Remote) BindError Unit
  | [] => pure ()
  | b :: rest => do
    StaticDirectory.bind b.name b.handle
    bindAll rest

/-- The directory of the settings. -/
def build {σ : Type} (s : StaticSettings) : Act σ BindError (StaticDirectory Remote) :=
  Prod.snd <$> Act.isolated .empty (bindAll s.bindings)

end StaticSettings

end Locator
