import Locator.Shown

/-!
# Remote handles

What a look-up in a naming service gives: an object about which the finder knows nothing but the name
of its type. A handle is useful to the client adapter only if it holds a repository (`ρ` stands for
a reference to one); everything else is a foreign object.
-/

namespace Locator

/-- An object in a naming service that is not a repository reference. -/
inductive ForeignObject where
  /-- A number of one byte. -/
  | byte
  /-- A number of eight bytes. -/
  | word (value : UInt64)
  /-- A floating-point number. -/
  | float
  /-- The empty tuple. -/
  | unit
  /-- A borrowed text. -/
  | textSlice
  /-- A text. -/
  | text (content : String)
  /-- An optional number. -/
  | optionalNumber
  /-- A list of texts. -/
  | texts
  /-- A repository in memory that is not wrapped as a reference. -/
  | bareRepository
  /-- A shared repository in memory that is not wrapped as a reference. -/
  | sharedRepository
  /-- A handle inside a handle. -/
  | handle
  /-- Any other object, known by the name of its type. -/
  | other (typeName : String)
deriving DecidableEq

/-- The name of the object's type. -/
def ForeignObject.typeName : ForeignObject → String
  | byte => "u8"
  | word _ => "u64"
  | float => "f64"
  | unit => "()"
  | textSlice => "&str"
  | text _ => "alloc::string::String"
  | optionalNumber => "core::option::Option<i32>"
  | texts => "alloc::vec::Vec<alloc::string::String>"
  | bareRepository => "static_directory_plugin::repository::InMemoryRemoteRepository"
  | sharedRepository =>
    "alloc::sync::Arc<static_directory_plugin::repository::InMemoryRemoteRepository>"
  | handle => "repository_locator_sdk::models::RemoteHandle"
  | other typeName => typeName

/-- What a look-up gives; `ρ` are the references to repositories. -/
inductive Handle (ρ : Type) where
  /-- A reference to a repository. -/
  | repository (remote : ρ)
  /-- Something else. -/
  | foreign (object : ForeignObject)
deriving DecidableEq

namespace Handle

variable {ρ : Type}

/-- The name of the type of a repository reference. -/
def repositoryTypeName : String :=
  "alloc::sync::Arc<dyn repository_locator_sdk::api::RemoteRepository>"

/-- The name of the type of what a handle holds. -/
def typeName : Handle ρ → String
  | repository _ => repositoryTypeName
  | foreign object => object.typeName

/-- The repository reference in a handle, if it holds one. -/
def repository? : Handle ρ → Option ρ
  | repository remote => some remote
  | foreign _ => none

/-- The text in a handle, if it holds one. -/
def text? : Handle ρ → Option String
  | foreign (.text content) => some content
  | _ => none

/-- The number of eight bytes in a handle, if it holds one. -/
def word? : Handle ρ → Option UInt64
  | foreign (.word value) => some value
  | _ => none

instance : Display (Handle ρ) :=
  ⟨fun h => .record "RemoteHandle" [("type_name", .text h.typeName)] true⟩

end Handle

/-- How an adapter factory refuses a handle: it holds an object of an unexpected type. -/
structure AdapterError where
  /-- The type that the factory adapts. -/
  expected : String
  /-- The type of the object in the handle. -/
  actual : String
deriving DecidableEq, Repr

namespace AdapterError

/-- The refusal in words. -/
def message (e : AdapterError) : String :=
  s!"unexpected remote handle: expected `{e.expected}`, got `{e.actual}`"

instance : Display AdapterError := ⟨fun e =>
  .record "UnexpectedHandle" [("expected", .text e.expected), ("actual", .text e.actual)] false⟩

end AdapterError

end Locator
