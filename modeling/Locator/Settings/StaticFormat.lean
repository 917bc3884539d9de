import Locator.Settings.Format
import Locator.StaticSettings

/-!
# The format of static directories

How the settings of a static directory are written as trees and read from them. A binding must have
a name; everything else has a default.
-/

namespace Locator

namespace BindingSettings

/-- The binding as a tree, with all its fields. -/
def toTree (b : BindingSettings) : Tree :=
  .map [("name", .text b.name), ("descriptors", .textMap b.descriptors),
    ("users", .textMap b.users)]

/-- A binding of which not everything has been read yet. -/
structure Draft where
  /-- The name, once it has been read. -/
  name? : Option String
  /-- The descriptors by key. -/
  descriptors : NameMap String
  /-- The passwords by user. -/
  users : NameMap String

/-- The fields of a binding. -/
def format : RecordFormat Draft BindingSettings where
  name := "BindingConfig"
  fields :=
    [.of "name" Decoder.text fun x d => { d with name? := some x },
      .of "descriptors" Decoder.text.map fun x d => { d with descriptors := x },
      .of "users" Decoder.text.map fun x d => { d with users := x }]
  start := ⟨none, .empty, .empty⟩
  finish d :=
    match d.name? with
    | some name => .ok ⟨name, d.descriptors, d.users⟩
    | none => .error "name"

end BindingSettings

namespace StaticSettings

/-- The settings as a tree, with all their fields. -/
def toTree (s : StaticSettings) : Tree :=
  .map [("principal", .optionText s.principal?), ("credentials", .optionText s.credentials?),
    ("bindings", .list (s.bindings.map (·.toTree)))]

/-- The fields of the settings. -/
def format : RecordFormat StaticSettings StaticSettings where
  name := "StaticDirectoryConfig"
  fields :=
    [.of "principal" Decoder.text.optional fun x s => { s with principal? := x },
      .of "credentials" Decoder.text.optional fun x s => { s with credentials? := x },
      .of "bindings" BindingSettings.format.decode.list fun x s => { s with bindings := x }]
  start := .empty
  finish := .ok

end StaticSettings

end Locator
