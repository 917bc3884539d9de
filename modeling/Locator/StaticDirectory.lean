import Locator.Component

/-!
# The static directory

A naming service that is a table in memory. Names are checked before anything else is looked at; an
operation that fails leaves the table as it was.

* `bind` puts a handle under a free name, `rebind` under any name, `unbind` removes one.
* `lookup` finds the handle under a name.
-/

namespace Locator

/-- Why a handle is not bound. -/
inductive BindError where
  /-- Something is bound under the name already. -/
  | alreadyBound (name : String)
  /-- The name is refused. -/
  | naming (cause : NamingError)
deriving DecidableEq, Repr

namespace BindError

/-- The failure in words; a refused name speaks for itself. -/
def message : BindError → String
  | alreadyBound name => s!"name already bound: {name}"
  | naming cause => cause.message

/-- The name is taken. -/
def isAlreadyBound : BindError → Bool
  | alreadyBound _ => true
  | naming _ => false

/-- The failure of the naming service, if that is the matter. -/
def namingError? : BindError → Option NamingError
  | alreadyBound _ => none
  | naming cause => some cause

end BindError

/-- Handles by name. -/
structure StaticDirectory (ρ : Type) where
  /-- The handles. -/
  table : NameMap (Handle ρ)
deriving DecidableEq

namespace StaticDirectory

variable {ρ : Type}

/-- The directory without bindings. -/
def empty : StaticDirectory ρ := ⟨.empty⟩

instance : Inhabited (StaticDirectory ρ) := ⟨empty⟩

/-- The bound names in ascending order. -/
def names (d : StaticDirectory ρ) : List String := d.table.names

/-- The number of bindings. -/
def size (d : StaticDirectory ρ) : Nat := d.table.size

/-- There are no bindings. -/
def isEmpty (d : StaticDirectory ρ) : Bool := d.table.isEmpty

/-- An event of binding a handle. -/
def bindingEvent (message name : String) (handle : Handle ρ) : Event where
  level := .debug
  target := "static_directory_plugin::directory"
  message := message
  fields := [("name", name), ("handle", handle.typeName)]
  spans := []

/-- Put a handle in the table. -/
def put (name : String) (handle : Handle ρ) (d : StaticDirectory ρ) : StaticDirectory ρ :=
  ⟨d.table.insert name handle⟩

/-- Bind a handle under a name that is free. -/
def bind (name : String) (handle : Handle ρ) : Act (StaticDirectory ρ) BindError Unit := do
  (Act.ofExcept (checkName name)).mapError .naming
  let d ← Act.get
  if d.table.contains name then Act.fail (.alreadyBound name)
  else do
    Act.emit (bindingEvent "Bound remote handle" name handle)
    Act.modify (put name handle)

/-- Bind a handle under a name; gives the handle that was there. -/
def rebind (name : String) (handle : Handle ρ) :
    Act (StaticDirectory ρ) NamingError (Option (Handle ρ)) := do
  Act.ofExcept (checkName name)
  Act.emit (bindingEvent "Rebound remote handle" name handle)
  let d ← Act.get
  Act.modify (put name handle)
  pure (d.table.get? name)

/-- Remove the binding of a name; gives the handle that was there. -/
def unbind (name : String) : Act (StaticDirectory ρ) NamingError (Option (Handle ρ)) := do
  Act.ofExcept (checkName name)
  let d ← Act.get
  Act.modify fun d => ⟨d.table.erase name⟩
  pure (d.table.get? name)

/-- Find the handle under a name. -/
def lookup (name : String) : Act (StaticDirectory ρ) NamingError (Handle ρ) := do
  Act.ofExcept (checkName name)
  let d ← Act.get
  match d.table.get? name with
  | some handle => pure handle
  | none => Act.fail (.nameNotBound name)

end StaticDirectory

end Locator
