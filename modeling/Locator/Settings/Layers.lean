import Locator.HostSettings
import Locator.Settings.VariableValue

/-!
# Layers of settings

Settings are found in three places, and what is found later goes before what was found earlier:
defaults, a file, and the variables of the process whose names begin with `RB__`. The rest of such a
name is a path, with `__` or `.` between its parts, in lower case.

* `Layers.merged` is the tree of all layers together.
* `Layers.settings` reads the host's settings from it. A misfit is attributed to the last layer that
  has something at its place (`Layers.origin`).
-/

namespace Locator

/-- A place where settings are found. -/
inductive Origin where
  | defaults | file | process
deriving DecidableEq, Repr

/-- What the variables of a process are called that settings are read from. -/
def variablePrefix : String := "RB__"

namespace Variable

/-- The rest of a name after the beginning that marks it, in any case. -/
def afterMark? (name : List Char) : Option (List Char) :=
  let mark := variablePrefix.toList
  if lowered (name.take mark.length) = lowered mark then some (name.drop mark.length) else none

/-- A name with a point for each pair of underscores. -/
def dotted : List Char → List Char
  | '_' :: '_' :: r => '.' :: dotted r
  | c :: r => c :: dotted r
  | [] => []

/-- The parts of a name between points. -/
def parts : List Char → List (List Char)
  | [] => [[]]
  | '.' :: r => [] :: parts r
  | c :: r =>
    match parts r with
    | first :: others => (c :: first) :: others
    | [] => [[c]]

/-- The path that a variable's name stands for, unless it has an empty part. -/
def path? (name : String) : Option (List String) := do
  let rest ← afterMark? (VariableValue.trim name.toList)
  let keys := parts (lowered (VariableValue.trim (dotted rest)))
  if keys.any (·.isEmpty) then none else pure (keys.map String.ofList)

/-- The tree that a variable stands for. -/
def tree (name value : String) : Tree :=
  match path? name with
  | some path => .nested path (VariableValue.read value)
  | none => .empty

end Variable

/-- The layers above the defaults. -/
structure Layers where
  /-- What the file says. -/
  file : Tree
  /-- What the variables of the process say. -/
  process : Tree

namespace Layers

/-- What the variables of a process say, in their order. -/
def ofVariables (vs : List (String × String)) : Tree :=
  vs.foldl (fun t v => t.merge (Variable.tree v.1 v.2)) .empty

/-- All layers together. -/
def merged (l : Layers) : Tree := (HostSettings.default.toTree.merge l.file).merge l.process

/-- The last layer that has something at a path. -/
def origin (l : Layers) (path : List String) : Origin :=
  if (l.process.at? path).isSome then .process
  else if (l.file.at? path).isSome then .file
  else .defaults

/-- The host's settings, or what does not fit. -/
def settings (l : Layers) : Except Misfit HostSettings :=
  HostSettings.format.decode .layered l.merged

end Layers

end Locator
