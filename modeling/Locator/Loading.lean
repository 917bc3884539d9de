import Locator.Settings.Layers
import Locator.Yaml.Printer
import Locator.Yaml.Value

/-!
# Loading settings

The settings of a host come from a file if one is named, and from the variables of the process. A
host that is told no file uses the defaults alone.

* `Surroundings.loadLayered` lays the variables over a file, which may be absent.
* `Surroundings.load` asks for a file that is there, or for none.
* `HostSettings.printed` is the document that shows the settings without secrets.
-/

namespace Locator

/-- What is found at a path. -/
inductive FileState where
  /-- No regular file. -/
  | absent
  /-- A file with a text. -/
  | present (content : String)
  /-- A file that holds no text. -/
  | undecodable
deriving DecidableEq, Repr

/-- What a host program finds around itself. -/
structure Surroundings where
  /-- The file at a path. -/
  file : String → FileState
  /-- The variables of the process, in their order. -/
  process : List (String × String)

/-- The variables in a block of texts `NAME=value`, each ended by a zero character. -/
def variablesOfBlock (block : String) : List (String × String) :=
  (block.splitOn "\x00").filterMap fun entry =>
    let cs := entry.toList
    match cs.dropWhile (· ≠ '=') with
    | _ :: value => some (String.ofList (cs.takeWhile (· ≠ '=')), String.ofList value)
    | [] => none

/-- Why settings are not loaded. -/
inductive LoadError where
  /-- There is no regular file at the path. -/
  | noFile (path : String)
  /-- The file does not hold one map. -/
  | malformed (path : String)
  /-- Something in a layer does not fit. -/
  | misfit (path : String) (origin : Origin) (cause : Misfit)
deriving DecidableEq, Repr

namespace LoadError

/-- The failure in words. -/
def message : LoadError → String
  | noFile path => s!"config file does not exist: {path}"
  | malformed path | misfit path .. => s!"Failed to load config from {path}"

/-- What is wrong with a file that holds no map. -/
def malformedWording : String := "malformed YAML"

/-- A path without the parts that stand for the same place. -/
def tidied (path : String) : String :=
  let parts := (path.splitOn "/").filter fun part => part ≠ "." && part ≠ ""
  (if path.startsWith "/" then "/" else "") ++ "/".intercalate parts

/-- A path of names as the origin writes it: below a profile in a file, in capitals in variables. -/
def placeIn (origin : Origin) (path : List String) : String :=
  match origin with
  | .process => ".".intercalate (path.map String.toUpper)
  | .file | .defaults => ".".intercalate ("default" :: path)

/-- The origin in words. -/
def originWording (path : String) : Origin → String
  | .process => s!"`{variablePrefix}` environment variable(s)"
  | .file => s!"{tidied path} YAML file"
  | .defaults => "defaults"

/-- What is behind the failure, in words. -/
def sources : LoadError → List String
  | noFile _ => []
  | malformed path => [s!"{malformedWording} in {originWording path .file}"]
  | misfit path origin cause =>
    let place := if cause.path.isEmpty then ""
      else s!" for key \"{placeIn origin cause.path}\""
    [Dialect.layered.wording cause.fault ++ place ++ " in " ++ originWording path origin]

end LoadError

namespace Surroundings

/-- The settings of a file under the variables; a file that is absent says nothing. -/
def loadLayered (around : Surroundings) (path : String) : Except LoadError HostSettings :=
  let file? : Option Tree := match around.file path with
    | .absent => some .empty
    | .present content => Yaml.settings? content
    | .undecodable => none
  match file? with
  | none => .error (.malformed path)
  | some file =>
    let layers : Layers := ⟨file, Layers.ofVariables around.process⟩
    layers.settings.mapError fun m => .misfit path (layers.origin m.path) m

/-- The settings of a host that may have been told a file. -/
def load (around : Surroundings) : Option String → Except LoadError HostSettings
  | none => .ok .default
  | some path =>
    match around.file path with
    | .absent => .error (.noFile path)
    | _ => around.loadLayered path

end Surroundings

/-- The document that shows the settings without secrets. -/
def HostSettings.printed (s : HostSettings) : String := Yaml.Printer.document s.redacted.toTree

end Locator
