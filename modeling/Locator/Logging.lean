import Locator.Event
import Locator.Settings.Format
import Locator.Shown

/-!
# Console levels

Which reports reach the console. Settings give levels by section; a section is a text with which the
targets it governs begin. The longest such text decides, whatever else is configured; the section
`default` stands for all other targets.

* `ConsoleFilter.ofListing` is the filter of sections in some order, `ConsoleFilter.ofLogging` the one
  in the order of their names.
* `ConsoleFilter.enables` is the decision, `ConsoleFilter.select` the reports that pass.
-/

namespace Locator

/-- What is shown of the reports of some targets: those up to a level, or none. -/
structure Section where
  /-- The least important level that is shown, if any is. -/
  console? : Option Level
deriving DecidableEq, Repr

namespace Section

/-- A section that says nothing about its level. -/
def default : Section := ⟨some .info⟩

/-- The name of the level, as settings write it. -/
def levelName (s : Section) : String :=
  match s.console? with
  | some l => l.name
  | none => "off"

/-- The level of a name, in any case; the outer option says whether there is one. -/
def level? (raw : String) : Option (Option Level) :=
  let name := raw.toLower
  if name = "off" ∨ name = "none" then some none
  else (Level.all.find? (·.name = name)).map some

/-- A level by name. -/
def levelDecoder : Decoder (Option Level) := fun dialect t => do
  let raw ← Decoder.text dialect t
  match level? raw with
  | some l => .ok l
  | none => .error ⟨.unknownLevel raw, []⟩

/-- The section as a tree. -/
def toTree (s : Section) : Tree := .map [("console_level", .text s.levelName)]

/-- The fields of a section. -/
def format : RecordFormat Section Section where
  name := "Section"
  fields := [.of "console_level" levelDecoder fun x _ => ⟨x⟩]
  start := .default
  finish := .ok

instance : Display Section := ⟨fun s =>
  .record "Section"
    [("console_level", .option (s.console?.map fun l => .tuple "Level" [.word l.title]))] false⟩

end Section

/-- Sections by name. -/
abbrev Logging : Type := NameMap Section

namespace Logging

/-- The section for targets without one of their own. -/
def defaultName : String := "default"

/-- Only the default section, as it is. -/
def standard : Logging := NameMap.empty.insert defaultName .default

/-- The sections as a tree. -/
def toTree (l : Logging) : Tree := .map (l.entries.map fun e => (e.1, e.2.toTree))

/-- Sections by name, read from a tree. -/
def decoder : Decoder Logging := Section.format.decode.map

end Logging

/-- A decision about reports by their targets and levels. -/
structure ConsoleFilter where
  /-- What is shown where no section applies. -/
  fallback : Option Level
  /-- Texts with which targets begin, and what is shown of these targets. -/
  sections : List (String × Option Level)

namespace ConsoleFilter

/-- One more section, in place of the one of the same name. -/
def withSection (f : ConsoleFilter) (name : String) (shown? : Option Level) : ConsoleFilter :=
  { f with sections := f.sections.filter (·.1 ≠ name) ++ [(name, shown?)] }

/-- The filter of the configured sections, which are taken as a listing of them has them. -/
def ofListing (l : Logging) (listing : List (String × Section)) : ConsoleFilter :=
  (listing.filter (·.1 ≠ Logging.defaultName)).foldl (fun f e => f.withSection e.1 e.2.console?)
    ⟨((l.get? Logging.defaultName).getD .default).console?, []⟩

/-- The filter of the configured sections. -/
def ofLogging (l : Logging) : ConsoleFilter := ofListing l l.entries

/-- The section is the text with which a target begins. -/
def governs (name target : String) : Bool := name.toList.isPrefixOf target.toList

/-- The longer of two sections that govern a target. -/
def moreSpecific (a b : String × Option Level) : String × Option Level :=
  if a.1.length < b.1.length then b else a

/-- What is shown of a target: the longest section that governs it decides. -/
def levelFor (f : ConsoleFilter) (target : String) : Option Level :=
  match f.sections.filter (governs ·.1 target) with
  | [] => f.fallback
  | first :: others => (others.foldl moreSpecific first).2

/-- Reports of a level pass where another level is shown. -/
def allows (shown? : Option Level) (l : Level) : Bool :=
  match shown? with
  | some s => l.verbosity ≤ s.verbosity
  | none => false

/-- Reports of a level from a target pass. -/
def enables (f : ConsoleFilter) (target : String) (l : Level) : Bool :=
  allows (f.levelFor target) l

/-- The reports that pass, each with those of its spans that pass as well. -/
def select (f : ConsoleFilter) (events : List Event) : List Event :=
  (events.filter fun e => f.enables e.target e.level).map fun e =>
    { e with spans := e.spans.filter fun s => f.enables s.target .info }

end ConsoleFilter

end Locator
