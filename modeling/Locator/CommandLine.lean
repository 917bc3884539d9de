import Locator.Host
import Locator.Loading

/-!
# The command line

The host program is told a settings file, how much to report, and whether to print its settings
instead of running. `CommandLine.parse` reads the arguments one after another; the first one that
cannot be used ends the program. The value of an option that stands apart from it is looked at when
the next option comes, or the end. `CommandLine.execute` is the whole program, up to what it writes and
its exit code.
-/

namespace Locator.CommandLine

/-- What a program leaves behind. -/
structure Ending where
  /-- The exit code. -/
  code : Nat
  /-- What is written to the standard output. -/
  output : String
  /-- What is written to the standard error. -/
  complaint : String
  /-- The reports that reach the console. -/
  reports : List Event

/-- What the program is asked to do. -/
structure Request where
  /-- The settings file. -/
  file? : Option String
  /-- How often more reports are asked for. -/
  verbosity : Nat
  /-- Print the settings and do nothing else. -/
  printOnly : Bool
deriving DecidableEq, Repr

/-- Why arguments cannot be used. -/
inductive UsageError where
  /-- There is no such option, and nothing else is taken. -/
  | unexpected (argument : String)
  /-- An option without a value is given one. -/
  | unexpectedValue (value option : String)
  /-- An option is left without its value. -/
  | missingValue (option : String)
  /-- An option is given again. -/
  | repeated (option : String)
deriving DecidableEq, Repr

/-- The failure in words. -/
def UsageError.message : UsageError → String
  | unexpected argument => s!"error: unexpected argument '{argument}' found"
  | unexpectedValue value option =>
    s!"error: unexpected value '{value}' for '{option}' found; no more were expected"
  | missingValue option => s!"error: a value is required for '{option}' but none was supplied"
  | repeated option => s!"error: the argument '{option}' cannot be used multiple times"

/-- Why the arguments do not make a request. -/
inductive Stop where
  /-- They ask for the list of options. -/
  | help
  /-- They ask for the version. -/
  | version
  /-- They cannot be used. -/
  | misuse (e : UsageError)
deriving DecidableEq, Repr

/-! ## Options -/

/-- An option of the program. -/
inductive Flag where
  | config | verbose | printConfig | help | version
deriving DecidableEq, Repr

/-- The option as messages write it. -/
def Flag.shown : Flag → String
  | config => "--config <CONFIG>"
  | verbose => "--verbose..."
  | printConfig => "--print-config"
  | help => "--help"
  | version => "--version"

/-- The option of a long name. -/
def Flag.ofLong? : String → Option Flag
  | "config" => some .config
  | "verbose" => some .verbose
  | "print-config" => some .printConfig
  | "help" => some .help
  | "version" => some .version
  | _ => none

/-- The option of a letter. -/
def Flag.ofLetter? : Char → Option Flag
  | 'c' => some .config
  | 'v' => some .verbose
  | 'h' => some .help
  | 'V' => some .version
  | _ => none

/-- The version of the program. -/
def versionText : String := "repository-bootstrap 0.1.0\n"

/-- The options of the program. -/
def helpText : String :=
  "Locate a remote repository and publish it locally\n\n" ++
  "Usage: repository-bootstrap [OPTIONS]\n\n" ++
  "Options:\n" ++
  "  -c, --config <CONFIG>  Path to the YAML configuration file\n" ++
  "  -v, --verbose...       Increase console verbosity (-v debug, -vv trace)\n" ++
  "      --print-config     Print the effective configuration and exit\n" ++
  "  -h, --help             Print help\n" ++
  "  -V, --version          Print version\n"

/-! ## Arguments -/

/-- What has been read of the arguments. -/
structure Draft where
  /-- The settings file. -/
  file? : Option String
  /-- How often more reports are asked for. -/
  verbosity : Nat
  /-- The settings are to be printed. -/
  printOnly : Bool
  /-- An option for the settings file that is not settled yet, with its value once that has come. -/
  pending? : Option (Option String)
deriving DecidableEq

namespace Draft

/-- Nothing has been read. -/
def initial : Draft := ⟨none, 0, false, none⟩

/-- The most that is counted of requests for more reports. -/
def maxVerbosity : Nat := 255

/-- Take the settings file. -/
def setFile (d : Draft) (path : String) : Except Stop Draft :=
  if d.file?.isSome then .error (.misuse (.repeated Flag.config.shown))
  else if path = "" then .error (.misuse (.missingValue Flag.config.shown))
  else .ok { d with file? := some path, pending? := none }

/-- Nothing more can come for an option that is not settled. -/
def settle (d : Draft) : Except Stop Draft :=
  match d.pending? with
  | none => .ok d
  | some none => .error (.misuse (.missingValue Flag.config.shown))
  | some (some path) => d.setFile path

/-- Take an option that has no value. -/
def apply (d : Draft) (flag : Flag) : Except Stop Draft := do
  let d ← d.settle
  match flag with
  | .config => pure { d with pending? := some none }
  | .verbose => pure { d with verbosity := min (d.verbosity + 1) maxVerbosity }
  | .printConfig =>
    if d.printOnly then .error (.misuse (.repeated flag.shown)) else pure { d with printOnly := true }
  | .help => .error .help
  | .version => .error .version

/-- Take a long option, with what follows the equals sign. -/
def long (d : Draft) (name : String) (value? : Option String) : Except Stop Draft :=
  match Flag.ofLong? name, value? with
  | none, _ => .error (.misuse (.unexpected ("--" ++ name)))
  | some .config, some path => do (← d.settle).setFile path
  | some flag, some value => .error (.misuse (.unexpectedValue value flag.shown))
  | some flag, none => d.apply flag

/-- Take letters behind one hyphen; what follows the letter of the settings file is its value. -/
def letters (d : Draft) : List Char → Except Stop Draft
  | [] => .ok d
  | c :: r =>
    match Flag.ofLetter? c with
    | none => .error (.misuse (.unexpected (String.ofList ['-', c])))
    | some .config =>
      match r with
      | [] => d.apply .config
      | '=' :: path => do (← d.settle).setFile (String.ofList path)
      | path => do (← d.settle).setFile (String.ofList path)
    | some flag => do (← d.apply flag).letters r

/-- An argument split at its first equals sign. -/
def splitAtEquals (cs : List Char) : String × Option String :=
  let name := String.ofList (cs.takeWhile (· ≠ '='))
  match cs.dropWhile (· ≠ '=') with
  | _ :: value => (name, some (String.ofList value))
  | [] => (name, none)

/-- Take one argument. -/
def take (d : Draft) (argument : String) : Except Stop Draft :=
  match argument.toList with
  | '-' :: '-' :: r => let (name, value?) := splitAtEquals r; d.long name value?
  | '-' :: c :: r => d.letters (c :: r)
  | _ =>
    if d.pending? = some none then .ok { d with pending? := some (some argument) }
    else .error (.misuse (.unexpected argument))

/-- Take arguments one after another; after two hyphens nothing is an option. -/
def takeAll : Draft → List String → Except Stop Draft
  | d, [] => d.settle
  | d, argument :: rest =>
    if argument = "--" then
      match rest with
      | [] => d.settle
      | extra :: _ => .error (.misuse (.unexpected extra))
    else do (← d.take argument).takeAll rest

end Draft

/-- The request of the arguments. -/
def parse (arguments : List String) : Except Stop Request := do
  let d ← Draft.initial.takeAll arguments
  pure ⟨d.file?, d.verbosity, d.printOnly⟩

/-! ## Failures on the standard error -/

/-- Text behind a margin: one for its first line, another one for all others. -/
def behindMargins (first others : String) (text : String) : String :=
  first ++ ("\n" ++ others).intercalate (text.splitOn "\n")

/-- A number in a field of five characters. -/
def numbered (n : Nat) : String :=
  let ds := toString n
  String.ofList (List.replicate (5 - ds.length) ' ') ++ ds ++ ": "

/-- The causes of a failure, numbered if there are several. -/
def causeLines : List String → List String
  | [] => []
  | [cause] => [behindMargins "    " "    " cause]
  | causes => causes.zipIdx.map fun (cause, n) => behindMargins (numbered n) "       " cause

/-- A failure with its causes, as the program shows it before it ends. -/
def complaint (message : String) (sources : List String) : String :=
  let causes := causeLines sources
  "Error: " ++ message ++
    (if causes.isEmpty then "" else "\n\nCaused by:\n" ++ "\n".intercalate causes) ++ "\n"

/-! ## The program -/

/-- What follows the complaint about arguments that cannot be used. -/
def usageHint : String :=
  "\n\nUsage: repository-bootstrap [OPTIONS]\n\nFor more information, try '--help'.\n"

/-- The end of a program that could not use its arguments. -/
def Stop.ending : Stop → Ending
  | help => ⟨0, helpText, "", []⟩
  | version => ⟨0, versionText, "", []⟩
  | misuse e => ⟨2, "", e.message ++ usageHint, []⟩

/-- A run of the host under the console levels of its settings, with a report of its failure. -/
def runHost (collected : List Host.Collected) (s : HostSettings) : Ending :=
  let outcome := (Host.run collected s).run Host.World.initial
  let filter := ConsoleFilter.ofLogging s.logging
  match outcome.value with
  | .ok () => ⟨0, "", "", filter.select outcome.events⟩
  | .error e =>
    ⟨1, "", complaint e.message e.sources,
      filter.select (outcome.events ++ [Host.failureEvent e])⟩

/-- What the program does for a request. -/
def fulfil (collected : List Host.Collected) (around : Surroundings) (r : Request) : Ending :=
  match around.load r.file? with
  | .error e => ⟨1, "", complaint e.message e.sources, []⟩
  | .ok loaded =>
    let s := loaded.raiseVerbosity r.verbosity
    if r.printOnly then ⟨0, s.printed, "", []⟩ else runHost collected s

/-- The program. -/
def execute (collected : List Host.Collected) (around : Surroundings) (arguments : List String) :
    Ending :=
  match parse arguments with
  | .error stop => stop.ending
  | .ok request => fulfil collected around request

end Locator.CommandLine
