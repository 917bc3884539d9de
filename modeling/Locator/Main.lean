import Locator.CommandLine

/-!
# The host program

Reads the arguments, the settings file and the variables of the process, and writes what the program
leaves behind.
-/

open Locator

/-- The bytes at a path, if they can be read. -/
def bytesAt? (path : String) : IO (Option ByteArray) := do
  try
    let bytes ← IO.FS.readBinFile path
    pure (some bytes)
  catch _ => pure none

/-- What is found at a path. -/
def fileAt (path : String) : IO FileState := do
  match ← bytesAt? path with
  | none => pure .absent
  | some bytes =>
    match String.fromUTF8? bytes with
    | some content => pure (.present content)
    | none => pure .undecodable

/-- The variables of this process. -/
def ownVariables : IO (List (String × String)) := do
  match ← bytesAt? "/proc/self/environ" with
  | none => pure []
  | some bytes => pure (((String.fromUTF8? bytes).map variablesOfBlock).getD [])

/-- The path of the settings file that arguments name. -/
def namedFile? (arguments : List String) : Option String :=
  match CommandLine.parse arguments with
  | .ok request => request.file?
  | .error _ => none

def main (arguments : List String) : IO UInt32 := do
  let found ← match namedFile? arguments with
    | some path => fileAt path
    | none => pure .absent
  let around : Surroundings := ⟨fun _ => found, ← ownVariables⟩
  let ending := CommandLine.execute [] around arguments
  (← IO.getStdout).putStr ending.output
  let errors ← IO.getStderr
  for report in ending.reports do
    errors.putStrLn report.line
  errors.putStr ending.complaint
  pure ending.code.toUInt32
