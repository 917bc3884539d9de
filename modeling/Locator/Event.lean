/-!
# Levels, events and spans

What the library reports while it works: an `Event` has a level, the place it comes from (its
target), a message and named texts, and it happens inside spans, listed from the outermost inwards.
-/

namespace Locator

/-- How important a report is. -/
inductive Level where
  | error | warn | info | debug | trace
deriving DecidableEq, Repr, Inhabited

namespace Level

/-- How much has to be asked for until reports of this level are given. -/
def verbosity : Level → Nat
  | .error => 1
  | .warn => 2
  | .info => 3
  | .debug => 4
  | .trace => 5

/-- The name in lower case, as settings write it. -/
def name : Level → String
  | .error => "error"
  | .warn => "warn"
  | .info => "info"
  | .debug => "debug"
  | .trace => "trace"

/-- The name in capitals, as reports carry it. -/
def label : Level → String
  | .error => "ERROR"
  | .warn => "WARN"
  | .info => "INFO"
  | .debug => "DEBUG"
  | .trace => "TRACE"

/-- The name with one capital, as diagnostic views show it. -/
def title : Level → String
  | .error => "Error"
  | .warn => "Warn"
  | .info => "Info"
  | .debug => "Debug"
  | .trace => "Trace"

/-- All levels, the least important one first. -/
def all : List Level := [.trace, .debug, .info, .warn, .error]

end Level

/-- A stretch of work that events happen in; always of level `info`. -/
structure Span where
  /-- The name of the work. -/
  name : String
  /-- The place that opened the span. -/
  target : String
  /-- What the work is about. -/
  fields : List (String × String)
deriving DecidableEq, Repr

/-- One report. -/
structure Event where
  /-- How important it is. -/
  level : Level
  /-- The place it comes from. -/
  target : String
  /-- What happened. -/
  message : String
  /-- The texts that belong to the message. -/
  fields : List (String × String)
  /-- The spans it happened in, from the outermost inwards. -/
  spans : List Span
deriving DecidableEq, Repr

/-- The event on one line. -/
def Event.line (e : Event) : String :=
  " ".intercalate
    ([e.level.label, e.target ++ ":", e.message] ++ e.fields.map fun f => s!"{f.1}={f.2}")

/-- The same event inside one more span, around those it has. -/
def Event.inside (span : Span) (e : Event) : Event := { e with spans := span :: e.spans }

end Locator
