/-!
# Chains of causes

A failure has a message, its cause has one, and so on down to the root. `Causes` is such a chain; it
grows at the outer end, by contexts. `CauseChain.line` renders messages as one line of text,
`outer: cause: root`, and leaves out a message that already stands at the end of the line.
-/

namespace Locator

/-- A failure with its causes, from the outermost message down to the root. -/
structure Causes where
  /-- The outermost message. -/
  outermost : String
  /-- The messages behind it, the root last. -/
  deeper : List String
deriving DecidableEq, Repr

namespace Causes

/-- A root cause with contexts around it, given from the root outwards. -/
def ofContexts (messages : List String) : Causes :=
  match messages.reverse with
  | [] => ⟨"", []⟩
  | outermost :: deeper => ⟨outermost, deeper⟩

/-- All messages, the outermost first. -/
def messages (c : Causes) : List String := c.outermost :: c.deeper

end Causes

namespace CauseChain

/-- A text ends with another one. -/
def endsWith (text ending : String) : Bool := ending.toList.isSuffixOf text.toList

/-- The line with one more message. -/
def extend (line message : String) : String :=
  if endsWith line message then line
  else if line = "" then message
  else line ++ ": " ++ message

/-- Messages from the outermost to the root as one line. -/
def line (messages : List String) : String := messages.foldl extend ""

end CauseChain

end Locator
