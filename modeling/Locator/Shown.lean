import Locator.Text.Quoted

/-!
# Diagnostic views of values

`Shown` is the shape in which a value is shown to a person: words, quoted texts, lists, maps,
tuples and records. It has two printers, one on a single line (`compact`) and one with an item per
line and four spaces of indentation (`indented`). A record may be `abridged`: it then ends in `..`,
to say that not all of its fields are shown.
-/

namespace Locator

/-- What a person is shown of a value. -/
inductive Shown where
  /-- Text that stands as it is. -/
  | word (text : String)
  /-- Text between quotes. -/
  | text (content : String)
  /-- A name with items in parentheses; the name alone if there are none. -/
  | tuple (name : String) (items : List Shown)
  /-- A name with named fields; the name alone if there are none. -/
  | record (name : String) (fields : List (String × Shown)) (abridged : Bool)
  /-- Items in square brackets. -/
  | list (items : List Shown)
  /-- Entries in braces, under quoted names. -/
  | map (entries : List (String × Shown))

namespace Shown

/-- An optional value: `None`, or `Some(...)` around it. -/
def option : Option Shown → Shown
  | none => .word "None"
  | some s => .tuple "Some" [s]

/-- An optional text. -/
def optionText (s : Option String) : Shown := option (s.map .text)

/-- Texts in square brackets. -/
def texts (names : List String) : Shown := .list (names.map .text)

/-- Texts under names. -/
def textMap (entries : List (String × String)) : Shown := .map (entries.map fun e => (e.1, .text e.2))

mutual

/-- The view on one line. -/
def compact : Shown → String
  | .word t => t
  | .text t => Text.quoted t
  | .tuple n [] => n
  | .tuple n (x :: xs) => n ++ "(" ++ compactItems (x :: xs) ++ ")"
  | .record n [] abridged => if abridged then n ++ " \x7b .. \x7d" else n
  | .record n (f :: fs) abridged =>
    n ++ " \x7b " ++ compactFields (f :: fs) ++ (if abridged then ", .. \x7d" else " \x7d")
  | .list xs => "[" ++ compactItems xs ++ "]"
  | .map es => "\x7b" ++ compactEntries es ++ "\x7d"

/-- Items with commas between them. -/
def compactItems : List Shown → String
  | [] => ""
  | [x] => x.compact
  | x :: y :: r => x.compact ++ ", " ++ compactItems (y :: r)

/-- Named fields with commas between them. -/
def compactFields : List (String × Shown) → String
  | [] => ""
  | [(n, x)] => n ++ ": " ++ x.compact
  | (n, x) :: f :: r => n ++ ": " ++ x.compact ++ ", " ++ compactFields (f :: r)

/-- Entries with commas between them. -/
def compactEntries : List (String × Shown) → String
  | [] => ""
  | [(n, x)] => Text.quoted n ++ ": " ++ x.compact
  | (n, x) :: e :: r => Text.quoted n ++ ": " ++ x.compact ++ ", " ++ compactEntries (e :: r)

end

/-- The spaces in front of a line at a given depth. -/
def margin (depth : Nat) : String := String.ofList (List.replicate (4 * depth) ' ')

mutual

/-- The view with one item per line, for a place at a given depth. -/
def indentedAt (depth : Nat) : Shown → String
  | .word t => t
  | .text t => Text.quoted t
  | .tuple n [] => n
  | .tuple n (x :: xs) =>
    n ++ "(\n" ++ indentedItems (depth + 1) (x :: xs) ++ margin depth ++ ")"
  | .record n [] abridged => if abridged then n ++ " \x7b .. \x7d" else n
  | .record n (f :: fs) abridged =>
    n ++ " \x7b\n" ++ indentedFields (depth + 1) (f :: fs)
      ++ (if abridged then margin (depth + 1) ++ "..\n" else "") ++ margin depth ++ "\x7d"
  | .list [] => "[]"
  | .list (x :: xs) => "[\n" ++ indentedItems (depth + 1) (x :: xs) ++ margin depth ++ "]"
  | .map [] => "\x7b\x7d"
  | .map (e :: es) => "\x7b\n" ++ indentedEntries (depth + 1) (e :: es) ++ margin depth ++ "\x7d"

/-- Items, each on lines of its own. -/
def indentedItems (depth : Nat) : List Shown → String
  | [] => ""
  | x :: r => margin depth ++ indentedAt depth x ++ ",\n" ++ indentedItems depth r

/-- Named fields, each on lines of its own. -/
def indentedFields (depth : Nat) : List (String × Shown) → String
  | [] => ""
  | (n, x) :: r => margin depth ++ n ++ ": " ++ indentedAt depth x ++ ",\n" ++ indentedFields depth r

/-- Entries, each on lines of its own. -/
def indentedEntries (depth : Nat) : List (String × Shown) → String
  | [] => ""
  | (n, x) :: r =>
    margin depth ++ Text.quoted n ++ ": " ++ indentedAt depth x ++ ",\n" ++ indentedEntries depth r

end

/-- The view with one item per line. -/
def indented (s : Shown) : String := s.indentedAt 0

end Shown

/-- Values that can be shown to a person. -/
class Display (α : Type) where
  /-- What is shown of a value. -/
  shown : α → Shown

export Display (shown)

end Locator
