/-!
# Characters with their places

A document is read as a list of marks: characters that know their line and column. Line breaks are
made alike beforehand, so that one break is one mark. The readers of this folder work on such lists
and give back what they leave over.
-/

namespace Locator.Yaml

/-- A character and its place in the document. -/
structure Mark where
  /-- The character. -/
  char : Char
  /-- The line, counted from zero. -/
  line : Nat
  /-- The column, counted from zero. -/
  column : Nat
  /-- The number of characters before it. -/
  index : Nat
deriving DecidableEq, Repr

/-- A character that a document may hold. -/
def isAllowed (c : Char) : Bool :=
  c = '\t' || c = '\n' || c = '\r' || (' ' ≤ c && c ≤ '~') || c = '\u0085'
    || ('\u00a0' ≤ c && c.toNat ≤ 0xFFFD) || c.toNat ≥ 0x10000

/-- A line break, as far as breaks are not made alike. -/
def isBreak (c : Char) : Bool := c = '\n' || c = '\u2028' || c = '\u2029'

/-- A blank within a line. -/
def isSpace (c : Char) : Bool := c = ' ' || c = '\t'

/-- Make the common line breaks alike. -/
def unifyBreaks : List Char → List Char
  | '\r' :: '\n' :: r => '\n' :: unifyBreaks r
  | c :: r => (if c = '\r' || c = '\u0085' then '\n' else c) :: unifyBreaks r
  | [] => []

/-- Give each character its place, from a place on. -/
def placed : Nat → Nat → Nat → List Char → List Mark
  | _, _, _, [] => []
  | line, column, index, c :: r =>
    ⟨c, line, column, index⟩ ::
      (if isBreak c then placed (line + 1) 0 (index + 1) r
       else placed line (column + 1) (index + 1) r)

/-- The marks of a document, unless it holds a character that no document may hold. A byte order mark
in front is no part of it. -/
def marks? (s : String) : Option (List Mark) :=
  let cs := match s.toList with
    | '\ufeff' :: r => r
    | cs => cs
  if cs.all isAllowed then some (placed 0 0 0 (unifyBreaks cs)) else none

/-- The characters of marks. -/
def chars (ms : List Mark) : List Char := ms.map (·.char)

/-- The document goes on with a given text. -/
def startsWith (ms : List Mark) (text : String) : Bool := text.toList.isPrefixOf (chars ms)

/-- A blank, a break or the end comes next. -/
def blankFollows : List Mark → Bool
  | [] => true
  | m :: _ => isSpace m.char || isBreak m.char

/-- Three characters that separate documents stand here, at the beginning of a line. -/
def atMarker (text : String) (ms : List Mark) : Bool :=
  match ms with
  | m :: _ => m.column = 0 && startsWith ms text && blankFollows (ms.drop 3)
  | [] => false

/-- A document begins or ends here. -/
def atSeparator (ms : List Mark) : Bool := atMarker "---" ms || atMarker "..." ms

/-- A given character comes next, and a blank after it. -/
def atIndicator (c : Char) : List Mark → Bool
  | m :: r => m.char = c && blankFollows r
  | [] => false

/-- The lines of a document, each with its break. -/
def lines : List Mark → List (List Mark)
  | [] => []
  | m :: r =>
    if isBreak m.char then [m] :: lines r
    else
      match lines r with
      | first :: others => (m :: first) :: others
      | [] => [[m]]

end Locator.Yaml
