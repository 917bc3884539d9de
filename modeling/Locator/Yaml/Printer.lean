import Locator.Number.Decimal
import Locator.Settings.Tree

/-!
# Printed documents

A value tree as a YAML document of block collections, two spaces a level. A text is written plain
unless it would be read as something else; then it is written between double quotes. A text of several
lines is a literal block, a long one a folded block.

* `Printer.scalar`, `Printer.key`: texts as values and as names.
* `Printer.document`: a whole tree.
-/

namespace Locator.Yaml.Printer

/-! ## Texts that need quotes -/

/-- Words that readers of YAML take for something else than a text, in lower case. -/
def reservedWords : List String :=
  ["~", "null", "true", "false", "yes", "no", "on", "off", "y", "n",
    "nan", ".nan", "inf", "+inf", "-inf", ".inf", "+.inf", "-.inf"]

/-- A text after its sign. -/
def withoutSign : List Char → List Char
  | '-' :: r | '+' :: r => r
  | r => r

/-- Digits of a base, in which underscores may stand, with at least one digit. -/
def isDigits (base : Nat) (cs : List Char) : Bool :=
  cs.any (fun c => (digitValue? base c).isSome)
    && cs.all fun c => (digitValue? base c).isSome || c = '_'

/-- The power of ten of a number, or nothing. -/
def isPower : List Char → Bool
  | [] => true
  | c :: r => (c = 'e' || c = 'E') && isDigits 10 (withoutSign r)

/-- A decimal number without a sign. -/
def isDecimal (cs : List Char) : Bool :=
  let isMark (c : Char) : Bool := isDecimalDigit c || c = '_' || c = '.'
  let mantissa := cs.takeWhile isMark
  mantissa.head? ≠ some '_' && (mantissa.filter (· = '.')).length ≤ 1
    && isDigits 10 (mantissa.filter (· ≠ '.')) && isPower (cs.dropWhile isMark)

/-- A text that looks like a number. -/
def looksNumeric (cs : List Char) : Bool :=
  match withoutSign cs with
  | '0' :: 'x' :: r => isDigits 16 r
  | '0' :: 'o' :: r => isDigits 8 r
  | '0' :: 'b' :: r => isDigits 2 r
  | r => isDecimal r

/-- A text that would be read as something else than a text. -/
def isAmbiguous (cs : List Char) : Bool :=
  cs.isEmpty || reservedWords.contains (String.ofList (lowered cs)) || looksNumeric cs

/-- White space of ASCII. -/
def isAsciiSpace (c : Char) : Bool :=
  c = ' ' || c = '\t' || c = '\n' || c = '\r' || c = '\x0c'

/-- A character that has a meaning of its own at the beginning of a value. -/
def isIndicator (c : Char) : Bool :=
  [':', '[', ']', '\x7b', '\x7d', '#', '&', '*', '!', '|', '>', '\'', '"', '%', '@', '`', ','].contains c

/-- The first characters of a text mean something else than a text. -/
def beginsAmiss : List Char → Bool
  | [] => true
  | c :: r =>
    isAsciiSpace c || isIndicator c
      || ((c = '-' || c = '?') && (match r with | d :: _ => isAsciiSpace d | [] => true))

/-- A character without a glyph that controls a terminal. -/
def isControl (c : Char) : Bool := c.toNat < 0x20 || (0x7F ≤ c.toNat && c.toNat < 0xA0)

/-- A colon ends the text or stands before a space. -/
def hasKeyColon : List Char → Bool
  | [] => false
  | [c] => c = ':'
  | ':' :: ' ' :: _ => true
  | _ :: r => hasKeyColon r

/-- A value that can be written plain. -/
def isPlainValue (cs : List Char) : Bool :=
  !isAmbiguous cs && !beginsAmiss cs && !hasKeyColon cs && !cs.any fun c => c = '#' || isControl c

/-- A name that can be written plain. -/
def isPlainKey (cs : List Char) : Bool :=
  !isAmbiguous cs && !beginsAmiss cs
    && !cs.any fun c => c = ':' || c = '#' || c = ',' || isControl c

/-! ## Quoted texts -/

/-- Capital hexadecimal digits of a number, at least a given count of them. -/
def hexadecimal (count n : Nat) : List Char :=
  let ds := (Nat.toDigits 16 n).map Char.toUpper
  List.replicate (count - ds.length) '0' ++ ds

/-- A character of a value between quotes. -/
def quotedValueChar (c : Char) : List Char :=
  match c with
  | '\\' => ['\\', '\\']
  | '"' => ['\\', '"']
  | '\x00' => ['\\', '0']
  | '\x07' => ['\\', 'a']
  | '\x08' => ['\\', 'b']
  | '\t' => ['\\', 't']
  | '\n' => ['\\', 'n']
  | '\x0b' => ['\\', 'v']
  | '\x0c' => ['\\', 'f']
  | '\r' => ['\\', 'r']
  | '\x1b' => ['\\', 'e']
  | '\u0085' => ['\\', 'N']
  | '\u2028' => ['\\', 'L']
  | '\u2029' => ['\\', 'P']
  | '\ufeff' => '\\' :: 'u' :: hexadecimal 4 c.toNat
  | _ => if isControl c then '\\' :: 'x' :: hexadecimal 2 c.toNat else [c]

/-- A character of a name between quotes. -/
def quotedKeyChar (c : Char) : List Char :=
  match c with
  | '\\' => ['\\', '\\']
  | '"' => ['\\', '"']
  | '\n' => ['\\', 'n']
  | '\r' => ['\\', 'r']
  | '\t' => ['\\', 't']
  | _ => if isControl c then '\\' :: 'u' :: hexadecimal 4 c.toNat else [c]

/-- A name. -/
def key (s : String) : String :=
  if isPlainKey s.toList then s
  else String.ofList ('"' :: s.toList.flatMap quotedKeyChar ++ ['"'])

/-! ## Values -/

/-- The spaces in front of a line. -/
def margin (indent : Nat) : String := String.ofList (List.replicate indent ' ')

/-- The widest line of a folded block. -/
def foldedWidth : Nat := 80

/-- The place of the last space among the first characters, or else of the first space after them. -/
def breakPlace? (cs : List Char) : Option Nat :=
  let spaces := (cs.zipIdx.filter (·.1 = ' ')).map (·.2)
  ((spaces.filter (· ≤ foldedWidth)).getLast?).or (spaces.find? (· > foldedWidth))

/-- The lines of a folded block; there are at most as many as characters. -/
def foldedLines : Nat → List Char → List (List Char)
  | 0, cs => [cs]
  | fuel + 1, cs =>
    if cs.length ≤ foldedWidth then [cs]
    else match breakPlace? cs with
      | some i => cs.take i :: foldedLines fuel (cs.drop (i + 1))
      | none => [cs]

/-- The lines of a text. -/
def textLines : List Char → List (List Char)
  | [] => [[]]
  | c :: r =>
    if c = '\n' then [] :: textLines r
    else match textLines r with
      | first :: others => (c :: first) :: others
      | [] => [[c]]

/-- Lines of a block, each behind its margin. -/
def blockLines (indent : Nat) (ls : List (List Char)) : String :=
  String.join (ls.map fun l => margin indent ++ String.ofList l ++ "\n")

/-- The header of a literal block for a text with a number of breaks at its end. -/
def literalHeader (breaks : Nat) : String :=
  match breaks with
  | 0 => "|-"
  | 1 => "|"
  | _ => "|+"

/-- A text of several lines as a literal block. -/
def literal (indent : Nat) (cs : List Char) : String :=
  let breaks := (cs.reverse.takeWhile (· = '\n')).length
  let body := cs.take (cs.length - breaks)
  literalHeader breaks ++ "\n" ++ blockLines indent (textLines body)
    ++ blockLines indent (List.replicate (breaks - 1) [])

/-- A text, up to the end of its line or block; `indent` is that of a block. -/
def text (indent : Nat) (s : String) : String :=
  let cs := s.toList
  if cs = ['-'] then "'-'\n"
  else if isPlainValue cs then
    if cs.length > foldedWidth then ">-\n" ++ blockLines indent (foldedLines cs.length cs)
    else s ++ "\n"
  else if cs.contains '\n' && isPlainValue (cs.map fun c => if c = '\n' then ' ' else c) then
    literal indent cs
  else String.ofList ('"' :: cs.flatMap quotedValueChar ++ ['"']) ++ "\n"

/-- A value that is not a collection, up to the end of its line or block. -/
def scalar (indent : Nat) : Tree → String
  | .null => "null\n"
  | .bool b => s!"{b}\n"
  | .unsigned n => s!"{n}\n"
  | .signed n => s!"{n}\n"
  | .float d => d.textWithPoint ++ "\n"
  | .text s => text indent s
  | .list _ => "[]\n"
  | .map _ => "\x7b\x7d\n"

/-- A map with entries. -/
def isFilledMap : Tree → Bool
  | .map (_ :: _) => true
  | _ => false

mutual

/-- What follows the colon of a name at `indent`; an empty map after a filled one stands on a line of
its own. -/
def value (indent : Nat) (afterMap : Bool) : Tree → String
  | .list (t :: ts) => "\n" ++ items indent (t :: ts)
  | .map (e :: es) => "\n" ++ entries (indent + 2) false (e :: es)
  | .map [] =>
    if afterMap then "\n" ++ margin (indent + 2) ++ scalar 0 (.map []) else " " ++ scalar 0 (.map [])
  | t => " " ++ scalar (indent + 2) t

/-- The entries of a map, one below the other. -/
def entries (indent : Nat) (afterMap : Bool) : List (String × Tree) → String
  | [] => ""
  | (name, t) :: rest =>
    margin indent ++ key name ++ ":" ++ value indent afterMap t
      ++ entries indent (isFilledMap t) rest

/-- The items of a list, one below the other. -/
def items (indent : Nat) : List Tree → String
  | [] => ""
  | t :: rest => margin indent ++ "-" ++ item indent t ++ items indent rest

/-- What follows the dash of an item at `indent`. -/
def item (indent : Nat) : Tree → String
  | .list (t :: ts) => "\n" ++ items (indent + 2) (t :: ts)
  | .map ((name, t) :: rest) =>
    " " ++ key name ++ ":" ++ value (indent + 2) false t ++ entries (indent + 2) (isFilledMap t) rest
  | t => " " ++ scalar (indent + 2) t

end

/-- A tree as a document. -/
def document : Tree → String
  | .map (e :: es) => entries 0 false (e :: es)
  | .list (t :: ts) => items 0 (t :: ts)
  | t => scalar 2 t

end Locator.Yaml.Printer
