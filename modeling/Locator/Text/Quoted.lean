import Locator.Text.CodePoints

/-!
# Quoted text

A text between double quotes in which every character can be told apart on a terminal: quote and
backslash are escaped, the usual control characters have letter escapes, and whatever has no glyph
of its own (or would merge with the character before it) is written by its code point.
-/

namespace Locator.Text

/-- Lower-case hexadecimal digits of a number, without leading zeros. -/
def hexadecimal (n : Nat) : List Char := Nat.toDigits 16 n

/-- One character inside double quotes. -/
def escapeQuoted (c : Char) : List Char :=
  if c = '"' then ['\\', '"']
  else if c = '\\' then ['\\', '\\']
  else if c = '\n' then ['\\', 'n']
  else if c = '\r' then ['\\', 'r']
  else if c = '\t' then ['\\', 't']
  else if c = '\x00' then ['\\', '0']
  else if isExtender c || !isPrintable c then
    ['\\', 'u', '\x7b'] ++ hexadecimal c.toNat ++ ['\x7d']
  else [c]

/-- A text between double quotes. -/
def quoted (s : String) : String :=
  String.ofList ('"' :: s.toList.flatMap escapeQuoted ++ ['"'])

/-- One character between apostrophes: here the double quote stands for itself. -/
def quotedChar (c : Char) : String :=
  let inner :=
    if c = '\'' then ['\\', '\'']
    else if c = '"' then ['"']
    else escapeQuoted c
  String.ofList ('\'' :: inner ++ ['\''])

end Locator.Text
