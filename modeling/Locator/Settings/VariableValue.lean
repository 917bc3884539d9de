import Locator.Number.Decimal
import Locator.Settings.Tree
import Locator.Text.CodePoints

/-!
# Values of variables

The text of a variable may stand for more than a text: for a truth value, a number, a list in square
brackets, a map in braces, or a quoted text. What does not follow this grammar to its end is a text
as it stands.

* `VariableValue.read` gives the tree that a variable's text stands for.
-/

namespace Locator.VariableValue

/-- Spaces between the parts of a value. -/
def isGap (c : Char) : Bool :=
  c = ' ' || c = '\t' || c = '\n' || c = '\r' || c = '\x0c'

/-- The text after the gap at its beginning. -/
def skipGap (cs : List Char) : List Char := cs.dropWhile isGap

/-- A character that a bare word can hold. -/
def isBare (c : Char) : Bool := !(c = ',' || c = '\x7b' || c = '\x7d' || c = '[' || c = ']')

/-- A character that a bare key can hold. -/
def isKey (c : Char) : Bool := c.isAlphanum || c = '_' || c = '-'

/-- A character that may stand in a quoted text as it is. -/
def isPlain (c : Char) : Bool := c = '\t' || (c ≥ ' ' && c ≠ '\x7f')

/-- The character of a code point given in hexadecimal. -/
def codePoint? (digits : List Char) : Option Char := do
  let n ← natOfDigits? 16 digits
  if h : n.isValidChar then pure (Char.ofNatAux n h) else none

/-- The text up to the closing quote, and what follows the quote. -/
def quotedText? : List Char → Option (List Char × List Char)
  | [] => none
  | '"' :: r => some ([], r)
  | '\\' :: 'u' :: a :: b :: c :: d :: r => do
    let x ← codePoint? [a, b, c, d]
    let (t, rest) ← quotedText? r
    pure (x :: t, rest)
  | '\\' :: 'U' :: a :: b :: c :: d :: e :: f :: g :: h :: r => do
    let x ← codePoint? [a, b, c, d, e, f, g, h]
    let (t, rest) ← quotedText? r
    pure (x :: t, rest)
  | '\\' :: x :: r => do
    let y ← match x with
      | '"' => some '"'
      | '\\' => some '\\'
      | 'b' => some '\x08'
      | 'f' => some '\x0c'
      | 'n' => some '\n'
      | 'r' => some '\r'
      | 't' => some '\t'
      | _ => none
    let (t, rest) ← quotedText? r
    pure (y :: t, rest)
  | c :: r =>
    if isPlain c then do
      let (t, rest) ← quotedText? r
      pure (c :: t, rest)
    else none

/-- A text without the blanks around it. -/
def trim (cs : List Char) : List Char :=
  ((cs.dropWhile Text.isBlank).reverse.dropWhile Text.isBlank).reverse

/-- A whole number that fits into 64 bits. -/
def wholeNumber? (cs : List Char) : Option Tree :=
  match cs with
  | '-' :: r => do
    let n ← natOfDigits? 10 r
    if n ≤ Nat.pow 2 63 then pure (.signed (-(n : Int))) else none
  | _ => do
    let n ← natOfDigits? 10 (match cs with | '+' :: r => r | _ => cs)
    if n < Nat.pow 2 64 then pure (.unsigned n) else none

/-- A number with a point. -/
def pointNumber? (cs : List Char) : Option Tree :=
  if cs.contains '.' then (Double.ofText? cs).map .float else none

/-- What a bare word stands for: a number with a point, a whole number, or itself. -/
def bareWord (word : List Char) : Tree :=
  let cs := trim word
  ((pointNumber? cs).or (wholeNumber? cs)).getD (.text (String.ofList cs))

/-- A key, bare or quoted, and what follows it. -/
def key? (cs : List Char) : Option (List Char × List Char) :=
  match cs with
  | '"' :: r => quotedText? r
  | _ =>
    match cs.takeWhile isKey with
    | [] => none
    | k => some (k, cs.dropWhile isKey)

mutual

/-- A value and what follows it; `fuel` bounds the number of values within. -/
def value? : Nat → List Char → Option (Tree × List Char)
  | 0, _ => none
  | fuel + 1, cs => do
    let (t, rest) ← match skipGap cs with
      | 't' :: 'r' :: 'u' :: 'e' :: r => some (.bool true, r)
      | 'f' :: 'a' :: 'l' :: 's' :: 'e' :: r => some (.bool false, r)
      | '\x7b' :: r => do
        let (entries, rest) ← entries? fuel r
        pure (.ofEntries entries, rest)
      | '[' :: r => do
        let (ts, rest) ← items? fuel r
        pure (.list ts, rest)
      | '"' :: r => do
        let (t, rest) ← quotedText? r
        pure (.text (String.ofList t), rest)
      | '\'' :: c :: '\'' :: r => some (.text (String.ofList [c]), r)
      | '\'' :: _ => none
      | r => some (bareWord (r.takeWhile isBare), r.dropWhile isBare)
    pure (t, skipGap rest)

/-- The items of a list up to the closing bracket, and what follows it. -/
def items? : Nat → List Char → Option (List Tree × List Char)
  | 0, _ => none
  | fuel + 1, cs =>
    match cs with
    | ']' :: r => some ([], r)
    | _ => do
      let (t, rest) ← value? fuel cs
      match rest with
      | ',' :: r => do
        let (ts, rest) ← items? fuel r
        pure (t :: ts, rest)
      | ']' :: r => some ([t], r)
      | _ => none

/-- The entries of a map up to the closing brace, and what follows it. -/
def entries? : Nat → List Char → Option (List (String × Tree) × List Char)
  | 0, _ => none
  | fuel + 1, cs =>
    match cs with
    | '\x7d' :: r => some ([], r)
    | _ => do
      let (k, rest) ← key? (skipGap cs)
      match skipGap rest with
      | '=' :: r => do
        let (t, rest) ← value? fuel r
        match rest with
        | ',' :: r => do
          let (es, rest) ← entries? fuel r
          pure ((String.ofList k, t) :: es, rest)
        | '\x7d' :: r => some ([(String.ofList k, t)], r)
        | _ => none
      | _ => none

end

/-- The tree that a variable's text stands for. -/
def read (s : String) : Tree :=
  match value? (2 * s.length + 2) s.toList with
  | some (t, []) => t
  | _ => .text s

end Locator.VariableValue
