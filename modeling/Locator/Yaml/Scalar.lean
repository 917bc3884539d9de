import Locator.Number.Decimal
import Locator.Yaml.Source

/-!
# Scalars

The five ways to write a text: between double quotes, between apostrophes, plain, and as a literal or
folded block. A line break inside the first three counts as a space, and further breaks after it
count as themselves (`Gap.text`); a folded block does the same between lines that are not indented
further.
-/

namespace Locator.Yaml

/-! ## Gaps within a text -/

/-- The blanks between two words of a text. -/
inductive Gap where
  /-- Blanks on one line. -/
  | blanks (cs : List Char)
  /-- The first break, unless it is escaped, and the breaks that follow it. -/
  | breaks (first? : Option Char) (more : List Char)

namespace Gap

/-- No blanks. -/
def none : Gap := .blanks []

/-- The gap with one more blank or break. -/
def add (g : Gap) (c : Char) : Gap :=
  match g with
  | .blanks cs => if isBreak c then .breaks (some c) [] else .blanks (cs ++ [c])
  | .breaks first? more => if isBreak c then .breaks first? (more ++ [c]) else g

/-- What the gap stands for. -/
def text : Gap → List Char
  | .blanks cs => cs
  | .breaks (some '\n') [] => [' ']
  | .breaks (some '\n') more => more
  | .breaks (some c) more => c :: more
  | .breaks .none more => more

/-- The gap goes over the end of a line. -/
def crosses : Gap → Bool
  | .blanks _ => false
  | .breaks .. => true

/-- There is no gap. -/
def isNone : Gap → Bool
  | .blanks [] => true
  | _ => false

end Gap

/-! ## Between quotes -/

/-- The character of a code point in hexadecimal. -/
def codePoint? (digits : List Mark) : Option Char := do
  let n ← natOfDigits? 16 (chars digits)
  if h : n.isValidChar then pure (Char.ofNatAux n h) else none

/-- The character of an escape of one letter. -/
def escaped? (c : Char) : Option Char :=
  match c with
  | '0' => some '\x00'
  | 'a' => some '\x07'
  | 'b' => some '\x08'
  | 't' => some '\t'
  | '\t' => some '\t'
  | 'n' => some '\n'
  | 'v' => some '\x0b'
  | 'f' => some '\x0c'
  | 'r' => some '\r'
  | 'e' => some '\x1b'
  | ' ' => some ' '
  | '"' => some '"'
  | '/' => some '/'
  | '\\' => some '\\'
  | 'N' => some '\u0085'
  | '_' => some '\u00a0'
  | 'L' => some '\u2028'
  | 'P' => some '\u2029'
  | _ => none

/-- The number of hexadecimal digits after an escape letter. -/
def escapeDigits (c : Char) : Nat :=
  match c with
  | 'x' => 2
  | 'u' => 4
  | 'U' => 8
  | _ => 0

/-- What has been read of a text, and what comes after it. -/
abbrev Taken : Type := List Char × List Mark

/-- Put characters in front of what has been read. -/
def Taken.after (cs : List Char) (t : Taken) : Taken := (cs ++ t.1, t.2)

/-- A text after its opening double quote; `digits` counts the digits of an escape to be passed
over. -/
def doubleQuoted? : Nat → Gap → List Mark → Option Taken
  | _, _, [] => none
  | digits + 1, g, _ :: r => doubleQuoted? digits g r
  | 0, g, m :: r =>
    if atSeparator (m :: r) then none
    else if m.char = '"' then some (g.text, r)
    else if isSpace m.char || isBreak m.char then doubleQuoted? 0 (g.add m.char) r
    else if m.char = '\\' then
      match r with
      | [] => none
      | e :: after =>
        if isBreak e.char then (doubleQuoted? 0 (.breaks none []) after).map (·.after g.text)
        else
          let count := escapeDigits e.char
          let c? := if count = 0 then escaped? e.char else
            if after.length < count then none else codePoint? (after.take count)
          match c? with
          | some c => (doubleQuoted? count .none after).map (·.after (g.text ++ [c]))
          | none => none
    else (doubleQuoted? 0 .none r).map (·.after (g.text ++ [m.char]))

/-- A text after its opening apostrophe. -/
def singleQuoted? : Gap → List Mark → Option Taken
  | _, [] => none
  | g, m :: r =>
    if atSeparator (m :: r) then none
    else if m.char = '\'' then
      match r with
      | n :: after =>
        if n.char = '\'' then (singleQuoted? .none after).map (·.after (g.text ++ ['\'']))
        else some (g.text, r)
      | [] => some (g.text, r)
    else if isSpace m.char || isBreak m.char then singleQuoted? (g.add m.char) r
    else (singleQuoted? .none r).map (·.after (g.text ++ [m.char]))

/-! ## Plain -/

/-- A character that ends a plain text between brackets. -/
def isBracketing (c : Char) : Bool := c = ',' || c = '[' || c = ']' || c = '\x7b' || c = '\x7d'

/-- A plain text can begin here. -/
def beginsPlain (flow : Bool) : List Mark → Bool
  | [] => false
  | m :: r =>
    let c := m.char
    if c = '-' then match r with
      | n :: _ => !isSpace n.char
      | [] => true
    else if c = '?' || c = ':' then !flow && !blankFollows r
    else !(isSpace c || isBreak c || isBracketing c
      || ['#', '&', '*', '!', '|', '>', '\'', '"', '%', '@', '`'].contains c)

/-- A colon here ends a plain text. -/
def endsAtColon : List Mark → Bool
  | m :: r => m.char = ':' && blankFollows r
  | [] => false

/-- A colon between brackets stands before a bracket. -/
def misplacedColon : List Mark → Bool
  | m :: n :: _ => m.char = ':' && (isBracketing n.char || n.char = '?')
  | _ => false

/-- A plain text, of which lines after the first are indented by at least `indent` outside brackets;
also says whether the gap after the text goes over the end of a line. -/
def plain? (flow : Bool) (indent : Int) : Gap → List Mark → Option (Taken × Bool)
  | g, [] => some (([], []), g.crosses)
  | g, m :: r =>
    let stop : Option (Taken × Bool) := some (([], m :: r), g.crosses)
    if isSpace m.char || isBreak m.char then
      if g.crosses && m.char = '\t' && (m.column : Int) < indent then none
      else plain? flow indent (g.add m.char) r
    else if !g.isNone && (!flow && (m.column : Int) < indent || atSeparator (m :: r) || m.char = '#')
    then stop
    else if flow && misplacedColon (m :: r) then none
    else if endsAtColon (m :: r) || (flow && isBracketing m.char) then stop
    else (plain? flow indent .none r).map fun (t, crossed) =>
      (t.after (g.text ++ [m.char]), crossed)

/-! ## Blocks -/

/-- What happens to the breaks at the end of a block. -/
inductive Chomping where
  /-- All are dropped. -/
  | strip
  /-- The first one is kept. -/
  | clip
  /-- All are kept. -/
  | keep
deriving DecidableEq

/-- What the header of a block says. -/
structure BlockHeader where
  /-- What happens to the breaks at the end. -/
  chomping : Chomping
  /-- How far the block is indented beyond what is around it, if that is said. -/
  indent? : Option Nat

/-- The header of a block after its first character, up to the end of its line. -/
def blockHeader? (h : BlockHeader) : List Mark → Option (BlockHeader × List Mark)
  | [] => some (h, [])
  | m :: r =>
    if m.char = '-' && h.chomping = .clip then blockHeader? { h with chomping := .strip } r
    else if m.char = '+' && h.chomping = .clip then blockHeader? { h with chomping := .keep } r
    else if '1' ≤ m.char ∧ m.char ≤ '9' ∧ h.indent? = none then
      blockHeader? { h with indent? := some (m.char.toNat - '0'.toNat) } r
    else
      let rest := (m :: r).dropWhile (isSpace ·.char)
      let rest := match rest with
        | n :: _ => if n.char = '#' then rest.dropWhile (fun x : Mark => !isBreak x.char) else rest
        | [] => rest
      match rest with
      | [] => some (h, [])
      | n :: after => if isBreak n.char then some (h, after) else none

/-- The number of spaces at the beginning of a line. -/
def leadingSpaces (line : List Mark) : Nat := (line.takeWhile (·.char = ' ')).length

/-- How far a block is indented that does not say it: as far as its first line with content, or as
the blank lines before that one. -/
def detectedIndent? : Nat → List (List Mark) → Option Nat
  | widest, [] => some widest
  | widest, line :: rest =>
    let k := leadingSpaces line
    match line.drop k with
    | [] => some (max widest k)
    | m :: _ =>
      if m.char = '\t' then none
      else if isBreak m.char then detectedIndent? (max widest k) rest
      else some (max widest k)

/-- A block that is being read. -/
structure BlockDraft where
  /-- The text so far. -/
  text : List Char
  /-- The break after the last line with content. -/
  pending : List Char
  /-- The breaks of the blank lines after it. -/
  blankLines : List Char
  /-- The last line with content is indented further. -/
  indented : Bool

/-- The draft after one more line with content. -/
def BlockDraft.addLine (d : BlockDraft) (literal : Bool) (line : List Mark) : BlockDraft :=
  let content := chars line
  let further := match content with
    | c :: _ => isSpace c
    | [] => false
  let joint :=
    if !literal && d.pending = ['\n'] && !d.indented && !further then
      (if d.blankLines = [] then [' '] else [])
    else d.pending
  { text := d.text ++ joint ++ d.blankLines ++ content.filter (!isBreak ·)
    pending := content.filter isBreak
    blankLines := []
    indented := further }

/-- The lines of a block that is indented by `indent`, and the lines after it. -/
def blockLines? (literal : Bool) (indent : Nat) (d : BlockDraft) :
    List (List Mark) → Option (BlockDraft × List (List Mark))
  | [] => some (d, [])
  | line :: rest =>
    let k := min indent (leadingSpaces line)
    match line.drop k with
    | [] => some (d, line :: rest)
    | m :: after =>
      if isBreak m.char then
        blockLines? literal indent { d with blankLines := d.blankLines ++ [m.char] } rest
      else if k = indent then blockLines? literal indent (d.addLine literal (m :: after)) rest
      else if m.char = '\t' then none
      else some (d, line :: rest)

/-- A block after its first character, inside something that is indented by `parent`. -/
def block? (literal : Bool) (parent : Int) (ms : List Mark) : Option Taken := do
  let (h, rest) ← blockHeader? ⟨.clip, none⟩ ms
  let ls := lines rest
  let indent ← match h.indent? with
    | some n => some ((max parent 0).toNat + n)
    | none => (detectedIndent? 0 ls).map fun n => max n (max (parent + 1) 1).toNat
  let (d, left) ← blockLines? literal indent ⟨[], [], [], false⟩ ls
  let ending := match h.chomping with
    | .strip => []
    | .clip => d.pending
    | .keep => d.pending ++ d.blankLines
  pure (d.text ++ ending, left.flatten)

end Locator.Yaml
