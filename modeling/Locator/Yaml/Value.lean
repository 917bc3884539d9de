import Locator.Settings.Tree
import Locator.Yaml.Node

/-!
# Values of documents

Two ways to see a document as a value tree. `Node.settings?` gives plain scalars their types: nothing,
truth values, numbers, texts; of a name that stands twice in a map the last entry counts.
`Node.record?` keeps plain scalars as texts, apart from those that stand for nothing, and refuses a
name that stands twice.
-/

namespace Locator.Yaml

/-! ## Types of plain scalars -/

/-- A plain scalar that stands for nothing. -/
def isNull (s : String) : Bool := ["", "~", "null", "Null", "NULL"].contains s

/-- The truth value of a plain scalar. -/
def bool? (s : String) : Option Bool :=
  if ["true", "True", "TRUE"].contains s then some true
  else if ["false", "False", "FALSE"].contains s then some false
  else none

/-- Digits after a zero: neither a whole number nor any other. -/
def isZeroPadded (cs : List Char) : Bool :=
  let digits := match cs with
    | '-' :: r | '+' :: r => r
    | _ => cs
  match digits with
  | '0' :: d :: r => (d :: r).all isDecimalDigit
  | _ => false

/-- A whole number without a sign, in one of the four bases. -/
def magnitude? : List Char → Option Nat
  | '0' :: 'x' :: r => natOfDigits? 16 r
  | '0' :: 'o' :: r => natOfDigits? 8 r
  | '0' :: 'b' :: r => natOfDigits? 2 r
  | r => natOfDigits? 10 r

/-- The whole number of a plain scalar, of at most 128 bits. -/
def whole? (cs : List Char) : Option Tree :=
  if isZeroPadded cs then none
  else match cs with
    | '-' :: r => do
      let n ← magnitude? r
      if n ≤ Nat.pow 2 127 then pure (.signed (-(n : Int))) else none
    | _ => do
      let n ← magnitude? (match cs with | '+' :: r => r | _ => cs)
      if n < Nat.pow 2 128 then pure (.unsigned n) else none

/-- The floating-point number of a plain scalar. -/
def float? (cs : List Char) : Option Double :=
  let unsigned := match cs with
    | '+' :: r => r
    | _ => cs
  if [".inf", ".Inf", ".INF"].contains (String.ofList unsigned) then some (.infinite false)
  else if ["-.inf", "-.Inf", "-.INF"].contains (String.ofList cs) then some (.infinite true)
  else if [".nan", ".NaN", ".NAN"].contains (String.ofList cs) then some .nan
  else if isZeroPadded cs || (match cs with | '+' :: '+' :: _ | '+' :: '-' :: _ => true | _ => false)
  then none
  else (Double.ofText? unsigned).filter Double.isFinite

/-- The value of a plain scalar. -/
def plainValue (s : String) : Tree :=
  if isNull s then .null
  else match bool? s with
    | some b => .bool b
    | none => ((whole? s.toList).or ((float? s.toList).map .float)).getD (.text s)

/-- The beginning of the tags that name the common types. -/
def coreTag (type : String) : String := "tag:yaml.org,2002:" ++ type

/-- The value of a scalar with a tag; a local tag has no value. -/
def taggedValue? (tag s : String) : Option Tree :=
  if tag = coreTag "bool" then (bool? s).map .bool
  else if tag = coreTag "int" then whole? s.toList
  else if tag = coreTag "float" then (float? s.toList).map .float
  else if tag = coreTag "null" then if isNull s && s ≠ "" then some .null else none
  else if tag.toList.head? = some '!' then none
  else some (.text s)

/-! ## Trees of nodes -/

/-- A tag of its own, which no setting has. -/
def isLocalTag : Option String → Bool
  | some tag => tag.toList.head? = some '!'
  | none => false

namespace Node

/-- The name that a key stands for. -/
def name? : Node → Option String
  | .scalar _ _ text => some text
  | _ => none

/-- Put a name to a value. -/
def named? (key : Node) (value : Option Tree) : Option (String × Tree) := do
  let name ← key.name?
  let t ← value
  pure (name, t)

mutual

/-- The value of a node in settings; collections stand in each other up to a depth. -/
def settingsAt? (depth : Nat) : Node → Option Tree
  | .scalar tag? isPlain text =>
    match tag? with
    | some tag => taggedValue? tag text
    | none => some (if isPlain then plainValue text else .text text)
  | .list tag? items =>
    match depth with
    | 0 => none
    | depth + 1 => if isLocalTag tag? then none else .list <$> settingsItems? depth items
  | .map tag? entries =>
    match depth with
    | 0 => none
    | depth + 1 => if isLocalTag tag? then none else .ofEntries <$> settingsEntries? depth entries

/-- The values of items in settings. -/
def settingsItems? (depth : Nat) : List Node → Option (List Tree)
  | [] => some []
  | n :: rest => do
    let first ← settingsAt? depth n
    let others ← settingsItems? depth rest
    pure (first :: others)

/-- The values of entries in settings. -/
def settingsEntries? (depth : Nat) : List (Node × Node) → Option (List (String × Tree))
  | [] => some []
  | (key, value) :: rest => do
    let first ← named? key (settingsAt? depth value)
    let others ← settingsEntries? depth rest
    pure (first :: others)

end

/-- How deep collections may stand in each other. -/
def maxDepth : Nat := 128

/-- The settings of a document: a map, or nothing at all. -/
def settings? (n : Node) : Option Tree :=
  match n with
  | .scalar none true "" => some .empty
  | .map .. => n.settingsAt? maxDepth
  | _ => none

/-- No two entries have the same name. -/
def distinctNames : List (String × Tree) → Bool
  | [] => true
  | e :: rest => !(rest.any (·.1 = e.1)) && distinctNames rest

mutual

/-- The value of a node in a record. -/
def record? : Node → Option Tree
  | .scalar _ isPlain text => some (if isPlain && isNull text then .null else .text text)
  | .list _ items => .list <$> recordItems? items
  | .map _ entries => do
    let es ← recordEntries? entries
    if distinctNames es then pure (.map es) else none

/-- The values of items in a record. -/
def recordItems? : List Node → Option (List Tree)
  | [] => some []
  | n :: rest => do
    let first ← record? n
    let others ← recordItems? rest
    pure (first :: others)

/-- The values of entries in a record. -/
def recordEntries? : List (Node × Node) → Option (List (String × Tree))
  | [] => some []
  | (key, value) :: rest => do
    let first ← named? key (record? value)
    let others ← recordEntries? rest
    pure (first :: others)

end

end Node

/-- The settings that a text holds. -/
def settings? (s : String) : Option Tree := (Node.ofString? s).bind (·.settings?)

/-- The record that a text holds. -/
def record? (s : String) : Option Tree := (Node.ofString? s).bind (·.record?)

end Locator.Yaml
