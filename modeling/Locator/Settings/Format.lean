import Locator.Number.Decimal
import Locator.Settings.Tree
import Locator.Text.Quoted

/-!
# Formats of settings

A decoder reads a value of a certain shape from a tree, or says what does not fit and where
(`Misfit`). What is accepted differs a little between the ways in which settings are given, and so
does the wording of a misfit: a `Dialect` says how.

* `Decoder.text`, `Decoder.optional`, `Decoder.list`, `Decoder.map`: the plain shapes.
* `RecordFormat.decode`: records. Their fields are visited in ascending order of the names, and the
  first one that does not fit is reported; then what is missing is reported.
-/

namespace Locator

/-- What a tree is at its root. -/
inductive Summary where
  | null
  | bool (value : Bool)
  | unsigned (value : Nat)
  | signed (value : Int)
  | float (value : Double)
  | text (content : String)
  | list
  | map
deriving DecidableEq, Repr

/-- The root of a tree. -/
def Tree.summary : Tree → Summary
  | .null => .null
  | .bool b => .bool b
  | .unsigned n => .unsigned n
  | .signed n => .signed n
  | .float d => .float d
  | .text s => .text s
  | .list _ => .list
  | .map _ => .map

/-- Why a tree does not have the shape that is asked for. -/
inductive Fault where
  /-- Something else stands where a certain shape is expected. -/
  | wrongType (found : Summary) (expected : String)
  /-- A field without a default is left out. -/
  | missingField (name : String)
  /-- There is no such field. -/
  | unknownField (name : String) (known : List String)
  /-- A list in place of a record ends before a field without a default. -/
  | tooShort (length : Nat) (record : String) (size : Nat)
  /-- A list in place of a record has items left over. -/
  | tooLong (length : Nat)
  /-- A text does not name a level. -/
  | unknownLevel (raw : String)
deriving DecidableEq, Repr

/-- A fault, and the path from the root to the value that it is about. -/
structure Misfit where
  /-- What is wrong. -/
  fault : Fault
  /-- Where it is wrong. -/
  path : List String
deriving DecidableEq, Repr

/-- A misfit in a value that stands under a name. -/
def Misfit.under (name : String) (m : Misfit) : Misfit := { m with path := name :: m.path }

/-- A way to give settings. -/
structure Dialect where
  /-- Nothing stands for a record, list or map without content. -/
  nothingIsEmpty : Bool
  /-- A list may stand for a record, its items for the fields in their order. -/
  positional : Bool
  /-- A list that stands for a record has no items left over. -/
  exactLength : Bool
  /-- A fault in words. -/
  wording : Fault → String

/-! ## Wording -/

/-- The names that can stand for a field, as a misfit lists them. -/
def alternatives : List String → String
  | [] => "nothing"
  | [a] => s!"`{a}`"
  | [a, b] => s!"`{a}` or `{b}`"
  | names => "one of " ++ ", ".intercalate (names.map fun n => s!"`{n}`")

/-- The faults that are worded alike everywhere. -/
def Fault.commonWording : Fault → String
  | .missingField name => s!"missing field `{name}`"
  | .tooShort length record size =>
    s!"invalid length {length}, expected struct {record} with {size} elements"
  | .tooLong length => s!"invalid length {length}, expected fewer elements in array"
  | .unknownLevel raw => s!"invalid level: {raw}"
  | .wrongType .. | .unknownField .. => ""

namespace Dialect

/-- The root of a tree, in the words for JSON values. -/
def jsonWord : Summary → String
  | .null => "null"
  | .bool b => s!"boolean `{b}`"
  | .unsigned n => s!"integer `{n}`"
  | .signed n => s!"integer `{n}`"
  | .float d => s!"floating point `{d.textWithPoint}`"
  | .text s => "string " ++ Text.quoted s
  | .list => "sequence"
  | .map => "map"

/-- The root of a tree, in the words for layered settings. -/
def layeredWord : Summary → String
  | .null => "unit"
  | .bool b => s!"bool {b}"
  | .unsigned n => s!"unsigned int `{n}`"
  | .signed n => s!"signed int `{n}`"
  | .float d => s!"float `{d.text}`"
  | .text s => "string " ++ Text.quoted s
  | .list => "sequence"
  | .map => "map"

/-- JSON values. -/
def json : Dialect where
  nothingIsEmpty := false
  positional := true
  exactLength := true
  wording
    | .wrongType found expected => s!"invalid type: {jsonWord found}, expected {expected}"
    | .unknownField name known => s!"unknown field `{name}`, expected {alternatives known}"
    | fault => fault.commonWording

/-- Settings that were merged from layers. -/
def layered : Dialect where
  nothingIsEmpty := false
  positional := true
  exactLength := false
  wording
    | .wrongType found expected => s!"invalid type: found {layeredWord found}, expected {expected}"
    | .unknownField name known =>
      s!"unknown field: found `{name}`, expected `{alternatives known}`"
    | fault => fault.commonWording

/-- A document of its own, read for one record. -/
def document : Dialect := { json with nothingIsEmpty := true, positional := false }

end Dialect

/-! ## Plain shapes -/

/-- A way to read values from trees. -/
abbrev Decoder (α : Type) : Type := Dialect → Tree → Except Misfit α

/-- Report a value that is not of the expected shape. -/
def Decoder.refuse {α : Type} (t : Tree) (expected : String) : Except Misfit α :=
  .error ⟨.wrongType t.summary expected, []⟩

namespace Decoder

variable {α : Type}

/-- A text. -/
def text : Decoder String := fun _ t =>
  match t with
  | .text s => .ok s
  | t => refuse t "a string"

/-- Nothing, or a value. -/
def optional (d : Decoder α) : Decoder (Option α) := fun dialect t =>
  match t with
  | .null => .ok none
  | t => some <$> d dialect t

/-- Read a value that stands under a name. -/
def underName (d : Decoder α) (dialect : Dialect) (name : String) (t : Tree) : Except Misfit α :=
  (d dialect t).mapError (·.under name)

/-- Read items at positions that count up from a given one. -/
def items (d : Decoder α) (dialect : Dialect) : Nat → List Tree → Except Misfit (List α)
  | _, [] => .ok []
  | i, t :: rest => do
    let first ← d.underName dialect (toString i) t
    let others ← items d dialect (i + 1) rest
    pure (first :: others)

/-- A list of values. -/
def list (d : Decoder α) : Decoder (List α) := fun dialect t =>
  match t with
  | .list ts => d.items dialect 0 ts
  | .null => if dialect.nothingIsEmpty then .ok [] else refuse .null "a sequence"
  | t => refuse t "a sequence"

/-- Read entries one after another. -/
def entries (d : Decoder α) (dialect : Dialect) :
    List (String × Tree) → Except Misfit (List (String × α))
  | [] => .ok []
  | (name, t) :: rest => do
    let first ← d.underName dialect name t
    let others ← entries d dialect rest
    pure ((name, first) :: others)

/-- Values under names. -/
def map (d : Decoder α) : Decoder (NameMap α) := fun dialect t =>
  match t with
  | .map es => NameMap.ofList <$> d.entries dialect (NameMap.ofList es).entries
  | .null => if dialect.nothingIsEmpty then .ok .empty else refuse .null "a map"
  | t => refuse t "a map"

end Decoder

/-! ## Records -/

/-- A field of a record that is read into a draft `β`. -/
structure Field (β : Type) where
  /-- The name of the field. -/
  name : String
  /-- Read the value of the field into the draft. -/
  read : Dialect → Tree → β → Except Misfit β

/-- A field that a decoder reads and a function puts into the draft. -/
def Field.of {α β : Type} (name : String) (d : Decoder α) (put : α → β → β) : Field β :=
  ⟨name, fun dialect t draft => (put · draft) <$> d dialect t⟩

/-- A record `α` that is read by way of a draft `β`. -/
structure RecordFormat (β α : Type) where
  /-- The name of the record. -/
  name : String
  /-- The fields, in their order. -/
  fields : List (Field β)
  /-- The draft before anything is read: every field with a default has it. -/
  start : β
  /-- The record of a draft, or the name of a field that is missing. -/
  finish : β → Except String α

namespace RecordFormat

variable {α β : Type}

/-- The names of the fields, in their order. -/
def names (f : RecordFormat β α) : List String := f.fields.map (·.name)

/-- The field of a name. -/
def field? (f : RecordFormat β α) (name : String) : Option (Field β) :=
  f.fields.find? (·.name = name)

/-- Read one named value into the draft. -/
def readEntry (f : RecordFormat β α) (dialect : Dialect) (draft : β) (entry : String × Tree) :
    Except Misfit β :=
  match f.field? entry.1 with
  | some field => (field.read dialect entry.2 draft).mapError (·.under entry.1)
  | none => .error ⟨.unknownField entry.1 f.names, [entry.1]⟩

/-- Read a record from named values. -/
def ofEntries (f : RecordFormat β α) (dialect : Dialect) (entries : List (String × Tree)) :
    Except Misfit α := do
  let draft ← (NameMap.ofList entries).entries.foldlM (f.readEntry dialect) f.start
  (f.finish draft).mapError fun name => ⟨.missingField name, []⟩

/-- Read values into the fields in their order; gives the number of items that are left over. -/
def readItems (dialect : Dialect) :
    Nat → List (Field β) → List Tree → β → Except Misfit (β × Nat)
  | i, field :: fields, t :: rest, draft => do
    let draft ← (field.read dialect t draft).mapError (·.under (toString i))
    readItems dialect (i + 1) fields rest draft
  | _, _, rest, draft => .ok (draft, rest.length)

/-- Read a record from values in the order of its fields. -/
def ofItems (f : RecordFormat β α) (dialect : Dialect) (items : List Tree) : Except Misfit α := do
  let (draft, surplus) ← readItems dialect 0 f.fields items f.start
  let record ← (f.finish draft).mapError fun name =>
    ⟨.tooShort (f.names.idxOf name) f.name f.fields.length, []⟩
  if dialect.exactLength && surplus ≠ 0 then .error ⟨.tooLong items.length, []⟩ else .ok record

/-- Read a record. -/
def decode (f : RecordFormat β α) : Decoder α := fun dialect t =>
  match t with
  | .map entries => f.ofEntries dialect entries
  | .list items =>
    if dialect.positional then f.ofItems dialect items
    else Decoder.refuse t ("struct " ++ f.name)
  | .null =>
    if dialect.nothingIsEmpty then f.ofEntries dialect []
    else Decoder.refuse t ("struct " ++ f.name)
  | t => Decoder.refuse t ("struct " ++ f.name)

end RecordFormat

end Locator
