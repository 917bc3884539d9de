import Locator.NameMap
import Locator.Number.Double

/-!
# Value trees

The common form of everything that settings are read from and written to: nothing, truth values,
numbers, texts, lists, and maps from names.

* `Tree.at?` follows a path of names; the items of a list are named by their positions.
* `Tree.merge` lays one tree over another: maps are joined name by name, everything else is replaced.
* `Tree.same` compares trees, entry by entry (`Tree.same_iff`).

The order of a map's entries is the order in which they are written; what is read does not depend on
it.
-/

namespace Locator

/-- A value of a settings document. -/
inductive Tree where
  /-- Nothing. -/
  | null
  /-- A truth value. -/
  | bool (value : Bool)
  /-- A whole number that is not negative. -/
  | unsigned (value : Nat)
  /-- A whole number that was written with a minus sign. -/
  | signed (value : Int)
  /-- A floating-point number. -/
  | float (value : Double)
  /-- A text. -/
  | text (content : String)
  /-- A list of values. -/
  | list (items : List Tree)
  /-- Values under names. -/
  | map (entries : List (String × Tree))
deriving Inhabited

namespace Tree

/-- The map without entries. -/
def empty : Tree := .map []

/-- An optional text. -/
def optionText : Option String → Tree
  | none => .null
  | some s => .text s

/-- Texts under names. -/
def textMap (m : NameMap String) : Tree := .map (m.entries.map fun e => (e.1, .text e.2))

/-- Put a value under a name: in its place if the name is there, at the end otherwise. -/
def setEntry (name : String) (value : Tree) : List (String × Tree) → List (String × Tree)
  | [] => [(name, value)]
  | e :: r => if name = e.1 then (name, value) :: r else e :: setEntry name value r

/-- The map of a list of entries, of which the last under a name counts. -/
def ofEntries (l : List (String × Tree)) : Tree :=
  .map (l.foldl (fun es e => setEntry e.1 e.2 es) [])

/-- The value under a name; the items of a list are named by their positions. -/
def child? (t : Tree) (name : String) : Option Tree :=
  match t with
  | .map entries => NameMap.valueAt name entries
  | .list items => (items.zipIdx.find? fun x => toString x.2 = name).map (·.1)
  | _ => none

/-- The value at the end of a path of names. -/
def at? (t : Tree) : List String → Option Tree
  | [] => some t
  | name :: rest => (t.child? name).bind (·.at? rest)

/-- The value at the end of a path of names, in maps around it. -/
def nested (path : List String) (value : Tree) : Tree :=
  path.foldr (fun name t => .map [(name, t)]) value

mutual

/-- Lay a tree over another one. -/
def merge (lower : Tree) : Tree → Tree
  | .map upper =>
    match lower with
    | .map entries => .map (mergeEntries entries upper)
    | _ => .map upper
  | upper => upper

/-- Lay the entries of a map over those of another one. -/
def mergeEntries (lower : List (String × Tree)) : List (String × Tree) → List (String × Tree)
  | [] => lower
  | (name, value) :: rest =>
    let joined := match NameMap.valueAt name lower with
      | some below => merge below value
      | none => value
    mergeEntries (setEntry name joined lower) rest

end

/-! ## Equality of trees -/

mutual

/-- The trees are the same. -/
def same : Tree → Tree → Bool
  | .null, .null => true
  | .bool a, .bool b => a = b
  | .unsigned a, .unsigned b => a = b
  | .signed a, .signed b => a = b
  | .float a, .float b => a = b
  | .text a, .text b => a = b
  | .list a, .list b => sameItems a b
  | .map a, .map b => sameEntries a b
  | _, _ => false
termination_by structural t => t

/-- The lists hold the same trees. -/
def sameItems : List Tree → List Tree → Bool
  | [], [] => true
  | t :: ts, u :: us => t.same u && sameItems ts us
  | _, _ => false
termination_by structural ts => ts

/-- The lists hold the same trees under the same names. -/
def sameEntries : List (String × Tree) → List (String × Tree) → Bool
  | [], [] => true
  | (n, t) :: ts, (m, u) :: us => n = m && t.same u && sameEntries ts us
  | _, _ => false
termination_by structural ts => ts

end

mutual

/-- The comparison of trees decides whether they are equal. -/
theorem same_iff (t u : Tree) : t.same u = true ↔ t = u := by
  cases t <;> cases u <;> simp [same, sameItems_iff, sameEntries_iff]

/-- The comparison of lists of trees decides whether they are equal. -/
theorem sameItems_iff (ts us : List Tree) : sameItems ts us = true ↔ ts = us := by
  cases ts <;> cases us <;> simp [sameItems, same_iff, sameItems_iff]

/-- The comparison of named trees decides whether they are equal. -/
theorem sameEntries_iff (ts us : List (String × Tree)) : sameEntries ts us = true ↔ ts = us := by
  cases ts <;> cases us <;> simp [sameEntries, Prod.ext_iff, same_iff, sameEntries_iff]

end

instance : DecidableEq Tree := fun t u => decidable_of_iff _ (same_iff t u)

end Tree

end Locator
