import Locator.Parameters

/-!
# Connection environments

The named texts that a naming service gets to see when somebody connects to it. Reserved parameter
names are refused: `insert` answers `false` for them and changes nothing.

* `get?_insert`: an accepted entry is found, all others stay.
-/

namespace Locator

/-- The named texts handed to a naming service. -/
structure Environment where
  /-- The texts by name. -/
  table : NameMap String
deriving DecidableEq

namespace Environment

/-- The environment without entries. -/
def empty : Environment := ⟨.empty⟩

instance : EmptyCollection Environment := ⟨empty⟩
instance : Inhabited Environment := ⟨empty⟩

/-- Add an entry; a reserved name is refused. -/
def insert (env : Environment) (name value : String) : Bool × Environment :=
  if isReserved name then (false, env) else (true, ⟨env.table.insert name value⟩)

/-- The environment of a list of entries: reserved names are dropped, and the last entry under a
name counts. -/
def ofList (pairs : List (String × String)) : Environment :=
  pairs.foldl (fun env e => (env.insert e.1 e.2).2) empty

/-- The value of an entry. -/
def get? (env : Environment) (name : String) : Option String := env.table.get? name

/-- There is an entry under a name. -/
def contains (env : Environment) (name : String) : Bool := env.table.contains name

/-- The number of entries. -/
def size (env : Environment) : Nat := env.table.size

/-- There are no entries. -/
def isEmpty (env : Environment) : Bool := env.table.isEmpty

/-- The names in ascending order. -/
def names (env : Environment) : List String := env.table.names

/-- The entries in ascending order of their names. -/
def toList (env : Environment) : List (String × String) := env.table.entries

instance : Display Environment :=
  ⟨fun env => .record "DirectoryEnvironment" [("entries", .textMap env.toList)] false⟩

/-- A reserved name is refused, and the environment stays as it is. -/
theorem insert_of_reserved {name : String} (h : isReserved name = true) (env : Environment)
    (value : String) : env.insert name value = (false, env) := by
  rw [insert, if_pos h]

/-- A name that is not reserved gets the value, and all other names keep theirs. -/
theorem get?_insert {name : String} (h : isReserved name = false) (env : Environment)
    (value n : String) :
    (env.insert name value).2.get? n = if n = name then some value else env.get? n := by
  rw [insert, if_neg (by simp [h])]
  exact NameMap.get?_insert ..

/-- Nothing changes under a reserved name. -/
theorem get?_insert_of_reserved {n : String} (h : isReserved n = true) (env : Environment)
    (name value : String) : (env.insert name value).2.get? n = env.get? n := by
  cases hname : isReserved name with
  | true => rw [insert_of_reserved hname]
  | false =>
    have hne : n ≠ name := by
      intro hn
      rw [hn, hname] at h
      exact Bool.false_ne_true h
    rw [get?_insert hname, if_neg hne]

end Environment

end Locator
