import Locator.NameMap
import Locator.Shown

/-!
# Init parameters

A host describes the repository it wants by named texts. Three names are reserved: they say where
the repository is found, which adapter wraps it and under which attribute it is published. All other
parameters belong to the connection to the naming service.

* `Parameters`: a finite set of named texts.
* `ParameterSource`: anything that lists names and answers for their values, possibly a different
  answer each time (`Script` is one that answers by a prepared list).
-/

namespace Locator

/-- The parameter that names the attribute to publish under. -/
def attributeKey : String := "RepositoryAttribute"

/-- The parameter that names the adapter factory. -/
def factoryKey : String := "AdapterFactoryClass"

/-- The parameter that names the location of the repository. -/
def locationKey : String := "Location"

/-- The names that are never handed to a naming service. -/
def reservedKeys : List String := [attributeKey, factoryKey, locationKey]

/-- A name is reserved: exactly one of the three, case included. -/
def isReserved (name : String) : Bool := reservedKeys.contains name

/-- There are three reserved names. -/
theorem isReserved_iff {name : String} :
    isReserved name = true ↔ name = attributeKey ∨ name = factoryKey ∨ name = locationKey := by
  simp [isReserved, reservedKeys]

/-- All other names are free. -/
theorem isReserved_eq_false_iff {name : String} :
    isReserved name = false ↔ name ≠ attributeKey ∧ name ≠ factoryKey ∧ name ≠ locationKey := by
  rw [Bool.eq_false_iff, ne_eq, isReserved_iff, not_or, not_or]

/-- A finite set of named texts. -/
structure Parameters where
  /-- The texts by name. -/
  table : NameMap String
deriving DecidableEq

namespace Parameters

/-- No parameters. -/
def empty : Parameters := ⟨.empty⟩

/-- The parameters of a list, of which the last under a name counts. -/
def ofList (pairs : List (String × String)) : Parameters := ⟨.ofList pairs⟩

/-- The value of a parameter. -/
def get? (p : Parameters) (name : String) : Option String := p.table.get? name

/-- Set a parameter. -/
def insert (p : Parameters) (name value : String) : Parameters := ⟨p.table.insert name value⟩

/-- The names in ascending order. -/
def names (p : Parameters) : List String := p.table.names

/-- The parameters in ascending order of their names. -/
def toList (p : Parameters) : List (String × String) := p.table.entries

/-- The number of parameters. -/
def size (p : Parameters) : Nat := p.table.size

instance : Display Parameters := ⟨fun p => .tuple "InitParameters" [.textMap p.toList]⟩

end Parameters

/-- Something that lists names and answers for their values, over a state `σ` that the questions may
change. -/
structure ParameterSource (σ : Type) where
  /-- The names, in the order in which they are to be asked for. -/
  listed : StateM σ (List String)
  /-- The value of a name at the moment of asking. -/
  ask : String → StateM σ (Option String)

namespace ParameterSource

/-- A source that lists given names and answers from a fixed table. -/
def ofTable {σ : Type} (listed : List String) (value : String → Option String) : ParameterSource σ :=
  ⟨pure listed, fun name => pure (value name)⟩

/-- Parameters as a source: each name once, in ascending order. -/
def ofParameters {σ : Type} (p : Parameters) : ParameterSource σ := ofTable p.names p.get?

end ParameterSource

/-- Answers prepared for each name, given one after another; the last one is given again and
again. -/
structure Script where
  /-- The answers that are still to come. -/
  answers : NameMap (List String)

namespace Script

/-- The script of a list of named answers, in their order. -/
def ofList (pairs : List (String × String)) : Script :=
  ⟨pairs.foldl (fun m e => m.insert e.1 (((m.get? e.1).getD []) ++ [e.2])) .empty⟩

/-- The next answer for a name. -/
def ask (s : Script) (name : String) : Option String × Script :=
  match s.answers.get? name with
  | none | some [] => (none, s)
  | some [last] => (some last, s)
  | some (first :: second :: rest) => (some first, ⟨s.answers.insert name (second :: rest)⟩)

end Script

/-- A source that lists given names, with repetitions, and answers by the script in its state. -/
def ParameterSource.scripted (listed : List String) : ParameterSource Script :=
  ⟨pure listed, fun name s => s.ask name⟩

/-- A source over a part of the state. -/
def ParameterSource.within {σ τ : Type} (read : σ → τ) (write : τ → σ → σ) (p : ParameterSource τ) :
    ParameterSource σ :=
  ⟨fun s => let r := p.listed (read s); (r.1, write r.2 s),
    fun name s => let r := p.ask name (read s); (r.1, write r.2 s)⟩

end Locator
