import Locator.Bootstrap
import Locator.Proofs.Registry.Construct

/-!
# Collaborators that are enclosed

A collaborator does the same work when its state is a part of a larger one, and when only some of its
reports are heard outside. `enclosed` turns any collaborator of a bootstrap into one that works so.

* `Enclosure`: where the work takes place and what is heard of it; `Enclosure.first` gives the work a
  state of its own, `Enclosure.silent` keeps its reports in;
* `Act.run_enclosed_of`, `Registry.run_enclosed_of`: the enclosed run ends as the run itself.
-/

namespace Locator

variable {σ τ ρ π ε α : Type}

/-- The surroundings of work on a state `τ`, seen from a larger state `σ`. -/
structure Enclosure (σ τ : Type) where
  /-- The state that is worked on. -/
  part : Part σ τ
  /-- What is heard outside of what is reported inside. -/
  heard : List Event → List Event
  /-- Work that leaves its state as it was leaves everything as it was. -/
  write_read : ∀ s, part.write (part.read s) s = s
  /-- Nothing is heard where nothing is reported. -/
  heard_nil : heard [] = []

namespace Enclosure

/-- Work on the first component of a pair, all of its reports heard. -/
def first : Enclosure (σ × τ) σ where
  part := .first
  heard events := events
  write_read _ := rfl
  heard_nil := rfl

/-- Work on the whole state, none of its reports heard. -/
def silent : Enclosure σ σ where
  part := ⟨fun s => s, fun t _ => t⟩
  heard _ := []
  write_read _ := rfl
  heard_nil := rfl

end Enclosure

/-- The same work in its surroundings. -/
def Act.enclosed (k : Enclosure σ τ) (a : Act τ ε α) : Act σ ε α := fun s =>
  ⟨(a.run (k.part.read s)).value, k.part.write (a.run (k.part.read s)).state s,
    k.heard (a.run (k.part.read s)).events⟩

/-- Lookups in their surroundings. -/
def DirectoryContext.enclosed (k : Enclosure σ τ) (c : DirectoryContext τ ρ) :
    DirectoryContext σ ρ :=
  ⟨fun name => (c.lookup name).enclosed k⟩

/-- Connections in their surroundings, with the lookups through them. -/
def DirectoryConnector.enclosed (k : Enclosure σ τ) (c : DirectoryConnector τ ρ) :
    DirectoryConnector σ ρ :=
  ⟨fun env => DirectoryContext.enclosed k <$> (c.connect env).enclosed k⟩

/-- Wrapping in its surroundings. -/
def AdapterFactory.enclosed (k : Enclosure σ τ) (f : AdapterFactory τ ρ π) :
    AdapterFactory σ ρ π :=
  ⟨fun found => (f.wrap found).enclosed k⟩

/-- A component whose work is enclosed. -/
def Component.enclosed (k : Enclosure σ τ) : Component τ ρ π → Component σ ρ π
  | .adapterFactory factory => .adapterFactory (factory.enclosed k)
  | .directoryConnector connector => .directoryConnector (connector.enclosed k)

/-- A constructor that is enclosed, with the work of what it makes. -/
def Constructor.enclosed (k : Enclosure σ τ) (make : Constructor τ ρ π) : Constructor σ ρ π :=
  (Component.enclosed k <$> Act.enclosed k make :
    Act σ ConstructorFailure (Component σ ρ π))

/-- Constructors that are enclosed. -/
def Registry.enclosed (k : Enclosure σ τ) (r : Registry τ ρ π) : Registry σ ρ π :=
  ⟨r.table.mapValues fun _ => Constructor.enclosed k⟩

/-! ## What surroundings add to a run -/

/-- An enclosed action does the same within its part of the state, and is heard as the enclosure
wants it. -/
theorem Act.run_enclosed_of {k : Enclosure σ τ} {a : Act τ ε α} {s : σ} {t : τ} {v : Except ε α}
    {events : List Event} (h : a.run (k.part.read s) = ⟨v, t, events⟩) :
    (a.enclosed k).run s = ⟨v, k.part.write t s, k.heard events⟩ := by
  show (⟨(a.run (k.part.read s)).value, k.part.write (a.run (k.part.read s)).state s,
    k.heard (a.run (k.part.read s)).events⟩ : Outcome σ ε α) = _
  rw [h]

/-- An enclosed constructor makes the same component, enclosed as well. -/
theorem Constructor.run_enclosed_of {k : Enclosure σ τ} {make : Constructor τ ρ π} {s : σ} {t : τ}
    {v : Except ConstructorFailure (Component τ ρ π)} {events : List Event}
    (h : make.run (k.part.read s) = ⟨v, t, events⟩) :
    (Constructor.enclosed k make).run s =
      ⟨v.map (.enclosed k), k.part.write t s, k.heard events⟩ := by
  unfold Constructor.enclosed
  rw [Act.run_map, Act.run_enclosed_of h]

namespace DirectoryConnector

variable {k : Enclosure σ τ} {c : DirectoryConnector τ ρ} {env : Environment}

/-- An enclosed connector opens the same context, enclosed as well. -/
theorem run_enclosed_of {s : σ} {t : τ} {v : Except NamingError (DirectoryContext τ ρ)}
    {events : List Event} (h : (c.connect env).run (k.part.read s) = ⟨v, t, events⟩) :
    ((c.enclosed k).connect env).run s =
      ⟨v.map (.enclosed k), k.part.write t s, k.heard events⟩ := by
  unfold enclosed
  rw [Act.run_map, Act.run_enclosed_of h]

end DirectoryConnector

namespace Registry

variable {k : Enclosure σ τ} {r : Registry τ ρ π} {name : String}

theorem enclosed_constructor? (k : Enclosure σ τ) (r : Registry τ ρ π) (name : String) :
    (r.enclosed k).constructor? name = (r.constructor? name).map (Constructor.enclosed k) :=
  NameMap.get?_mapValues _ r.table name

/-- A registry of enclosed constructors makes the same component, enclosed as well. -/
theorem run_enclosed_construct_of {s : σ} {t : τ} {v : Except ComponentError (Component τ ρ π)}
    {making : List Event} (h : (r.construct name).run (k.part.read s) = ⟨v, t, making⟩) :
    ((r.enclosed k).construct name).run s =
      ⟨v.map (.enclosed k), k.part.write t s, k.heard making⟩ := by
  cases hheld : r.constructor? name with
  | none =>
    -- no constructor is called, so the surroundings see nothing at all
    have henclosed : (r.enclosed k).constructor? name = none := by
      rw [enclosed_constructor?, hheld]
      rfl
    rw [run_construct_of_unknown hheld] at h
    cases h
    rw [run_construct_of_unknown henclosed, k.write_read, k.heard_nil]
    rfl
  | some make =>
    have henclosed : (r.enclosed k).constructor? name = some (Constructor.enclosed k make) := by
      rw [enclosed_constructor?, hheld]
      rfl
    rw [run_construct_of_known hheld] at h
    rw [run_construct_of_known henclosed]
    rcases hmake : make.run (k.part.read s) with ⟨e | c, u, events⟩
    · rw [hmake] at h
      cases h
      rw [Constructor.run_enclosed_of hmake]
      rfl
    · rw [hmake] at h
      cases h
      rw [Constructor.run_enclosed_of hmake]
      rfl

/-- A request to an enclosed registry is granted or refused as without its surroundings. -/
theorem run_enclosed_of {s : σ} {t : τ} {v : Except ComponentError (AdapterFactory τ ρ π)}
    {making : List Event} (h : (r.adapterFactory name).run (k.part.read s) = ⟨v, t, making⟩) :
    ((r.enclosed k).adapterFactory name).run s =
      ⟨v.map (.enclosed k), k.part.write t s, k.heard making⟩ := by
  unfold adapterFactory at h ⊢
  rw [run_instantiate] at h ⊢
  rcases hmade : (r.construct name).run (k.part.read s) with ⟨e | c, u, events⟩
  · rw [hmade] at h
    cases h
    rw [run_enclosed_construct_of hmade]
    rfl
  · rw [hmade] at h
    rw [run_enclosed_construct_of hmade]
    -- a component is good for the same wherever it works
    rcases c with factory | connector
    · cases h
      rfl
    · cases h
      rfl

end Registry

end Locator
