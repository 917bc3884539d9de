import Mathlib.Logic.Function.Basic
import Locator.Proofs.StaticDirectory.Runs

/-!
# A static directory is a map

A static directory answers every history of its four operations as a partial map from names to
handles does, one that looks at no name that is not well formed.

* `Bindings`, `DirectoryOp.onMap`: the map, and what each operation does to it;
* `DirectoryOp.perform`: the same operations on a directory;
* `DirectoryOp.exists_run_perform`: one operation gives the answer of the map, and leaves the
  directory with the bindings of the map; `DirectoryOp.exists_run_mapM`: so does a history;
* `onMap_of_isError`, `onMap_frame`, `onMap_wellFormed`: an operation that fails changes nothing, no
  operation changes another name, and only well-formed names get bound;
* `StaticDirectory.refines_map`: all of it, after every history.
-/

namespace Locator

variable {ρ : Type}

/-! ## The map -/

/-- What is bound under each name. -/
abbrev Bindings (ρ : Type) : Type := String → Option (Handle ρ)

/-- Nothing is bound. -/
def Bindings.none : Bindings ρ := fun _ => .none

/-- Only well-formed names are bound. -/
def Bindings.WellFormed (b : Bindings ρ) : Prop := ∀ n, (b n).isSome = true → WellFormedName n

/-- What can be done to a directory. -/
inductive DirectoryOp (ρ : Type) where
  /-- Bind a handle under a free name. -/
  | bind (name : String) (handle : Handle ρ)
  /-- Bind a handle under any name. -/
  | rebind (name : String) (handle : Handle ρ)
  /-- Remove a binding. -/
  | unbind (name : String)
  /-- Find the handle under a name. -/
  | lookup (name : String)

/-- What an operation answers. -/
inductive DirectoryAnswer (ρ : Type) where
  /-- The handle is bound, or why it is not. -/
  | bound (result : Except BindError Unit)
  /-- The handle that was replaced, or why none was. -/
  | rebound (result : Except NamingError (Option (Handle ρ)))
  /-- The handle that was removed, or why none was. -/
  | unbound (result : Except NamingError (Option (Handle ρ)))
  /-- The handle that was found, or why none was. -/
  | found (result : Except NamingError (Handle ρ))

/-- The operation failed. -/
def DirectoryAnswer.isError : DirectoryAnswer ρ → Bool
  | bound (.error _) | rebound (.error _) | unbound (.error _) | found (.error _) => true
  | bound (.ok _) | rebound (.ok _) | unbound (.ok _) | found (.ok _) => false

namespace DirectoryOp

/-- The name that an operation is about. -/
def name : DirectoryOp ρ → String
  | bind name _ | rebind name _ | unbind name | lookup name => name

/-- The answer to an operation whose name is refused. -/
def refused (e : NamingError) : DirectoryOp ρ → DirectoryAnswer ρ
  | bind _ _ => .bound (.error (.naming e))
  | rebind _ _ => .rebound (.error e)
  | unbind _ => .unbound (.error e)
  | lookup _ => .found (.error e)

/-- What an operation with a well-formed name answers, and what is bound afterwards. -/
def onName (b : Bindings ρ) : DirectoryOp ρ → DirectoryAnswer ρ × Bindings ρ
  | bind name handle =>
    match b name with
    | some _ => (.bound (.error (.alreadyBound name)), b)
    | none => (.bound (.ok ()), Function.update b name (some handle))
  | rebind name handle => (.rebound (.ok (b name)), Function.update b name (some handle))
  | unbind name => (.unbound (.ok (b name)), Function.update b name none)
  | lookup name =>
    match b name with
    | some handle => (.found (.ok handle), b)
    | none => (.found (.error (.nameNotBound name)), b)

/-- What an operation does to the map: a name that is not well formed is refused, whatever is
bound. -/
def onMap (op : DirectoryOp ρ) : StateM (Bindings ρ) (DirectoryAnswer ρ) := fun b =>
  if WellFormedName op.name then op.onName b else (op.refused (.refusal op.name), b)

/-- Perform an operation on a directory, and settle how it ends. -/
def perform : DirectoryOp ρ → Act (StaticDirectory ρ) Empty (DirectoryAnswer ρ)
  | bind name handle => .bound <$> (StaticDirectory.bind name handle).attempt
  | rebind name handle => .rebound <$> (StaticDirectory.rebind name handle).attempt
  | unbind name => .unbound <$> (StaticDirectory.unbind name).attempt
  | lookup name => .found <$> (StaticDirectory.lookup name).attempt

/-! ## What no operation does to the map -/

variable {op : DirectoryOp ρ} {b : Bindings ρ} {name : String}

theorem onName_bind_of_taken {held : Handle ρ} (h : b name = some held) (handle : Handle ρ) :
    (bind name handle).onName b = (.bound (.error (.alreadyBound name)), b) := by
  rw [onName, h]

theorem onName_bind_of_free (h : b name = none) (handle : Handle ρ) :
    (bind name handle).onName b = (.bound (.ok ()), Function.update b name (some handle)) := by
  rw [onName, h]

theorem onName_lookup_of_bound {handle : Handle ρ} (h : b name = some handle) :
    (lookup name).onName b = (.found (.ok handle), b) := by
  rw [onName, h]

theorem onName_lookup_of_missing (h : b name = none) :
    (lookup name).onName b = (.found (.error (.nameNotBound name)), b) := by
  rw [onName, h]

/-- An operation that fails changes nothing. -/
theorem onMap_of_isError (h : (op.onMap b).1.isError = true) : (op.onMap b).2 = b := by
  unfold onMap at h ⊢
  split
  · rename_i hname
    rw [if_pos hname] at h
    cases op with
    | bind name handle =>
      cases hb : b name with
      | some held => rw [onName_bind_of_taken hb]
      | none =>
        rw [onName_bind_of_free hb] at h
        exact absurd h Bool.false_ne_true
    | rebind name handle => exact absurd h Bool.false_ne_true
    | unbind name => exact absurd h Bool.false_ne_true
    | lookup name =>
      cases hb : b name with
      | some handle => rw [onName_lookup_of_bound hb]
      | none => rw [onName_lookup_of_missing hb]
  · -- a name that is refused is not looked at
    rfl

/-- No operation changes what is bound under another name. -/
theorem onMap_frame {n : String} (h : n ≠ op.name) : (op.onMap b).2 n = b n := by
  unfold onMap
  split
  · cases op with
    | bind name handle =>
      cases hb : b name with
      | some held => rw [onName_bind_of_taken hb]
      | none =>
        rw [onName_bind_of_free hb]
        exact Function.update_of_ne h _ b
    | rebind name handle => exact Function.update_of_ne h _ b
    | unbind name => exact Function.update_of_ne h _ b
    | lookup name =>
      cases hb : b name with
      | some handle => rw [onName_lookup_of_bound hb]
      | none => rw [onName_lookup_of_missing hb]
  · rfl

/-- Only well-formed names get bound. -/
theorem onMap_wellFormed (h : b.WellFormed) : Bindings.WellFormed (op.onMap b).2 := by
  intro n hn
  by_cases hop : n = op.name
  · by_cases hname : WellFormedName op.name
    · exact hop ▸ hname
    · -- the name is refused, so it was bound before
      unfold onMap at hn
      rw [if_neg hname] at hn
      exact h n hn
  · rw [onMap_frame hop] at hn
    exact h n hn

end DirectoryOp

/-! ## Directories as maps -/

namespace StaticDirectory

/-- What is bound under each name of a directory. -/
def bindings (d : StaticDirectory ρ) : Bindings ρ := d.table.get?

/-- Directories with the same bindings are equal. -/
theorem ext_bindings {d d' : StaticDirectory ρ} (h : d.bindings = d'.bindings) : d = d' := by
  obtain ⟨table⟩ := d
  obtain ⟨table'⟩ := d'
  obtain rfl : table = table' := NameMap.ext_get? (congrFun h)
  rfl

/-- Putting a handle updates the bindings at its name. -/
theorem bindings_put (d : StaticDirectory ρ) (name : String) (handle : Handle ρ) :
    (d.put name handle).bindings = Function.update d.bindings name (some handle) := by
  funext n
  have hput : (d.put name handle).bindings n = if n = name then some handle else d.bindings n :=
    NameMap.get?_insert d.table name handle n
  rw [hput, Function.update_apply]

theorem bindings_erase (d : StaticDirectory ρ) (name : String) :
    (⟨d.table.erase name⟩ : StaticDirectory ρ).bindings = Function.update d.bindings name none := by
  funext n
  have herase : (⟨d.table.erase name⟩ : StaticDirectory ρ).bindings n =
      if n = name then none else d.bindings n :=
    NameMap.get?_erase d.table name n
  rw [herase, Function.update_apply]

theorem mem_names_iff (d : StaticDirectory ρ) (n : String) :
    n ∈ d.names ↔ (d.bindings n).isSome = true := NameMap.mem_names_iff d.table

/-- The directory is empty exactly if nothing is bound. -/
theorem isEmpty_iff (d : StaticDirectory ρ) : d.isEmpty = true ↔ d.bindings = Bindings.none := by
  have hentries : d.isEmpty = true ↔ d.table.entries = [] := List.isEmpty_iff
  rw [hentries]
  constructor
  · intro h
    obtain rfl : d = .empty := congrArg mk (NameMap.ext h)
    rfl
  · intro h
    obtain rfl : d = .empty := ext_bindings h
    rfl

end StaticDirectory

namespace DirectoryOp

/-! ## Histories -/

/-- How an operation ends is settled in an answer. -/
theorem run_settled {ε α : Type} {a : Act (StaticDirectory ρ) ε α} {v : Except ε α}
    {d d' : StaticDirectory ρ} {events : List Event} (h : a.run d = ⟨v, d', events⟩)
    (f : Except ε α → DirectoryAnswer ρ) :
    (f <$> (a.attempt : Act _ Empty _)).run d = ⟨.ok (f v), d', events⟩ := by
  rw [Act.run_map, Act.run_attempt, h]
  rfl

/-- An operation whose name is refused leaves the directory as it is. -/
theorem run_perform_of_refused {e : NamingError} (op : DirectoryOp ρ)
    (h : checkName op.name = .error e) (d : StaticDirectory ρ) :
    op.perform.run d = ⟨.ok (op.refused e), d, []⟩ := by
  cases op with
  | bind name handle =>
    have hrun := StaticDirectory.run_bind_of_refused h handle d
    exact run_settled hrun .bound
  | rebind name handle =>
    have hrun := StaticDirectory.run_rebind_of_refused h handle d
    exact run_settled hrun .rebound
  | unbind name =>
    have hrun := StaticDirectory.run_unbind_of_refused h d
    exact run_settled hrun .unbound
  | lookup name =>
    have hrun := StaticDirectory.run_lookup_of_refused h d
    exact run_settled hrun .found

/-- An operation whose name is accepted answers as on the map, and leaves what it leaves there. -/
theorem exists_run_perform_of_accepted (op : DirectoryOp ρ) (h : checkName op.name = .ok ())
    (d : StaticDirectory ρ) :
    ∃ d' events, op.perform.run d = ⟨.ok (op.onName d.bindings).1, d', events⟩ ∧
      d'.bindings = (op.onName d.bindings).2 := by
  cases op with
  | bind name handle =>
    cases hb : d.bindings name with
    | some held =>
      have htaken : d.table.contains name = true := congrArg Option.isSome hb
      have hrun := StaticDirectory.run_bind_of_taken h htaken handle
      rw [onName_bind_of_taken hb]
      exact ⟨d, [], run_settled hrun .bound, rfl⟩
    | none =>
      have hfree : d.table.contains name = false := congrArg Option.isSome hb
      have hrun := StaticDirectory.run_bind_of_free h hfree handle
      rw [onName_bind_of_free hb]
      exact ⟨d.put name handle, _, run_settled hrun .bound, d.bindings_put name handle⟩
  | rebind name handle =>
    have hrun := StaticDirectory.run_rebind_of_accepted h handle d
    exact ⟨d.put name handle, _, run_settled hrun .rebound, d.bindings_put name handle⟩
  | unbind name =>
    have hrun := StaticDirectory.run_unbind_of_accepted h d
    exact ⟨⟨d.table.erase name⟩, [], run_settled hrun .unbound, d.bindings_erase name⟩
  | lookup name =>
    cases hb : d.bindings name with
    | some handle =>
      have hrun := StaticDirectory.run_lookup_of_bound h hb
      rw [onName_lookup_of_bound hb]
      exact ⟨d, [], run_settled hrun .found, rfl⟩
    | none =>
      have hrun := StaticDirectory.run_lookup_of_missing h hb
      rw [onName_lookup_of_missing hb]
      exact ⟨d, [], run_settled hrun .found, rfl⟩

/-- An operation gives the answer that it gives on the map, and leaves what it leaves there. -/
theorem exists_run_perform (op : DirectoryOp ρ) (d : StaticDirectory ρ) :
    ∃ d' events, op.perform.run d = ⟨.ok (op.onMap d.bindings).1, d', events⟩ ∧
      d'.bindings = (op.onMap d.bindings).2 := by
  unfold onMap
  split
  · rename_i hname
    exact op.exists_run_perform_of_accepted (checkName_eq_ok_iff.2 hname) d
  · rename_i hname
    exact ⟨d, [], op.run_perform_of_refused (checkName_of_not_wellFormed hname) d, rfl⟩

/-- A run on the map goes on from what the first operation leaves. -/
theorem mapM_onMap_cons (op : DirectoryOp ρ) (rest : List (DirectoryOp ρ)) (b : Bindings ρ) :
    ((op :: rest).mapM onMap).run b =
      ((op.onMap b).1 :: ((rest.mapM onMap).run (op.onMap b).2).1,
        ((rest.mapM onMap).run (op.onMap b).2).2) := by
  rw [List.mapM_cons]
  rfl

/-- A history gives the answers that it gives on the map, and leaves the bindings that it leaves
there. -/
theorem exists_run_mapM (ops : List (DirectoryOp ρ)) (d : StaticDirectory ρ) :
    ∃ d' events,
      (ops.mapM perform).run d = ⟨.ok ((ops.mapM onMap).run d.bindings).1, d', events⟩ ∧
      d'.bindings = ((ops.mapM onMap).run d.bindings).2 := by
  induction ops generalizing d with
  | nil => exact ⟨d, [], rfl, rfl⟩
  | cons op rest ih =>
    -- what the first operation leaves on the directory is what it leaves on the map
    obtain ⟨d₁, events, hrun, hbindings⟩ := op.exists_run_perform d
    obtain ⟨d₂, more, hrest, hend⟩ := ih d₁
    rw [hbindings] at hrest hend
    rw [mapM_onMap_cons]
    exact ⟨d₂, _, Act.run_mapM_cons hrun hrest, hend⟩

/-- A run on the map keeps to well-formed names. -/
theorem mapM_onMap_wellFormed (ops : List (DirectoryOp ρ)) {b : Bindings ρ} (h : b.WellFormed) :
    Bindings.WellFormed ((ops.mapM onMap).run b).2 := by
  induction ops generalizing b with
  | nil => exact h
  | cons op rest ih =>
    rw [mapM_onMap_cons]
    exact ih (onMap_wellFormed h)

end DirectoryOp

/-- Every history of a directory gives the answers that it gives on the map, and leaves what it
leaves there. Only well-formed names are bound after it, and the names are listed in strictly
ascending order, each once. Whatever is done next, it changes nothing if it fails, and changes no
other name than its own. -/
theorem StaticDirectory.refines_map (history : List (DirectoryOp ρ)) :
    let expected := (history.mapM DirectoryOp.onMap).run Bindings.none
    ∃ d events,
      (history.mapM DirectoryOp.perform).run .empty = ⟨.ok expected.1, d, events⟩ ∧
      d.bindings = expected.2 ∧ d.bindings.WellFormed ∧
      (∀ n, n ∈ d.names ↔ (d.bindings n).isSome = true) ∧
      d.names.Pairwise (· < ·) ∧ d.names.length = d.size ∧
      (d.isEmpty = true ↔ d.bindings = Bindings.none) ∧
      ∀ op : DirectoryOp ρ, ∃ answer d' more,
        op.perform.run d = ⟨.ok answer, d', more⟩ ∧ (answer.isError = true → d' = d) ∧
        ∀ n, n ≠ op.name → d'.bindings n = d.bindings n := by
  intro expected
  obtain ⟨d, events, hrun, hbindings⟩ := DirectoryOp.exists_run_mapM history .empty
  have hempty : Bindings.WellFormed (Bindings.none : Bindings ρ) := by
    intro n hn
    exact absurd hn Bool.false_ne_true
  have hwellFormed : d.bindings.WellFormed := by
    rw [hbindings]
    exact DirectoryOp.mapM_onMap_wellFormed history hempty
  refine ⟨d, events, hrun, hbindings, hwellFormed, d.mem_names_iff, d.table.names_ascending,
    d.table.length_names, d.isEmpty_iff, fun op => ?_⟩
  obtain ⟨d', more, hnext, hafter⟩ := op.exists_run_perform d
  refine ⟨_, d', more, hnext, fun herror => ?_, fun n hn => ?_⟩
  · refine StaticDirectory.ext_bindings ?_
    rw [hafter, DirectoryOp.onMap_of_isError herror]
  · rw [hafter, DirectoryOp.onMap_frame hn]

end Locator
