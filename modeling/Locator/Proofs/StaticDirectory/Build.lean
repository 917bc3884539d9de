import Mathlib.Data.List.Induction
import Locator.Proofs.StaticDirectory.Runs

/-!
# Building a static directory

The repositories of a static directory are bound one after another, until one of them is refused.

* `Acceptable`, `FirstRefused`: none of the bindings is refused, or one is, with the reason;
* `stocked`: the directory of all bindings;
* `run_build_of_acceptable`, `run_build_of_refused`: building gives the one or the other.
-/

namespace Locator

namespace StaticSettings

/-! ## What is accepted -/

/-- Every name is well formed, and none occurs twice. -/
structure Acceptable (bindings : List BindingSettings) : Prop where
  /-- Every name is well formed. -/
  wellFormed : ∀ b ∈ bindings, WellFormedName b.name
  /-- No name occurs twice. -/
  distinct : (bindings.map (·.name)).Nodup

/-- Why the first binding that is refused is refused. Nothing is wrong with those in front of it. -/
inductive FirstRefused (bindings : List BindingSettings) : BindError → Prop where
  /-- Its name is not well formed. -/
  | malformed {front back : List BindingSettings} {b : BindingSettings}
      (split : bindings = front ++ b :: back) (before : Acceptable front)
      (malformed : ¬ WellFormedName b.name) :
      FirstRefused bindings (.naming (.refusal b.name))
  /-- Its name is taken by one in front of it. -/
  | taken {front back : List BindingSettings} {b : BindingSettings}
      (split : bindings = front ++ b :: back) (before : Acceptable front)
      (wellFormed : WellFormedName b.name) (taken : b.name ∈ front.map (·.name)) :
      FirstRefused bindings (.alreadyBound b.name)

variable {bindings front back : List BindingSettings} {b : BindingSettings} {e : BindError}

theorem Acceptable.nil : Acceptable [] := ⟨by simp, .nil⟩

/-- One more binding is accepted if its name is well formed and free. -/
theorem Acceptable.concat (h : Acceptable front) (hname : WellFormedName b.name)
    (hfree : b.name ∉ front.map (·.name)) : Acceptable (front ++ [b]) := by
  refine ⟨fun x hx => ?_, ?_⟩
  · obtain hx | hx := List.mem_append.1 hx
    · exact h.wellFormed x hx
    · exact List.mem_singleton.1 hx ▸ hname
  · rw [List.map_append, List.map_cons, List.map_nil]
    refine List.nodup_append.2 ⟨h.distinct, by simp, fun x hx y hy hxy => ?_⟩
    obtain rfl : y = b.name := List.mem_singleton.1 hy
    exact hfree (hxy ▸ hx)

/-- Of an acceptable list the front is acceptable, and the names behind it are free. -/
theorem Acceptable.of_concat (h : Acceptable (front ++ [b])) :
    Acceptable front ∧ WellFormedName b.name ∧ b.name ∉ front.map (·.name) := by
  have hdistinct := h.distinct
  rw [List.map_append, List.map_cons, List.map_nil] at hdistinct
  have hparts := List.nodup_append.1 hdistinct
  refine ⟨⟨fun x hx => h.wellFormed x (List.mem_append_left _ hx), hparts.1⟩, ?_, fun hmem => ?_⟩
  · exact h.wellFormed b (List.mem_append_right _ List.mem_cons_self)
  · exact hparts.2.2 b.name hmem b.name List.mem_cons_self rfl

/-- What is refused is refused whatever comes later. -/
theorem FirstRefused.append (h : FirstRefused bindings e) (more : List BindingSettings) :
    FirstRefused (bindings ++ more) e := by
  cases h with
  | @malformed front back b split before hname =>
    have hsplit : bindings ++ more = front ++ b :: (back ++ more) := by
      rw [split, List.append_assoc, List.cons_append]
    exact .malformed hsplit before hname
  | @taken front back b split before hname htaken =>
    have hsplit : bindings ++ more = front ++ b :: (back ++ more) := by
      rw [split, List.append_assoc, List.cons_append]
    exact .taken hsplit before hname htaken

/-- Either nothing is refused, or there is a first binding that is. -/
theorem acceptable_or_refused (bindings : List BindingSettings) :
    Acceptable bindings ∨ ∃ e, FirstRefused bindings e := by
  -- the list grows at its end, as the directory does
  induction bindings using List.reverseRecOn with
  | nil => exact .inl .nil
  | append_singleton front b ih =>
    obtain hfront | ⟨e, hrefused⟩ := ih
    · by_cases hname : WellFormedName b.name
      · by_cases htaken : b.name ∈ front.map (·.name)
        · exact .inr ⟨_, .taken rfl hfront hname htaken⟩
        · exact .inl (hfront.concat hname htaken)
      · exact .inr ⟨_, .malformed rfl hfront hname⟩
    · exact .inr ⟨e, hrefused.append [b]⟩

/-! ## The directory of all bindings -/

/-- The directory in which all repositories are bound. -/
def stocked (bindings : List BindingSettings) : StaticDirectory Remote :=
  ⟨.ofList (bindings.map fun b => (b.name, b.handle))⟩

theorem stocked_concat (front : List BindingSettings) (b : BindingSettings) :
    stocked (front ++ [b]) = (stocked front).put b.name b.handle := by
  unfold stocked StaticDirectory.put NameMap.ofList
  rw [List.map_append, List.foldl_append]
  rfl

/-- Exactly the names of the bindings are bound. -/
theorem contains_stocked_iff (bindings : List BindingSettings) (n : String) :
    (stocked bindings).table.contains n = true ↔ n ∈ bindings.map (·.name) := by
  unfold stocked NameMap.contains
  rw [NameMap.get?_ofList, NameMap.isSome_lastUnder_iff, List.map_map]
  rfl

/-- Under its name, each binding has its own repository. -/
theorem get?_stocked (h : Acceptable bindings) (hb : b ∈ bindings) :
    (stocked bindings).table.get? b.name = some b.handle := by
  have hdistinct : ((bindings.map fun b => (b.name, b.handle)).map (·.1)).Nodup := by
    rw [List.map_map]
    exact h.distinct
  have hentry : (b.name, b.handle) ∈ bindings.map fun b => (b.name, b.handle) :=
    List.mem_map_of_mem hb
  unfold stocked
  rw [NameMap.get?_ofList]
  exact NameMap.lastUnder_of_nodup hdistinct hentry

/-! ## Binding one after another -/

/-- What is reported of a binding that is made. -/
def boundEvent (b : BindingSettings) : Event :=
  StaticDirectory.bindingEvent "Bound remote handle" b.name b.handle

theorem bindAll_append (front back : List BindingSettings) :
    bindAll (front ++ back) = bindAll front >>= fun _ => bindAll back := by
  induction front with
  | nil => exact (pure_bind () fun _ => bindAll back).symm
  | cons b rest ih =>
    rw [List.cons_append, bindAll, bindAll, ih, bind_assoc]

theorem bindAll_singleton (b : BindingSettings) :
    bindAll [b] = StaticDirectory.bind b.name b.handle := by
  rw [bindAll]
  exact bind_pure (StaticDirectory.bind b.name b.handle)

/-- Acceptable bindings are all made, each with its event. -/
theorem run_bindAll_of_acceptable (h : Acceptable bindings) :
    (bindAll bindings).run .empty = ⟨.ok (), stocked bindings, bindings.map boundEvent⟩ := by
  induction bindings using List.reverseRecOn with
  | nil => rfl
  | append_singleton front b ih =>
    obtain ⟨hfront, hname, hfree⟩ := h.of_concat
    have hcheck : checkName b.name = .ok () := checkName_eq_ok_iff.2 hname
    -- the directory holds the names in front, and the name is none of them
    have hcontains : (stocked front).table.contains b.name = false := by
      rw [Bool.eq_false_iff, ne_eq, contains_stocked_iff]
      exact hfree
    have hbind := StaticDirectory.run_bind_of_free hcheck hcontains b.handle
    rw [bindAll_append, bindAll_singleton, stocked_concat, List.map_append]
    exact Act.run_bind_of_ok (ih hfront) hbind

/-- Binding stops at the first binding that is refused, and leaves those in front of it. -/
theorem run_bindAll_of_stop (hsplit : bindings = front ++ b :: back) (hfront : Acceptable front)
    (hbind : (StaticDirectory.bind b.name b.handle).run (stocked front) =
      ⟨.error e, stocked front, []⟩) :
    (bindAll bindings).run .empty = ⟨.error e, stocked front, front.map boundEvent⟩ := by
  have hback : (bindAll (b :: back)).run (stocked front) = ⟨.error e, stocked front, []⟩ :=
    Act.run_bind_of_error hbind
  have hall : (bindAll front >>= fun _ => bindAll (b :: back)).run .empty =
      ⟨.error e, stocked front, front.map boundEvent ++ []⟩ :=
    Act.run_bind_of_ok (run_bindAll_of_acceptable hfront) hback
  rw [hsplit, bindAll_append, hall, List.append_nil]

/-- With the first binding that is refused the building ends. -/
theorem run_bindAll_of_refused (h : FirstRefused bindings e) :
    ∃ d events, (bindAll bindings).run .empty = ⟨.error e, d, events⟩ := by
  cases h with
  | malformed split before hname =>
    have hcheck := checkName_of_not_wellFormed hname
    exact ⟨_, _, run_bindAll_of_stop split before (StaticDirectory.run_bind_of_refused hcheck _ _)⟩
  | taken split before hname htaken =>
    have hcheck := checkName_eq_ok_iff.2 hname
    have hcontains := (contains_stocked_iff _ _).2 htaken
    exact ⟨_, _, run_bindAll_of_stop split before
      (StaticDirectory.run_bind_of_taken hcheck hcontains _)⟩

/-! ## Building -/

variable {σ : Type} {s : StaticSettings}

/-- Acceptable settings build the stocked directory, and the world around stays as it was. -/
theorem run_build_of_acceptable (h : Acceptable s.bindings) (w : σ) :
    (s.build : Act σ BindError (StaticDirectory Remote)).run w =
      ⟨.ok (stocked s.bindings), w, s.bindings.map boundEvent⟩ := by
  unfold build
  rw [Act.run_map, Act.run_isolated, run_bindAll_of_acceptable h]
  rfl

/-- Settings that are not acceptable give the error of the first binding that is refused. -/
theorem run_build_of_refused (h : FirstRefused s.bindings e) (w : σ) :
    ∃ events, (s.build : Act σ BindError (StaticDirectory Remote)).run w =
      ⟨.error e, w, events⟩ := by
  obtain ⟨d, events, hrun⟩ := run_bindAll_of_refused h
  refine ⟨events, ?_⟩
  unfold build
  rw [Act.run_map, Act.run_isolated, hrun]
  rfl

end StaticSettings

end Locator
