import Locator.Shown

/-!
# Names and naming failures

The names under which a naming service binds objects, and the ways in which a naming service fails.
A name is well formed if it is not empty and holds no white space.

* `checkName_eq_ok_iff`: exactly the well-formed names pass the check;
* `checkName_of_not_wellFormed`: every other name is refused by name, with the reason.
-/

namespace Locator

/-- How a naming service fails. -/
inductive NamingError where
  /-- The name breaks the rules for names. -/
  | malformedName (name reason : String)
  /-- The client is not who it should be. -/
  | authenticationFailed (text : String)
  /-- The service cannot be reached. -/
  | serviceUnavailable (text : String)
  /-- Nothing is bound under the name. -/
  | nameNotBound (name : String)
  /-- Anything else. -/
  | other (text : String)
deriving DecidableEq, Repr

namespace NamingError

/-- The failure in words. -/
def message : NamingError → String
  | malformedName name reason => s!"malformed name `{name}`: {reason}"
  | authenticationFailed text => s!"authentication failed: {text}"
  | serviceUnavailable text => s!"directory service unavailable: {text}"
  | nameNotBound name => s!"name not bound: {name}"
  | other text => s!"naming error: {text}"

instance : Display NamingError := ⟨fun
  | malformedName name reason =>
    .record "MalformedName" [("name", .text name), ("reason", .text reason)] false
  | authenticationFailed text => .tuple "AuthenticationFailed" [.text text]
  | serviceUnavailable text => .tuple "ServiceUnavailable" [.text text]
  | nameNotBound name => .tuple "NameNotBound" [.text name]
  | other text => .tuple "Other" [.text text]⟩

end NamingError

/-- A name that an object can be bound under: not empty, and without white space. -/
def WellFormedName (name : String) : Prop :=
  name ≠ "" ∧ ∀ c ∈ name.toList, Text.isBlank c = false

instance (name : String) : Decidable (WellFormedName name) :=
  @instDecidableAnd (name ≠ "") (∀ c ∈ name.toList, Text.isBlank c = false) inferInstance
    (List.decidableBAll _ _)

/-- Accept well-formed names only; an empty name is reported as such. -/
def checkName (name : String) : Except NamingError Unit :=
  if name = "" then .error (.malformedName name "name is empty")
  else if name.toList.any Text.isBlank then .error (.malformedName name "name contains whitespace")
  else .ok ()

/-- The names that are accepted are the well-formed ones. -/
theorem checkName_eq_ok_iff {name : String} : checkName name = .ok () ↔ WellFormedName name := by
  unfold checkName WellFormedName
  split
  · simp [*]
  · split
    · rename_i hne h
      obtain ⟨c, hc, hb⟩ := List.any_eq_true.1 h
      simp only [reduceCtorEq, false_iff, not_and]
      exact fun _ hall => by simp [hall c hc] at hb
    · rename_i hne h
      simp only [true_iff]
      refine ⟨hne, fun c hc => ?_⟩
      simpa using fun hb => h (List.any_eq_true.2 ⟨c, hc, hb⟩)

/-- The refusal of a name, with the first reason that applies. -/
def NamingError.refusal (name : String) : NamingError :=
  .malformedName name (if name = "" then "name is empty" else "name contains whitespace")

/-- A name that is not well formed is refused, with the reason of its refusal. -/
theorem checkName_of_not_wellFormed {name : String} (h : ¬ WellFormedName name) :
    checkName name = .error (.refusal name) := by
  rw [← checkName_eq_ok_iff] at h
  unfold checkName NamingError.refusal at *
  split
  · rfl
  · rename_i hne
    rw [if_neg hne] at h
    split
    · rfl
    · -- a name with neither fault would have passed
      rename_i hblank
      exact absurd (if_neg hblank) h

end Locator
