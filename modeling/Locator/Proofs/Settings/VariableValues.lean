import Locator.Proofs.Settings.Abridged
import Locator.Proofs.Text.Letters
import Locator.Settings.VariableValue

/-!
# Values of variables that are texts

The value of a variable is read as a text only if it looks like nothing else. What looks like a
truth value, a number, a quoted text, a list or a map is read as that, and blanks around it are
dropped.

* `VariableValue.read_of_bare`: a value without brackets and quotes is what its bare word stands
  for;
* `VariableValue.read_of_isAlpha`: words of letters stand for themselves, `true` and `false`
  apart;
* `VariableValue.read_of_level`: so do the words for levels. -/

namespace Locator

namespace VariableValue

/-- What a value can begin with that is no bare word, apart from brackets. -/
def starts : List String := ["true", "false", "\"", "'"]

/-- A bare word is read as what it stands for. -/
theorem read_of_bare {v : String} (hgap : skipGap v.toList = v.toList)
    (hbare : ∀ c ∈ v.toList, isBare c = true)
    (hstarts : ∀ start ∈ starts, ¬ start.toList <+: v.toList) :
    read v = bareWord v.toList := by
  have htake : v.toList.takeWhile isBare = v.toList := List.takeWhile_eq_self_iff.2 hbare
  have hdrop : v.toList.dropWhile isBare = [] := List.dropWhile_eq_nil_iff.2 hbare
  have hvalue : ∀ fuel, value? (fuel + 1) v.toList = some (bareWord v.toList, []) := by
    intro fuel
    rw [value?, hgap]
    split
    · rename_i r heq
      exact absurd ⟨r, heq.symm⟩ (hstarts "true" (by decide))
    · rename_i r heq
      exact absurd ⟨r, heq.symm⟩ (hstarts "false" (by decide))
    · rename_i r heq
      exact absurd (hbare _ (heq ▸ List.mem_cons_self)) (by decide)
    · rename_i r heq
      exact absurd (hbare _ (heq ▸ List.mem_cons_self)) (by decide)
    · rename_i r heq
      exact absurd ⟨r, heq.symm⟩ (hstarts "\"" (by decide))
    · rename_i c r heq
      exact absurd ⟨_, heq.symm⟩ (hstarts "'" (by decide))
    · rename_i r _ heq
      exact absurd ⟨r, heq.symm⟩ (hstarts "'" (by decide))
    · rw [htake, hdrop]
      rfl
  unfold read
  rw [hvalue]

theorem trim_eq_self {cs : List Char} (h : ∀ c ∈ cs, Text.isBlank c = false) : trim cs = cs := by
  have hfront : cs.dropWhile Text.isBlank = cs := by
    cases cs with
    | nil => rfl
    | cons c r => exact List.dropWhile_cons_of_neg (by simp [h c List.mem_cons_self])
  have hend : cs.rdropWhile Text.isBlank = cs :=
    List.rdropWhile_eq_self_iff.2 fun hne => by simp [h _ (List.getLast_mem hne)]
  unfold trim
  rw [hfront]
  exact hend

theorem digitValue?_of_isAlpha {c : Char} (h : c.isAlpha = true) : digitValue? 10 c = none := by
  have hdigit : ¬ ('0' ≤ c ∧ c ≤ '9') := by
    rintro ⟨hlow, hhigh⟩
    have hrange : (65 ≤ c.toNat ∧ c.toNat ≤ 90) ∨ (97 ≤ c.toNat ∧ c.toNat ≤ 122) :=
      Text.isAlpha_iff.1 h
    have hnine : c.toNat ≤ 57 := hhigh
    omega
  unfold digitValue?
  rw [if_neg hdigit]
  split
  · exact Option.filter_some_neg (by simp)
  · split
    · exact Option.filter_some_neg (by simp)
    · rfl

/-- A word of letters is no number. -/
theorem bareWord_of_isAlpha {cs : List Char} (h : ∀ c ∈ cs, c.isAlpha = true) :
    bareWord cs = .text (String.ofList cs) := by
  have htrim : trim cs = cs := trim_eq_self fun c hc => Text.isBlank_of_isAlpha (h c hc)
  have hpoint : pointNumber? cs = none := by
    unfold pointNumber?
    rw [if_neg]
    intro hmem
    exact Text.ne_of_isAlpha (h '.' (by simpa using hmem)) (by decide) rfl
  have hwhole : wholeNumber? cs = none := by
    cases cs with
    | nil => rfl
    | cons c r =>
      have hc := h c List.mem_cons_self
      unfold wholeNumber?
      split
      · rename_i heq
        exact absurd (List.cons.inj heq).1 (Text.ne_of_isAlpha hc (by decide))
      · split
        · rename_i heq
          exact absurd (List.cons.inj heq).1 (Text.ne_of_isAlpha hc (by decide))
        · simp [natOfDigits?, digitsFrom?, digitValue?_of_isAlpha hc]
  unfold bareWord
  simp only [htrim, hpoint, hwhole]
  rfl

/-- A word of letters stands for itself, unless a truth value is where it begins. -/
theorem read_of_isAlpha {v : String} (h : ∀ c ∈ v.toList, c.isAlpha = true)
    (htrue : ¬ "true".toList <+: v.toList) (hfalse : ¬ "false".toList <+: v.toList) :
    read v = .text v := by
  have hgap : skipGap v.toList = v.toList := by
    unfold skipGap
    cases hv : v.toList with
    | nil => rfl
    | cons c r =>
      refine List.dropWhile_cons_of_neg fun hc => ?_
      have hletter := h c (hv ▸ List.mem_cons_self)
      simp [isGap, Text.ne_of_isAlpha hletter] at hc
  have hbare : ∀ c ∈ v.toList, isBare c = true := by
    intro c hc
    simp [isBare, Text.ne_of_isAlpha (h c hc)]
  have hstarts : ∀ start ∈ starts, ¬ start.toList <+: v.toList := by
    intro start hstart
    simp only [starts, List.mem_cons, List.not_mem_nil, or_false] at hstart
    rcases hstart with rfl | rfl | rfl | rfl
    · exact htrue
    · exact hfalse
    · exact fun hbegins =>
        Text.ne_of_isAlpha (h _ (hbegins.subset List.mem_cons_self)) (by decide) rfl
    · exact fun hbegins =>
        Text.ne_of_isAlpha (h _ (hbegins.subset List.mem_cons_self)) (by decide) rfl
  rw [read_of_bare hgap hbare hstarts, bareWord_of_isAlpha h, String.ofList_toList]

/-- Whatever stands for a level stands for itself. -/
theorem read_of_level {v : String} {console? : Option Level}
    (h : Section.level? v = some console?) : read v = .text v := by
  have hword := Section.level?_eq_some_iff.1 h
  have hlower : v.toLower.toList = v.toList.map Char.toLower := String.toList_map
  have hwords : ∀ e ∈ Section.levelWords, (∀ c ∈ e.1.toList, c.isAlpha = true) ∧
      ¬ "true".toList <+: e.1.toList ∧ ¬ "false".toList <+: e.1.toList := by
    simp [Section.levelWords]
  obtain ⟨hletters, htrue, hfalse⟩ := hwords _ hword
  rw [hlower] at hletters htrue hfalse
  refine read_of_isAlpha (fun c hc => ?_) (fun hbegins => htrue (hbegins.map Char.toLower))
    fun hbegins => hfalse (hbegins.map Char.toLower)
  rw [← Char.isAlpha_toLower_eq_isAlpha]
  exact hletters _ (List.mem_map_of_mem hc)

end VariableValue

end Locator
