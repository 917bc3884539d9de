import Locator.Number.Decimal
import Locator.Proofs.Text.AsciiCase
import Locator.Text.CodePoints

/-!
# Letters and blanks

What becomes of characters when a text is put in capitals, lowered or trimmed. Only the letters
from A to Z have another case, and none of them is a blank.

* `raised`, `lowered_raised`: a list in capitals, and lowered again;
* `lowered_eq_self_iff`: the lists that lowering leaves as they are;
* `rdropWhile_raised`: blanks at the end, before or after the change to capitals.
-/

namespace Locator

namespace Text

/-- Only a character that is no letter is its own capital and that of no other. -/
theorem toUpper_eq_iff {c sign : Char} (h : sign.isAlpha = false) :
    c.toUpper = sign ↔ c = sign := by
  have hfixed : ∀ d : Char, d.isAlpha = false → d.toUpper = d := by
    intro d hd
    refine Char.toUpper_eq_of_not_isLower fun hlower => ?_
    rw [Char.isAlpha, hlower, Bool.or_true] at hd
    cases hd
  constructor
  · intro heq
    have hc : c.isAlpha = false := by rw [← Char.isAlpha_toUpper_eq_isAlpha, heq, h]
    rw [← heq, hfixed c hc]
  · rintro rfl
    exact hfixed c h

theorem isAlpha_iff {c : Char} : c.isAlpha = true ↔
    (65 ≤ c.toNat ∧ c.toNat ≤ 90) ∨ (97 ≤ c.toNat ∧ c.toNat ≤ 122) := by
  simp [Char.isAlpha, Char.isUpper, Char.isLower, UInt32.le_iff_toNat_le, ← Char.toNat_val]

theorem ne_of_isAlpha {c sign : Char} (hc : c.isAlpha = true) (hsign : sign.isAlpha = false) :
    c ≠ sign := by
  rintro rfl
  rw [hc] at hsign
  cases hsign

theorem isBlank_of_isAlpha {c : Char} (h : c.isAlpha = true) : isBlank c = false := by
  have hrange := isAlpha_iff.1 h
  simp only [isBlank, inRanges, blanks, List.any_cons, List.any_nil, Bool.or_false,
    Bool.or_eq_false_iff, Bool.and_eq_false_iff, decide_eq_false_iff_not]
  omega

/-- Capitals do not change what is blank. -/
theorem isBlank_toUpper (c : Char) : isBlank c.toUpper = isBlank c := by
  by_cases hc : c.isAlpha = true
  · rw [isBlank_of_isAlpha hc, isBlank_of_isAlpha (by rw [Char.isAlpha_toUpper_eq_isAlpha, hc])]
  · rw [(toUpper_eq_iff (Bool.eq_false_iff.2 hc)).2 rfl]

/-- A list in capitals. -/
def raised (cs : List Char) : List Char := cs.map Char.toUpper

/-- Lowering undoes raising and nothing more. -/
theorem lowered_raised (cs : List Char) : lowered (raised cs) = lowered cs := by
  unfold lowered raised
  rw [List.map_map]
  exact List.map_congr_left fun c _ => Char.toLower_toUpper_eq_toLower c

theorem toLower_eq_self_iff {c : Char} : c.toLower = c ↔ c.isUpper = false := by
  constructor
  · intro h
    rw [← h]
    exact Char.isUpper_toLower_eq_false c
  · intro h
    exact Char.toLower_eq_of_not_isUpper (by simp [h])

theorem lowered_eq_self_iff {cs : List Char} :
    lowered cs = cs ↔ ∀ c ∈ cs, c.isUpper = false := by
  have hmap : cs.map Char.toLower = cs.map id ↔ ∀ c ∈ cs, c.toLower = id c := List.map_inj_left
  rw [List.map_id] at hmap
  exact hmap.trans (forall₂_congr fun c _ => toLower_eq_self_iff)

/-- Dropping blanks from the end, before or after the change to capitals. -/
theorem rdropWhile_raised (cs : List Char) :
    (raised cs).rdropWhile isBlank = raised (cs.rdropWhile isBlank) := by
  unfold raised List.rdropWhile
  rw [← List.map_reverse, List.dropWhile_map, List.map_reverse]
  refine congrArg (fun p => ((cs.reverse.dropWhile p).map Char.toUpper).reverse) ?_
  exact funext isBlank_toUpper

end Text

end Locator
