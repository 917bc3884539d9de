import Mathlib

/-!
# Words in any case

A text spells a word in any case if it is the word letter by letter, where each letter may be a
capital. For words in lower case this is what lowering the text and comparing decides. Only the
letters from A to Z have another case here.

* `toLower_eq_iff_spells`: lowering and comparing decides spelling.
-/

namespace Locator.Text

/-- A character is a letter of a word in lower case, or its capital. -/
def IsLetter (c letter : Char) : Prop := c = letter ∨ c = letter.toUpper

/-- A text is a word in lower case, apart from capitals. -/
def Spells (text word : String) : Prop := List.Forall₂ IsLetter text.toList word.toList

/-- Lower case makes a small letter of the two forms of the letter and of nothing else. -/
theorem toLower_eq_iff_isLetter {c letter : Char} (h : letter.isUpper = false) :
    c.toLower = letter ↔ IsLetter c letter := by
  have hletter : letter.toLower = letter := Char.toLower_eq_of_not_isUpper (by simp [h])
  constructor
  · intro heq
    by_cases hc : c.isUpper
    · -- a capital is the capital of what it is lowered to
      right
      have hup : c.toLower.toUpper = c := by
        rw [Char.toUpper_toLower_eq_toUpper]
        exact Char.toUpper_eq_of_not_isLower (fun hl => Char.not_isUpper_of_isLower hl hc)
      rw [← heq, hup]
    · left
      rw [← heq, Char.toLower_eq_of_not_isUpper hc]
  · rintro (rfl | rfl)
    · exact hletter
    · rw [Char.toLower_toUpper_eq_toLower, hletter]

/-- A word in small letters is spelt by its letters in either form. -/
theorem map_toLower_eq_iff {cs word : List Char} (h : ∀ letter ∈ word, letter.isUpper = false) :
    cs.map Char.toLower = word ↔ List.Forall₂ IsLetter cs word := by
  induction cs generalizing word with
  | nil =>
    cases word with
    | nil => simp
    | cons letter rest => simp
  | cons c cs ih =>
    cases word with
    | nil => simp
    | cons letter rest =>
      have hrest : ∀ l ∈ rest, l.isUpper = false := fun l hl => h l (List.mem_cons_of_mem _ hl)
      rw [List.map_cons, List.cons.injEq, List.forall₂_cons, ih hrest,
        toLower_eq_iff_isLetter (h letter List.mem_cons_self)]

/-- A text lowered is a word in lower case exactly when it spells the word. -/
theorem toLower_eq_iff_spells {text word : String}
    (h : ∀ letter ∈ word.toList, letter.isUpper = false) :
    text.toLower = word ↔ Spells text word := by
  unfold Spells
  rw [← map_toLower_eq_iff h, ← String.toList_inj, String.toLower, String.toList_map]

end Locator.Text
