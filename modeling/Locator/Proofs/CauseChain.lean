import Mathlib.Data.List.Induction
import Mathlib.Data.List.Infix
import Locator.CauseChain

/-!
# Lines of causes

A line of causes is built message by message, from the outermost one down to the root. What is
there already is never changed, and after each message the line ends with that message, whether it
was added or stood there before. So a line holds every message and ends with the root.

* `CauseChain.Contains`, `CauseChain.EndsWith`: a text is part of a line, or its end;
* `CauseChain.extend_cases`: what one message does to a line;
* `CauseChain.contains_line`, `CauseChain.endsWith_line`: what the line of all messages holds;
* `CauseChain.line_pair`: a message that ends with its cause is a line by itself.
-/

namespace Locator.CauseChain

/-- A text is a part of a line. -/
def Contains (line text : String) : Prop := text.toList <:+: line.toList

/-- A text is the end of a line. -/
def EndsWith (line text : String) : Prop := text.toList <:+ line.toList

theorem endsWith_iff {line text : String} : endsWith line text = true ↔ EndsWith line text :=
  List.isSuffixOf_iff_suffix

theorem endsWith_append (lead text : String) : EndsWith (lead ++ text) text := by
  unfold EndsWith
  rw [String.toList_append]
  exact List.suffix_append ..

/-- Every line ends with the empty text. -/
theorem ne_empty_of_not_endsWith {line text : String} (h : ¬ EndsWith line text) : text ≠ "" := by
  rintro rfl
  exact h List.nil_suffix

/-! ## One message -/

/-- A message that the line ends with is left out. Another one is the line if there is none yet, and
follows a colon otherwise. -/
theorem extend_cases (line message : String) :
    (EndsWith line message ∧ extend line message = line) ∨
    (¬ EndsWith line message ∧ line = "" ∧ extend line message = message) ∨
    (¬ EndsWith line message ∧ line ≠ "" ∧ extend line message = line ++ ": " ++ message) := by
  unfold extend
  by_cases hends : EndsWith line message
  · rw [if_pos (endsWith_iff.2 hends)]
    exact .inl ⟨hends, rfl⟩
  · rw [if_neg (mt endsWith_iff.1 hends)]
    by_cases hline : line = ""
    · rw [if_pos hline]
      exact .inr (.inl ⟨hends, hline, rfl⟩)
    · rw [if_neg hline]
      exact .inr (.inr ⟨hends, hline, rfl⟩)

/-- A message that the line ends with already changes nothing. -/
theorem extend_of_endsWith {line message : String} (h : EndsWith line message) :
    extend line message = line := by
  unfold extend
  rw [if_pos (endsWith_iff.2 h)]

/-- What is on the line stays there. -/
theorem isPrefix_extend (line message : String) :
    line.toList <+: (extend line message).toList := by
  obtain ⟨-, heq⟩ | ⟨-, hline, -⟩ | ⟨-, -, heq⟩ := extend_cases line message
  · rw [heq]
  · rw [hline]
    exact List.nil_prefix
  · rw [heq, String.append_assoc, String.toList_append]
    exact List.prefix_append ..

/-- After a message the line ends with it. -/
theorem endsWith_extend (line message : String) : EndsWith (extend line message) message := by
  obtain ⟨hends, heq⟩ | ⟨-, -, heq⟩ | ⟨-, -, heq⟩ := extend_cases line message
  · rw [heq]
    exact hends
  · rw [heq]
    exact List.suffix_refl _
  · rw [heq]
    exact endsWith_append _ _

/-! ## All messages -/

/-- The root cause is rendered last, onto the line of the causes above it. -/
theorem line_concat (messages : List String) (message : String) :
    line (messages ++ [message]) = extend (line messages) message := by
  unfold line
  rw [List.foldl_append]
  rfl

/-- Deeper causes are added behind what is there. -/
theorem isPrefix_line_append (messages deeper : List String) :
    (line messages).toList <+: (line (messages ++ deeper)).toList := by
  induction deeper using List.reverseRecOn with
  | nil =>
    rw [List.append_nil]
  | append_singleton deeper message ih =>
    rw [← List.append_assoc, line_concat]
    exact ih.trans (isPrefix_extend _ _)

/-- A line ends with the root. -/
theorem endsWith_line (messages : List String) (root : String) :
    EndsWith (line (messages ++ [root])) root := by
  rw [line_concat]
  exact endsWith_extend _ _

/-- A line holds every message. -/
theorem contains_line {messages : List String} {message : String} (h : message ∈ messages) :
    Contains (line messages) message := by
  obtain ⟨outer, deeper, rfl⟩ := List.append_of_mem h
  -- the line ends with the message when it is its turn, and what follows is added behind it
  have hturn : EndsWith (line (outer ++ [message])) message := endsWith_line outer message
  have hstays : (line (outer ++ [message])).toList <+:
      (line (outer ++ message :: deeper)).toList := by
    have happend := isPrefix_line_append (outer ++ [message]) deeper
    rwa [List.append_assoc] at happend
  exact hturn.isInfix.trans hstays.isInfix

theorem line_singleton (message : String) : line [message] = message := by
  obtain ⟨hends, heq⟩ | ⟨-, -, heq⟩ | ⟨-, hline, -⟩ := extend_cases "" message
  · -- only the empty message is the end of an empty line
    have hempty : message = "" := String.toList_inj.1 (List.suffix_nil.1 hends)
    rw [hempty]
    rfl
  · exact heq
  · exact absurd rfl hline

/-- A message that ends with its cause is a line by itself. -/
theorem line_pair {message cause : String} (h : EndsWith message cause) :
    line [message, cause] = message := by
  have hpair : line [message, cause] = extend (line [message]) cause := line_concat [message] cause
  rw [hpair, line_singleton, extend_of_endsWith h]

end Locator.CauseChain
