import Locator.Proofs.CauseChain

/-!
# Which causes are left out of a line

The rule for a line of causes is that a cause is left out if its message stands at the end of its
parent's message already. A line is extended by a look at all that was written so far, which ends
with the parent's message. So the causes that the rule leaves out are left out, and others as well:
those with a message that is longer than the parent's, ends with it, and was written before.

* `CauseChain.ReachesBack`: such a cause;
* `CauseChain.endsWith_line_iff`, `CauseChain.extend_eq_iff`: what becomes of one cause;
* `CauseChain.lineByParents`: the line that the rule gives;
* `CauseChain.lineBelow_line`, `CauseChain.length_line_lt`: a line keeps to the rule if no cause
  reaches back, and is shorter if one does;
* `CauseChain.omissions_of_line`: which causes are left out, and which lines keep to the rule.
-/

namespace Locator.CauseChain

/-! ## One cause -/

/-- A message below `outer` and its parent says more than the parent, ends with what the parent
says, and stands at the end of the line of `outer` and the parent. -/
structure ReachesBack (outer : List String) (parent message : String) : Prop where
  /-- The message ends with the parent's. -/
  endsWith_parent : EndsWith message parent
  /-- It is another one. -/
  ne_parent : message ≠ parent
  /-- It stands at the end of the line so far. -/
  written : EndsWith (line (outer ++ [parent])) message

theorem EndsWith.antisymm {text text' : String} (h : EndsWith text text')
    (h' : EndsWith text' text) : text = text' :=
  String.toList_inj.1 (h'.eq_of_length_le h.length_le)

/-- Of two endings of a line one ends with the other. -/
theorem EndsWith.total {line text text' : String} (h : EndsWith line text)
    (h' : EndsWith line text') : EndsWith text text' ∨ EndsWith text' text :=
  List.suffix_or_suffix_of_suffix h' h

/-- A message that the parent's ends with does not reach back. -/
theorem ReachesBack.not_endsWith {outer : List String} {parent message : String}
    (h : ReachesBack outer parent message) : ¬ EndsWith parent message :=
  fun hends => h.ne_parent (h.endsWith_parent.antisymm hends)

/-- What the last message ends with, the line ends with. -/
theorem endsWith_line_of_parent (outer : List String) {parent message : String}
    (h : EndsWith parent message) : EndsWith (line (outer ++ [parent])) message :=
  h.trans (endsWith_line outer parent)

/-- What stands at the end of a line stands at the end of its last message, or reaches back beyond
it. -/
theorem endsWith_line_iff (outer : List String) (parent message : String) :
    EndsWith (line (outer ++ [parent])) message ↔
      EndsWith parent message ∨ ReachesBack outer parent message := by
  constructor
  · intro hwritten
    obtain hends | hlonger := (endsWith_line outer parent).total hwritten
    · exact .inl hends
    · by_cases heq : message = parent
      · rw [heq]
        exact .inl (List.suffix_refl _)
      · exact .inr ⟨hlonger, heq, hwritten⟩
  · rintro (hends | hback)
    · exact endsWith_line_of_parent outer hends
    · exact hback.written

/-- The line with a message added to it, behind a colon unless it is the first one. -/
def added (line message : String) : String :=
  if line = "" then message else line ++ ": " ++ message

/-- A message that the line does not end with is added to it. -/
theorem extend_of_not_endsWith {line message : String} (h : ¬ EndsWith line message) :
    extend line message = added line message := by
  unfold extend
  rw [if_neg (mt endsWith_iff.1 h)]
  rfl

/-- A line grows by the message and, once something is rendered, by the separator. -/
theorem length_added (line message : String) : (added line message).length =
    (if line = "" then 0 else line.length + 2) + message.length := by
  unfold added
  split
  · exact (Nat.zero_add _).symm
  · rw [String.length_append, String.length_append]
    rfl

/-- A line grows by what is added to it. -/
theorem length_lt_added (line : String) {message : String} (h : message ≠ "") :
    line.length < (added line message).length := by
  have hmessage : 0 < message.length := Nat.pos_of_ne_zero (mt String.length_eq_zero_iff.1 h)
  rw [length_added]
  split
  · rename_i hline
    rw [hline, Nat.zero_add]
    exact hmessage
  · omega

/-- A longer line grows by no less. -/
theorem length_added_le {line longer : String} (h : line.length ≤ longer.length)
    (message : String) :
    (added line message).length + longer.length ≤ (added longer message).length + line.length := by
  rw [length_added, length_added]
  by_cases hlonger : longer = ""
  · have hline : line = "" := by
      rw [hlonger] at h
      exact String.length_eq_zero_iff.1 (Nat.le_zero.1 h)
    rw [hline, hlonger]
  · rw [if_neg hlonger]
    split
    · omega
    · omega

/-- A message is left out exactly if the line ends with it. -/
theorem extend_eq_iff {line message : String} :
    extend line message = line ↔ EndsWith line message := by
  constructor
  · intro h
    by_contra hends
    rw [extend_of_not_endsWith hends] at h
    have hgrows := length_lt_added line (ne_empty_of_not_endsWith hends)
    rw [h] at hgrows
    exact lt_irrefl _ hgrows
  · exact extend_of_endsWith

/-! ## The rule -/

/-- The rule for one message: the parent decides whether it is added to the line. -/
def extendBelow (parent line message : String) : String :=
  if endsWith parent message then line else added line message

/-- The line with messages below a parent, by the rule. -/
def lineBelow (parent line : String) : List String → String
  | [] => line
  | message :: deeper => lineBelow message (extendBelow parent line message) deeper

/-- The line in which a cause is left out exactly if its message stands at the end of its parent's
message. -/
def lineByParents : List String → String
  | [] => ""
  | outermost :: deeper => lineBelow outermost outermost deeper

/-- By the documented rule the lines below a parent depend on the outer causes only through the line
down to it. -/
theorem lineBelow_append (top line : String) (outer : List String) (parent : String)
    (deeper : List String) : lineBelow top line (outer ++ parent :: deeper) =
      lineBelow parent (lineBelow top line (outer ++ [parent])) deeper := by
  induction outer generalizing top line with
  | nil => rfl
  | cons message outer ih => exact ih message (extendBelow top line message)

theorem lineByParents_append (outer : List String) (parent : String) (deeper : List String) :
    lineByParents (outer ++ parent :: deeper) =
      lineBelow parent (lineByParents (outer ++ [parent])) deeper := by
  cases outer with
  | nil => rfl
  | cons top outer => exact lineBelow_append top top outer parent deeper

theorem extendBelow_of_endsWith {parent message : String} (h : EndsWith parent message)
    (line : String) : extendBelow parent line message = line := if_pos (endsWith_iff.2 h)

theorem extendBelow_of_not_endsWith {parent message : String} (h : ¬ EndsWith parent message)
    (line : String) : extendBelow parent line message = added line message :=
  if_neg (mt endsWith_iff.1 h)

/-! ## Lines that keep to the rule -/

/-- Some cause of a chain reaches back. -/
def Overlaps (messages : List String) : Prop :=
  ∃ outer parent message deeper,
    messages = outer ++ parent :: message :: deeper ∧ ReachesBack outer parent message

/-- One message is treated alike unless it reaches back. -/
theorem extendBelow_line {outer : List String} {parent message : String}
    (h : ¬ ReachesBack outer parent message) :
    extendBelow parent (line (outer ++ [parent])) message =
      line (outer ++ [parent] ++ [message]) := by
  rw [line_concat (outer ++ [parent])]
  by_cases hends : EndsWith parent message
  · rw [extendBelow_of_endsWith hends, extend_of_endsWith (endsWith_line_of_parent outer hends)]
  · have hnew : ¬ EndsWith (line (outer ++ [parent])) message := by
      rw [endsWith_line_iff]
      exact not_or.2 ⟨hends, h⟩
    rw [extendBelow_of_not_endsWith hends, extend_of_not_endsWith hnew]

/-- A line keeps to the rule if no cause reaches back. -/
theorem lineBelow_line (outer : List String) (parent : String) (deeper : List String)
    (h : ¬ Overlaps (outer ++ parent :: deeper)) :
    lineBelow parent (line (outer ++ [parent])) deeper = line (outer ++ parent :: deeper) := by
  induction deeper generalizing outer parent with
  | nil => rfl
  | cons message deeper ih =>
    have hfirst : ¬ ReachesBack outer parent message := fun hback =>
      h ⟨outer, parent, message, deeper, rfl, hback⟩
    rw [List.append_cons outer parent (message :: deeper)] at h ⊢
    rw [lineBelow, extendBelow_line hfirst]
    exact ih (outer ++ [parent]) message h

/-! ## Lines that are shorter -/

/-- By one message, a line grows by no more than one that is at least as long and goes on by the
rule. -/
theorem length_extend_le (outer : List String) (parent message : String) {longer : String}
    (h : (line (outer ++ [parent])).length ≤ longer.length) :
    (line (outer ++ [parent] ++ [message])).length + longer.length ≤
      (extendBelow parent longer message).length + (line (outer ++ [parent])).length := by
  rw [line_concat (outer ++ [parent])]
  by_cases hends : EndsWith parent message
  · rw [extendBelow_of_endsWith hends, extend_of_endsWith (endsWith_line_of_parent outer hends)]
    omega
  · rw [extendBelow_of_not_endsWith hends]
    by_cases hback : EndsWith (line (outer ++ [parent])) message
    · have hgrows := length_lt_added longer (ne_empty_of_not_endsWith hends)
      rw [extend_of_endsWith hback]
      omega
    · rw [extend_of_not_endsWith hback]
      exact length_added_le h message

/-- Below a parent, a line grows by no more than one that is at least as long and goes on by the
rule. -/
theorem length_line_le (outer : List String) (parent : String) (deeper : List String)
    (longer : String) (h : (line (outer ++ [parent])).length ≤ longer.length) :
    (line (outer ++ parent :: deeper)).length + longer.length ≤
      (lineBelow parent longer deeper).length + (line (outer ++ [parent])).length := by
  induction deeper generalizing outer parent longer with
  | nil => exact (Nat.add_comm _ _).le
  | cons message deeper ih =>
    have hstep := length_extend_le outer parent message h
    have hrest := ih (outer ++ [parent]) message (extendBelow parent longer message) (by omega)
    rw [List.append_cons outer parent (message :: deeper), lineBelow]
    omega

/-- No line is longer than the rule has it. -/
theorem length_line_le_length_lineByParents (messages : List String) :
    (line messages).length ≤ (lineByParents messages).length := by
  cases messages with
  | nil => exact le_rfl
  | cons outermost deeper =>
    have hfirst : line ([] ++ [outermost]) = outermost := line_singleton outermost
    have hrest := length_line_le [] outermost deeper outermost (congrArg String.length hfirst).le
    rw [hfirst] at hrest
    exact Nat.le_of_add_le_add_right hrest

/-- A line on which a cause reaches back is shorter than the rule has it. -/
theorem length_line_lt {messages : List String} (h : Overlaps messages) :
    (line messages).length < (lineByParents messages).length := by
  obtain ⟨outer, parent, message, deeper, rfl, hback⟩ := h
  -- when it is its turn, the cause is left out of the line and added by the rule
  let ruled := lineByParents (outer ++ [parent])
  have hbefore : (line (outer ++ [parent])).length ≤ ruled.length :=
    length_line_le_length_lineByParents (outer ++ [parent])
  have hleft : line (outer ++ [parent] ++ [message]) = line (outer ++ [parent]) := by
    rw [line_concat (outer ++ [parent])]
    exact extend_of_endsWith hback.written
  have hadded : extendBelow parent ruled message = added ruled message :=
    extendBelow_of_not_endsWith hback.not_endsWith ruled
  have hgrows : ruled.length < (added ruled message).length :=
    length_lt_added ruled (ne_empty_of_not_endsWith hback.not_endsWith)
  have hlonger : (line (outer ++ [parent] ++ [message])).length ≤ (added ruled message).length := by
    rw [hleft]
    omega
  have hrest := length_line_le (outer ++ [parent]) message deeper (added ruled message) hlonger
  rw [hleft] at hrest
  rw [lineByParents_append, lineBelow, hadded, List.append_cons outer parent (message :: deeper)]
  omega

/-- A line keeps to the rule exactly if no cause reaches back. -/
theorem line_eq_lineByParents_iff (messages : List String) :
    line messages = lineByParents messages ↔ ¬ Overlaps messages := by
  constructor
  · intro heq hoverlaps
    have hshorter := length_line_lt hoverlaps
    rw [heq] at hshorter
    exact lt_irrefl _ hshorter
  · intro h
    cases messages with
    | nil => rfl
    | cons outermost deeper =>
      have hfirst : line ([] ++ [outermost]) = outermost := line_singleton outermost
      have hrule := lineBelow_line [] outermost deeper h
      rw [hfirst] at hrule
      exact hrule.symm

example :
    let chain := ["connect", "timeout", "connect: timeout"]
    line chain = "connect: timeout" ∧
      lineByParents chain = "connect: timeout: connect: timeout" := by
  decide

/-! ## Omissions -/

/-- The parent alone decides whether a cause is left out exactly if the cause does not reach back. -/
theorem omitted_iff_endsWith_iff (outer : List String) (parent message : String) :
    (EndsWith (line (outer ++ [parent])) message ↔ EndsWith parent message) ↔
      ¬ ReachesBack outer parent message := by
  rw [endsWith_line_iff]
  constructor
  · intro hparent hback
    exact hback.not_endsWith (hparent.1 (.inr hback))
  · intro hback
    exact or_iff_left hback

/-- A cause is left out of a line exactly if its message stands at the end of its parent's message,
or reaches back beyond that; so the parent alone decides exactly if the cause does not reach back.
A cause that is not left out is added, behind a colon unless it is the first that is written. What
is written stays. So the line of the chain keeps to the rule that only the parent counts exactly if
no cause of the chain reaches back. -/
theorem omissions_of_line (outer : List String) (parent message : String) (deeper : List String) :
    let before := line (outer ++ [parent])
    let after := line (outer ++ [parent, message])
    let chain := outer ++ parent :: message :: deeper
    (after = before ↔ EndsWith parent message ∨ ReachesBack outer parent message) ∧
    ((after = before ↔ EndsWith parent message) ↔ ¬ ReachesBack outer parent message) ∧
    (after = before ∨ after = if before = "" then message else before ++ ": " ++ message) ∧
    after.toList <+: (line chain).toList ∧
    (line chain = lineByParents chain ↔ ¬ Overlaps chain) := by
  intro before after chain
  have hafter : after = extend before message := by
    rw [← line_concat, ← List.append_cons]
  have homitted : after = before ↔ EndsWith before message := by
    rw [hafter, extend_eq_iff]
  have hstays : after.toList <+: (line chain).toList := by
    have happend := isPrefix_line_append (outer ++ [parent, message]) deeper
    rwa [List.append_assoc] at happend
  refine ⟨?_, ?_, ?_, hstays, line_eq_lineByParents_iff chain⟩
  · rw [homitted]
    exact endsWith_line_iff outer parent message
  · rw [homitted]
    exact omitted_iff_endsWith_iff outer parent message
  · rw [hafter]
    by_cases hends : EndsWith before message
    · exact .inl (extend_of_endsWith hends)
    · exact .inr (extend_of_not_endsWith hends)

/-- A root that says once more what the messages above it said together is left out, though its
parent does not end with it. -/
theorem root_left_out_of_line :
    ¬ ∀ (outer : List String) (parent message : String), message ≠ "" →
      (line (outer ++ [parent, message]) = line (outer ++ [parent]) ↔ EndsWith parent message) := by
  intro h
  have hleft : line ["connect", "timeout", "connect: timeout"] = line ["connect", "timeout"] := by
    decide
  have hends : EndsWith "timeout" "connect: timeout" :=
    (h ["connect"] "timeout" "connect: timeout" (by decide)).1 hleft
  have hnot : ¬ EndsWith "timeout" "connect: timeout" := by
    unfold EndsWith
    decide
  exact hnot hends

end Locator.CauseChain
