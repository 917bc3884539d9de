import Mathlib.Data.List.Forall2
import Locator.Proofs.CauseChain

/-!
# A line of causes is made of its messages

Every message of a chain stands on its line, and none of them ends in front of the end of one
further out. Nothing else stands there: the line is some of the messages in their order, with colons
between them.

* `CauseChain.EndsAt`, `CauseChain.exists_positions`: where the messages stand;
* `CauseChain.exists_kept`: which messages the line is made of;
* `CauseChain.line_repeated`: a cause that says what its parent says adds nothing;
* `CauseChain.no_cause_is_lost`: all of it.
-/

namespace Locator.CauseChain

/-! ## Where messages stand -/

/-- A text stands on a line, with its end at a position. -/
def EndsAt (line : String) (position : Nat) (text : String) : Prop :=
  ∃ front : List Char, front.length = position ∧ front <+: line.toList ∧ text.toList <:+ front

theorem EndsWith.endsAt {line text : String} (h : EndsWith line text) :
    EndsAt line line.toList.length text :=
  ⟨line.toList, rfl, List.prefix_rfl, h⟩

/-- What stands on a line stands there when more is added behind it. -/
theorem EndsAt.of_isPrefix {line longer text : String} {position : Nat}
    (h : EndsAt line position text) (hgrows : line.toList <+: longer.toList) :
    EndsAt longer position text := by
  obtain ⟨front, hlength, hfront, htext⟩ := h
  exact ⟨front, hlength, hfront.trans hgrows, htext⟩

/-- All messages stand on their line, with their ends in the order of the chain. -/
theorem exists_positions (messages : List String) :
    ∃ positions : List Nat, positions.Pairwise (· ≤ ·) ∧
      (∀ position ∈ positions, position ≤ (line messages).toList.length) ∧
      List.Forall₂ (EndsAt (line messages)) positions messages := by
  induction messages using List.reverseRecOn with
  | nil => exact ⟨[], .nil, fun _ h => absurd h List.not_mem_nil, .nil⟩
  | append_singleton messages message ih =>
    obtain ⟨positions, hordered, hbounded, hstand⟩ := ih
    have hgrows := isPrefix_line_append messages [message]
    -- the new message ends where the line ends now, which is behind all others
    let last := (line (messages ++ [message])).toList.length
    have hbehind : ∀ position ∈ positions, position ≤ last := fun position hposition =>
      (hbounded position hposition).trans hgrows.length_le
    refine ⟨positions ++ [last], ?_, fun position hposition => ?_, ?_⟩
    · refine List.pairwise_append.2 ⟨hordered, List.pairwise_singleton _ _, fun x hx y hy => ?_⟩
      rw [List.mem_singleton.1 hy]
      exact hbehind x hx
    · obtain hold | hnew := List.mem_append.1 hposition
      · exact hbehind position hold
      · exact (List.mem_singleton.1 hnew).le
    · refine List.rel_append (hstand.imp fun position text h => h.of_isPrefix hgrows) ?_
      exact .cons (endsWith_line messages message).endsAt .nil

/-! ## What a line is made of -/

/-- Only nothing is joined to an empty text. -/
theorem eq_nil_of_intercalate_eq {kept : List String} (hkept : ∀ text ∈ kept, text ≠ "")
    (h : ": ".intercalate kept = "") : kept = [] := by
  cases kept with
  | nil => rfl
  | cons text rest =>
    have htext := hkept text List.mem_cons_self
    cases rest with
    | nil =>
      rw [String.intercalate_singleton] at h
      exact absurd h htext
    | cons next rest =>
      rw [String.intercalate_cons_cons, String.append_eq_empty_iff, String.append_eq_empty_iff] at h
      exact absurd h.1.1 htext

/-- A line is some of the messages in their order, none of them empty, with colons between them. -/
theorem exists_kept (messages : List String) :
    ∃ kept : List String, kept.Sublist (messages.filter (· ≠ "")) ∧
      line messages = ": ".intercalate kept := by
  induction messages using List.reverseRecOn with
  | nil => exact ⟨[], List.Sublist.refl _, String.intercalate_nil.symm⟩
  | append_singleton messages message ih =>
    obtain ⟨kept, hsublist, hline⟩ := ih
    rw [line_concat, List.filter_append]
    -- a message that is added is not empty, so it is one of those that may be kept
    have hadded : ¬ EndsWith (line messages) message →
        (kept ++ [message]).Sublist (messages.filter (· ≠ "") ++ [message].filter (· ≠ "")) := by
      intro hnew
      rw [List.filter_singleton, decide_eq_true (ne_empty_of_not_endsWith hnew), cond_true]
      exact hsublist.append (List.Sublist.refl _)
    obtain ⟨-, heq⟩ | ⟨hnew, hempty, heq⟩ | ⟨hnew, hfull, heq⟩ :=
      extend_cases (line messages) message
    · exact ⟨kept, hsublist.trans (List.sublist_append_left _ _), heq.trans hline⟩
    · have hnone : kept = [] := by
        refine eq_nil_of_intercalate_eq (fun text htext => ?_) (hline.symm.trans hempty)
        exact of_decide_eq_true (List.mem_filter.1 (hsublist.subset htext)).2
      refine ⟨kept ++ [message], hadded hnew, ?_⟩
      rw [heq, hnone, List.nil_append, String.intercalate_singleton]
    · have hsome : kept ≠ [] := by
        rintro rfl
        exact hfull (hline.trans String.intercalate_nil)
      refine ⟨kept ++ [message], hadded hnew, ?_⟩
      rw [heq, hline, String.intercalate_append_of_ne_nil hsome (List.cons_ne_nil _ _),
        String.intercalate_singleton]

/-- A cause that says what its parent says adds nothing. -/
theorem line_repeated (outer : List String) (message : String) (deeper : List String) :
    line (outer ++ message :: message :: deeper) = line (outer ++ message :: deeper) := by
  have hrepeated : line (outer ++ [message] ++ [message]) = line (outer ++ [message]) := by
    rw [line_concat (outer ++ [message])]
    exact extend_of_endsWith (endsWith_line outer message)
  have hsplit : ∀ front : List String, line (front ++ deeper) = deeper.foldl extend (line front) :=
    fun front => List.foldl_append
  rw [List.append_cons outer, List.append_cons (outer ++ [message]), hsplit, hrepeated, ← hsplit,
    ← List.append_cons]

/-! ## No cause is lost -/

/-- The line of a failure, down to the root, ends with the root. Every message stands on it, and
none ends in front of the end of one further out. The line is made of messages that are not empty,
some of those of the chain in their order, with colons between them, and of nothing else. Deeper
causes are added behind it, and a cause that says what its parent says adds nothing. -/
theorem no_cause_is_lost (outer : List String) (root : String) :
    let chain := outer ++ [root]
    EndsWith (line chain) root ∧
    (∃ positions : List Nat, positions.Pairwise (· ≤ ·) ∧
      List.Forall₂ (EndsAt (line chain)) positions chain) ∧
    (∃ kept : List String, kept.Sublist (chain.filter (· ≠ "")) ∧
      line chain = ": ".intercalate kept) ∧
    (∀ deeper, (line chain).toList <+: (line (chain ++ deeper)).toList) ∧
    ∀ before message after,
      line (before ++ message :: message :: after) = line (before ++ message :: after) := by
  intro chain
  have hroot : EndsWith (line chain) root := endsWith_line outer root
  obtain ⟨positions, hordered, -, hstand⟩ := exists_positions chain
  have hkept := exists_kept chain
  have hdeeper := isPrefix_line_append chain
  exact ⟨hroot, ⟨positions, hordered, hstand⟩, hkept, hdeeper, line_repeated⟩

end Locator.CauseChain
