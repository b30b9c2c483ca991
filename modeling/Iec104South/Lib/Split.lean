import Mathlib.Data.List.Infix
import Mathlib.Order.Minimal

/-!
# Splitting lists at a pattern

* `find?`: where a pattern occurs first. `FirstOccurrence` names what stands before it and after.
* `Unbordered`: the pattern cannot overlap itself. Then what follows one of its occurrences in a
  text that ends with the pattern is nothing, or ends with the pattern (`Unbordered.rest`).
* `flatMap_append_eq_intercalate`: two ways to join parts.
* `mem_splitOn_iff`: the parts between the occurrences of an element are the words that occur
  between two of them, or between one and an end of the text.
-/

namespace Split

variable {α : Type*} {pattern text before after : List α}

/-! ## The first occurrence of a pattern -/

/-- The text is `before`, the pattern and `after`, and the pattern does not begin earlier. -/
structure FirstOccurrence (pattern text before after : List α) : Prop where
  split : text = before ++ pattern ++ after
  first : ∀ before' after', text = before' ++ pattern ++ after' → before.length ≤ before'.length

/-- The number of elements before the first occurrence of the pattern. -/
def find? [BEq α] (pattern text : List α) : Option Nat :=
  (text.dropInfix? pattern).map fun parts => parts.1.length

theorem dropInfix?_eq_some_iff [BEq α] [LawfulBEq α] :
    text.dropInfix? pattern = some (before, after) ↔
      FirstOccurrence pattern text before after := by
  rw [List.dropInfix?_eq_some_iff]
  simp only [beq_iff_eq, exists_eq_right]
  refine ⟨fun h => ⟨h.1, fun before' after' hsplit => h.2 before' pattern after' hsplit rfl⟩, ?_⟩
  rintro ⟨hsplit, hfirst⟩
  refine ⟨hsplit, ?_⟩
  rintro before' _ after' hsplit' rfl
  exact hfirst before' after' hsplit'

theorem find?_eq_some [BEq α] [LawfulBEq α] {i : Nat} (h : find? pattern text = some i) :
    ∃ before after, FirstOccurrence pattern text before after ∧ before.length = i := by
  obtain ⟨⟨before, after⟩, hparts, hi⟩ := Option.map_eq_some_iff.mp h
  exact ⟨before, after, dropInfix?_eq_some_iff.mp hparts, hi⟩

theorem find?_eq_none_iff [BEq α] [LawfulBEq α] :
    find? pattern text = none ↔ ¬ pattern <:+: text := by
  unfold find?
  rw [Option.map_eq_none_iff, Option.eq_none_iff_forall_ne_some]
  constructor
  · intro hnone hoccurs
    -- among the occurrences there is one with the shortest text before it
    obtain ⟨before, ⟨after, hsplit⟩, hleast⟩ := exists_minimalFor_of_wellFoundedLT
      (fun before => ∃ after, text = before ++ pattern ++ after) List.length
      (hoccurs.imp fun before ⟨after, h⟩ => ⟨after, h.symm⟩)
    refine hnone (before, after) (dropInfix?_eq_some_iff.mpr ⟨hsplit, ?_⟩)
    intro before' after' hsplit'
    exact (le_total _ _).elim id fun hle => hleast ⟨after', hsplit'⟩ hle
  · rintro hnot ⟨before, after⟩ hsome
    exact hnot ⟨before, after, (dropInfix?_eq_some_iff.mp hsome).split.symm⟩

/-- There is no occurrence in front of the first. -/
theorem FirstOccurrence.not_in_before (h : FirstOccurrence pattern text before after)
    (hne : pattern ≠ []) : ¬ pattern <:+: before := by
  rintro ⟨before', after', hbefore⟩
  have hle := h.first before' (after' ++ (pattern ++ after)) (by rw [h.split, ← hbefore]; simp)
  have hlength := congrArg List.length hbefore
  have hpos := List.length_pos_iff.mpr hne
  rw [List.length_append, List.length_append] at hlength
  omega

/-- What follows an occurrence is shorter than the text. -/
theorem FirstOccurrence.length_lt (h : FirstOccurrence pattern text before after)
    (hne : pattern ≠ []) : after.length < text.length := by
  have hpos := List.length_pos_iff.mpr hne
  rw [h.split, List.length_append, List.length_append]
  omega

/-! ## Patterns that cannot overlap themselves -/

/-- No part of the pattern, apart from nothing and the whole, is both its beginning and its
end. -/
def Unbordered (pattern : List α) : Prop :=
  ∀ border, border <+: pattern → border <:+ pattern → border = [] ∨ border = pattern

theorem unbordered_singleton (a : α) : Unbordered [a] := by
  intro border hprefix _
  rcases List.prefix_cons_iff.mp hprefix with rfl | ⟨rest, rfl, hrest⟩
  · exact Or.inl rfl
  · exact Or.inr (by rw [List.prefix_nil.mp hrest])

/-- An occurrence in a text that ends with the pattern is the one at the end, or ends before
it. -/
theorem Unbordered.rest (h : Unbordered pattern) (hsplit : text = before ++ pattern ++ after)
    (hend : pattern <:+ text) : after = [] ∨ pattern <:+ after := by
  have hafter : after <:+ text := ⟨before ++ pattern, hsplit.symm⟩
  rcases le_total pattern.length after.length with hle | hle
  · exact Or.inr (List.suffix_of_suffix_length_le hend hafter hle)
  · -- the two occurrences share `border`
    obtain ⟨border, hborder⟩ := List.suffix_of_suffix_length_le hafter hend hle
    obtain ⟨front, hfront⟩ := hend
    have hshared : front ++ border = before ++ pattern := by
      rw [← List.append_left_inj after, List.append_assoc, hborder, hfront, hsplit]
    have hsuffix : border <:+ pattern := by
      refine List.suffix_of_suffix_length_le ⟨front, hshared⟩ (List.suffix_append _ _) ?_
      rw [← hborder, List.length_append]
      exact Nat.le_add_right _ _
    rcases h border ⟨after, hborder⟩ hsuffix with rfl | rfl
    · exact Or.inr (by rw [← hborder]; exact List.suffix_rfl)
    · exact Or.inl (List.append_right_eq_self.mp hborder)

/-! ## Joining -/

/-- Parts each followed by the delimiter are the joined parts followed by the delimiter. -/
theorem flatMap_append_eq_intercalate {parts : List (List α)} (hne : parts ≠ [])
    (delimiter : List α) :
    parts.flatMap (· ++ delimiter) = delimiter.intercalate parts ++ delimiter := by
  induction parts with
  | nil => exact absurd rfl hne
  | cons part parts ih =>
    cases parts with
    | nil => simp
    | cons next parts =>
      rw [List.flatMap_cons, ih (List.cons_ne_nil next parts), List.intercalate_cons_cons]
      simp

/-! ## The parts between the occurrences of an element -/

/-- The word occurs in the text between two delimiters, or between one and an end. -/
def OccursBetween (delimiter : α) (word text : List α) : Prop :=
  ∃ before after, text = before ++ word ++ after ∧
    (before = [] ∨ [delimiter] <:+ before) ∧ (after = [] ∨ [delimiter] <+: after)

theorem mem_splitOn_of_occursBetween [BEq α] [LawfulBEq α] {delimiter : α} {word : List α}
    (hnot : delimiter ∉ word) (h : OccursBetween delimiter word text) :
    word ∈ text.splitOn delimiter := by
  obtain ⟨before, after, rfl, hbefore, hafter⟩ := h
  have htail : word ∈ (word ++ after).splitOn delimiter := by
    rcases hafter with rfl | ⟨after, rfl⟩
    · rw [List.append_nil, List.splitOn_eq_singleton hnot]
      exact List.mem_singleton_self word
    · rw [List.singleton_append, List.splitOn_append_cons_self_of_not_mem hnot]
      exact List.mem_cons_self
  rcases hbefore with rfl | ⟨before, rfl⟩
  · exact htail
  · rw [List.append_assoc, List.append_assoc, List.singleton_append,
      List.splitOn_append_cons_self]
    exact List.mem_append_right _ htail

theorem occursBetween_of_mem_splitOn [BEq α] [LawfulBEq α] {delimiter : α} {word : List α}
    (h : word ∈ text.splitOn delimiter) : OccursBetween delimiter word text := by
  induction hlength : text.length using Nat.strong_induction_on generalizing text with
  | _ length ih =>
    by_cases hmem : delimiter ∈ text
    · obtain ⟨first, rest, rfl, hfirst⟩ := List.eq_append_cons_of_mem hmem
      rw [List.splitOn_append_cons_self_of_not_mem hfirst] at h
      rcases List.mem_cons.mp h with rfl | hrest
      · exact ⟨[], delimiter :: rest, rfl, Or.inl rfl, Or.inr ⟨rest, rfl⟩⟩
      · have hshorter : rest.length < length := by
          rw [← hlength, List.length_append, List.length_cons]
          omega
        obtain ⟨before, after, rfl, hbefore, hafter⟩ := ih _ hshorter hrest rfl
        refine ⟨first ++ delimiter :: before, after, by simp, Or.inr ?_, hafter⟩
        rcases hbefore with rfl | ⟨front, rfl⟩
        · exact List.suffix_append first [delimiter]
        · exact ⟨first ++ delimiter :: front, by simp⟩
    · rw [List.splitOn_eq_singleton hmem, List.mem_singleton] at h
      exact ⟨[], [], by simp [h], Or.inl rfl, Or.inl rfl⟩

theorem mem_splitOn_iff [BEq α] [LawfulBEq α] {delimiter : α} {word : List α}
    (hnot : delimiter ∉ word) :
    word ∈ text.splitOn delimiter ↔ OccursBetween delimiter word text :=
  ⟨occursBetween_of_mem_splitOn, mem_splitOn_of_occursBetween hnot⟩

end Split
