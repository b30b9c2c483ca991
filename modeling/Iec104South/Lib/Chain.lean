import Mathlib.Data.List.Chain

/-!
# Chains of events

A sequence of events in which each follows its predecessor by a relation `R`.

* `isChain_cons_append`: chains compose at the last event.
* `exists_start`: if what precedes a good event is good until a start event, then before
  every good event there is a start with good events only in between.
-/

namespace EventChain

variable {α : Type*} {R : α → α → Prop}

/-- Two chains that meet in an event form one chain. -/
theorem isChain_cons_append {a b : α} {l l' : List α}
    (hlast : (a :: l).getLast (List.cons_ne_nil a l) = b) :
    (a :: (l ++ l')).IsChain R ↔ (a :: l).IsChain R ∧ (b :: l').IsChain R := by
  induction l generalizing a with
  | nil =>
    have hab : a = b := by simpa using hlast
    simp [hab]
  | cons x l ih =>
    have hlast' : (x :: l).getLast (List.cons_ne_nil x l) = b := by simpa using hlast
    rw [List.cons_append, List.isChain_cons_cons, List.isChain_cons_cons, ih hlast', and_assoc]

/-- Going back from a good event one meets good events until a start event, unless there is
none; the event `a` before the sequence is not good. -/
theorem exists_start {Good Start : α → Prop} {a b : α} {l l' : List α}
    (hback : ∀ x y, R x y → Good y → ¬ Start y → Good x)
    (h : (a :: (l ++ b :: l')).IsChain R) (ha : ¬ Good a) (hb : Good b) (hstart : ¬ Start b) :
    ∃ l₁ s l₂, l = l₁ ++ s :: l₂ ∧ Start s ∧ ∀ x ∈ l₂, Good x := by
  induction l using List.reverseRecOn generalizing b l' with
  | nil => exact absurd (hback a b (List.isChain_cons_cons.mp h).1 hb hstart) ha
  | append_singleton l x ih =>
    have h' : (a :: (l ++ x :: b :: l')).IsChain R := by simpa using h
    have hxb : R x b :=
      (List.isChain_append_cons_cons.mp (show ((a :: l) ++ x :: b :: l').IsChain R from h')).2.1
    have hx : Good x := hback x b hxb hb hstart
    by_cases hsx : Start x
    · exact ⟨l, x, [], rfl, hsx, by simp⟩
    · obtain ⟨l₁, s, l₂, rfl, hs, hl₂⟩ := ih h' hx hsx
      refine ⟨l₁, s, l₂ ++ [x], by simp, hs, ?_⟩
      intro y hy
      rcases List.mem_append.mp hy with hy | hy
      · exact hl₂ y hy
      · exact List.mem_singleton.mp hy ▸ hx

end EventChain
