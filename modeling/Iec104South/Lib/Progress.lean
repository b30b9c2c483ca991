import Iec104South.Lib.Reactive

/-!
# Progress of a machine

Some inputs are turns: a thread is scheduled, a message is delivered. A rank that no step raises
and that every turn lowers says how many turns there can be before the machine emits what is
waited for.

* `emits_or_settles`: after a run, it has been emitted, or the rank went down by the turns.
* `emits_of_rank`: where the rank is never zero, it is emitted after so many turns.
-/

namespace Reactive

variable {σ ι ο : Type*} {m : Machine σ ι ο} {I : σ → Prop} {G : ι → Prop} {turn : ι → Bool}
  {rank : σ → Nat} {goal : ο → Prop}

/-- A step reaches the goal, or keeps `I` and does not raise the rank; a turn lowers it. -/
def Advances (m : Machine σ ι ο) (I : σ → Prop) (turn : ι → Bool) (rank : σ → Nat)
    (goal : ο → Prop) (s : σ) (i : ι) : Prop :=
  (∃ e ∈ (m s i).2, goal e) ∨ I (m s i).1 ∧ rank (m s i).1 ≤ rank s - (turn i).toNat

theorem emits_or_settles (hstep : ∀ s i, I s → G i → Advances m I turn rank goal s i) {s : σ}
    {is : List ι} (hs : I s) (hg : ∀ i ∈ is, G i) :
    (∃ e ∈ trace m s is, goal e) ∨
      I (run m s is) ∧ rank (run m s is) ≤ rank s - is.countP turn := by
  induction is generalizing s with
  | nil => exact .inr ⟨hs, Nat.le_refl _⟩
  | cons i is ih =>
    rcases hstep s i hs (hg i List.mem_cons_self) with ⟨e, he, hgoal⟩ | ⟨hnext, hrank⟩
    · exact .inl ⟨e, List.mem_append_left _ he, hgoal⟩
    · rcases ih hnext fun j hj => hg j (List.mem_cons_of_mem i hj) with
        ⟨e, he, hgoal⟩ | ⟨hend, hrest⟩
      · exact .inl ⟨e, List.mem_append_right _ he, hgoal⟩
      · refine .inr ⟨hend, Nat.le_trans hrest ?_⟩
        rw [List.countP_cons]
        cases hturn : turn i with
        | false =>
          rw [hturn, Bool.toNat_false] at hrank
          simpa using Nat.sub_le_sub_right hrank (is.countP turn)
        | true =>
          rw [hturn, Bool.toNat_true] at hrank
          simp only [if_true]
          omega

/-- What is waited for is emitted when there have been as many turns as the rank says. -/
theorem emits_of_rank (hstep : ∀ s i, I s → G i → Advances m I turn rank goal s i)
    (hpositive : ∀ s, I s → 0 < rank s) {s : σ} {is : List ι} (hs : I s) (hg : ∀ i ∈ is, G i)
    (hturns : rank s ≤ is.countP turn) : ∃ e ∈ trace m s is, goal e := by
  rcases emits_or_settles hstep hs hg with hemitted | ⟨hend, hrank⟩
  · exact hemitted
  · have hnone : rank (run m s is) = 0 := by omega
    exact absurd hnone (Nat.ne_of_gt (hpositive _ hend))

end Reactive
