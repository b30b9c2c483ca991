import Mathlib.Order.Basic

/-!
# Loops that test their condition before each round

The body of a loop returns `none` where the condition fails, and the state after the round
otherwise.

* `run`: the loop, with the number of tests it may make.
* `run_of_decreasing`: the rule for total correctness. A measure that every round makes smaller
  bounds the number of rounds, and an invariant holds where the loop ends.
* `run_mono`: more tests do not change the end.
-/

namespace Loop

variable {σ : Type*} {body : σ → Option σ} {I : σ → Prop}

/-- The state in which the loop ends; `none` if it has not ended after `fuel` tests of its
condition. -/
def run (body : σ → Option σ) : Nat → σ → Option σ
  | 0, _ => none
  | fuel + 1, s =>
    match body s with
    | none => some s
    | some s' => run body fuel s'

theorem run_succ_of_none {s : σ} (h : body s = none) (fuel : Nat) :
    run body (fuel + 1) s = some s := by
  rw [run, h]

theorem run_succ_of_some {s s' : σ} (h : body s = some s') (fuel : Nat) :
    run body (fuel + 1) s = run body fuel s' := by
  rw [run, h]

/-- The end of a loop does not depend on the number of tests. -/
theorem run_mono {s t : σ} {fuel fuel' : Nat} (hle : fuel ≤ fuel')
    (h : run body fuel s = some t) : run body fuel' s = some t := by
  induction fuel generalizing s fuel' with
  | zero => cases h
  | succ fuel ih =>
    obtain ⟨extra, rfl⟩ := Nat.exists_eq_add_of_le hle
    rw [Nat.add_right_comm]
    cases hbody : body s with
    | none =>
      rw [run_succ_of_none hbody] at h ⊢
      exact h
    | some s' =>
      rw [run_succ_of_some hbody] at h ⊢
      exact ih (Nat.le_add_right fuel extra) h

/-- A loop whose rounds keep `I` and decrease `measure` ends in a state with `I` in which its
condition fails. -/
theorem run_of_decreasing (measure : σ → Nat)
    (hround : ∀ s s', I s → body s = some s' → I s' ∧ measure s' < measure s) {s : σ} (hs : I s)
    {fuel : Nat} (hfuel : measure s < fuel) :
    ∃ t, run body fuel s = some t ∧ I t ∧ body t = none := by
  induction fuel generalizing s with
  | zero => exact absurd hfuel (Nat.not_lt_zero _)
  | succ fuel ih =>
    cases hbody : body s with
    | none => exact ⟨s, run_succ_of_none hbody fuel, hs, hbody⟩
    | some s' =>
      obtain ⟨hs', hless⟩ := hround s s' hs hbody
      obtain ⟨t, hrun, ht⟩ := ih hs' (by omega)
      exact ⟨t, (run_succ_of_some hbody fuel).trans hrun, ht⟩

end Loop
