import Mathlib.Data.List.Destutter
import Iec104South.Lib.Reactive

/-!
# Reports on change

A register is set by requests, and it reports the requests that change it.

* `changes`: what is reported. With the first value in front these are the requests without
  repetitions (`cons_changes`).
* `Serves`: a step of a machine serves its requests. If all steps of a run do, the run does
  (`run_serves`).
-/

namespace Change

open Reactive

variable {α σ ι ο : Type*} [DecidableEq α]

/-- The requests that change a register of the value `a`. -/
def changes : α → List α → List α
  | _, [] => []
  | a, b :: l => if a = b then changes a l else b :: changes b l

theorem cons_changes (a : α) (l : List α) : a :: changes a l = l.destutter' (· ≠ ·) a := by
  induction l generalizing a with
  | nil => rfl
  | cons b l ih =>
    rw [changes, List.destutter'_cons]
    by_cases hsame : a = b
    · rw [if_pos hsame, if_neg (not_not.mpr hsame)]
      exact ih a
    · rw [if_neg hsame, if_pos hsame, ih b]

/-- The last report is the last request, if there was a change at all. -/
theorem getLastD_changes (a : α) (l : List α) : (changes a l).getLastD a = l.getLastD a := by
  induction l generalizing a with
  | nil => rfl
  | cons b l ih =>
    rw [changes, List.getLastD_cons]
    split_ifs with hsame
    · rw [ih a, hsame]
    · rw [List.getLastD_cons, ih b]

/-- Requests for the value that the register has are not reported. -/
theorem changes_of_forall_eq {a : α} {l : List α} (h : ∀ b ∈ l, b = a) :
    changes a l = [] ∧ l.getLastD a = a := by
  induction l with
  | nil => exact ⟨rfl, rfl⟩
  | cons b l ih =>
    obtain ⟨rfl, hrest⟩ := List.forall_mem_cons.mp h
    rw [changes, if_pos rfl, List.getLastD_cons]
    exact ih hrest

theorem changes_append (a : α) (l m : List α) :
    changes a (l ++ m) = changes a l ++ changes (l.getLastD a) m := by
  induction l generalizing a with
  | nil => rfl
  | cons b l ih =>
    rw [List.cons_append, changes, changes, List.getLastD_cons]
    split_ifs with hsame
    · rw [ih a, hsame]
    · rw [ih b, List.cons_append]

omit [DecidableEq α] in
theorem getLastD_append (a : α) (l m : List α) :
    (l ++ m).getLastD a = m.getLastD (l.getLastD a) := by
  induction l generalizing a with
  | nil => rfl
  | cons b l ih => rw [List.cons_append, List.getLastD_cons, List.getLastD_cons, ih b]

/-- The machine that emits the requests of another one. -/
def asking (m : Machine σ ι ο) (request : σ → ι → List α) : Machine σ ι α :=
  fun s i => ((m s i).1, request s i)

/-- The step reports the requests that change the register, and leaves it at the last one. -/
structure Serves (m : Machine σ ι ο) (register : σ → α) (report : ο → Option α)
    (request : σ → ι → List α) (s : σ) (i : ι) : Prop where
  reported : (m s i).2.filterMap report = changes (register s) (request s i)
  settled : register (m s i).1 = (request s i).getLastD (register s)

/-- A run reports the changes among all its requests. -/
theorem run_serves {m : Machine σ ι ο} {register : σ → α} {report : ο → Option α}
    {request : σ → ι → List α} {s : σ} {is : List ι}
    (h : Along m (Serves m register report request) s is) :
    (trace m s is).filterMap report = changes (register s) (trace (asking m request) s is) ∧
      register (run m s is) = (trace (asking m request) s is).getLastD (register s) := by
  induction is generalizing s with
  | nil => exact ⟨rfl, rfl⟩
  | cons i is ih =>
    obtain ⟨⟨hreported, hsettled⟩, hrest⟩ := h
    obtain ⟨htrace, hrun⟩ := ih hrest
    constructor
    · calc (trace m s (i :: is)).filterMap report
          = (m s i).2.filterMap report ++ (trace m (m s i).1 is).filterMap report :=
            List.filterMap_append ..
        _ = _ := by
            rw [hreported, htrace, hsettled, ← changes_append]
            rfl
    · calc register (run m (m s i).1 is)
          = (trace (asking m request) (m s i).1 is).getLastD
              ((request s i).getLastD (register s)) := hsettled ▸ hrun
        _ = _ := (getLastD_append _ _ _).symm

end Change
