import Mathlib.Logic.Basic
import Mathlib.Data.List.Basic

/-!
# Reactive machines and their runs

A machine is a total step function: it consumes one input and returns the next
state together with what the step emitted. Nondeterminism of the environment (the
order of events, clock readings, results of calls) is in the inputs, so a run is a
list of inputs and every interleaving is one such list.

* `run`, `trace`: the state after a run and everything it emitted.
* `Along m P s is`: every step of the run satisfies `P`, read in the state in which
  the step is taken.
* `Always m P s is`: every state between steps satisfies `P`.
* `watch`: a machine run side by side with an observer, for properties that speak
  about the past of the run.
-/

namespace Reactive

variable {σ ι ο μ : Type*}

/-- One step: the next state and what the step emitted. -/
abbrev Machine (σ ι ο : Type*) := σ → ι → σ × List ο

/-- The state after consuming `is`. -/
def run (m : Machine σ ι ο) : σ → List ι → σ
  | s, [] => s
  | s, i :: is => run m (m s i).1 is

/-- Everything emitted while consuming `is`, in order. -/
def trace (m : Machine σ ι ο) : σ → List ι → List ο
  | _, [] => []
  | s, i :: is => (m s i).2 ++ trace m (m s i).1 is

/-- `P` holds of every step of the run, read in the state in which the step is taken. -/
def Along (m : Machine σ ι ο) (P : σ → ι → Prop) : σ → List ι → Prop
  | _, [] => True
  | s, i :: is => P s i ∧ Along m P (m s i).1 is

/-- `P` holds of every state between the steps of the run, the first and the last included. -/
def Always (m : Machine σ ι ο) (P : σ → Prop) : σ → List ι → Prop
  | s, [] => P s
  | s, i :: is => P s ∧ Always m P (m s i).1 is

/-- Run `m` beside an observer: `next` sees the state before the step, the input and
what the step emitted, and cannot influence the machine. -/
def watch (m : Machine σ ι ο) (next : μ → σ → ι → List ο → μ) : Machine (σ × μ) ι ο :=
  fun s i => (((m s.1 i).1, next s.2 s.1 i (m s.1 i).2), (m s.1 i).2)

instance instDecidableAlong (m : Machine σ ι ο) (P : σ → ι → Prop)
    [h : ∀ s i, Decidable (P s i)] : ∀ s is, Decidable (Along m P s is)
  | _, [] => inferInstanceAs (Decidable True)
  | s, i :: is =>
    have := instDecidableAlong m P (m s i).1 is
    inferInstanceAs (Decidable (P s i ∧ Along m P (m s i).1 is))

instance instDecidableAlways (m : Machine σ ι ο) (P : σ → Prop)
    [h : ∀ s, Decidable (P s)] : ∀ s is, Decidable (Always m P s is)
  | s, [] => inferInstanceAs (Decidable (P s))
  | s, i :: is =>
    have := instDecidableAlways m P (m s i).1 is
    inferInstanceAs (Decidable (P s ∧ Always m P (m s i).1 is))

variable {m : Machine σ ι ο} {P Q G : σ → ι → Prop} {I : σ → Prop}

theorem run_append (m : Machine σ ι ο) (s : σ) (is js : List ι) :
    run m s (is ++ js) = run m (run m s is) js := by
  induction is generalizing s with
  | nil => rfl
  | cons i is ih => exact ih _

theorem trace_append (m : Machine σ ι ο) (s : σ) (is js : List ι) :
    trace m s (is ++ js) = trace m s is ++ trace m (run m s is) js := by
  induction is generalizing s with
  | nil => rfl
  | cons i is ih => rw [List.cons_append, trace, trace, ih, List.append_assoc, run]

/-- The observer does not influence the machine. -/
theorem run_watch_fst (m : Machine σ ι ο) (next : μ → σ → ι → List ο → μ) (s : σ × μ)
    (is : List ι) : (run (watch m next) s is).1 = run m s.1 is := by
  induction is generalizing s with
  | nil => rfl
  | cons i is ih => exact ih _

theorem always_watch (m : Machine σ ι ο) (next : μ → σ → ι → List ο → μ) (I : σ → Prop) (s : σ)
    (w : μ) (is : List ι) : Always (watch m next) (fun s => I s.1) (s, w) is ↔ Always m I s is := by
  induction is generalizing s w with
  | nil => exact Iff.rfl
  | cons i is ih => exact and_congr_right fun _ => ih _ _

/-- A property of the steps of a run holds of its parts. -/
theorem along_append {s : σ} {is js : List ι} :
    Along m P s (is ++ js) ↔ Along m P s is ∧ Along m P (run m s is) js := by
  induction is generalizing s with
  | nil => exact (and_iff_right trivial).symm
  | cons i is ih => exact (and_congr_right fun _ => ih).trans and_assoc.symm

/-- What holds between the steps of a run holds at its end. -/
theorem run_of_always {s : σ} {is : List ι} (h : Always m I s is) : I (run m s is) := by
  induction is generalizing s with
  | nil => exact h
  | cons i is ih => exact ih h.2

/-- Two properties of the steps of a run together. -/
theorem along_and {s : σ} {is : List ι} :
    Along m (fun s i => P s i ∧ Q s i) s is ↔ Along m P s is ∧ Along m Q s is := by
  induction is generalizing s with
  | nil => exact (and_iff_left trivial).symm
  | cons i is ih => exact (and_congr_right fun _ => ih).trans and_and_and_comm

/-- What holds of every step holds of every input. -/
theorem forall_mem_of_along {P : ι → Prop} {s : σ} {is : List ι}
    (h : Along m (fun _ i => P i) s is) : ∀ i ∈ is, P i := by
  induction is generalizing s with
  | nil => simp
  | cons i is ih => exact List.forall_mem_cons.mpr ⟨h.1, ih h.2⟩

/-! ## Invariants -/

/-- Steps that satisfy the guard satisfy `Q`, as long as the invariant lets them. -/
theorem along_of_invariant (hstep : ∀ s i, I s → G s i → I (m s i).1)
    (hQ : ∀ s i, I s → G s i → Q s i) {s : σ} {is : List ι}
    (hs : I s) (hg : Along m G s is) : Along m Q s is := by
  induction is generalizing s with
  | nil => trivial
  | cons i is ih => exact ⟨hQ s i hs hg.1, ih (hstep s i hs hg.1) hg.2⟩

/-- What an invariant of all steps implies holds throughout every run. -/
theorem always_of_invariant (hstep : ∀ s i, I s → I (m s i).1) {Q : σ → Prop}
    (hQ : ∀ s, I s → Q s) {s : σ} {is : List ι} (hs : I s) : Always m Q s is := by
  induction is generalizing s with
  | nil => exact hQ s hs
  | cons i is ih => exact ⟨hQ s hs, ih (hstep s i hs)⟩

/-- What an invariant of the guarded steps implies holds throughout every run of such steps. -/
theorem always_of_along (hstep : ∀ s i, I s → G s i → I (m s i).1) {Q : σ → Prop}
    (hQ : ∀ s, I s → Q s) {s : σ} {is : List ι} (hs : I s) (hg : Along m G s is) :
    Always m Q s is := by
  induction is generalizing s with
  | nil => exact hQ s hs
  | cons i is ih => exact ⟨hQ s hs, ih (hstep s i hs hg.1) hg.2⟩

/-- What an invariant of all steps lets each of them satisfy holds along every run. -/
theorem along_of_forall_step (hstep : ∀ s i, I s → I (m s i).1) (hQ : ∀ s i, I s → Q s i) {s : σ}
    {is : List ι} (hs : I s) : Along m Q s is := by
  induction is generalizing s with
  | nil => trivial
  | cons i is ih => exact ⟨hQ s i hs, ih (hstep s i hs)⟩

/-- A property of states that is kept exactly by the steps that satisfy `G`: it holds
throughout the run if and only if every step satisfies `G`. -/
theorem always_iff_along (hstep : ∀ s i, I s → (I (m s i).1 ↔ G s i)) {s : σ} {is : List ι}
    (hs : I s) : Always m I s is ↔ Along m G s is := by
  induction is generalizing s with
  | nil => exact iff_of_true hs trivial
  | cons i is ih =>
    constructor
    · rintro ⟨_, hrest⟩
      have hnext : I (m s i).1 := by
        cases is with
        | nil => exact hrest
        | cons _ _ => exact hrest.1
      exact ⟨(hstep s i hs).mp hnext, (ih hnext).mp hrest⟩
    · rintro ⟨hg, hrest⟩
      exact ⟨hs, (ih ((hstep s i hs).mpr hg)).mpr hrest⟩

/-- A property that no step brings back and that the steps with `G` keep: it holds at the end of a
run if and only if it held at the start and every step satisfied `G`. -/
theorem run_iff_along {J : σ → Prop} (hinvariant : ∀ s i, J s → J (m s i).1)
    (hstep : ∀ s i, J s → (I (m s i).1 ↔ I s ∧ G s i)) {s : σ} {is : List ι} (hs : J s) :
    I (run m s is) ↔ I s ∧ Along m G s is := by
  induction is generalizing s with
  | nil => exact (and_iff_left trivial).symm
  | cons i is ih =>
    rw [run, ih (hinvariant s i hs), hstep s i hs, and_assoc]
    rfl

/-- A property of states that an invariant of the guarded steps implies, and that any other step
breaks: it holds throughout the run if and only if every step satisfies the guard. -/
theorem always_iff_along_of_guarded (hstep : ∀ s i, I s → G s i → I (m s i).1) {Q : σ → Prop}
    (hQ : ∀ s, I s → Q s) (hbreaks : ∀ s i, I s → ¬ G s i → ¬ Q (m s i).1) {s : σ} {is : List ι}
    (hs : I s) : Always m Q s is ↔ Along m G s is := by
  refine ⟨fun h => ?_, always_of_along hstep hQ hs⟩
  induction is generalizing s with
  | nil => trivial
  | cons i is ih =>
    have hnext : Q (m s i).1 := by
      cases is with
      | nil => exact h.2
      | cons _ _ => exact h.2.1
    have hguard : G s i := by
      by_contra hnot
      exact hbreaks s i hs hnot hnext
    exact ⟨hguard, ih (hstep s i hs hguard) h.2⟩

/-- Two step properties that agree wherever an invariant of all steps holds agree on the
runs that start there. -/
theorem along_congr_of_invariant (hstep : ∀ s i, I s → I (m s i).1)
    (h : ∀ s i, I s → (P s i ↔ Q s i)) {s : σ} {is : List ι} (hs : I s) :
    Along m P s is ↔ Along m Q s is := by
  induction is generalizing s with
  | nil => exact Iff.rfl
  | cons i is ih => exact and_congr (h s i hs) (ih (hstep s i hs))

/-- Two properties of states that agree wherever an invariant of all steps holds agree throughout
the runs that start there. -/
theorem always_congr_of_invariant (hstep : ∀ s i, I s → I (m s i).1) {P Q : σ → Prop}
    (h : ∀ s, I s → (P s ↔ Q s)) {s : σ} {is : List ι} (hs : I s) :
    Always m P s is ↔ Always m Q s is := by
  induction is generalizing s with
  | nil => exact h s hs
  | cons i is ih => exact and_congr (h s hs) (ih (hstep s i hs))

/-- Two step properties that agree wherever an invariant of the steps that satisfy them holds. -/
theorem along_congr_of_guarded (hstep : ∀ s i, I s → P s i → I (m s i).1)
    (h : ∀ s i, I s → (P s i ↔ Q s i)) {s : σ} {is : List ι} (hs : I s) :
    Along m P s is ↔ Along m Q s is := by
  induction is generalizing s with
  | nil => exact Iff.rfl
  | cons i is ih =>
    rw [Along, Along, ← h s i hs]
    exact and_congr_right fun hP => ih (hstep s i hs hP)

/-- Two step properties that agree on every step of a run agree on the run. -/
theorem along_congr (h : ∀ s i, P s i ↔ Q s i) {s : σ} {is : List ι} :
    Along m P s is ↔ Along m Q s is :=
  along_congr_of_invariant (I := fun _ => True) (fun _ _ _ => trivial) (fun s i _ => h s i)
    trivial

end Reactive
