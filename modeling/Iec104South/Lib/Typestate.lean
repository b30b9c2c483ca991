import Mathlib.Logic.Function.Basic
import Iec104South.Lib.Reactive

/-!
# Objects that follow a protocol

A protocol says which actions are possible in a phase, and which phase comes next. The actions on
many objects come in one sequence, and each object has its own phase. Some of the actions are those
of the environment.

* `after_eq_some_iff`: a sequence of actions is possible if and only if for each object its own
  actions are, whatever happens to the others in between.
* `follows_trace`: a machine whose steps are possible as long as the environment keeps to the
  protocol, in every run in which the environment does.
-/

namespace Typestate

open Reactive

variable {κ φ α : Type*}

/-- The next phase, if the action is possible. -/
abbrev Protocol (φ α : Type*) := φ → α → Option φ

variable [DecidableEq κ] (p : Protocol φ α)

/-- An action on one of the objects. -/
def next (phase : κ → φ) (a : κ × α) : Option (κ → φ) :=
  (p (phase a.1) a.2).map (Function.update phase a.1)

/-- The phases after the actions, if each is possible in its turn. -/
def after (phase : κ → φ) (l : List (κ × α)) : Option (κ → φ) := l.foldlM (next p) phase

/-- The actions on one object. -/
def word (k : κ) (l : List (κ × α)) : List α :=
  l.filterMap fun a => if a.1 = k then some a.2 else none

/-- The actions of the environment are possible, as long as all are. -/
def EnvFollows (env : α → Prop) : (κ → φ) → List (κ × α) → Prop
  | _, [] => True
  | phase, a :: l =>
    match next p phase a with
    | some phase' => EnvFollows env phase' l
    | none => ¬ env a.2

instance instDecidableEnvFollows (env : α → Prop) [DecidablePred env] :
    ∀ (phase : κ → φ) (l : List (κ × α)), Decidable (EnvFollows p env phase l)
  | _, [] => inferInstanceAs (Decidable True)
  | phase, a :: l =>
    match h : next p phase a with
    | some phase' =>
      have := instDecidableEnvFollows env phase' l
      decidable_of_iff (EnvFollows p env phase' l) (by rw [EnvFollows, h])
    | none => decidable_of_iff (¬ env a.2) (by rw [EnvFollows, h])

@[simp] theorem after_nil (phase : κ → φ) : after p phase [] = some phase := rfl

@[simp] theorem after_cons (phase : κ → φ) (a : κ × α) (l : List (κ × α)) :
    after p phase (a :: l) = (next p phase a).bind (after p · l) := List.foldlM_cons

theorem after_append (phase : κ → φ) (l l' : List (κ × α)) :
    after p phase (l ++ l') = (after p phase l).bind (after p · l') := List.foldlM_append

/-- Actions that keep the phases of their objects. -/
theorem after_of_keeps {phase : κ → φ} {l : List (κ × α)}
    (h : ∀ a ∈ l, p (phase a.1) a.2 = some (phase a.1)) : after p phase l = some phase := by
  induction l with
  | nil => rfl
  | cons a l ih =>
    rw [after_cons, next, h a List.mem_cons_self, Option.map_some, Function.update_eq_self,
      Option.bind_some]
    exact ih fun b hb => h b (List.mem_cons_of_mem _ hb)

theorem word_cons_self (k : κ) (a : α) (l : List (κ × α)) : word k ((k, a) :: l) = a :: word k l :=
  List.filterMap_cons_some (if_pos rfl)

theorem word_cons_of_ne {k k' : κ} (h : k' ≠ k) (a : α) (l : List (κ × α)) :
    word k ((k', a) :: l) = word k l := List.filterMap_cons_none (if_neg h)

/-- The objects do not get in each other's way. -/
theorem after_eq_some_iff {phase phase' : κ → φ} {l : List (κ × α)} :
    after p phase l = some phase' ↔ ∀ k, (word k l).foldlM p (phase k) = some (phase' k) := by
  induction l generalizing phase with
  | nil => simp [word, funext_iff]
  | cons a l ih =>
    obtain ⟨k₀, a⟩ := a
    rw [after_cons, next]
    cases hnext : p (phase k₀) a with
    | none =>
      refine iff_of_false (by simp) fun h => ?_
      have hown := h k₀
      rw [word_cons_self, List.foldlM_cons, hnext] at hown
      cases hown
    | some x =>
      rw [Option.map_some, Option.bind_some, ih]
      refine forall_congr' fun k => ?_
      rcases eq_or_ne k₀ k with rfl | hk
      · rw [Function.update_self, word_cons_self, List.foldlM_cons, hnext]
        rfl
      · rw [Function.update_of_ne hk.symm, word_cons_of_ne hk]

theorem isSome_of_envFollows {env : α → Prop} {phase : κ → φ} {a : κ × α} {l : List (κ × α)}
    (h : EnvFollows p env phase (a :: l)) (ha : env a.2) : (p (phase a.1) a.2).isSome := by
  rw [EnvFollows, next] at h
  cases hnext : p (phase a.1) a.2 with
  | some x => rfl
  | none =>
    rw [hnext] at h
    exact absurd ha h

theorem envFollows_append {env : α → Prop} {phase : κ → φ} {l l' : List (κ × α)}
    (h : EnvFollows p env phase (l ++ l')) :
    EnvFollows p env phase l ∧
      ∀ phase', after p phase l = some phase' → EnvFollows p env phase' l' := by
  induction l generalizing phase with
  | nil => exact ⟨trivial, fun phase' hphase => Option.some.inj hphase ▸ h⟩
  | cons a l ih =>
    rw [List.cons_append, EnvFollows] at h
    rw [EnvFollows, after_cons]
    cases hnext : next p phase a with
    | none =>
      rw [hnext] at h
      exact ⟨h, by simp⟩
    | some phase₁ =>
      rw [hnext] at h
      exact ih h

variable {p} {σ ι : Type*} {m : Machine σ ι (κ × α)} {env : α → Prop} {R : σ → (κ → φ) → Prop}

/-- Steps that are possible as long as the environment keeps to the protocol: so are the runs. -/
theorem follows_trace
    (hstep : ∀ s i phase, R s phase → EnvFollows p env phase (m s i).2 →
      ∃ phase', after p phase (m s i).2 = some phase' ∧ R (m s i).1 phase')
    {s : σ} {is : List ι} {phase : κ → φ} (hs : R s phase)
    (henv : EnvFollows p env phase (trace m s is)) :
    ∃ phase', after p phase (trace m s is) = some phase' ∧ R (run m s is) phase' := by
  induction is generalizing s phase with
  | nil => exact ⟨phase, rfl, hs⟩
  | cons i is ih =>
    obtain ⟨hnow, hlater⟩ := envFollows_append p henv
    obtain ⟨phase₁, hphase₁, hs₁⟩ := hstep s i phase hs hnow
    obtain ⟨phase₂, hphase₂, hs₂⟩ := ih hs₁ (hlater phase₁ hphase₁)
    refine ⟨phase₂, ?_, hs₂⟩
    rw [trace, after_append, hphase₁, Option.bind_some, hphase₂]

end Typestate
