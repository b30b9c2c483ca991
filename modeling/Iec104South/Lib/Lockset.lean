import Mathlib.Logic.Function.Basic
import Mathlib.Tactic.SplitIfs
import Iec104South.Lib.Reactive

/-!
# Threads, mutexes and sections

Threads execute programs of lock operations and sections, one action at a time, in any
interleaving. A lock waits while the mutex has an owner. Whether a mutex protects the sections
can be read off the programs:

* `Respects`: a program holds the mutex in its guarded sections and in no other.
* `always_protected_iff`: then a run keeps every section under the mutex if and only if it
  enters guarded sections only.
* `exclusive_of_protected`: sections under one mutex exclude each other.
-/

namespace Lockset

open Reactive

variable {τ μ α : Type*} {κ : τ → Type*} [DecidableEq τ] [DecidableEq μ]

/-- An action of a thread. `α` are the sections. -/
inductive Action (μ α : Type*) where
  | lock (m : μ)
  | unlock (m : μ)
  | enter (a : α)
  | leave
deriving DecidableEq, Repr

/-- The owner of each mutex, and for each thread what is left of its program and the section it
is in. -/
structure State (τ μ α : Type*) where
  owner : μ → Option τ
  rest : τ → List (Action μ α)
  inside : τ → Option α

/-- An idle thread starts a program, or a thread takes its next action. -/
inductive Input (τ : Type*) (κ : τ → Type*) where
  | call (t : τ) (k : κ t)
  | advance (t : τ)

namespace State

def idle : State τ μ α where
  owner := fun _ => none
  rest := fun _ => []
  inside := fun _ => none

/-- The thread `t` takes the action, with `rest` left to do. -/
def perform (t : τ) (rest : List (Action μ α)) (s : State τ μ α) : Action μ α → State τ μ α
  | .lock m =>
    if s.owner m = none then
      { s with
        owner := Function.update s.owner m (some t)
        rest := Function.update s.rest t rest }
    else s
  | .unlock m =>
    { s with
      owner := Function.update s.owner m none
      rest := Function.update s.rest t rest }
  | .enter a =>
    { s with
      inside := Function.update s.inside t (some a)
      rest := Function.update s.rest t rest }
  | .leave =>
    { s with
      inside := Function.update s.inside t none
      rest := Function.update s.rest t rest }

/-- The section that the input lets a thread enter. -/
def enters (s : State τ μ α) : Input τ κ → Option α
  | .call _ _ => none
  | .advance t =>
    match s.rest t with
    | .enter a :: _ => some a
    | _ => none

/-- Every thread in a section owns the mutex. -/
def Protected (m : μ) (s : State τ μ α) : Prop := ∀ t a, s.inside t = some a → s.owner m = some t

/-- No two threads are in sections at the same time. -/
def Exclusive (s : State τ μ α) : Prop :=
  ∀ t u a b, s.inside t = some a → s.inside u = some b → t = u

end State

/-- One step. A thread that is busy starts no program. -/
def step (program : ∀ t, κ t → List (Action μ α)) : Machine (State τ μ α) (Input τ κ) Empty
  | s, .call t k =>
    match s.rest t with
    | [] => ({ s with rest := Function.update s.rest t (program t k) }, [])
    | _ :: _ => (s, [])
  | s, .advance t =>
    match s.rest t with
    | [] => (s, [])
    | a :: rest => (s.perform t rest a, [])

/-- A program, from a point where it holds `m` or not and is in a section or not: it locks and
unlocks `m` in turn and outside of sections, and holds it in its guarded sections only. -/
def Respects (m : μ) (guarded : α → Prop) : Bool → Option α → List (Action μ α) → Prop
  | holds, inside, [] => holds = false ∧ inside = none
  | holds, inside, .lock m' :: p =>
    if m' = m then holds = false ∧ inside = none ∧ Respects m guarded true none p
    else Respects m guarded holds inside p
  | holds, inside, .unlock m' :: p =>
    if m' = m then holds = true ∧ inside = none ∧ Respects m guarded false none p
    else Respects m guarded holds inside p
  | holds, inside, .enter a :: p =>
    inside = none ∧ (holds = true ↔ guarded a) ∧ Respects m guarded holds (some a) p
  | holds, _, .leave :: p => Respects m guarded holds none p

instance instDecidableRespects (m : μ) (guarded : α → Prop) [h : DecidablePred guarded] :
    ∀ holds inside p, Decidable (Respects m guarded holds inside p)
  | _, _, [] => inferInstanceAs (Decidable (_ ∧ _))
  | holds, inside, .lock m' :: p =>
    have := instDecidableRespects m guarded true none p
    have := instDecidableRespects m guarded holds inside p
    inferInstanceAs (Decidable (if m' = m then _ else _))
  | holds, inside, .unlock m' :: p =>
    have := instDecidableRespects m guarded false none p
    have := instDecidableRespects m guarded holds inside p
    inferInstanceAs (Decidable (if m' = m then _ else _))
  | holds, _, .enter a :: p =>
    have := instDecidableRespects m guarded holds (some a) p
    inferInstanceAs (Decidable (_ ∧ _ ∧ _))
  | holds, _, .leave :: p => instDecidableRespects m guarded holds none p

section

variable {m : μ} {guarded : α → Prop}

/-- Programs one after the other. -/
theorem Respects.append {p q : List (Action μ α)} (hq : Respects m guarded false none q)
    {holds : Bool} {inside : Option α} (hp : Respects m guarded holds inside p) :
    Respects m guarded holds inside (p ++ q) := by
  induction p generalizing holds inside with
  | nil =>
    obtain ⟨rfl, rfl⟩ := hp
    exact hq
  | cons a p ih =>
    cases a with
    | lock m' =>
      simp only [List.cons_append, Respects] at hp ⊢
      split_ifs at hp ⊢
      · exact ⟨hp.1, hp.2.1, ih hp.2.2⟩
      · exact ih hp
    | unlock m' =>
      simp only [List.cons_append, Respects] at hp ⊢
      split_ifs at hp ⊢
      · exact ⟨hp.1, hp.2.1, ih hp.2.2⟩
      · exact ih hp
    | enter a => exact ⟨hp.1, hp.2.1, ih hp.2.2⟩
    | leave => exact ih hp

theorem Respects.flatMap {ι : Type*} {f : ι → List (Action μ α)}
    (h : ∀ i, Respects m guarded false none (f i)) (is : List ι) :
    Respects m guarded false none (is.flatMap f) := by
  induction is with
  | nil => exact ⟨rfl, rfl⟩
  | cons i is ih =>
    rw [List.flatMap_cons]
    exact .append ih (h i)

/-! ## Steps -/

/-- What is left of the program respects the mutex, and so does the section it is in. -/
structure State.Obeys (m : μ) (guarded : α → Prop) (s : State τ μ α) (t : τ) : Prop where
  respects : Respects m guarded (decide (s.owner m = some t)) (s.inside t) (s.rest t)
  inside : ∀ a, s.inside t = some a → (s.owner m = some t ↔ guarded a)

variable {s : State τ μ α}

/-- A step of the thread `t` that leaves the others their sections and the mutex. -/
theorem State.Obeys.others {s' : State τ μ α} (t : τ) (h : ∀ u, s.Obeys m guarded u)
    (ht : s'.Obeys m guarded t)
    (howner : ∀ u, u ≠ t → (s'.owner m = some u ↔ s.owner m = some u))
    (hinside : ∀ u, u ≠ t → s'.inside u = s.inside u)
    (hrest : ∀ u, u ≠ t → s'.rest u = s.rest u) (u : τ) : s'.Obeys m guarded u := by
  rcases eq_or_ne u t with rfl | hu
  · exact ht
  · refine ⟨?_, fun a ha => ?_⟩
    · rw [decide_eq_decide.mpr (howner u hu), hinside u hu, hrest u hu]
      exact (h u).respects
    · rw [howner u hu]
      exact (h u).inside a (hinside u hu ▸ ha)

/-- The mutex changes its owner by a thread outside of sections. -/
theorem State.Obeys.own {t : τ} {rest : List (Action μ α)} {o : Option τ}
    (h : ∀ u, s.Obeys m guarded u) (hinside : s.inside t = none)
    (hrest : Respects m guarded (decide (o = some t)) none rest)
    (ho : ∀ u, u ≠ t → (o = some u ↔ s.owner m = some u)) (u : τ) :
    State.Obeys m guarded { s with
      owner := Function.update s.owner m o
      rest := Function.update s.rest t rest } u := by
  refine .others t h ⟨?_, fun a ha => ?_⟩ ?_ ?_ ?_ u
  · simpa [hinside] using hrest
  · cases hinside.symm.trans ha
  · intro u hu
    show Function.update s.owner m o m = some u ↔ _
    rw [Function.update_self]
    exact ho u hu
  · exact fun _ _ => rfl
  · exact fun u hu => Function.update_of_ne hu ..

/-- Another mutex changes its owner. -/
theorem State.Obeys.ownOther {t : τ} {rest : List (Action μ α)} {o : Option τ} {m' : μ}
    (h : ∀ u, s.Obeys m guarded u) (hm : m' ≠ m)
    (hrest : Respects m guarded (decide (s.owner m = some t)) (s.inside t) rest) (u : τ) :
    State.Obeys m guarded { s with
      owner := Function.update s.owner m' o
      rest := Function.update s.rest t rest } u := by
  have howner : Function.update s.owner m' o m = s.owner m := Function.update_of_ne hm.symm ..
  refine .others t h ⟨?_, fun a ha => ?_⟩ ?_ ?_ ?_ u
  · simpa [howner] using hrest
  · show Function.update s.owner m' o m = some t ↔ _
    rw [howner]
    exact (h t).inside a ha
  · intro u _
    show Function.update s.owner m' o m = some u ↔ _
    rw [howner]
  · exact fun _ _ => rfl
  · exact fun u hu => Function.update_of_ne hu ..

/-- A thread enters a section, or leaves the one it is in. -/
theorem State.Obeys.move {t : τ} {rest : List (Action μ α)} {a : Option α}
    (h : ∀ u, s.Obeys m guarded u)
    (hrest : Respects m guarded (decide (s.owner m = some t)) a rest)
    (hguarded : ∀ b, a = some b → (s.owner m = some t ↔ guarded b)) (u : τ) :
    State.Obeys m guarded { s with
      inside := Function.update s.inside t a
      rest := Function.update s.rest t rest } u := by
  refine .others t h ⟨?_, fun b hb => ?_⟩ ?_ ?_ ?_ u
  · show Respects m guarded (decide (s.owner m = some t)) (Function.update s.inside t a t)
      (Function.update s.rest t rest t)
    rwa [Function.update_self, Function.update_self]
  · have hb : Function.update s.inside t a t = some b := hb
    rw [Function.update_self] at hb
    exact hguarded b hb
  · exact fun _ _ => Iff.rfl
  · exact fun u hu => Function.update_of_ne hu ..
  · exact fun u hu => Function.update_of_ne hu ..

/-- The next action of a thread keeps all of them obedient. -/
theorem State.Obeys.perform (h : ∀ u, s.Obeys m guarded u) {t : τ} {a : Action μ α}
    {rest : List (Action μ α)} (hrest : s.rest t = a :: rest) (u : τ) :
    (s.perform t rest a).Obeys m guarded u := by
  have hrespects := (h t).respects
  rw [hrest] at hrespects
  cases a with
  | lock m' =>
    simp only [Respects] at hrespects
    dsimp only [State.perform]
    split_ifs with hfree
    · split_ifs at hrespects with hm
      · subst hm
        obtain ⟨-, hnone, hnext⟩ := hrespects
        refine .own h hnone (by simpa using hnext) (fun u hu => ?_) u
        rw [hfree]
        exact iff_of_false (fun heq => hu (Option.some.inj heq).symm) nofun
      · exact .ownOther h hm hrespects u
    · exact h u
  | unlock m' =>
    simp only [Respects] at hrespects
    dsimp only [State.perform]
    split_ifs at hrespects with hm
    · subst hm
      obtain ⟨htrue, hnone, hnext⟩ := hrespects
      refine .own h hnone (by simpa using hnext) (fun u hu => ?_) u
      rw [of_decide_eq_true htrue]
      exact iff_of_false nofun (fun heq => hu (Option.some.inj heq).symm)
    · exact .ownOther h hm hrespects u
  | enter a =>
    obtain ⟨-, hguarded, hnext⟩ := hrespects
    refine .move h hnext (fun b hb => ?_) u
    obtain rfl : a = b := Option.some.inj hb
    exact decide_eq_true_iff.symm.trans hguarded
  | leave =>
    have hnext : Respects m guarded (decide (s.owner m = some t)) none rest := hrespects
    refine .move h hnext (fun b hb => ?_) u
    cases hb

variable {program : ∀ t, κ t → List (Action μ α)}

/-- Programs that respect the mutex keep all threads obedient. -/
theorem step_obeys (hprogram : ∀ t k, Respects m guarded false none (program t k))
    (h : ∀ u, s.Obeys m guarded u) (i : Input τ κ) (u : τ) :
    (step program s i).1.Obeys m guarded u := by
  cases i with
  | call t k =>
    unfold step
    dsimp only
    split
    · rename_i hidle
      obtain ⟨hfree, hnone⟩ : decide (s.owner m = some t) = false ∧ s.inside t = none := by
        have hrespects := (h t).respects
        rwa [hidle] at hrespects
      show State.Obeys m guarded { s with rest := Function.update s.rest t (program t k) } u
      refine .others t h ⟨?_, ?_⟩ ?_ ?_ ?_ u
      · simpa [hfree, hnone] using hprogram t k
      · exact (h t).inside
      · exact fun _ _ => Iff.rfl
      · exact fun _ _ => rfl
      · exact fun u hu => Function.update_of_ne hu ..
    · exact h u
  | advance t =>
    unfold step
    dsimp only
    split
    · exact h u
    · exact State.Obeys.perform h ‹_› u

/-- After a step a thread is in the section it entered, or in the one it was in. -/
theorem step_inside (s : State τ μ α) (i : Input τ κ) {u : τ} {a : α}
    (h : (step program s i).1.inside u = some a) :
    s.inside u = some a ∨ s.enters i = some a := by
  cases i with
  | call t k =>
    unfold step at h
    dsimp only at h
    split at h <;> exact .inl h
  | advance t =>
    unfold step at h
    dsimp only at h
    split at h
    · exact .inl h
    · rename_i b rest hrest
      cases b with
      | lock m =>
        dsimp only [State.perform] at h
        split_ifs at h <;> exact .inl h
      | unlock m => exact .inl h
      | enter b =>
        rcases eq_or_ne u t with rfl | hu
        · obtain rfl : b = a := by simpa [State.perform] using h
          exact .inr (by simp [State.enters, hrest])
        · exact .inl (by simpa [State.perform, hu] using h)
      | leave =>
        rcases eq_or_ne u t with rfl | hu
        · simp [State.perform] at h
        · exact .inl (by simpa [State.perform, hu] using h)

/-- A section that a step enters has a thread in it. -/
theorem exists_inside_of_enters {i : Input τ κ} {a : α} (h : s.enters i = some a) :
    ∃ u, (step program s i).1.inside u = some a := by
  cases i with
  | call t k => cases h
  | advance t =>
    refine ⟨t, ?_⟩
    unfold State.enters at h
    unfold step
    dsimp only at h ⊢
    split at h
    · rename_i b rest hrest
      obtain rfl : b = a := Option.some.inj h
      rw [hrest]
      exact Function.update_self ..
    · cases h

/-! ## Runs -/

/-- Obedient threads are under the mutex if and only if their sections are guarded. -/
theorem protected_iff (h : ∀ u, s.Obeys m guarded u) :
    s.Protected m ↔ ∀ t a, s.inside t = some a → guarded a :=
  forall_congr' fun t => forall_congr' fun a => forall_congr' fun ha => (h t).inside a ha

omit [DecidableEq τ] [DecidableEq μ] in
theorem exclusive_of_protected (h : s.Protected m) : s.Exclusive := fun t u a b ht hu =>
  Option.some.inj ((h t a ht).symm.trans (h u b hu))

/-- With programs that respect the mutex, a run keeps every section under it if and only if it
enters guarded sections only. -/
theorem always_protected_iff (hprogram : ∀ t k, Respects m guarded false none (program t k))
    (is : List (Input τ κ)) :
    Always (step program) (·.Protected m) .idle is ↔
      Along (step program) (fun s i => ∀ a, s.enters i = some a → guarded a) .idle is := by
  have hidle : ∀ u, State.Obeys m guarded (State.idle : State τ μ α) u := fun u =>
    ⟨⟨rfl, rfl⟩, nofun⟩
  calc Always (step program) (·.Protected m) .idle is
      ↔ Always (step program) (fun s => (∀ u, s.Obeys m guarded u) ∧ s.Protected m) .idle is :=
        always_congr_of_invariant (fun _ i hs => step_obeys hprogram hs i)
          (fun _ hs => (and_iff_right hs).symm) hidle
    _ ↔ Along (step program) (fun s i => ∀ a, s.enters i = some a → guarded a) .idle is := by
      refine always_iff_along (fun s i hs => ?_) ⟨hidle, nofun⟩
      have hnext := step_obeys hprogram hs.1 i
      rw [and_iff_right hnext, protected_iff hnext]
      constructor
      · intro h a ha
        obtain ⟨u, hu⟩ : ∃ u, (step program s i).1.inside u = some a := exists_inside_of_enters ha
        exact h u a hu
      · intro h u a hu
        rcases step_inside s i hu with hold | hnew
        · exact (protected_iff hs.1).mp hs.2 u a hold
        · exact h a hnew

end

end Lockset
