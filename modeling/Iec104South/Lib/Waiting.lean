import Mathlib.Algebra.Order.BigOperators.Group.List
import Mathlib.Algebra.Order.Group.Nat
import Mathlib.Data.List.Nodup
import Mathlib.Logic.Function.Basic
import Mathlib.Tactic.SplitIfs
import Iec104South.Lib.Reactive

/-!
# Threads that wait for each other

Threads lock and unlock mutexes and join other threads, one action at a time, in any
interleaving. A lock waits while the mutex has an owner, a join while the joined thread has
something left to do.

* `Ordered rank`: a thread waits only for what ranks below itself and below all it holds.
* `exists_canAct`: then a busy thread waits, through others, for one that can act.
* `exists_idle`: and the threads can be brought to their ends.
-/

namespace Waiting

open Reactive

variable {τ μ : Type*} {κ : τ → Type*}

inductive Action (τ μ : Type*) where
  | lock (m : μ)
  | unlock (m : μ)
  /-- wait for the end of a thread -/
  | join (t : τ)
deriving DecidableEq, Repr

/-- The owner of each mutex, and what is left of the program of each thread. -/
structure State (τ μ : Type*) where
  owner : μ → Option τ
  rest : τ → List (Action τ μ)

/-- An idle thread starts a program, or a thread takes its next action. -/
inductive Input (τ : Type*) (κ : τ → Type*) where
  | call (t : τ) (k : κ t)
  | advance (t : τ)

/-- What a thread waits for: the end of a thread, or a mutex. -/
abbrev Resource (τ μ : Type*) := τ ⊕ μ

namespace State

def idle : State τ μ where
  owner := fun _ => none
  rest := fun _ => []

/-- What the next action of the thread waits for, if it has to wait. -/
def waitsFor (s : State τ μ) (t : τ) : Option (Resource τ μ) :=
  match s.rest t with
  | .lock m :: _ => if (s.owner m).isSome then some (.inr m) else none
  | .join u :: _ => if (s.rest u).isEmpty then none else some (.inl u)
  | _ => none

/-- The thread has an action to take and does not wait. -/
def CanAct (s : State τ μ) (t : τ) : Prop := s.rest t ≠ [] ∧ s.waitsFor t = none

end State

variable [DecidableEq μ]

/-- The owners after an action of `t`. -/
def Action.own (t : τ) (owner : μ → Option τ) : Action τ μ → μ → Option τ
  | lock m => Function.update owner m (some t)
  | unlock m => Function.update owner m none
  | join _ => owner

/-- A thread that holds `held` may wait for `r`. -/
def Below (rank : Resource τ μ → Nat) (t : τ) (held : List μ) (r : Resource τ μ) : Prop :=
  rank r < rank (.inl t) ∧ ∀ m ∈ held, rank r < rank (.inr m)

/-- A part of a program of `t`, from a point where it holds the mutexes `held` to one where it
holds `held'`: it waits in the order of the ranks, and unlocks what it holds. -/
def Ordered (rank : Resource τ μ → Nat) (t : τ) :
    List μ → List (Action τ μ) → List μ → Prop
  | held, [], held' => held = held'
  | held, .lock m :: p, held' => Below rank t held (.inr m) ∧ Ordered rank t (m :: held) p held'
  | held, .unlock m :: p, held' => m ∈ held ∧ Ordered rank t (held.erase m) p held'
  | held, .join u :: p, held' => Below rank t held (.inl u) ∧ Ordered rank t held p held'

section

variable {rank : Resource τ μ → Nat} {t : τ} {held held' held'' : List μ}

/-! ## Programs -/

theorem Ordered.nil : Ordered rank t held [] held := rfl

/-- Parts of a program one after the other. -/
theorem Ordered.append {p q : List (Action τ μ)} (hp : Ordered rank t held p held')
    (hq : Ordered rank t held' q held'') : Ordered rank t held (p ++ q) held'' := by
  induction p generalizing held with
  | nil =>
    obtain rfl : held = held' := hp
    exact hq
  | cons a p ih =>
    cases a with
    | lock m => exact ⟨hp.1, ih hp.2⟩
    | unlock m => exact ⟨hp.1, ih hp.2⟩
    | join u => exact ⟨hp.1, ih hp.2⟩

/-- Parts that each unlock what they lock. -/
theorem Ordered.both {p q : List (Action τ μ)} (hp : Ordered rank t held p held)
    (hq : Ordered rank t held q held) : Ordered rank t held (p ++ q) held := hp.append hq

theorem Ordered.flatMap {ι : Type*} {f : ι → List (Action τ μ)} (is : List ι)
    (h : ∀ i ∈ is, Ordered rank t held (f i) held) : Ordered rank t held (is.flatMap f) held := by
  induction is with
  | nil => exact rfl
  | cons i is ih =>
    rw [List.flatMap_cons]
    exact (h i List.mem_cons_self).both (ih fun j hj => h j (List.mem_cons_of_mem i hj))

/-- The scope of a mutex. -/
def scope (m : μ) (body : List (Action τ μ)) : List (Action τ μ) := .lock m :: body ++ [.unlock m]

theorem Ordered.scope {m : μ} {body : List (Action τ μ)} (hm : Below rank t held (.inr m))
    (hbody : Ordered rank t (m :: held) body (m :: held)) :
    Ordered rank t held (scope m body) held := by
  have hunlock : Ordered rank t (m :: held) [.unlock m] held :=
    ⟨List.mem_cons_self, List.erase_cons_head m held⟩
  exact ⟨hm, hbody.append hunlock⟩

/-! ## Waiting in order -/

/-- What the thread holds, and that what is left of its program is in order from there. -/
structure State.Obeys (rank : Resource τ μ → Nat) (s : State τ μ) (t : τ) (held : List μ) :
    Prop where
  mem : ∀ m, m ∈ held ↔ s.owner m = some t
  nodup : held.Nodup
  ordered : Ordered rank t held (s.rest t) []

variable {s : State τ μ}

theorem State.Obeys.held_eq_nil (h : s.Obeys rank t held) (hidle : s.rest t = []) : held = [] := by
  have hordered := h.ordered
  rw [hidle] at hordered
  exact hordered

/-- A thread waits for less than itself and what it holds. -/
theorem State.Obeys.below (h : s.Obeys rank t held) {r : Resource τ μ}
    (hr : s.waitsFor t = some r) : Below rank t held r := by
  have hordered := h.ordered
  unfold State.waitsFor at hr
  split at hr
  · next m p hrest =>
    rw [hrest] at hordered
    split_ifs at hr
    cases hr
    exact hordered.1
  · next u p hrest =>
    rw [hrest] at hordered
    split_ifs at hr
    cases hr
    exact hordered.1
  · cases hr

theorem State.Obeys.of_rest {p : List (Action τ μ)} (hmem : ∀ m, m ∈ held ↔ s.owner m = some t)
    (hnodup : held.Nodup) (hrest : s.rest t = p) (hordered : Ordered rank t held p []) :
    s.Obeys rank t held := ⟨hmem, hnodup, hrest ▸ hordered⟩

/-- What a thread waits for is with a busy thread, which itself waits for less, if it waits. -/
theorem exists_holder (h : ∀ u, ∃ held, s.Obeys rank u held) {r : Resource τ μ}
    (hr : s.waitsFor t = some r) :
    ∃ u, s.rest u ≠ [] ∧ ∀ r', s.waitsFor u = some r' → rank r' < rank r := by
  unfold State.waitsFor at hr
  split at hr
  · next m p hrest =>
    split_ifs at hr with hfree
    cases hr
    obtain ⟨u, hu⟩ := Option.isSome_iff_exists.mp hfree
    obtain ⟨held, hobeys⟩ := h u
    have hmem : m ∈ held := (hobeys.mem m).mpr hu
    refine ⟨u, fun hidle => ?_, fun r' hr' => (hobeys.below hr').2 m hmem⟩
    rw [hobeys.held_eq_nil hidle] at hmem
    cases hmem
  · next u p hrest =>
    split_ifs at hr with hidle
    cases hr
    obtain ⟨held, hobeys⟩ := h u
    exact ⟨u, fun hnil => hidle (hnil ▸ rfl), fun r' hr' => (hobeys.below hr').1⟩
  · cases hr

/-- Along the waits the ranks decrease, so they end at a thread that can act. -/
theorem exists_canAct_of_waitsFor (h : ∀ u, ∃ held, s.Obeys rank u held) (n : Nat) :
    ∀ t r, s.waitsFor t = some r → rank r = n → ∃ u, s.CanAct u := by
  induction n using Nat.strongRecOn with
  | ind n ih =>
    intro t r hr hn
    obtain ⟨u, hbusy, hless⟩ := exists_holder h hr
    cases hu : s.waitsFor u with
    | none => exact ⟨u, hbusy, hu⟩
    | some r' => exact ih (rank r') (hn ▸ hless r' hu) u r' hu rfl

/-- Threads that wait in order do not deadlock. -/
theorem exists_canAct (h : ∀ u, ∃ held, s.Obeys rank u held) (hbusy : s.rest t ≠ []) :
    ∃ u, s.CanAct u := by
  cases ht : s.waitsFor t with
  | none => exact ⟨t, hbusy, ht⟩
  | some r => exact exists_canAct_of_waitsFor h _ t r ht rfl

/-! ## Steps -/

variable [DecidableEq τ]

/-- The thread takes its next action, unless it waits. -/
def State.advance (t : τ) (s : State τ μ) : State τ μ :=
  match s.waitsFor t, s.rest t with
  | none, a :: rest => { owner := a.own t s.owner, rest := Function.update s.rest t rest }
  | _, _ => s

/-- One step. A thread that is busy starts no program. -/
def step (program : ∀ t, κ t → List (Action τ μ)) : Machine (State τ μ) (Input τ κ) Empty
  | s, .call t k =>
    match s.rest t with
    | [] => ({ s with rest := Function.update s.rest t (program t k) }, [])
    | _ :: _ => (s, [])
  | s, .advance t => (s.advance t, [])

theorem State.advance_of_waitsFor {a : Action τ μ} {p : List (Action τ μ)}
    (hrest : s.rest t = a :: p) (hfree : s.waitsFor t = none) :
    s.advance t = { owner := a.own t s.owner, rest := Function.update s.rest t p } := by
  unfold State.advance
  rw [hfree, hrest]

theorem State.advance_of_not_canAct (h : ¬s.CanAct t) : s.advance t = s := by
  unfold State.advance
  split
  · next hfree hrest => exact absurd ⟨by simp [hrest], hfree⟩ h
  · rfl

omit [DecidableEq τ] in
/-- An action of `t` takes no mutex from another thread, and gives it none. -/
theorem own_eq_some_iff {a : Action τ μ} {p : List (Action τ μ)} {u : τ}
    (hobeys : s.Obeys rank t held) (hrest : s.rest t = a :: p) (hfree : s.waitsFor t = none)
    (hu : u ≠ t) (m : μ) : a.own t s.owner m = some u ↔ s.owner m = some u := by
  have hother : some t ≠ some u := fun heq => hu (Option.some.inj heq).symm
  cases a with
  | lock m' =>
    rcases eq_or_ne m m' with rfl | hm
    · have hnone : s.owner m = none := by simpa [State.waitsFor, hrest] using hfree
      simp [Action.own, hnone, hother]
    · simp [Action.own, hm]
  | unlock m' =>
    rcases eq_or_ne m m' with rfl | hm
    · have hordered := hobeys.ordered
      rw [hrest] at hordered
      have howner : s.owner m = some t := (hobeys.mem m).mp hordered.1
      simp [Action.own, howner, hother]
    · simp [Action.own, hm]
  | join v => exact Iff.rfl

/-- The thread itself holds what its action leaves it. -/
theorem State.Obeys.advance_self {a : Action τ μ} {p : List (Action τ μ)}
    (hobeys : s.Obeys rank t held) (hrest : s.rest t = a :: p) :
    ∃ held', State.Obeys rank
      { owner := a.own t s.owner, rest := Function.update s.rest t p } t held' := by
  have hordered := hobeys.ordered
  rw [hrest] at hordered
  have hnext : Function.update s.rest t p t = p := Function.update_self ..
  cases a with
  | lock m =>
    have hfresh : m ∉ held := fun hmem => Nat.lt_irrefl _ (hordered.1.2 m hmem)
    refine ⟨m :: held, .of_rest (fun m' => ?_) (List.nodup_cons.mpr ⟨hfresh, hobeys.nodup⟩) hnext
      hordered.2⟩
    rcases eq_or_ne m' m with rfl | hm
    · simp [Action.own]
    · simp [Action.own, hm, hobeys.mem m']
  | unlock m =>
    refine ⟨held.erase m, .of_rest (fun m' => ?_) (hobeys.nodup.erase m) hnext hordered.2⟩
    rw [hobeys.nodup.mem_erase_iff]
    rcases eq_or_ne m' m with rfl | hm
    · simp [Action.own]
    · simp [Action.own, hm, hobeys.mem m']
  | join u => exact ⟨held, .of_rest hobeys.mem hobeys.nodup hnext hordered.2⟩

theorem obeys_advance (h : ∀ u, ∃ held, s.Obeys rank u held) (t u : τ) :
    ∃ held, (s.advance t).Obeys rank u held := by
  by_cases hact : s.CanAct t
  · obtain ⟨hbusy, hfree⟩ := hact
    obtain ⟨a, p, hrest⟩ := List.exists_cons_of_ne_nil hbusy
    obtain ⟨held, hobeys⟩ := h t
    rw [State.advance_of_waitsFor hrest hfree]
    rcases eq_or_ne u t with rfl | hu
    · exact hobeys.advance_self hrest
    · obtain ⟨held', hother⟩ := h u
      refine ⟨held', .of_rest (fun m => ?_) hother.nodup (Function.update_of_ne hu p s.rest)
        hother.ordered⟩
      exact (hother.mem m).trans (own_eq_some_iff hobeys hrest hfree hu m).symm
  · rw [State.advance_of_not_canAct hact]
    exact h u

variable {program : ∀ t, κ t → List (Action τ μ)}

/-- A program that waits in order is called. -/
def Input.InOrder (rank : Resource τ μ → Nat) (program : ∀ t, κ t → List (Action τ μ)) :
    Input τ κ → Prop
  | .call t k => Ordered rank t [] (program t k) []
  | .advance _ => True

theorem obeys_step (h : ∀ u, ∃ held, s.Obeys rank u held) {i : Input τ κ}
    (hi : i.InOrder rank program) (u : τ) :
    ∃ held, (step program s i).1.Obeys rank u held := by
  cases i with
  | call t k =>
    unfold step
    dsimp only
    split
    · next hidle =>
      obtain ⟨held, hobeys⟩ := h u
      rcases eq_or_ne u t with rfl | hu
      · obtain rfl : held = [] := hobeys.held_eq_nil hidle
        exact ⟨[], .of_rest hobeys.mem hobeys.nodup (Function.update_self u _ s.rest) hi⟩
      · exact ⟨held, .of_rest hobeys.mem hobeys.nodup (Function.update_of_ne hu _ s.rest)
          hobeys.ordered⟩
    · exact h u
  | advance t => exact obeys_advance h t u

/-! ## Runs -/

/-- The threads that a run has called. -/
def called (is : List (Input τ κ)) : List τ :=
  is.filterMap fun
    | .call t _ => some t
    | .advance _ => none

theorem advance_rest_of_idle {u : τ} (t : τ) (h : s.rest u = []) : (s.advance t).rest u = [] := by
  unfold State.advance
  split
  · next a p _ hrest =>
    rcases eq_or_ne u t with rfl | hu
    · rw [h] at hrest
      cases hrest
    · exact (Function.update_of_ne hu p s.rest).trans h
  · exact h

/-- Only what is called becomes busy. -/
theorem run_rest_of_not_mem_called (is : List (Input τ κ)) {u : τ} (hu : u ∉ called is)
    (h : s.rest u = []) : (run (step program) s is).rest u = [] := by
  induction is generalizing s with
  | nil => exact h
  | cons i is ih =>
    cases i with
    | call t k =>
      obtain ⟨hne, hout⟩ : u ≠ t ∧ u ∉ called is := by simpa [called] using hu
      refine ih hout ?_
      unfold step
      dsimp only
      split
      · exact (Function.update_of_ne hne _ s.rest).trans h
      · exact h
    | advance t => exact ih (by simpa [called] using hu) (advance_rest_of_idle t h)

/-- What is left to do of some threads. -/
def remaining (ts : List τ) (s : State τ μ) : Nat := (ts.flatMap s.rest).length

theorem remaining_advance_lt {ts : List τ} (hact : s.CanAct t) (ht : t ∈ ts) :
    remaining ts (s.advance t) < remaining ts s := by
  obtain ⟨hbusy, hfree⟩ := hact
  obtain ⟨a, p, hrest⟩ := List.exists_cons_of_ne_nil hbusy
  have hless (u : τ) : ((s.advance t).rest u).length ≤ (s.rest u).length := by
    rw [State.advance_of_waitsFor hrest hfree]
    rcases eq_or_ne u t with rfl | hu
    · simp [hrest]
    · simp [hu]
  rw [remaining, remaining, List.length_flatMap, List.length_flatMap]
  refine List.sum_lt_sum _ _ (fun u _ => hless u) ⟨t, ht, ?_⟩
  rw [State.advance_of_waitsFor hrest hfree]
  simp [hrest]

/-- Threads that wait in order can be brought to their ends, and then hold nothing. -/
theorem exists_idle (h : ∀ u, ∃ held, s.Obeys rank u held) {ts : List τ}
    (hts : ∀ t, t ∉ ts → s.rest t = []) :
    ∃ order : List τ, run (step program) s (order.map .advance) = .idle := by
  induction hn : remaining ts s using Nat.strongRecOn generalizing s with
  | ind n ih =>
    by_cases hidle : ∀ t, s.rest t = []
    · refine ⟨[], ?_⟩
      obtain ⟨owner, rest⟩ := s
      have hrest : rest = fun _ => [] := funext hidle
      have howner : owner = fun _ => none := by
        funext m
        refine Option.eq_none_iff_forall_ne_some.mpr fun t ht => ?_
        obtain ⟨held, hobeys⟩ := h t
        have hmem : m ∈ held := (hobeys.mem m).mpr ht
        rw [hobeys.held_eq_nil (hidle t)] at hmem
        cases hmem
      rw [hrest, howner]
      rfl
    · obtain ⟨t, hbusy⟩ := not_forall.mp hidle
      obtain ⟨u, hact⟩ := exists_canAct h hbusy
      have hmem : u ∈ ts := by
        by_contra hout
        exact hact.1 (hts u hout)
      obtain ⟨order, horder⟩ := ih _ (hn ▸ remaining_advance_lt hact hmem)
        (fun v => obeys_advance h u v) (fun v hv => advance_rest_of_idle u (hts v hv)) rfl
      exact ⟨u :: order, horder⟩

/-- After a run that calls programs which wait in order, a busy thread always has a thread that
can act, and all threads can be brought to their ends. -/
theorem progress_of_along {is : List (Input τ κ)}
    (his : Along (step program) (fun _ i => i.InOrder rank program) .idle is) :
    (∀ t, (run (step program) .idle is).rest t ≠ [] →
      ∃ u, (run (step program) .idle is).CanAct u) ∧
      ∃ order : List τ,
        run (step program) (run (step program) .idle is) (order.map .advance) = .idle := by
  have hidle : ∀ u, ∃ held, (State.idle : State τ μ).Obeys rank u held := fun u =>
    ⟨[], fun m => by simp [State.idle], List.nodup_nil, rfl⟩
  have hobeys : ∀ u, ∃ held, (run (step program) .idle is).Obeys rank u held :=
    run_of_always (always_of_along (I := fun s => ∀ u, ∃ held, s.Obeys rank u held)
      (fun s i hs hi => obeys_step hs hi) (fun _ hs => hs) hidle his)
  have hcalled : ∀ t, t ∉ called is → (run (step program) .idle is).rest t = [] :=
    fun t ht => run_rest_of_not_mem_called is ht rfl
  exact ⟨fun t ht => exists_canAct hobeys ht, exists_idle hobeys hcalled⟩

end

end Waiting
