import Mathlib.Logic.Function.Basic
import Mathlib.Tactic.SplitIfs
import Iec104South.Lib.Lockset
import Iec104South.Lib.Reactive

/-!
# A pointer that threads share

Threads read, write and dereference one pointer, in any interleaving. A mutex is there to protect
it: the pointer is written under it, but a thread may look at the pointer without it. A thread
dereferences the pointer after it has found it not null.

* `Checks`: the programs of such threads.
* `always_valid_iff`: a thread never comes to dereference null if and only if no other thread
  clears the pointer between its look and its use.
* `always_valid_of_owner`: a thread that owns the mutex never does, whatever the others do.
* `always_valid_iff_of_keeps`, `always_valid_of_keeps`: the same if only one thread clears the
  pointer.
-/

namespace SharedPointer

open Reactive
open Lockset (Input)

variable {τ α : Type*} {κ : τ → Type*}

/-- What a thread does next; what it does after a look at the pointer depends on what it sees. -/
inductive Program (α : Type*) where
  | done
  | lock (next : Program α)
  | unlock (next : Program α)
  | read (next : Option α → Program α)
  /-- dereference the pointer -/
  | use (next : Program α)
  | write (value : Option α) (next : Program α)

/-- The program dereferences the pointer next. -/
def Program.uses : Program α → Bool
  | .use _ => true
  | _ => false

/-- The owner of the mutex, the pointer, and what is left of the program of each thread. -/
structure State (τ α : Type*) where
  owner : Option τ
  pointer : Option α
  rest : τ → Program α

namespace State

def idle : State τ α where
  owner := none
  pointer := none
  rest := fun _ => .done

/-- The thread does not dereference null next. -/
def Valid (t : τ) (s : State τ α) : Prop := (s.rest t).uses = true → s.pointer.isSome = true

/-- The thread that clears the pointer with this input. -/
def clears (s : State τ α) : Input τ κ → Option τ
  | .call _ _ => none
  | .advance t =>
    match s.rest t with
    | .write none _ => some t
    | _ => none

variable [DecidableEq τ]

/-- The thread goes on with `next`. -/
def moves (t : τ) (next : Program α) (s : State τ α) : State τ α :=
  { s with rest := Function.update s.rest t next }

/-- The next action of the thread. -/
def advance (t : τ) (s : State τ α) : State τ α :=
  match s.rest t with
  | .done => s
  | .lock p => if s.owner.isNone then { s with owner := some t }.moves t p else s
  | .unlock p => { s with owner := none }.moves t p
  | .read f => s.moves t (f s.pointer)
  | .use p => s.moves t p
  | .write value p => { s with pointer := value }.moves t p

end State

/-- One step. A thread that is busy starts no program. -/
def step [DecidableEq τ] (program : ∀ t, κ t → Program α) :
    Machine (State τ α) (Input τ κ) Empty
  | s, .call t k =>
    match s.rest t with
    | .done => (s.moves t (program t k), [])
    | _ => (s, [])
  | s, .advance t => (s.advance t, [])

/-- A program, from a point where it holds the mutex or not and has found the pointer or not: it
locks and unlocks in turn, writes under the mutex, and dereferences what it has found since it
last locked or unlocked. -/
def Checks : Bool → Bool → Program α → Prop
  | holds, _, .done => holds = false
  | holds, _, .lock p => holds = false ∧ Checks true false p
  | holds, _, .unlock p => holds = true ∧ Checks false false p
  | holds, _, .read f => ∀ value, Checks holds value.isSome (f value)
  | holds, found, .use p => found = true ∧ Checks holds found p
  | holds, _, .write value p => holds = true ∧ Checks holds value.isSome p

/-- A program that does not clear the pointer. -/
def Program.Keeps : Program α → Prop
  | .done => True
  | .lock p => p.Keeps
  | .unlock p => p.Keeps
  | .read f => ∀ value, (f value).Keeps
  | .use p => p.Keeps
  | .write value p => value.isSome = true ∧ p.Keeps

/-- Only what was found is dereferenced. -/
theorem Checks.found {holds found : Bool} {p : Program α} (h : Checks holds found p)
    (hp : p.uses = true) : found = true := by
  cases p with
  | use p => exact h.1
  | _ => cases hp

/-! ## Steps -/

section

variable [DecidableEq τ] {s : State τ α} {t : τ}

/-- What is left of the program checks what it uses. -/
def State.Obeys (s : State τ α) (t : τ) : Prop :=
  ∃ found, Checks (decide (s.owner = some t)) found (s.rest t)

/-- The thread `t` goes on, and the others see it at the mutex and at the pointer only. -/
theorem State.Obeys.moves (h : ∀ u, s.Obeys u) {next : Program α} {owner : Option τ}
    {pointer : Option α} (found : Bool) (hchecks : Checks (decide (owner = some t)) found next)
    (howner : ∀ u, u ≠ t → (owner = some u ↔ s.owner = some u)) (u : τ) :
    ({ s with owner := owner, pointer := pointer }.moves t next).Obeys u := by
  rcases eq_or_ne u t with rfl | hu
  · refine ⟨found, ?_⟩
    simp only [State.moves, Function.update_self]
    exact hchecks
  · obtain ⟨found', hchecks'⟩ := h u
    have hholds : decide (owner = some u) = decide (s.owner = some u) :=
      decide_eq_decide.mpr (howner u hu)
    refine ⟨found', ?_⟩
    simp only [State.moves, Function.update_of_ne hu]
    exact hholds ▸ hchecks'

theorem State.Obeys.advance (h : ∀ u, s.Obeys u) (t u : τ) : (s.advance t).Obeys u := by
  obtain ⟨found, hchecks⟩ := h t
  unfold State.advance
  cases hrest : s.rest t with
  | done => exact h u
  | lock p =>
    rw [hrest] at hchecks
    dsimp only
    split_ifs with hfree
    · refine .moves h false (by simpa using hchecks.2) (fun u hu => ?_) u
      rw [Option.isNone_iff_eq_none.mp hfree]
      exact iff_of_false (fun heq => hu (Option.some.inj heq).symm) (by simp)
    · exact h u
  | unlock p =>
    rw [hrest] at hchecks
    have howner : s.owner = some t := of_decide_eq_true hchecks.1
    refine .moves h false (by simpa using hchecks.2) (fun u hu => ?_) u
    rw [howner]
    exact iff_of_false (by simp) fun heq => hu (Option.some.inj heq).symm
  | read f =>
    rw [hrest] at hchecks
    exact .moves h _ (hchecks s.pointer) (fun _ _ => Iff.rfl) u
  | use p =>
    rw [hrest] at hchecks
    exact .moves h _ hchecks.2 (fun _ _ => Iff.rfl) u
  | write value p =>
    rw [hrest] at hchecks
    exact .moves h _ hchecks.2 (fun _ _ => Iff.rfl) u

variable {program : ∀ t, κ t → Program α}

/-- Programs that check what they use keep all threads obedient. -/
theorem step_obeys (hprogram : ∀ t k, Checks false false (program t k)) (h : ∀ u, s.Obeys u)
    (i : Input τ κ) (u : τ) : (step program s i).1.Obeys u := by
  cases i with
  | call t k =>
    unfold step
    dsimp only
    split
    · rename_i hidle
      obtain ⟨found, hchecks⟩ := h t
      rw [hidle] at hchecks
      have hfree : decide (s.owner = some t) = false := hchecks
      refine .moves h false ?_ (fun _ _ => Iff.rfl) u
      rw [hfree]
      exact hprogram t k
    · exact h u
  | advance t => exact .advance h t u

/-- What a thread finds with its own action. -/
theorem State.Valid.advance_self (hobeys : s.Obeys t) (h : s.Valid t) : (s.advance t).Valid t := by
  obtain ⟨found, hchecks⟩ := hobeys
  unfold State.Valid State.advance at *
  cases hrest : s.rest t with
  | done => simpa [hrest] using h
  | lock p =>
    rw [hrest] at hchecks
    dsimp only
    split_ifs
    · intro huses
      cases hchecks.2.found (by simpa [State.moves] using huses)
    · exact h
  | unlock p =>
    rw [hrest] at hchecks
    intro huses
    cases hchecks.2.found (by simpa [State.moves] using huses)
  | read f =>
    rw [hrest] at hchecks
    intro huses
    exact (hchecks s.pointer).found (by simpa [State.moves] using huses)
  | use p => exact fun _ => h (by rw [hrest]; rfl)
  | write value p =>
    rw [hrest] at hchecks
    intro huses
    exact hchecks.2.found (by simpa [State.moves] using huses)

/-- The actions of the others leave a thread where it is. -/
theorem advance_rest {u : τ} (hu : u ≠ t) : (s.advance u).rest t = s.rest t := by
  unfold State.advance
  split <;> try split_ifs
  all_goals simp [State.moves, hu.symm]

/-- A pointer that is there stays until a thread clears it. -/
theorem advance_pointer {u : τ} (hsome : s.pointer.isSome = true)
    (hkeeps : ∀ p, s.rest u ≠ .write none p) : (s.advance u).pointer.isSome = true := by
  unfold State.advance
  cases hrest : s.rest u with
  | write value p =>
    cases value with
    | none => exact absurd hrest (hkeeps p)
    | some a => rfl
  | lock p =>
    dsimp only
    split_ifs
    · exact hsome
    · exact hsome
  | _ => exact hsome

/-- One step keeps the next use of `t` valid, unless another thread clears the pointer before
it. -/
theorem step_valid (hprogram : ∀ t k, Checks false false (program t k)) (hobeys : s.Obeys t)
    (h : s.Valid t) {i : Input τ κ}
    (hi : ∀ u, u ≠ t → s.clears i = some u → (s.rest t).uses = false) :
    (step program s i).1.Valid t := by
  cases i with
  | call u k =>
    unfold step
    dsimp only
    split
    · intro huses
      rcases eq_or_ne u t with rfl | hu
      · cases (hprogram u k).found (by simpa [State.moves] using huses)
      · exact h (by simpa [State.moves, hu.symm] using huses)
    · exact h
  | advance u =>
    rcases eq_or_ne u t with rfl | hu
    · exact h.advance_self hobeys
    · intro huses
      have huses : (s.rest t).uses = true := advance_rest hu ▸ huses
      refine advance_pointer (h huses) fun p hp => ?_
      cases huses.symm.trans (hi u hu (by simp [State.clears, hp]))

omit [DecidableEq τ] in
theorem exists_write_of_clears {i : Input τ κ} {u : τ} (hclears : s.clears i = some u) :
    ∃ p, s.rest u = .write none p ∧ i = .advance u := by
  cases i with
  | call v k => cases hclears
  | advance v =>
    unfold State.clears at hclears
    dsimp only at hclears
    split at hclears
    · rename_i p hrest
      cases hclears
      exact ⟨p, hrest, rfl⟩
    · cases hclears

/-- A thread that clears the pointer before the use of another. -/
theorem step_not_valid {u : τ} (hu : u ≠ t) {i : Input τ κ} (hclears : s.clears i = some u)
    (huses : (s.rest t).uses = true) : ¬(step program s i).1.Valid t := by
  intro h
  obtain ⟨p, hrest, rfl⟩ := exists_write_of_clears hclears
  have hnext : ((s.advance u).rest t).uses = true := by
    rw [advance_rest hu]
    exact huses
  have hsome := h hnext
  simp [step, State.advance, hrest, State.moves] at hsome

omit [DecidableEq τ] in
theorem uses_of_clears {i : Input τ κ} {u : τ} (hclears : s.clears i = some u) :
    (s.rest u).uses = false := by
  obtain ⟨p, hrest, -⟩ := exists_write_of_clears hclears
  rw [hrest]
  rfl

theorem clears_owner {u : τ} (hobeys : s.Obeys u) {i : Input τ κ}
    (hclears : s.clears i = some u) : s.owner = some u := by
  obtain ⟨p, hrest, -⟩ := exists_write_of_clears hclears
  obtain ⟨found, hchecks⟩ := hobeys
  rw [hrest] at hchecks
  exact of_decide_eq_true hchecks.1

/-- A thread that comes to own the mutex locks it. -/
theorem lock_of_owner {i : Input τ κ} (hnot : s.owner ≠ some t)
    (howner : (step program s i).1.owner = some t) : i = .advance t ∧ ∃ p, s.rest t = .lock p := by
  cases i with
  | call u k =>
    unfold step at howner
    dsimp only at howner
    split at howner
    · exact absurd howner hnot
    · exact absurd howner hnot
  | advance u =>
    change (s.advance u).owner = some t at howner
    unfold State.advance at howner
    cases hrest : s.rest u with
    | lock p =>
      rw [hrest] at howner
      dsimp only at howner
      split_ifs at howner
      · obtain rfl : u = t := Option.some.inj howner
        exact ⟨rfl, p, hrest⟩
      · exact absurd howner hnot
    | unlock p =>
      rw [hrest] at howner
      cases howner
    | _ =>
      rw [hrest] at howner
      exact absurd howner hnot

/-- One step keeps the next use of a thread that owns the mutex valid: another thread does not
clear the pointer then. -/
theorem step_owner_valid (hprogram : ∀ t k, Checks false false (program t k))
    (hobeys : ∀ u, s.Obeys u) (h : s.owner = some t → s.Valid t) (i : Input τ κ)
    (howner : (step program s i).1.owner = some t) : (step program s i).1.Valid t := by
  by_cases hbefore : s.owner = some t
  · refine step_valid hprogram (hobeys t) (h hbefore) fun u hu hclears => ?_
    have hu' := clears_owner (hobeys u) hclears
    exact absurd (Option.some.inj (hu'.symm.trans hbefore)) hu
  · obtain ⟨rfl, p, hrest⟩ := lock_of_owner hbefore howner
    have hvalid : s.Valid t := fun huses => by
      rw [hrest] at huses
      cases huses
    exact hvalid.advance_self (hobeys t)

/-- All threads but `w` keep the pointer. -/
def State.OnlyClears (w : τ) (s : State τ α) : Prop := ∀ t, t ≠ w → (s.rest t).Keeps

variable {w : τ}

theorem State.OnlyClears.moves (h : s.OnlyClears w) {next : Program α} {owner : Option τ}
    {pointer : Option α} (hnext : t ≠ w → next.Keeps) :
    ({ s with owner := owner, pointer := pointer }.moves t next).OnlyClears w := by
  intro u hu
  rcases eq_or_ne u t with rfl | hne
  · simpa [State.moves] using hnext hu
  · simpa [State.moves, hne] using h u hu

theorem State.OnlyClears.advance (h : s.OnlyClears w) (t : τ) : (s.advance t).OnlyClears w := by
  have hrest' := h t
  unfold State.advance
  cases hrest : s.rest t with
  | done => exact h
  | lock p =>
    rw [hrest] at hrest'
    dsimp only
    split_ifs
    · exact h.moves hrest'
    · exact h
  | unlock p =>
    rw [hrest] at hrest'
    exact h.moves hrest'
  | read f =>
    rw [hrest] at hrest'
    exact h.moves fun ht => hrest' ht s.pointer
  | use p =>
    rw [hrest] at hrest'
    exact h.moves hrest'
  | write value p =>
    rw [hrest] at hrest'
    exact h.moves fun ht => (hrest' ht).2

theorem step_onlyClears (hkeeps : ∀ t k, t ≠ w → (program t k).Keeps) (h : s.OnlyClears w)
    (i : Input τ κ) : (step program s i).1.OnlyClears w := by
  cases i with
  | call t k =>
    unfold step
    dsimp only
    split
    · exact h.moves (hkeeps t k)
    · exact h
  | advance t => exact h.advance t

omit [DecidableEq τ] in
theorem State.OnlyClears.eq_of_clears (h : s.OnlyClears w) {i : Input τ κ} {u : τ}
    (hclears : s.clears i = some u) : u = w := by
  by_contra hne
  obtain ⟨p, hrest, -⟩ := exists_write_of_clears hclears
  have hkeeps := h u hne
  rw [hrest] at hkeeps
  cases hkeeps.1

/-! ## Runs -/

theorem idle_obeys (t : τ) : (State.idle : State τ α).Obeys t :=
  ⟨false, by simp [State.idle, Checks]⟩

omit [DecidableEq τ] in
theorem idle_valid : (State.idle : State τ α).Valid t := fun hfalse => by cases hfalse

/-- A thread never comes to dereference null if and only if no other thread clears the pointer
when it is about to dereference it. -/
theorem always_valid_iff (hprogram : ∀ t k, Checks false false (program t k)) (t : τ)
    (is : List (Input τ κ)) :
    Always (step program) (·.Valid t) .idle is ↔
      Along (step program) (fun s i => ∀ u, u ≠ t → s.clears i = some u → (s.rest t).uses = false)
        .idle is := by
  refine always_iff_along_of_guarded (I := fun s => (∀ u, State.Obeys s u) ∧ s.Valid t)
    (fun s i hs hi => ?_) (fun s hs => hs.2) (fun s i hs hi => ?_) ⟨idle_obeys, idle_valid⟩
  · exact ⟨step_obeys hprogram hs.1 i, step_valid hprogram (hs.1 t) hs.2 hi⟩
  · push Not at hi
    obtain ⟨u, hu, hclears, huses⟩ := hi
    exact step_not_valid hu hclears (by simpa using huses)

/-- If only `w` clears the pointer, a thread comes to dereference null only by that. -/
theorem always_valid_iff_of_keeps (hprogram : ∀ t k, Checks false false (program t k))
    (hkeeps : ∀ t k, t ≠ w → (program t k).Keeps) (t : τ) (is : List (Input τ κ)) :
    Always (step program) (·.Valid t) .idle is ↔
      Along (step program) (fun s i => s.clears i = some w → (s.rest t).uses = false)
        .idle is := by
  rw [always_valid_iff hprogram]
  refine along_congr_of_invariant (I := (·.OnlyClears w))
    (fun s i hs => step_onlyClears hkeeps hs i) (fun s i hs => ?_) fun _ _ => trivial
  constructor
  · intro h hclears
    rcases eq_or_ne w t with rfl | ht
    · exact uses_of_clears hclears
    · exact h w ht hclears
  · intro h u _ hclears
    obtain rfl := hs.eq_of_clears hclears
    exact h hclears

/-- If only `w` clears the pointer, `w` itself never comes to dereference null. -/
theorem always_valid_of_keeps (hprogram : ∀ t k, Checks false false (program t k))
    (hkeeps : ∀ t k, t ≠ w → (program t k).Keeps) (is : List (Input τ κ)) :
    Always (step program) (·.Valid w) .idle is := by
  refine (always_valid_iff_of_keeps hprogram hkeeps w is).mpr ?_
  exact along_of_forall_step (I := fun _ => True) (fun _ _ _ => trivial)
    (fun s i _ => fun hclears => uses_of_clears hclears) trivial

/-- In no interleaving does a thread that owns the mutex come to dereference null. -/
theorem always_valid_of_owner (hprogram : ∀ t k, Checks false false (program t k))
    (is : List (Input τ κ)) :
    Always (step program) (fun s => ∀ t, s.owner = some t → s.Valid t) .idle is := by
  refine always_of_invariant
    (I := fun s => (∀ u, State.Obeys s u) ∧ ∀ t, s.owner = some t → s.Valid t)
    (fun s i hs => ?_) (fun s hs => hs.2) ⟨idle_obeys, fun _ hfalse => by cases hfalse⟩
  exact ⟨step_obeys hprogram hs.1 i, fun t => step_owner_valid hprogram hs.1 (hs.2 t) i⟩

end

end SharedPointer
