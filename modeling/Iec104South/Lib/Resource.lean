import Mathlib.Data.List.Count
import Iec104South.Lib.Reactive

/-!
# Resources that are acquired, used and released

A sequence of operations is disciplined when every use and every release is of a resource that
is held at that point, and no resource that is held is acquired again. A use may be of a null
pointer, which is never held.

* `count_acquire_add`: each resource was released as often as it was acquired, but for what was
  held before and what is held after.
* `disciplined_trace`: a machine is disciplined if each of its steps is.
-/

namespace Resource

open Reactive

variable {α : Type*}

inductive Op (α : Type*) where
  | acquire (a : α)
  | use (a : Option α)
  | release (a : α)
deriving DecidableEq, Repr

variable [DecidableEq α]

namespace Op

/-- What is held after the operation. -/
def next (held : List α) : Op α → List α
  | acquire a => a :: held
  | use _ => held
  | release a => held.erase a

def Allowed (held : List α) : Op α → Prop
  | acquire a => a ∉ held
  | use a => ∃ b ∈ held, a = some b
  | release a => a ∈ held

instance (held : List α) : ∀ op : Op α, Decidable (op.Allowed held)
  | acquire a => inferInstanceAs (Decidable (a ∉ held))
  | use a => inferInstanceAs (Decidable (∃ b ∈ held, a = some b))
  | release a => inferInstanceAs (Decidable (a ∈ held))

end Op

/-- What is held after the operations. -/
def after (held : List α) (ops : List (Op α)) : List α := ops.foldl Op.next held

/-- Each operation is allowed when it is its turn. -/
def Disciplined : List α → List (Op α) → Prop
  | _, [] => True
  | held, op :: ops => op.Allowed held ∧ Disciplined (op.next held) ops

instance instDecidableDisciplined : ∀ (held : List α) (ops : List (Op α)),
    Decidable (Disciplined held ops)
  | _, [] => inferInstanceAs (Decidable True)
  | held, op :: ops =>
    have := instDecidableDisciplined (op.next held) ops
    inferInstanceAs (Decidable (op.Allowed held ∧ Disciplined (op.next held) ops))

@[simp] theorem after_nil (held : List α) : after held [] = held := rfl

@[simp] theorem after_cons (held : List α) (op : Op α) (ops : List (Op α)) :
    after held (op :: ops) = after (op.next held) ops := rfl

@[simp] theorem after_append (held : List α) (ops ops' : List (Op α)) :
    after held (ops ++ ops') = after (after held ops) ops' := List.foldl_append ..

theorem disciplined_append {held : List α} {ops ops' : List (Op α)} :
    Disciplined held (ops ++ ops') ↔
      Disciplined held ops ∧ Disciplined (after held ops) ops' := by
  induction ops generalizing held with
  | nil => exact (and_iff_right trivial).symm
  | cons op ops ih => exact (and_congr_right fun _ => ih).trans and_assoc.symm

/-- Uses of what is held are disciplined, and change nothing. -/
theorem disciplined_of_uses {held : List α} {ops : List (Op α)}
    (h : ∀ op ∈ ops, ∃ a ∈ held, op = .use (some a)) :
    Disciplined held ops ∧ after held ops = held := by
  induction ops with
  | nil => exact ⟨trivial, rfl⟩
  | cons op ops ih =>
    obtain ⟨a, ha, rfl⟩ := h op List.mem_cons_self
    obtain ⟨hrest, hafter⟩ := ih fun op hop => h op (List.mem_cons_of_mem _ hop)
    exact ⟨⟨⟨a, ha, rfl⟩, hrest⟩, hafter⟩

/-- Each resource was released as often as it was acquired, but for what was held before and
what is held after. -/
theorem count_acquire_add {held : List α} {ops : List (Op α)} (h : Disciplined held ops) (a : α) :
    ops.count (.acquire a) + held.count a = ops.count (.release a) + (after held ops).count a := by
  induction ops generalizing held with
  | nil => simp
  | cons op ops ih =>
    have hrest := ih h.2
    rw [after_cons]
    cases op with
    | acquire b =>
      have hheld : (Op.next held (.acquire b)).count a = held.count a + if b = a then 1 else 0 := by
        simp [Op.next, List.count_cons]
      simp only [List.count_cons, beq_iff_eq, Op.acquire.injEq, reduceCtorEq, if_false]
      omega
    | use b => simpa [List.count_cons, Op.next] using hrest
    | release b =>
      have hheld : (Op.next held (.release b)).count a + (if b = a then 1 else 0) =
          held.count a := by
        rcases eq_or_ne b a with rfl | hne
        · have hpos : 0 < held.count b := List.count_pos_iff.mpr h.1
          rw [Op.next, List.count_erase_self, if_pos rfl]
          omega
        · rw [Op.next, List.count_erase_of_ne hne.symm, if_neg hne, Nat.add_zero]
      simp only [List.count_cons, beq_iff_eq, Op.release.injEq, reduceCtorEq, if_false]
      omega

variable {σ ι ο : Type*} {m : Machine σ ι ο}

/-- A machine is disciplined if each of its steps is. `held` is what the machine holds in a
state, and `op?` the operation that an output is. -/
theorem disciplined_trace (op? : ο → Option (Op α)) (held : σ → List α) {I : σ → Prop}
    (hstep : ∀ s i, I s → I (m s i).1)
    (hops : ∀ s i, I s → Disciplined (held s) ((m s i).2.filterMap op?) ∧
      after (held s) ((m s i).2.filterMap op?) = held (m s i).1) {s : σ} (hs : I s) (is : List ι) :
    Disciplined (held s) ((trace m s is).filterMap op?) ∧
      after (held s) ((trace m s is).filterMap op?) = held (run m s is) := by
  induction is generalizing s with
  | nil => exact ⟨trivial, rfl⟩
  | cons i is ih =>
    obtain ⟨hnow, hnext⟩ := hops s i hs
    obtain ⟨hrest, hend⟩ := ih (hstep s i hs)
    rw [trace, List.filterMap_append]
    refine ⟨disciplined_append.mpr ⟨hnow, ?_⟩, ?_⟩
    · rw [hnext]
      exact hrest
    · rw [after_append, hnext]
      exact hend

end Resource
