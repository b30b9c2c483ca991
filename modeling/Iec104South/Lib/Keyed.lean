import Mathlib.Data.List.Nodup

/-!
# Lists of objects with an identity

Code that finds an entry of a list and later edits it by identity does, as long as
identities are distinct, what an edit in place of the find does.

* `filter_key_ne`: erasing the found entry by its identity erases the first match.
* `map_key_eq`: rewriting the found entry by its identity rewrites the first match.
* `foldl_filter_key`: erasing the matches one after the other keeps the rest.
* `filter_updateFirst`: among the matches, the edit is one of the head.
-/

namespace Keyed

variable {α β κ : Type*}

/-- Apply `f` to the first element that satisfies `p`. -/
def updateFirst (p : α → Bool) (f : α → α) : List α → List α
  | [] => []
  | x :: l => if p x then f x :: l else x :: updateFirst p f l

theorem updateFirst_of_forall_not {p : α → Bool} {f : α → α} {l : List α}
    (h : ∀ x ∈ l, ¬ p x) : updateFirst p f l = l := by
  induction l with
  | nil => rfl
  | cons x l ih =>
    rw [updateFirst, if_neg (h x List.mem_cons_self),
      ih fun y hy => h y (List.mem_cons_of_mem x hy)]

/-- A projection that `p` and `f` factor through commutes with the update. -/
theorem map_updateFirst {g : α → β} {p : α → Bool} {q : β → Bool} {f : α → α} {f' : β → β}
    (hp : ∀ x, p x = q (g x)) (hf : ∀ x, g (f x) = f' (g x)) (l : List α) :
    (updateFirst p f l).map g = updateFirst q f' (l.map g) := by
  induction l with
  | nil => rfl
  | cons x l ih =>
    simp only [updateFirst, List.map_cons, hp x]
    split_ifs
    · rw [List.map_cons, hf]
    · rw [List.map_cons, ih]

/-- A projection that `p` factors through commutes with the erasure. -/
theorem map_eraseP {g : α → β} {p : α → Bool} {q : β → Bool} (hp : ∀ x, p x = q (g x))
    (l : List α) : (l.eraseP p).map g = (l.map g).eraseP q := by
  rw [List.eraseP_map]
  congr 2
  exact funext hp

section Filter

variable {p q : α → Bool} {f : α → α}

/-- The update edits the head of the elements it is made for. -/
theorem filter_updateFirst (hf : ∀ x, p x → p (f x)) (l : List α) :
    (updateFirst p f l).filter p = (l.filter p).modifyHead f := by
  induction l with
  | nil => rfl
  | cons x l ih =>
    cases hpx : p x with
    | true => simp [updateFirst, hpx, hf x hpx]
    | false => simp [updateFirst, hpx, ih]

/-- The update leaves the elements alone that it does not look for. -/
theorem filter_updateFirst_of_disjoint (h : ∀ x, p x → ¬q x ∧ ¬q (f x)) (l : List α) :
    (updateFirst p f l).filter q = l.filter q := by
  induction l with
  | nil => rfl
  | cons x l ih =>
    rw [updateFirst]
    split_ifs with hpx
    · rw [List.filter_cons_of_neg (h x hpx).2, List.filter_cons_of_neg (h x hpx).1]
    · rw [List.filter_cons, List.filter_cons, ih]

/-- The erasure leaves the elements alone that it does not look for. -/
theorem filter_eraseP_of_disjoint (h : ∀ x, p x → ¬q x) (l : List α) :
    (l.eraseP p).filter q = l.filter q := by
  induction l with
  | nil => rfl
  | cons x l ih =>
    rw [List.eraseP_cons]
    cases hpx : p x with
    | true => rw [cond_true, List.filter_cons_of_neg (h x hpx)]
    | false => rw [cond_false, List.filter_cons, List.filter_cons, ih]

end Filter

section Identity

variable [DecidableEq κ] {key : α → κ} {p : α → Bool} {l : List α} {x : α}

/-- Erasing the found entry by its identity erases the first match. -/
theorem filter_key_ne (hl : (l.map key).Nodup) (hx : l.find? p = some x) :
    l.filter (key · ≠ key x) = l.eraseP p := by
  induction l with
  | nil => cases hx
  | cons y l ih =>
    obtain ⟨hy, hrest⟩ := List.nodup_cons.mp hl
    rw [List.find?_cons] at hx
    cases hpy : p y with
    | true =>
      obtain rfl : y = x := by simpa [hpy] using hx
      have hall : ∀ z ∈ l, key z ≠ key y := fun z hz hkey =>
        hy (hkey ▸ List.mem_map_of_mem hz)
      rw [List.eraseP_cons_of_pos hpy, List.filter_cons_of_neg (by simp)]
      exact List.filter_eq_self.mpr fun z hz => by simpa using hall z hz
    | false =>
      have hfound : l.find? p = some x := by simpa [hpy] using hx
      have hne : key y ≠ key x := fun hkey =>
        hy (hkey ▸ List.mem_map_of_mem (List.mem_of_find?_eq_some hfound))
      rw [List.eraseP_cons_of_neg (by simp [hpy]), List.filter_cons_of_pos (by simpa using hne),
        ih hrest hfound]

/-- Rewriting the found entry by its identity rewrites the first match. -/
theorem map_key_eq (hl : (l.map key).Nodup) (hx : l.find? p = some x) (f : α → α) :
    l.map (fun y => if key y = key x then f y else y) = updateFirst p f l := by
  induction l with
  | nil => cases hx
  | cons y l ih =>
    obtain ⟨hy, hrest⟩ := List.nodup_cons.mp hl
    rw [List.find?_cons] at hx
    cases hpy : p y with
    | true =>
      obtain rfl : y = x := by simpa [hpy] using hx
      rw [List.map_cons, if_pos rfl, updateFirst, if_pos hpy]
      congr 1
      refine (List.map_congr_left fun z hz => ?_).trans (List.map_id l)
      have hne : key z ≠ key y := fun hkey => hy (hkey ▸ List.mem_map_of_mem hz)
      exact if_neg hne
    | false =>
      have hfound : l.find? p = some x := by simpa [hpy] using hx
      have hne : key y ≠ key x := fun hkey =>
        hy (hkey ▸ List.mem_map_of_mem (List.mem_of_find?_eq_some hfound))
      rw [List.map_cons, if_neg hne, updateFirst, if_neg (by simp [hpy]), ih hrest hfound]

/-- Erasing by identity one entry after the other. -/
theorem foldl_filter_key_ne (xs l : List α) :
    xs.foldl (fun l x => l.filter (key · ≠ key x)) l = l.filter (key · ∉ xs.map key) := by
  induction xs generalizing l with
  | nil => simp
  | cons x xs ih =>
    rw [List.foldl_cons, ih, List.filter_filter]
    refine List.filter_congr fun y _ => ?_
    rw [List.map_cons, ← Bool.decide_and, decide_eq_decide, List.mem_cons, not_or, and_comm]

/-- Erasing the matches of `q` one after the other, each by its identity, keeps the rest. -/
theorem foldl_filter_key (hl : (l.map key).Nodup) (q : α → Bool) :
    (l.filter q).foldl (fun l x => l.filter (key · ≠ key x)) l = l.filter (! q ·) := by
  rw [foldl_filter_key_ne]
  refine List.filter_congr fun y hy => ?_
  have hmatch : key y ∈ (l.filter q).map key ↔ q y := by
    constructor
    · rintro hkey
      obtain ⟨z, hz, hzy⟩ := List.mem_map.mp hkey
      obtain ⟨hzl, hqz⟩ := List.mem_filter.mp hz
      rwa [List.inj_on_of_nodup_map hl hzl hy hzy] at hqz
    · exact fun hq => List.mem_map_of_mem (List.mem_filter.mpr ⟨hy, hq⟩)
  cases hq : q y <;> simp_all

end Identity

end Keyed
