import Mathlib.Logic.Basic

/-!
# Loops over lists

* `scan`: a loop whose body may leave the surrounding function. The body returns a
  `ForInStep`: `done` leaves with the state it has reached, `yield` goes on to the next
  element. The loop has the same type as its body, so loops nest, and leaving an inner one
  leaves the outer one too.
* `foldl_numbered`: a loop that appends some of its elements to a list, each numbered with
  its position there.
-/

variable {σ τ α β : Type*}

/-- The loop over `as` that starts in state `s`. -/
def scan (body : σ → α → ForInStep σ) : σ → List α → ForInStep σ
  | s, [] => .yield s
  | s, a :: as =>
    match body s a with
    | .done s' => .done s'
    | .yield s' => scan body s' as

namespace ForInStep

/-- The same decision over the image of the state. -/
def map (f : σ → τ) : ForInStep σ → ForInStep τ
  | .done s => .done (f s)
  | .yield s => .yield (f s)

/-- The function was not left. -/
def isYield : ForInStep σ → Bool
  | .done _ => false
  | .yield _ => true

end ForInStep

/-- Two loops whose bodies decide alike on related states decide alike, and end in related
states. -/
theorem scan_map {body : σ → α → ForInStep σ} {body' : τ → α → ForInStep τ} {f : σ → τ}
    (h : ∀ s a, body' (f s) a = (body s a).map f) (s : σ) (as : List α) :
    scan body' (f s) as = (scan body s as).map f := by
  induction as generalizing s with
  | nil => rfl
  | cons a as ih =>
    simp only [scan, h]
    cases body s a with
    | done s' => rfl
    | yield s' => exact ih s'

/-- A loop that is not left goes on with the rest of the list. -/
theorem scan_append {body : σ → α → ForInStep σ} {s s' : σ} {as : List α} (bs : List α)
    (h : scan body s as = .yield s') : scan body s (as ++ bs) = scan body s' bs := by
  induction as generalizing s with
  | nil =>
    cases h
    rfl
  | cons a as ih =>
    simp only [List.cons_append, scan] at h ⊢
    cases hbody : body s a with
    | done t =>
      rw [hbody] at h
      cases h
    | yield t =>
      rw [hbody] at h
      exact ih h

/-- A relation that every round keeps to the state before it holds between the start and the
end of the loop. -/
theorem scan_rel {body : σ → α → ForInStep σ} {r : σ → σ → Prop} (hrefl : ∀ s, r s s)
    (htrans : ∀ {s t u}, r s t → r t u → r s u) (h : ∀ s a, r s (body s a).value) (s : σ)
    (as : List α) : r s (scan body s as).value := by
  induction as generalizing s with
  | nil => exact hrefl s
  | cons a as ih =>
    have hround := h s a
    unfold scan
    cases hbody : body s a with
    | done t =>
      rw [hbody] at hround
      exact hround
    | yield t =>
      rw [hbody] at hround
      exact htrans hround (ih t)

/-- If `P` does not hold at the start of a loop and holds at its end, there is a round in which it
came to hold. -/
theorem exists_round_of_scan {body : σ → α → ForInStep σ} {P : σ → Prop} {s : σ} {as : List α}
    (hs : ¬ P s) (h : P (scan body s as).value) :
    ∃ before a after s', as = before ++ a :: after ∧ scan body s before = .yield s' ∧
      ¬ P s' ∧ P (body s' a).value := by
  induction as generalizing s with
  | nil => exact absurd h hs
  | cons a as ih =>
    by_cases hround : P (body s a).value
    · exact ⟨[], a, as, s, rfl, rfl, hs, hround⟩
    · unfold scan at h
      cases hbody : body s a with
      | done t =>
        rw [hbody] at h hround
        exact absurd h hround
      | yield t =>
        rw [hbody] at h hround
        obtain ⟨before, b, after, s', rfl, hbefore, hs', hP⟩ := ih hround h
        refine ⟨a :: before, b, after, s', rfl, ?_, hs', hP⟩
        rw [scan, hbody]
        exact hbefore

/-- What a loop leaves in the list `items` of its state, if its body appends at most one item,
numbered with the length of the list. -/
theorem foldl_numbered (items : σ → List β) (f : α → Option β) (number : Nat → β → β)
    {body : σ → α → σ}
    (h : ∀ s a, items (body s a) = items s ++ ((f a).map (number (items s).length)).toList)
    (s : σ) (as : List α) :
    items (as.foldl body s) =
      items s ++ (as.filterMap f).mapIdx fun i => number ((items s).length + i) := by
  induction as generalizing s with
  | nil => simp
  | cons a as ih =>
    rw [List.foldl_cons, ih, h]
    cases hfa : f a with
    | none => simp [List.filterMap_cons_none hfa]
    | some b =>
      rw [List.filterMap_cons_some hfa, List.mapIdx_cons]
      simp [Nat.add_assoc, Nat.add_comm 1]

theorem exists_of_mem_numbered {f : α → Option β} {number : Nat → β → τ} {as : List α} {c : τ}
    (h : c ∈ (as.filterMap f).mapIdx number) :
    ∃ a ∈ as, ∃ b i, f a = some b ∧ number i b = c := by
  obtain ⟨i, hi, hc⟩ := List.mem_mapIdx.mp h
  obtain ⟨a, ha, hb⟩ := List.mem_filterMap.mp (List.getElem_mem hi)
  exact ⟨a, ha, _, i, hb, hc⟩

theorem numbered_mem {f : α → Option β} {a : α} {b : β} {as : List α} (number : Nat → β → τ)
    (ha : a ∈ as) (hb : f a = some b) : ∃ i, number i b ∈ (as.filterMap f).mapIdx number := by
  obtain ⟨i, hi, hget⟩ := List.getElem_of_mem (List.mem_filterMap.mpr ⟨a, ha, hb⟩)
  exact ⟨i, List.mem_mapIdx.mpr ⟨i, hi, by rw [hget]⟩⟩

/-- Elements that are written and read back up to their numbers are numbered as before. -/
theorem mapIdx_filterMap_map {f : α → Option β} {write : β → α} {number : Nat → β → τ}
    {bs : List β} (h : ∀ b ∈ bs, ∃ b', f (write b) = some b' ∧ ∀ i, number i b' = number i b) :
    ((bs.map write).filterMap f).mapIdx number = bs.mapIdx number := by
  induction bs generalizing number with
  | nil => rfl
  | cons b bs ih =>
    obtain ⟨b', hread, hnumber⟩ := h b List.mem_cons_self
    rw [List.map_cons, List.filterMap_cons_some hread, List.mapIdx_cons, List.mapIdx_cons,
      hnumber, ih]
    intro c hc
    obtain ⟨c', hread', hnumber'⟩ := h c (List.mem_cons_of_mem b hc)
    exact ⟨c', hread', fun i => hnumber' (i + 1)⟩
