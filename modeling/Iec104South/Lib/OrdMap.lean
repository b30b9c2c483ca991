import Mathlib.Order.Basic
import Mathlib.Order.Defs.LinearOrder
import Mathlib.Order.Lattice
import Mathlib.Data.List.Basic
import Mathlib.Data.List.Induction
import Mathlib.Data.List.Nodup
import Mathlib.Data.List.Pairwise

/-!
# Ordered maps

A map over a linearly ordered key type, kept as the list of its entries in key order.
The order is a field, so an unsorted map cannot be built, and iterating a map is
reading `entries` from left to right.

* `find?`, `insert`, `touch`: lookup, store, and the lookup that creates a missing
  entry with a default value.
* `ofList`, `inverse`: the map of a list of entries, and the map from the values back to the
  keys; `find?_inverse_eq_some` says which of several keys it keeps.
* `flatMap_insert`: a left-to-right scan does not see an entry whose contribution did
  not change. It is what makes `touch` invisible to a scan that skips defaults.
-/

variable {κ ν β : Type*}

/-- A map as the list of its entries in strictly increasing key order. -/
structure OrdMap (κ ν : Type*) [LinearOrder κ] where
  entries : List (κ × ν)
  sorted : entries.Pairwise fun a b => a.1 < b.1

namespace OrdMap

variable [LinearOrder κ]

/-! ## Sorted entry lists -/

/-- Search in key order: a larger key ends the search. -/
def findEntry (k : κ) : List (κ × ν) → Option ν
  | [] => none
  | e :: l => if k < e.1 then none else if k = e.1 then some e.2 else findEntry k l

/-- Store in key order, replacing the entry of the same key. -/
def insertEntry (k : κ) (v : ν) : List (κ × ν) → List (κ × ν)
  | [] => [(k, v)]
  | e :: l =>
    if k < e.1 then (k, v) :: e :: l
    else if k = e.1 then (k, v) :: l
    else e :: insertEntry k v l

theorem mem_insertEntry {k : κ} {v : ν} {l : List (κ × ν)} {e : κ × ν}
    (h : e ∈ insertEntry k v l) : e = (k, v) ∨ e ∈ l := by
  induction l with
  | nil => exact Or.inl (by simpa [insertEntry] using h)
  | cons x l ih =>
    simp only [insertEntry] at h
    split_ifs at h with hlt heq
    · exact (List.mem_cons.mp h).imp id id
    · rcases List.mem_cons.mp h with h | h
      · exact Or.inl h
      · exact Or.inr (List.mem_cons_of_mem _ h)
    · rcases List.mem_cons.mp h with rfl | h
      · exact Or.inr List.mem_cons_self
      · exact (ih h).imp id (List.mem_cons_of_mem _)

theorem sorted_insertEntry {k : κ} {v : ν} {l : List (κ × ν)}
    (h : l.Pairwise fun a b => a.1 < b.1) :
    (insertEntry k v l).Pairwise fun a b => a.1 < b.1 := by
  induction l with
  | nil => exact List.pairwise_singleton _ _
  | cons x l ih =>
    obtain ⟨hx, hl⟩ := List.pairwise_cons.mp h
    simp only [insertEntry]
    split_ifs with hlt heq
    · refine List.pairwise_cons.mpr ⟨fun e he => ?_, h⟩
      rcases List.mem_cons.mp he with rfl | he
      · exact hlt
      · exact hlt.trans (hx e he)
    · exact List.pairwise_cons.mpr ⟨fun e he => heq ▸ hx e he, hl⟩
    · refine List.pairwise_cons.mpr ⟨fun e he => ?_, ih hl⟩
      rcases mem_insertEntry he with rfl | he
      · exact lt_of_le_of_ne (not_lt.mp hlt) (Ne.symm heq)
      · exact hx e he

theorem findEntry_insertEntry_self (k : κ) (v : ν) (l : List (κ × ν)) :
    findEntry k (insertEntry k v l) = some v := by
  induction l with
  | nil => simp [insertEntry, findEntry]
  | cons x l ih =>
    simp only [insertEntry]
    split_ifs with hlt heq
    · simp [findEntry]
    · simp [findEntry]
    · simp [findEntry, hlt, heq, ih]

theorem findEntry_insertEntry_of_ne {k j : κ} (hne : j ≠ k) (v : ν) (l : List (κ × ν)) :
    findEntry j (insertEntry k v l) = findEntry j l := by
  induction l with
  | nil => simp [insertEntry, findEntry, hne]
  | cons x l ih =>
    simp only [insertEntry]
    split_ifs with hlt heq
    · -- the new entry stands first: below it the search ends at once on both sides
      by_cases hj : j < k
      · simp [findEntry, hj, hj.trans hlt]
      · simp [findEntry, hj, hne]
    · subst heq
      simp [findEntry, hne]
    · simp [findEntry, ih]

/-- A scan that collects `f` of every entry does not see a store whose contribution is
the one its key had before. -/
theorem flatMap_insertEntry {k : κ} {v : ν} {f : κ × ν → List β} {l : List (κ × ν)}
    (h : f (k, v) = ((findEntry k l).map fun w => f (k, w)).getD []) :
    (insertEntry k v l).flatMap f = l.flatMap f := by
  induction l with
  | nil =>
    have hnil : f (k, v) = [] := by simpa [findEntry] using h
    simp [insertEntry, hnil]
  | cons x l ih =>
    simp only [insertEntry, findEntry] at h ⊢
    split_ifs at h ⊢ with hlt heq
    · have hnil : f (k, v) = [] := by simpa using h
      simp [hnil]
    · have hsame : f (k, v) = f x := by simpa [heq] using h
      simp [hsame]
    · simp [ih h]

/-- Storing the value that is there changes nothing. -/
theorem insertEntry_of_findEntry {k : κ} {v : ν} {l : List (κ × ν)} (h : findEntry k l = some v) :
    insertEntry k v l = l := by
  induction l with
  | nil => cases h
  | cons x l ih =>
    simp only [findEntry] at h
    simp only [insertEntry]
    split_ifs at h ⊢ with hlt heq
    · rw [heq, ← Option.some.inj h]
    · rw [ih h]

/-! ## The map -/

/-- The map without entries. -/
def empty : OrdMap κ ν := ⟨[], List.Pairwise.nil⟩

/-- The value stored under `k`. -/
def find? (m : OrdMap κ ν) (k : κ) : Option ν := findEntry k m.entries

/-- Store `v` under `k`. -/
def insert (m : OrdMap κ ν) (k : κ) (v : ν) : OrdMap κ ν :=
  ⟨insertEntry k v m.entries, sorted_insertEntry m.sorted⟩

/-- The side effect of an indexed access: a missing entry is created with `default`. -/
def touch (m : OrdMap κ ν) (k : κ) (default : ν) : OrdMap κ ν :=
  m.insert k ((m.find? k).getD default)

/-- The keys in increasing order. -/
def keys (m : OrdMap κ ν) : List κ := m.entries.map Prod.fst

@[simp] theorem find?_empty (k : κ) : (empty : OrdMap κ ν).find? k = none := rfl

@[simp] theorem find?_insert_self (m : OrdMap κ ν) (k : κ) (v : ν) :
    (m.insert k v).find? k = some v :=
  findEntry_insertEntry_self k v m.entries

theorem find?_insert_of_ne {k j : κ} (hne : j ≠ k) (m : OrdMap κ ν) (v : ν) :
    (m.insert k v).find? j = m.find? j :=
  findEntry_insertEntry_of_ne hne v m.entries

/-- Creating a missing entry is only seen by a reader that tells a missing entry from
one that holds the default. -/
theorem getD_find?_touch (m : OrdMap κ ν) (k j : κ) (default : ν) :
    ((m.touch k default).find? j).getD default = (m.find? j).getD default := by
  rcases eq_or_ne j k with rfl | hjk
  · simp [touch]
  · rw [touch, find?_insert_of_ne hjk]

theorem insert_of_find? {m : OrdMap κ ν} {k : κ} {v : ν} (h : m.find? k = some v) :
    m.insert k v = m := by
  obtain ⟨entries, _⟩ := m
  simp only [insert, OrdMap.mk.injEq]
  exact insertEntry_of_findEntry h

theorem touch_of_find? {m : OrdMap κ ν} {k : κ} {v : ν} (h : m.find? k = some v) (default : ν) :
    m.touch k default = m := by
  rw [touch, h]
  exact insert_of_find? h

/-- An indexed access creates at most its own key, with the default. -/
theorem find?_touch_eq_some {m : OrdMap κ ν} {k j : κ} {default v : ν} :
    (m.touch k default).find? j = some v ↔
      m.find? j = some v ∨ (j = k ∧ m.find? k = none ∧ v = default) := by
  rcases eq_or_ne j k with rfl | hjk
  · rw [touch, find?_insert_self]
    cases m.find? j with
    | none => simp [eq_comm]
    | some w => simp
  · rw [touch, find?_insert_of_ne hjk]
    simp [hjk]

theorem flatMap_insert {m : OrdMap κ ν} {k : κ} {v : ν} {f : κ × ν → List β}
    (h : f (k, v) = ((m.find? k).map fun w => f (k, w)).getD []) :
    (m.insert k v).entries.flatMap f = m.entries.flatMap f :=
  flatMap_insertEntry h

theorem keys_nodup (m : OrdMap κ ν) : m.keys.Nodup := by
  have hlt : m.keys.Pairwise (· < ·) := List.pairwise_map.mpr m.sorted
  exact hlt.imp fun h => ne_of_lt h

/-- The entries are exactly what lookups find. -/
theorem mem_entries {m : OrdMap κ ν} {k : κ} {v : ν} :
    (k, v) ∈ m.entries ↔ m.find? k = some v := by
  obtain ⟨l, hl⟩ := m
  simp only [find?]
  induction l with
  | nil => simp [findEntry]
  | cons x l ih =>
    obtain ⟨hx, hl'⟩ := List.pairwise_cons.mp hl
    simp only [findEntry, List.mem_cons]
    split_ifs with hlt heq
    · -- every stored key lies above `k`
      refine iff_of_false ?_ (by simp)
      rintro (h | h)
      · exact absurd hlt (by rw [← h]; exact lt_irrefl k)
      · exact absurd (hx _ h) (not_lt.mpr hlt.le)
    · subst heq
      constructor
      · rintro (h | h)
        · rw [← h]
        · exact absurd (hx _ h) (lt_irrefl _)
      · intro h
        exact Or.inl (by rw [← Option.some.inj h])
    · rw [← ih hl']
      refine ⟨fun h => h.resolve_left fun he => heq (by rw [← he]), Or.inr⟩

theorem mem_keys {m : OrdMap κ ν} {k : κ} : k ∈ m.keys ↔ ∃ v, m.find? k = some v := by
  simp only [keys, List.mem_map, Prod.exists, exists_and_right, exists_eq_right, mem_entries]

theorem mem_keys_insert {m : OrdMap κ ν} {k j : κ} {v : ν} :
    j ∈ (m.insert k v).keys ↔ j = k ∨ j ∈ m.keys := by
  rw [mem_keys, mem_keys]
  rcases eq_or_ne j k with rfl | hjk
  · simp
  · simp [find?_insert_of_ne hjk, hjk]

theorem entries_touch_ne_nil (m : OrdMap κ ν) (k : κ) (default : ν) :
    (m.touch k default).entries ≠ [] :=
  List.ne_nil_of_mem (mem_entries.mpr (find?_insert_self m k _))

/-! ## Maps from lists, and back -/

/-- The map of these entries; the first entry of a key counts. -/
def ofList (l : List (κ × ν)) : OrdMap κ ν := l.foldr (fun e m => m.insert e.1 e.2) empty

theorem find?_ofList (l : List (κ × ν)) (k : κ) : (ofList l).find? k = l.lookup k := by
  induction l with
  | nil => rfl
  | cons e l ih =>
    rw [List.lookup_cons]
    cases heq : k == e.1 with
    | true =>
      rw [beq_iff_eq.mp heq]
      exact find?_insert_self (ofList l) e.1 e.2
    | false => exact (find?_insert_of_ne (beq_eq_false_iff_ne.mp heq) (ofList l) e.2).trans ih

variable [LinearOrder ν]

/-- The map from the values to the keys, filled in key order. -/
def inverse (m : OrdMap κ ν) : OrdMap ν κ :=
  m.entries.foldl (fun inverse e => inverse.insert e.2 e.1) empty

/-- Of the keys with one value the inverse keeps the last. -/
theorem find?_inverse_eq_some {m : OrdMap κ ν} {v : ν} {k : κ} :
    m.inverse.find? v = some k ↔
      m.find? k = some v ∧ ∀ k', m.find? k' = some v → k' ≤ k := by
  simp only [← mem_entries (m := m)]
  obtain ⟨l, hl⟩ := m
  unfold inverse
  dsimp only
  induction l using List.reverseRecOn with
  | nil => simp
  | append_singleton l e ih =>
    obtain ⟨hsorted, -, hlast⟩ := List.pairwise_append.mp hl
    obtain ⟨j, w⟩ := e
    have hbelow {k : κ} {v : ν} (hk : (k, v) ∈ l) : k < j :=
      hlast _ hk _ (List.mem_singleton_self _)
    rw [List.foldl_concat]
    simp only [List.mem_append, List.mem_singleton, Prod.mk.injEq]
    rcases eq_or_ne v w with rfl | hne
    · -- the new entry is the last of its value
      rw [find?_insert_self, Option.some.injEq]
      constructor
      · rintro rfl
        refine ⟨Or.inr ⟨rfl, rfl⟩, fun k' hk' => ?_⟩
        exact hk'.elim (fun h => (hbelow h).le) fun h => h.1.le
      · rintro ⟨hk, hmax⟩
        refine le_antisymm (hmax j (Or.inr ⟨rfl, rfl⟩)) ?_
        exact hk.elim (fun h => (hbelow h).le) fun h => h.1.le
    · rw [find?_insert_of_ne hne, ih hsorted]
      simp only [hne, and_false, or_false]

theorem find?_inverse_eq_none {m : OrdMap κ ν} {v : ν} :
    m.inverse.find? v = none ↔ ∀ k, m.find? k ≠ some v := by
  simp only [ne_eq, ← mem_entries (m := m)]
  unfold inverse
  induction m.entries using List.reverseRecOn with
  | nil => simp
  | append_singleton l e ih =>
    rw [List.foldl_concat]
    rcases eq_or_ne v e.2 with rfl | hne
    · rw [find?_insert_self]
      exact iff_of_false (Option.some_ne_none _) fun h =>
        h e.1 (List.mem_append_right _ (List.mem_singleton_self e))
    · rw [find?_insert_of_ne hne, ih]
      refine forall_congr' fun k => not_congr ?_
      rw [List.mem_append, List.mem_singleton]
      exact (or_iff_left fun h => hne (congrArg Prod.snd h)).symm

end OrdMap
