import Mathlib.Data.String.Basic
import Iec104South.Lib.OrdMap
import Iec104South.Lib.Reactive
import Iec104South.ConfigImport

/-!
# The names of the ASDU types

`mapAsduTypeId` holds the numbers of the ASDU types by name. The lookup of an unknown name stores
it with the number 0. `mapAsduTypeIdStr` is filled from it when the first name is looked up by
number, with all that `mapAsduTypeId` holds at that time.

The numbers that names have do not depend on the lookups before (`typeId_right`), nor do the names
of the numbers other than 0. `type_names_right_iff`: the number 0 has no name if and only if no
unknown name is looked up before `mapAsduTypeIdStr` is filled.
-/

namespace Iec104South

open Reactive

/-- The two maps. -/
structure TypeTables where
  mapAsduTypeId : OrdMap String Int
  mapAsduTypeIdStr : OrdMap Int String

/-- A call of one of the two functions. -/
inductive TypeLookup where
  | getTypeIdFromString (name : String)
  | getStringFromTypeID (typeId : Int)
deriving DecidableEq, Repr

namespace TypeTables

/-- The maps when the program starts. -/
def init : TypeTables where
  mapAsduTypeId := .ofList Iec104South.mapAsduTypeId
  mapAsduTypeIdStr := .empty

def getTypeIdFromString (t : TypeTables) (name : String) : Int × TypeTables :=
  ((t.mapAsduTypeId.find? name).getD 0,
    { t with mapAsduTypeId := t.mapAsduTypeId.touch name 0 })

/-- `mapAsduTypeIdStr` has been filled. -/
def isFilled (t : TypeTables) : Bool := !t.mapAsduTypeIdStr.entries.isEmpty

/-- `mapAsduTypeIdStr` where a lookup reads it: filled, if it was not. -/
def filled (t : TypeTables) : OrdMap Int String :=
  if t.isFilled then t.mapAsduTypeIdStr else t.mapAsduTypeId.inverse

def getStringFromTypeID (t : TypeTables) (typeId : Int) : String × TypeTables :=
  ((t.filled.find? typeId).getD "",
    { t with mapAsduTypeIdStr := t.filled.touch typeId "" })

/-- A call, and what it returns. -/
def handle : Machine TypeTables TypeLookup (Int ⊕ String)
  | t, .getTypeIdFromString name =>
    ((t.getTypeIdFromString name).2, [.inl (t.getTypeIdFromString name).1])
  | t, .getStringFromTypeID typeId =>
    ((t.getStringFromTypeID typeId).2, [.inr (t.getStringFromTypeID typeId).1])

/-- The lookups return what the table of the source says: the type names are found by their
numbers, other names have the number 0, and other numbers no name. -/
structure NamesRight (t : TypeTables) : Prop where
  named : ∀ name ∈ Iec104South.mapAsduTypeId.map Prod.fst,
    ((t.getTypeIdFromString name).2.getStringFromTypeID (t.getTypeIdFromString name).1).1 = name
  unknown : ∀ name ∉ Iec104South.mapAsduTypeId.map Prod.fst, (t.getTypeIdFromString name).1 = 0
  unnamed : ∀ typeId ∉ Iec104South.mapAsduTypeId.map Prod.snd,
    (t.getStringFromTypeID typeId).1 = ""

/-- Until `mapAsduTypeIdStr` is filled, by the first lookup of a number, the names that are looked
up are type names or empty. -/
def KnownUntilFilled : List TypeLookup → Prop
  | [] => True
  | .getStringFromTypeID _ :: _ => True
  | .getTypeIdFromString name :: calls =>
    (name ∈ Iec104South.mapAsduTypeId.map Prod.fst ∨ name = "") ∧ KnownUntilFilled calls

end TypeTables

/-! ## The table of the source -/

/-- The name that the table gives a number. -/
def typeName (typeId : Int) : String :=
  ((mapAsduTypeId.map Prod.swap).lookup typeId).getD ""

theorem lookup_mapAsduTypeId :
    ∀ e ∈ mapAsduTypeId, mapAsduTypeId.lookup e.1 = some e.2 := by decide

theorem typeName_mapAsduTypeId : ∀ e ∈ mapAsduTypeId, typeName e.2 = e.1 ∧ e.2 ≠ 0 := by decide

theorem lookup_mapAsduTypeId_iff {name : String} {typeId : Int} :
    mapAsduTypeId.lookup name = some typeId ↔ (name, typeId) ∈ mapAsduTypeId := by
  refine ⟨fun h => ?_, lookup_mapAsduTypeId (name, typeId)⟩
  obtain ⟨before, after, heq, -⟩ := List.lookup_eq_some_iff.mp h
  rw [heq]
  exact List.mem_append_right before List.mem_cons_self

theorem typeName_of_not_mem {typeId : Int} (h : typeId ∉ mapAsduTypeId.map Prod.snd) :
    typeName typeId = "" := by
  have hnone : (mapAsduTypeId.map Prod.swap).lookup typeId = none := by
    rw [List.lookup_eq_none_iff]
    intro e he
    obtain ⟨e', he', rfl⟩ := List.mem_map.mp he
    rw [bne_iff_ne]
    rintro rfl
    exact h (List.mem_map_of_mem he')
  rw [typeName, hnone, Option.getD_none]

namespace TypeTables

/-! ## What every call keeps -/

/-- Only names with the number 0 are added to the one map. The other, when it is filled, gives
every number but 0 its name in the table. -/
structure Kept (t : TypeTables) : Prop where
  ids : ∀ name typeId, typeId ≠ 0 →
    (t.mapAsduTypeId.find? name = some typeId ↔ (name, typeId) ∈ Iec104South.mapAsduTypeId)
  names : t.isFilled → ∀ typeId ≠ 0, (t.mapAsduTypeIdStr.find? typeId).getD "" = typeName typeId

theorem not_isFilled_init : ¬ init.isFilled := by decide

theorem find?_init_ne_zero (name : String) : init.mapAsduTypeId.find? name ≠ some 0 := by
  rw [init, OrdMap.find?_ofList, Ne, lookup_mapAsduTypeId_iff]
  exact fun hmem => (typeName_mapAsduTypeId _ hmem).2 rfl

theorem init_kept : init.Kept where
  ids name typeId _ := by
    rw [init, OrdMap.find?_ofList, lookup_mapAsduTypeId_iff]
  names h := absurd h not_isFilled_init

variable {t : TypeTables}

/-- The number of a name does not depend on the calls before. -/
theorem Kept.typeId_right (h : t.Kept) (name : String) :
    (t.getTypeIdFromString name).1 = Iec104South.getTypeIdFromString name := by
  unfold getTypeIdFromString Iec104South.getTypeIdFromString
  cases hlookup : Iec104South.mapAsduTypeId.lookup name with
  | some typeId =>
    have hmem := lookup_mapAsduTypeId_iff.mp hlookup
    rw [(h.ids name typeId (typeName_mapAsduTypeId _ hmem).2).mpr hmem]
  | none =>
    cases hfind : t.mapAsduTypeId.find? name with
    | none => rfl
    | some typeId =>
      by_contra hne
      have hmem := (h.ids name typeId hne).mp hfind
      rw [lookup_mapAsduTypeId_iff.mpr hmem] at hlookup
      cases hlookup

/-- The inverse of a map with the numbers of the table. -/
theorem Kept.inverse (h : t.Kept) {typeId : Int} (hne : typeId ≠ 0) :
    (t.mapAsduTypeId.inverse.find? typeId).getD "" = typeName typeId := by
  cases hname : t.mapAsduTypeId.inverse.find? typeId with
  | some name =>
    have hmem := (h.ids name typeId hne).mp (OrdMap.find?_inverse_eq_some.mp hname).1
    exact (typeName_mapAsduTypeId _ hmem).1.symm
  | none =>
    refine (typeName_of_not_mem fun hmem => ?_).symm
    obtain ⟨⟨name, typeId⟩, he, rfl⟩ := List.mem_map.mp hmem
    exact OrdMap.find?_inverse_eq_none.mp hname name ((h.ids name typeId hne).mpr he)

theorem Kept.filled (h : t.Kept) {typeId : Int} (hne : typeId ≠ 0) :
    (t.filled.find? typeId).getD "" = typeName typeId := by
  unfold TypeTables.filled
  split_ifs with hfilled
  · exact h.names hfilled typeId hne
  · exact h.inverse hne

theorem isFilled_getTypeIdFromString (t : TypeTables) (name : String) :
    (t.getTypeIdFromString name).2.isFilled = t.isFilled := rfl

theorem isFilled_getStringFromTypeID (t : TypeTables) (typeId : Int) :
    (t.getStringFromTypeID typeId).2.isFilled := by
  simpa [isFilled, getStringFromTypeID] using t.filled.entries_touch_ne_nil typeId ""

theorem Kept.step (h : t.Kept) (call : TypeLookup) : (handle t call).1.Kept := by
  cases call with
  | getTypeIdFromString name =>
    refine ⟨fun name' typeId hne => ?_, h.names⟩
    rw [← h.ids name' typeId hne]
    exact OrdMap.find?_touch_eq_some.trans (or_iff_left fun hnew => hne hnew.2.2)
  | getStringFromTypeID typeId =>
    refine ⟨h.ids, fun _ typeId' hne => ?_⟩
    rw [← h.filled hne]
    exact OrdMap.getD_find?_touch ..

/-! ## The name of the number 0 -/

/-- The next lookup of 0 returns the empty name. -/
def ZeroUnnamed (t : TypeTables) : Prop := (t.filled.find? 0).getD "" = ""

/-- The call does not add a name with the number 0 to the map that is to be inverted, apart from
the empty one. -/
def AddsNoName (t : TypeTables) : TypeLookup → Prop
  | .getTypeIdFromString name =>
    t.isFilled ∨ name ∈ Iec104South.mapAsduTypeId.map Prod.fst ∨ name = ""
  | .getStringFromTypeID _ => True

theorem Kept.find?_getD_eq_zero (h : t.Kept) {name : String} :
    (t.mapAsduTypeId.find? name).getD 0 = 0 ↔
      name ∉ Iec104South.mapAsduTypeId.map Prod.fst := by
  have hright : (t.mapAsduTypeId.find? name).getD 0 = Iec104South.getTypeIdFromString name :=
    h.typeId_right name
  rw [hright, Iec104South.getTypeIdFromString]
  constructor
  · intro hzero hmem
    obtain ⟨e, he, rfl⟩ := List.mem_map.mp hmem
    rw [lookup_mapAsduTypeId e he] at hzero
    exact (typeName_mapAsduTypeId e he).2 hzero
  · intro hnot
    cases hlookup : Iec104South.mapAsduTypeId.lookup name with
    | none => rfl
    | some typeId =>
      exact absurd (List.mem_map_of_mem (lookup_mapAsduTypeId_iff.mp hlookup)) hnot

/-- The names with the number 0 after a lookup. -/
theorem Kept.find?_touch_eq_zero (h : t.Kept) {name name' : String} :
    (t.mapAsduTypeId.touch name 0).find? name' = some 0 ↔
      t.mapAsduTypeId.find? name' = some 0 ∨
        (name' = name ∧ name ∉ Iec104South.mapAsduTypeId.map Prod.fst) := by
  rw [OrdMap.find?_touch_eq_some, ← h.find?_getD_eq_zero]
  constructor
  · rintro (hold | ⟨rfl, hnone, -⟩)
    · exact Or.inl hold
    · exact Or.inr ⟨rfl, by rw [hnone, Option.getD_none]⟩
  · rintro (hold | ⟨rfl, hzero⟩)
    · exact Or.inl hold
    · cases hfind : t.mapAsduTypeId.find? name' with
      | none => exact Or.inr ⟨rfl, rfl, rfl⟩
      | some typeId =>
        rw [hfind, Option.getD_some] at hzero
        exact Or.inl (congrArg some hzero)

theorem eq_empty_of_le_empty {s : String} (h : s ≤ "") : s = "" := by
  by_contra hne
  obtain ⟨c, cs, hcs⟩ :=
    List.exists_cons_of_ne_nil fun hnil => hne (String.toList_eq_nil_iff.mp hnil)
  refine absurd h (not_le.mpr (String.lt_iff_toList_lt.mpr ?_))
  rw [hcs]
  exact List.nil_lt_cons c cs

/-- Before the map of the names is filled, 0 has no name if only the empty one has the number 0:
of several names the inverse keeps the last. -/
theorem zeroUnnamed_iff (hfilled : ¬ t.isFilled) :
    t.ZeroUnnamed ↔ ∀ name, t.mapAsduTypeId.find? name = some 0 → name = "" := by
  unfold ZeroUnnamed filled
  rw [if_neg hfilled]
  cases hzero : t.mapAsduTypeId.inverse.find? 0 with
  | none =>
    exact iff_of_true rfl fun name hname =>
      absurd hname (OrdMap.find?_inverse_eq_none.mp hzero name)
  | some last =>
    obtain ⟨hlast, hmax⟩ := OrdMap.find?_inverse_eq_some.mp hzero
    rw [Option.getD_some]
    refine ⟨fun hempty name hname => ?_, fun hall => hall last hlast⟩
    exact eq_empty_of_le_empty (hempty ▸ hmax name hname)

theorem filled_getStringFromTypeID (t : TypeTables) (typeId : Int) :
    (t.getStringFromTypeID typeId).2.filled = t.filled.touch typeId "" :=
  if_pos (t.isFilled_getStringFromTypeID typeId)

theorem filled_getTypeIdFromString (hfilled : t.isFilled) (name : String) :
    (t.getTypeIdFromString name).2.filled = t.filled :=
  (if_pos hfilled).trans (if_pos hfilled).symm

theorem Kept.zeroUnnamed_step (h : t.Kept) (call : TypeLookup) :
    (handle t call).1.ZeroUnnamed ↔ t.ZeroUnnamed ∧ t.AddsNoName call := by
  cases call with
  | getStringFromTypeID typeId =>
    refine Iff.trans ?_ (and_iff_left trivial).symm
    unfold ZeroUnnamed
    rw [handle, filled_getStringFromTypeID, OrdMap.getD_find?_touch]
  | getTypeIdFromString name =>
    by_cases hfilled : t.isFilled
    · unfold ZeroUnnamed
      rw [handle, filled_getTypeIdFromString hfilled]
      exact (and_iff_left (Or.inl hfilled)).symm
    · have hfilled' : ¬ (t.getTypeIdFromString name).2.isFilled := hfilled
      rw [handle, zeroUnnamed_iff hfilled', zeroUnnamed_iff hfilled, AddsNoName,
        or_iff_right hfilled, or_iff_not_imp_left]
      simp only [getTypeIdFromString, h.find?_touch_eq_zero, or_imp, forall_and, and_imp,
        forall_eq]

/-- What the lookups return is right if and only if 0 has no name. -/
theorem Kept.namesRight_iff (h : t.Kept) : t.NamesRight ↔ t.ZeroUnnamed := by
  refine ⟨fun hright => hright.unnamed 0 (by decide), fun hzero => ⟨?_, ?_, ?_⟩⟩
  · intro name hname
    obtain ⟨e, he, rfl⟩ := List.mem_map.mp hname
    have hid : (t.getTypeIdFromString e.1).1 = e.2 := by
      rw [h.typeId_right, Iec104South.getTypeIdFromString, lookup_mapAsduTypeId e he,
        Option.getD_some]
    obtain ⟨hnamed, hne⟩ := typeName_mapAsduTypeId e he
    rw [hid]
    exact ((h.step (.getTypeIdFromString e.1)).filled hne).trans hnamed
  · exact fun name hnot => h.find?_getD_eq_zero.mpr hnot
  · intro typeId hnot
    rcases eq_or_ne typeId 0 with rfl | hne
    · exact hzero
    · exact (h.filled hne).trans (typeName_of_not_mem hnot)

/-! ## Runs -/

theorem along_of_filled {calls : List TypeLookup} (h : t.isFilled) :
    Along handle AddsNoName t calls := by
  refine along_of_forall_step (I := fun t => t.isFilled) (fun t call hfilled => ?_) ?_ h
  · cases call with
    | getTypeIdFromString name => exact hfilled
    | getStringFromTypeID typeId => exact t.isFilled_getStringFromTypeID typeId
  · intro t call hfilled
    cases call with
    | getTypeIdFromString name => exact Or.inl hfilled
    | getStringFromTypeID typeId => trivial

/-- The guard of the calls, said of their list alone. -/
theorem along_iff_knownUntilFilled {calls : List TypeLookup} (h : ¬ t.isFilled) :
    Along handle AddsNoName t calls ↔ KnownUntilFilled calls := by
  induction calls generalizing t with
  | nil => exact Iff.rfl
  | cons call calls ih =>
    cases call with
    | getTypeIdFromString name =>
      rw [Along, KnownUntilFilled, AddsNoName, or_iff_right h]
      exact and_congr_right fun _ => ih h
    | getStringFromTypeID typeId =>
      exact iff_of_true ⟨trivial, along_of_filled (t.isFilled_getStringFromTypeID typeId)⟩ trivial

/-- An unknown name becomes the name of 0, if it is the first one to be looked up. -/
theorem getStringFromTypeID_zero {name : String} (hfilled : ¬ t.isFilled)
    (hnone : t.mapAsduTypeId.find? name = none)
    (hzero : ∀ name', t.mapAsduTypeId.find? name' ≠ some 0) :
    ((t.getTypeIdFromString name).2.getStringFromTypeID 0).1 = name := by
  have hfind : (t.getTypeIdFromString name).2.filled.find? 0 = some name := by
    rw [filled, if_neg (isFilled_getTypeIdFromString t name ▸ hfilled),
      OrdMap.find?_inverse_eq_some, getTypeIdFromString]
    refine ⟨OrdMap.find?_touch_eq_some.mpr (Or.inr ⟨rfl, hnone, rfl⟩), fun name' hname' => ?_⟩
    exact ((OrdMap.find?_touch_eq_some.mp hname').resolve_left (hzero name')).1.le
  rw [getStringFromTypeID, hfind, Option.getD_some]

theorem find?_init_eq_none {name : String}
    (hunknown : name ∉ Iec104South.mapAsduTypeId.map Prod.fst) :
    init.mapAsduTypeId.find? name = none := by
  rw [init, OrdMap.find?_ofList, List.lookup_eq_none_iff]
  exact fun e he => bne_iff_ne.mpr fun heq => hunknown (heq ▸ List.mem_map_of_mem he)

end TypeTables

open TypeTables in
/-- After any calls the lookups return what the table of the source says, if and only if until the
first lookup of a number the names that are looked up are type names or empty. -/
theorem type_names_right_iff (calls : List TypeLookup) :
    (run handle init calls).NamesRight ↔ KnownUntilFilled calls := by
  have hkept : (run handle init calls).Kept :=
    run_of_always (always_of_invariant (fun _ call h => Kept.step h call) (fun _ => id) init_kept)
  have hinit : init.ZeroUnnamed :=
    (zeroUnnamed_iff not_isFilled_init).mpr fun name hname => absurd hname (find?_init_ne_zero name)
  rw [hkept.namesRight_iff, run_iff_along (I := ZeroUnnamed) (fun _ call h => Kept.step h call)
    (fun _ call h => h.zeroUnnamed_step call) init_kept, and_iff_right hinit]
  exact along_iff_knownUntilFilled not_isFilled_init

open TypeTables in
/-- The type name of a datapoint that is no ASDU type is afterwards returned for the number 0. -/
theorem unknown_type_name_returned :
    ((run handle init [.getTypeIdFromString "M_XX_NA_1"]).getStringFromTypeID 0).1 =
        "M_XX_NA_1" ∧
      ¬ ∀ calls : List TypeLookup, (run handle init calls).NamesRight := by
  have hname : ((run handle init [.getTypeIdFromString "M_XX_NA_1"]).getStringFromTypeID 0).1 =
      "M_XX_NA_1" :=
    getStringFromTypeID_zero not_isFilled_init (find?_init_eq_none (by decide)) find?_init_ne_zero
  refine ⟨hname, fun hall => ?_⟩
  have hempty := (hall [.getTypeIdFromString "M_XX_NA_1"]).unnamed 0 (by decide)
  rw [hname] at hempty
  exact absurd hempty (by decide)

end Iec104South
