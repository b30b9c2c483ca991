import Mathlib.Algebra.Order.Ring.Int
import Mathlib.Data.List.Induction
import Mathlib.Tactic.SplitIfs
import Iec104South.Lib.OrdMap
import Iec104South.Protocol

/-!
# The configuration

`IEC104ClientConfig` as the client uses it: the protocol parameters, which do not
show after the import, and the exchanged-data table, which does: every indexed
access of the nested `std::map` creates the slots it does not find. So the parameters
are a record (`IEC104ClientConfig`) and the table (`ExchangeTable`) is part of the
client's state.
-/

namespace Iec104South

/-! ## Exchange definitions -/

/-- One datapoint of the exchanged-data configuration. -/
structure DataExchangeDefinition where
  ca : Int := 0
  ioa : Int := 0
  typeId : Int := 0
  label : String
  giGroups : Nat := 0
deriving DecidableEq, Repr

/-- `isInStationGroup`: bit 0 of the GI groups. -/
def isInStationGroup (dp : DataExchangeDefinition) : Bool := dp.giGroups &&& 1 != 0

/-- `isDataPointInMonitoringDirection`. -/
def isDataPointInMonitoringDirection (dp : DataExchangeDefinition) : Bool := dp.typeId < 41

/-- The definitions of one common address. A slot that an access has created but no import
has filled holds `none`, the null pointer. -/
abbrev CaTable := OrdMap Int (Option DataExchangeDefinition)

/-- The definition in a slot of the nested map, `none` when the slot is missing or null. -/
def slot (map : OrdMap Int CaTable) (ca ioa : Int) : Option DataExchangeDefinition :=
  (((map.find? ca).getD OrdMap.empty).find? ioa).getD none

/-- `m_exchangeDefinitions`: the import stores a definition under its own address, so a
definition is determined by its slot. -/
structure ExchangeTable where
  map : OrdMap Int CaTable
  keyed : ∀ {ca ioa dp}, slot map ca ioa = some dp → dp.ca = ca ∧ dp.ioa = ioa

namespace ExchangeTable

/-- The table after `deleteExchangeDefinitions`. -/
def empty : ExchangeTable := ⟨OrdMap.empty, by simp [slot]⟩

/-- The value of `ExchangeDefinition()[ca][ioa]`. -/
def find? (t : ExchangeTable) (ca ioa : Int) : Option DataExchangeDefinition := slot t.map ca ioa

/-- The nested map after the access `[ca][ioa]`. -/
def touchMap (map : OrdMap Int CaTable) (ca ioa : Int) : OrdMap Int CaTable :=
  map.insert ca (((map.find? ca).getD OrdMap.empty).touch ioa none)

theorem slot_touchMap (map : OrdMap Int CaTable) (ca ioa ca' ioa' : Int) :
    slot (touchMap map ca ioa) ca' ioa' = slot map ca' ioa' := by
  rcases eq_or_ne ca' ca with rfl | hca
  · simp [slot, touchMap, OrdMap.getD_find?_touch]
  · simp [slot, touchMap, OrdMap.find?_insert_of_ne hca]

/-- The side effect of the access `ExchangeDefinition()[ca][ioa]`. -/
def touch (t : ExchangeTable) (ca ioa : Int) : ExchangeTable where
  map := touchMap t.map ca ioa
  keyed := fun h => t.keyed (slot_touchMap t.map ca ioa _ _ ▸ h)

/-- The nested map after `[dp.ca][dp.ioa] = dp`. -/
def storeMap (map : OrdMap Int CaTable) (dp : DataExchangeDefinition) : OrdMap Int CaTable :=
  map.insert dp.ca (((map.find? dp.ca).getD OrdMap.empty).insert dp.ioa (some dp))

theorem slot_storeMap (map : OrdMap Int CaTable) (dp : DataExchangeDefinition) (ca ioa : Int) :
    slot (storeMap map dp) ca ioa =
      if ca = dp.ca ∧ ioa = dp.ioa then some dp else slot map ca ioa := by
  rcases eq_or_ne ca dp.ca with rfl | hca
  · rcases eq_or_ne ioa dp.ioa with rfl | hioa
    · simp [slot, storeMap]
    · simp [slot, storeMap, hioa, OrdMap.find?_insert_of_ne hioa]
  · simp [slot, storeMap, hca, OrdMap.find?_insert_of_ne hca]

/-- `ExchangeDefinition()[ca][ioa] = def`, as the import does it for each datapoint. -/
def store (t : ExchangeTable) (dp : DataExchangeDefinition) : ExchangeTable where
  map := storeMap t.map dp
  keyed := by
    intro ca ioa dp' h
    rw [slot_storeMap] at h
    split_ifs at h with haddr
    · rw [← Option.some.inj h]
      exact ⟨haddr.1.symm, haddr.2.symm⟩
    · exact t.keyed h

/-- The table of a list of datapoints in the order of the configuration text; a later
datapoint replaces an earlier one at the same address. -/
def ofDatapoints (dps : List DataExchangeDefinition) : ExchangeTable := dps.foldl store empty

/-- The non-null definitions in the order in which the client iterates the table. -/
def definitions (t : ExchangeTable) : List DataExchangeDefinition :=
  t.map.entries.flatMap fun e => e.2.entries.flatMap fun d => d.2.toList

/-- The common addresses of the table, in map order. -/
def cas (t : ExchangeTable) : List Int := t.map.keys

@[simp] theorem find?_touch (t : ExchangeTable) (ca ioa ca' ioa' : Int) :
    (t.touch ca ioa).find? ca' ioa' = t.find? ca' ioa' :=
  slot_touchMap t.map ca ioa ca' ioa'

/-- An access to a definition creates no slot. -/
theorem touch_of_find? {t : ExchangeTable} {ca ioa : Int} {dp : DataExchangeDefinition}
    (h : t.find? ca ioa = some dp) : t.touch ca ioa = t := by
  obtain ⟨map, _⟩ := t
  simp only [touch, ExchangeTable.mk.injEq, touchMap]
  simp only [find?, slot] at h
  cases hca : map.find? ca with
  | none => simp [hca] at h
  | some m =>
    cases hioa : m.find? ioa with
    | none => simp [hca, hioa] at h
    | some d =>
      rw [Option.getD_some, OrdMap.touch_of_find? hioa]
      exact OrdMap.insert_of_find? hca

/-- An access leaves the iteration unchanged: what it creates is null. -/
@[simp] theorem definitions_touch (t : ExchangeTable) (ca ioa : Int) :
    (t.touch ca ioa).definitions = t.definitions := by
  have hinner (m : CaTable) :
      (m.touch ioa none).entries.flatMap (fun d => d.2.toList) =
        m.entries.flatMap fun d => d.2.toList := by
    apply OrdMap.flatMap_insert
    cases m.find? ioa <;> simp
  apply OrdMap.flatMap_insert
  cases h : t.map.find? ca with
  | none => simpa [OrdMap.empty] using hinner OrdMap.empty
  | some m => simpa using hinner m

/-- The iteration meets exactly the definitions that lookups find. -/
theorem mem_definitions {t : ExchangeTable} {dp : DataExchangeDefinition} :
    dp ∈ t.definitions ↔ t.find? dp.ca dp.ioa = some dp := by
  simp only [definitions, List.mem_flatMap, Option.mem_toList, find?, slot]
  constructor
  · rintro ⟨⟨ca, m⟩, hm, ⟨ioa, d⟩, hd, hdp⟩
    have hca := OrdMap.mem_entries.mp hm
    have hioa := OrdMap.mem_entries.mp hd
    have hslot : slot t.map ca ioa = some dp := by
      simp only [slot, hca, Option.getD_some, hioa]
      exact hdp
    obtain ⟨h1, h2⟩ := t.keyed hslot
    rw [h1, h2]
    exact hslot
  · intro h
    cases hca : t.map.find? dp.ca with
    | none => simp [hca] at h
    | some m =>
      cases hioa : m.find? dp.ioa with
      | none => simp [hca, hioa] at h
      | some d =>
        have hd : d = some dp := by simpa [hca, hioa] using h
        exact ⟨(dp.ca, m), OrdMap.mem_entries.mpr hca, (dp.ioa, d),
          OrdMap.mem_entries.mpr hioa, hd⟩

/-- The stored definition is the last one of the list at its address. -/
theorem find?_ofDatapoints (dps : List DataExchangeDefinition) (ca ioa : Int) :
    (ofDatapoints dps).find? ca ioa =
      (dps.filter fun dp => dp.ca = ca ∧ dp.ioa = ioa).getLast? := by
  induction dps using List.reverseRecOn with
  | nil => rfl
  | append_singleton dps dp ih =>
    have hstore : (ofDatapoints (dps ++ [dp])).find? ca ioa =
        if ca = dp.ca ∧ ioa = dp.ioa then some dp else (ofDatapoints dps).find? ca ioa := by
      rw [ofDatapoints, List.foldl_concat]
      exact slot_storeMap ..
    rw [hstore, List.filter_append]
    split_ifs with haddr
    · obtain ⟨rfl, rfl⟩ := haddr
      simp
    · have hne : ¬(dp.ca = ca ∧ dp.ioa = ioa) := fun h => haddr ⟨h.1.symm, h.2.symm⟩
      simp [hne, ih]

theorem mem_cas_ofDatapoints {dps : List DataExchangeDefinition} {ca : Int} :
    ca ∈ (ofDatapoints dps).cas ↔ ∃ dp ∈ dps, dp.ca = ca := by
  induction dps using List.reverseRecOn with
  | nil => simp [ofDatapoints, empty, cas, OrdMap.keys, OrdMap.empty]
  | append_singleton dps dp ih =>
    have hstore : ca ∈ (ofDatapoints (dps ++ [dp])).cas ↔
        ca = dp.ca ∨ ca ∈ (ofDatapoints dps).cas := by
      rw [ofDatapoints, List.foldl_concat]
      exact OrdMap.mem_keys_insert
    rw [hstore, ih]
    simp only [List.mem_append, List.mem_singleton, or_and_right, exists_or, exists_eq_left]
    rw [or_comm, eq_comm]

theorem mem_cas_of_mem_definitions {t : ExchangeTable} {dp : DataExchangeDefinition}
    (h : dp ∈ t.definitions) : dp.ca ∈ t.cas := by
  have hfind : slot t.map dp.ca dp.ioa = some dp := mem_definitions.mp h
  cases hca : t.map.find? dp.ca with
  | none => simp [slot, hca] at hfind
  | some m => exact List.mem_map.mpr ⟨(dp.ca, m), OrdMap.mem_entries.mpr hca, rfl⟩

end ExchangeTable

/-- `importExchangeConfig`, last loop: the common addresses of the table that are not in
`listOfCAs` yet are appended in map order. -/
def collectCAs (listOfCAs : List Int) (t : ExchangeTable) : List Int :=
  t.cas.foldl (fun l ca => if ca ∈ l then l else l ++ [ca]) listOfCAs

/-- On a fresh configuration the collected list is the key list of the table. -/
theorem collectCAs_nil (t : ExchangeTable) : collectCAs [] t = t.cas := by
  have hfold : ∀ (l acc : List Int), l.Nodup → (∀ ca ∈ l, ca ∉ acc) →
      l.foldl (fun l ca => if ca ∈ l then l else l ++ [ca]) acc = acc ++ l := by
    intro l
    induction l with
    | nil => intro acc _ _; simp
    | cons x l ih =>
      intro acc hnd hout
      obtain ⟨hx, hl⟩ := List.nodup_cons.mp hnd
      have hxacc : x ∉ acc := hout x List.mem_cons_self
      rw [List.foldl_cons, if_neg hxacc, ih (acc ++ [x]) hl]
      · simp
      · intro ca hca hmem
        rcases List.mem_append.mp hmem with h | h
        · exact hout ca (List.mem_cons_of_mem _ hca) h
        · exact hx (List.mem_singleton.mp h ▸ hca)
  have h := hfold t.cas [] t.map.keys_nodup (fun _ _ => List.not_mem_nil)
  simpa [collectCAs] using h

/-! ## Protocol parameters -/

/-- `IEC104ClientConfig` after the import. The cycle times, timeouts and limits are
natural numbers: the import keeps the default when a negative value is configured. -/
structure IEC104ClientConfig where
  /-- limit of parallel commands, 0 is no limit -/
  cmdParallel : Nat := 0
  caSize : Int := 2
  defaultCa : Int := 1
  timeSyncCa : Int := 1
  /-- in s, 0 disables time synchronisation -/
  timeSyncPeriod : Nat := 0
  giEnabled : Bool := true
  giAllCa : Bool := false
  /-- in s, 0 disables the cycle -/
  giCycle : Nat := 0
  /-- in s, for each step of the GI; 0 is no timeout -/
  giTime : Nat := 0
  /-- in ms -/
  cmdExecTimeout : Nat := 1000
  /-- asset name of the south monitoring event -/
  connxStatus : String := ""
  listOfCAs : List Int := []
  cgTriggeringTsAdresses : List (Int × Int) := []
deriving DecidableEq, Repr

namespace IEC104ClientConfig

def isTimeSyncEnabled (cfg : IEC104ClientConfig) : Bool := 0 < cfg.timeSyncPeriod

def isTsAddressCgTriggering (cfg : IEC104ClientConfig) (ca ioa : Int) : Bool :=
  (ca, ioa) ∈ cfg.cgTriggeringTsAdresses

/-- `IEC104ClientConnection::broadcastCA`. -/
def broadcastCA (cfg : IEC104ClientConfig) : Int := if cfg.caSize = 1 then 0xff else 0xffff

end IEC104ClientConfig

/-- `RedGroupCon`: whether a connection is opened at the start, and whether it stays open beside
the active one. -/
structure RedGroupCon where
  conn : Bool := true
  start : Bool := true
deriving DecidableEq, Repr

/-- `t + s * 1000` as the connection computes it: `t` is a `uint64_t`, the product is an
`int`, which wraps and is sign-extended before the addition. -/
def addSeconds (t s : Nat) : Nat := ((t + Int.bmod (s * 1000) (2 ^ 32)) % 2 ^ 64).toNat

/-- Where neither the product nor the sum overflows. -/
theorem addSeconds_of_lt {t s : Nat} (hs : s * 1000 < 2 ^ 31) (ht : t + s * 1000 < 2 ^ 64) :
    addSeconds t s = t + s * 1000 := by
  have hproduct : Int.bmod (s * 1000) (2 ^ 32) = s * 1000 :=
    Int.bmod_eq_of_le (by omega) (by omega)
  unfold addSeconds
  rw [hproduct]
  omega

/-! ## Type matching -/

/-- Whether an ASDU of type `rcvdType` may carry a datapoint configured with `expectedType`. -/
def isMessageTypeMatching (expectedType rcvdType : Int) : Bool :=
  expectedType == rcvdType ||
  match expectedType with
  | M_SP_NA_1 => rcvdType == M_SP_TA_1 || rcvdType == M_SP_TB_1
  | M_SP_TA_1 => rcvdType == M_SP_NA_1 || rcvdType == M_SP_TB_1
  | M_SP_TB_1 => rcvdType == M_SP_NA_1 || rcvdType == M_SP_TA_1
  | M_DP_NA_1 => rcvdType == M_DP_TA_1 || rcvdType == M_DP_TB_1
  | M_DP_TA_1 => rcvdType == M_DP_NA_1 || rcvdType == M_DP_TB_1
  | M_DP_TB_1 => rcvdType == M_DP_NA_1 || rcvdType == M_DP_TA_1
  | M_ME_NA_1 => rcvdType == M_ME_TA_1 || rcvdType == M_ME_TD_1 || rcvdType == M_ME_ND_1
  | M_ME_TA_1 => rcvdType == M_ME_NA_1 || rcvdType == M_ME_TD_1 || rcvdType == M_ME_ND_1
  | M_ME_TD_1 => rcvdType == M_ME_TA_1 || rcvdType == M_ME_NA_1 || rcvdType == M_ME_ND_1
  | M_ME_ND_1 => rcvdType == M_ME_TA_1 || rcvdType == M_ME_TD_1 || rcvdType == M_ME_NA_1
  | M_ME_NB_1 => rcvdType == M_ME_TB_1 || rcvdType == M_ME_TE_1
  | M_ME_TB_1 => rcvdType == M_ME_NB_1 || rcvdType == M_ME_TE_1
  | M_ME_TE_1 => rcvdType == M_ME_TB_1 || rcvdType == M_ME_NB_1
  | M_ME_NC_1 => rcvdType == M_ME_TC_1 || rcvdType == M_ME_TF_1
  | M_ME_TC_1 => rcvdType == M_ME_NC_1 || rcvdType == M_ME_TF_1
  | M_ME_TF_1 => rcvdType == M_ME_TC_1 || rcvdType == M_ME_NC_1
  | M_ST_NA_1 => rcvdType == M_ST_TA_1 || rcvdType == M_ST_TB_1
  | M_ST_TA_1 => rcvdType == M_ST_NA_1 || rcvdType == M_ST_TB_1
  | M_ST_TB_1 => rcvdType == M_ST_TA_1 || rcvdType == M_ST_NA_1
  | C_SC_NA_1 => rcvdType == C_SC_TA_1
  | C_SC_TA_1 => rcvdType == C_SC_NA_1
  | C_DC_NA_1 => rcvdType == C_DC_TA_1
  | C_DC_TA_1 => rcvdType == C_DC_NA_1
  | C_RC_NA_1 => rcvdType == C_RC_TA_1
  | C_RC_TA_1 => rcvdType == C_RC_NA_1
  | C_SE_NA_1 => rcvdType == C_SE_TA_1
  | C_SE_TA_1 => rcvdType == C_SE_NA_1
  | C_SE_NB_1 => rcvdType == C_SE_TB_1
  -- this case has no `break` and runs on into the next one
  | C_SE_TB_1 => rcvdType == C_SE_NB_1 || rcvdType == C_SE_TC_1
  | C_SE_NC_1 => rcvdType == C_SE_TC_1
  | C_SE_TC_1 => rcvdType == C_SE_NC_1
  | _ => false

namespace ExchangeTable

/-- The label `checkExchangeDataLayer` returns, `none` for the null pointer. -/
def checkExchangeDataLayer (t : ExchangeTable) (typeId ca ioa : Int) : Option String :=
  match t.find? ca ioa with
  | some dp => if isMessageTypeMatching dp.typeId typeId then some dp.label else none
  | none => none

@[simp] theorem checkExchangeDataLayer_touch (t : ExchangeTable) (ca ioa typeId ca' ioa' : Int) :
    (t.touch ca ioa).checkExchangeDataLayer typeId ca' ioa' =
      t.checkExchangeDataLayer typeId ca' ioa' := by
  simp [checkExchangeDataLayer]

end ExchangeTable

end Iec104South
