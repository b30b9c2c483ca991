import Iec104South.Lib.Text
import Iec104South.ExchangeImport

/-!
# The addresses of the datapoints

The address of a datapoint is written `XXX-YYY`. The import splits the text at its first `-` and
reads the two parts with `stoi`, which skips white space, takes a sign and ignores what follows
the digits. `address_read_iff`: the form is checked exactly for the texts of which `stoi` reads
both parts, if these have only digits.
-/

namespace Iec104South

open Json

/-- The address has the documented form, with numbers that fit an `int`. -/
def IsAddress (address : String) (ca ioa : Nat) : Prop :=
  ∃ caDigits ioaDigits : List Char, address.toList = caDigits ++ '-' :: ioaDigits ∧
    Text.digits? caDigits = some ca ∧ Text.digits? ioaDigits = some ioa ∧
    ca < 2 ^ 31 ∧ ioa < 2 ^ 31

/-- If `stoi` reads the two parts of the address, they consist of digits only. -/
def DigitsOnly (address : String) : Prop :=
  ∀ parts ∈ Text.splitAtFirst '-' address, (Text.stoi parts.1).isSome → (Text.stoi parts.2).isSome →
    ∀ c ∈ parts.1.toList ++ parts.2.toList, c.isDigit

instance (address : String) : Decidable (DigitsOnly address) :=
  have (parts : String × String) :
      Decidable (∀ c ∈ parts.1.toList ++ parts.2.toList, c.isDigit) := List.decidableBAll _ _
  inferInstanceAs (Decidable (∀ parts ∈ Text.splitAtFirst '-' address, _ → _ → _))

/-- An element of `protocols` for IEC 104, with its address. -/
def HasAddress (protocol : Json) (address : String) : Prop :=
  ∃ members typeIdStr, protocol.object? = some members ∧
    member? members "name" string? = some "iec104" ∧
    member? members "address" string? = some address ∧
    member? members "typeid" string? = some typeIdStr

/-- The import of the text gets to the element of `protocols` of a datapoint with this label and
mark. It has stored `stored` until then. -/
structure Reaches (document : Option Json) (label : String) (isGiTriggeringTs : Bool)
    (protocol : Json) (stored : List Entry) : Prop where
  path : ∃ before datapoint after protocolsBefore protocolsAfter storedBefore,
    exchangedDatapoints document = some (before ++ datapoint :: after) ∧
    scan (importDatapoint record) [] before = .yield storedBefore ∧
    datapointHead datapoint =
      some (label, isGiTriggeringTs, protocolsBefore ++ protocol :: protocolsAfter) ∧
    scan (importProtocol record label isGiTriggeringTs) storedBefore protocolsBefore =
      .yield stored

/-- The entry of a datapoint is stored at `ca` and `ioa`, after `stored`. -/
def StoredAt (document : Option Json) (label : String) (isGiTriggeringTs : Bool)
    (stored : List Entry) (ca ioa : Nat) : Prop :=
  ∃ dp : DataExchangeDefinition, dp.ca = ca ∧ dp.ioa = ioa ∧ dp.label = label ∧
    stored ++ [(dp, isGiTriggeringTs)] <+: entries document

/-- The import accepts the addresses of the documented form, stores their datapoints there, and
rejects every other address. -/
structure AddressRead (c : ImportedConfig) (document : Option Json) (label : String)
    (isGiTriggeringTs : Bool) (stored : List Entry) (address : String) : Prop where
  accepts : ∀ ca ioa, IsAddress address ca ioa →
    StoredAt document label isGiTriggeringTs stored ca ioa
  rejects : (∀ ca ioa, ¬ IsAddress address ca ioa) →
    entries document = stored ∧
      (importExchangeConfig document c).exchangeConfigComplete = false
  /-- the text of two numbers is read back -/
  reads : ∀ ca ioa : Nat, ca < 2 ^ 31 → ioa < 2 ^ 31 →
    address = toString ca ++ "-" ++ toString ioa →
      StoredAt document label isGiTriggeringTs stored ca ioa

/-! ## The two parts of an address -/

/-- How the import reads an address. -/
def readAddress (address : String) : Option (Int × Int) := do
  let (caStr, ioaStr) ← Text.splitAtFirst '-' address
  let ca ← Text.stoi caStr
  let ioa ← Text.stoi ioaStr
  return (ca, ioa)

theorem readAddress_eq_some {address : String} {a : Int × Int} :
    readAddress address = some a ↔
      ∃ parts, Text.splitAtFirst '-' address = some parts ∧
        Text.stoi parts.1 = some a.1 ∧ Text.stoi parts.2 = some a.2 := by
  obtain ⟨ca, ioa⟩ := a
  simp [readAddress, Option.bind_eq_some_iff]

theorem exchangeDefinition_of_hasAddress {protocol : Json} {address : String}
    (h : HasAddress protocol address) (label : String) :
    ∃ definition : Int × Int → DataExchangeDefinition,
      (∀ a, (definition a).ca = a.1 ∧ (definition a).ioa = a.2 ∧ (definition a).label = label) ∧
      exchangeDefinition label protocol =
        (readAddress address).map fun a => some (definition a) := by
  obtain ⟨members, typeIdStr, hmembers, hname, haddress, htypeId⟩ := h
  refine ⟨fun a =>
    { ca := a.1
      ioa := a.2
      label := label
      typeId := getTypeIdFromString typeIdStr
      giGroups := (member? members "gi_groups" string?).elim 0 fun giGroupsStr =>
        if "station" ∈ Text.tokenize ' ' giGroupsStr then 1 else 0 },
    fun _ => ⟨rfl, rfl, rfl⟩, ?_⟩
  simp only [exchangeDefinition, readAddress, hmembers, Option.bind_eq_bind, Option.bind_some,
    hname, haddress, htypeId, ne_eq, not_true_eq_false, if_false]
  cases Text.splitAtFirst '-' address with
  | none => rfl
  | some parts =>
    simp only [Option.bind_some]
    cases Text.stoi parts.1 with
    | none => rfl
    | some ca =>
      cases Text.stoi parts.2 with
      | none => rfl
      | some ioa => cases member? members "gi_groups" string? <;> rfl

theorem splitAtFirst_of_isAddress {address : String} {ca ioa : Nat} (h : IsAddress address ca ioa) :
    ∃ parts, Text.splitAtFirst '-' address = some parts ∧
      Text.digits? parts.1.toList = some ca ∧ Text.digits? parts.2.toList = some ioa := by
  obtain ⟨caDigits, ioaDigits, haddress, hca, hioa, -, -⟩ := h
  refine ⟨(String.ofList caDigits, String.ofList ioaDigits), ?_, ?_, ?_⟩
  · rw [Text.splitAtFirst_eq_some, String.toList_ofList, String.toList_ofList]
    refine ⟨haddress, fun hmem => ?_⟩
    exact absurd ((Text.digits?_eq_some.mp hca).2.1 _ hmem) (by decide)
  · rw [String.toList_ofList, hca]
  · rw [String.toList_ofList, hioa]

theorem readAddress_of_isAddress {address : String} {ca ioa : Nat}
    (h : IsAddress address ca ioa) : readAddress address = some ((ca : Int), (ioa : Int)) := by
  obtain ⟨parts, hparts, hca, hioa⟩ := splitAtFirst_of_isAddress h
  obtain ⟨-, -, -, -, -, hcaFits, hioaFits⟩ := h
  refine readAddress_eq_some.mpr ⟨parts, hparts, ?_, ?_⟩
  · rw [Text.stoi_of_digits? hca, if_pos hcaFits]
  · rw [Text.stoi_of_digits? hioa, if_pos hioaFits]

theorem isAddress_text {ca ioa : Nat} (hca : ca < 2 ^ 31) (hioa : ioa < 2 ^ 31) :
    IsAddress (toString ca ++ "-" ++ toString ioa) ca ioa := by
  refine ⟨Nat.toDigits 10 ca, Nat.toDigits 10 ioa, ?_, Text.digits?_toDigits ca,
    Text.digits?_toDigits ioa, hca, hioa⟩
  rw [String.toList_append, String.toList_append, Nat.toString_eq_repr, Nat.toString_eq_repr,
    Nat.toList_repr, Nat.toList_repr]
  simp

/-- Digits that `stoi` reads denote a number that fits an `int`. -/
theorem digits?_of_stoi {s : String} {z : Int} (h : Text.stoi s = some z)
    (hdigits : ∀ c ∈ s.toList, c.isDigit) :
    ∃ n : Nat, Text.digits? s.toList = some n ∧ n < 2 ^ 31 := by
  have hne : s.toList ≠ [] := by
    intro hnil
    have hempty : s = "" := String.toList_eq_nil_iff.mp hnil
    have hnone : Text.stoi "" = none := by decide
    rw [hempty, hnone] at h
    cases h
  have hread : Text.digits? s.toList = some (Text.ofDigits s.toList) :=
    Text.digits?_eq_some.mpr ⟨hne, hdigits, rfl⟩
  refine ⟨_, hread, ?_⟩
  rw [Text.stoi_of_digits? hread] at h
  split_ifs at h with hfits
  exact hfits

/-- What is read has the documented form if it consists of digits only. -/
theorem isAddress_iff_of_readAddress {address : String} {a : Int × Int}
    (h : readAddress address = some a) :
    (∃ ca ioa, IsAddress address ca ioa) ↔ DigitsOnly address := by
  obtain ⟨parts, hparts, hca, hioa⟩ := readAddress_eq_some.mp h
  constructor
  · rintro ⟨ca, ioa, haddress⟩ parts' hparts' - -
    obtain ⟨parts'', hparts'', hcaDigits, hioaDigits⟩ := splitAtFirst_of_isAddress haddress
    obtain rfl : parts'' = parts' := Option.some.inj (hparts''.symm.trans hparts')
    exact List.forall_mem_append.mpr ⟨(Text.digits?_eq_some.mp hcaDigits).2.1,
      (Text.digits?_eq_some.mp hioaDigits).2.1⟩
  · intro hdigits
    obtain ⟨hcaOnly, hioaOnly⟩ := List.forall_mem_append.mp
      (hdigits parts hparts (Option.isSome_of_mem hca) (Option.isSome_of_mem hioa))
    obtain ⟨ca, hcaDigits, hcaFits⟩ := digits?_of_stoi hca hcaOnly
    obtain ⟨ioa, hioaDigits, hioaFits⟩ := digits?_of_stoi hioa hioaOnly
    exact ⟨ca, ioa, _, _, (Text.splitAtFirst_eq_some.mp hparts).1, hcaDigits, hioaDigits, hcaFits,
      hioaFits⟩

/-- Nothing is to be read of the other texts. -/
theorem digitsOnly_of_readAddress {address : String} (h : readAddress address = none) :
    DigitsOnly address := by
  intro parts hparts hca hioa
  obtain ⟨ca, hca⟩ := Option.isSome_iff_exists.mp hca
  obtain ⟨ioa, hioa⟩ := Option.isSome_iff_exists.mp hioa
  have hread : readAddress address = some (ca, ioa) :=
    readAddress_eq_some.mpr ⟨parts, hparts, hca, hioa⟩
  rw [h] at hread
  cases hread

/-! ## The import at an address -/

theorem record_extends (label : String) (isGiTriggeringTs : Bool) (l : List Entry)
    (protocols : List Json) :
    l <+: (scan (importProtocol record label isGiTriggeringTs) l protocols).value := by
  refine scan_rel (fun _ => List.prefix_rfl) List.IsPrefix.trans (fun l protocol => ?_) l protocols
  unfold importProtocol
  split
  · exact List.prefix_rfl
  · exact List.prefix_rfl
  · exact List.prefix_append ..

theorem record_datapoint_extends (l : List Entry) (datapoints : List Json) :
    l <+: (scan (importDatapoint record) l datapoints).value := by
  refine scan_rel (fun _ => List.prefix_rfl) List.IsPrefix.trans (fun l datapoint => ?_) l
    datapoints
  unfold importDatapoint
  split
  · exact List.prefix_rfl
  · exact record_extends _ _ l _

namespace Reaches

variable {document : Option Json} {label : String} {isGiTriggeringTs : Bool} {protocol : Json}
  {stored : List Entry}

/-- The loops go on from the element. -/
theorem storedBy_eq (h : Reaches document label isGiTriggeringTs protocol stored) :
    ∃ after protocolsAfter,
      (∀ l, scan (importProtocol record label isGiTriggeringTs) stored
          (protocol :: protocolsAfter) = .done l → storedBy document = .done l) ∧
      (∀ l, scan (importProtocol record label isGiTriggeringTs) stored
          (protocol :: protocolsAfter) = .yield l →
        storedBy document = scan (importDatapoint record) l after) := by
  obtain ⟨before, datapoint, after, protocolsBefore, protocolsAfter, storedBefore, hdatapoints,
    hbefore, hhead, hprotocols⟩ := h.path
  have hstored : storedBy document =
      scan (importDatapoint record) storedBefore (datapoint :: after) := by
    rw [storedBy, hdatapoints]
    exact scan_append _ hbefore
  have hdatapoint : importDatapoint record storedBefore datapoint =
      scan (importProtocol record label isGiTriggeringTs) stored (protocol :: protocolsAfter) := by
    rw [importDatapoint, hhead]
    exact scan_append _ hprotocols
  refine ⟨after, protocolsAfter, fun l hl => ?_, fun l hl => ?_⟩
  · rw [hstored, scan, hdatapoint, hl]
  · rw [hstored, scan, hdatapoint, hl]

/-- The import returns at an element without a definition. -/
theorem rejected (h : Reaches document label isGiTriggeringTs protocol stored)
    (hnone : exchangeDefinition label protocol = none) : storedBy document = .done stored := by
  obtain ⟨after, protocolsAfter, hdone, -⟩ := h.storedBy_eq
  exact hdone stored (by rw [scan, importProtocol, hnone])

theorem accepted (h : Reaches document label isGiTriggeringTs protocol stored)
    {dp : DataExchangeDefinition} (hsome : exchangeDefinition label protocol = some (some dp)) :
    stored ++ [(dp, isGiTriggeringTs)] <+: entries document := by
  obtain ⟨after, protocolsAfter, hdone, hyield⟩ := h.storedBy_eq
  have hnext : scan (importProtocol record label isGiTriggeringTs) stored
      (protocol :: protocolsAfter) = scan (importProtocol record label isGiTriggeringTs)
        (stored ++ [(dp, isGiTriggeringTs)]) protocolsAfter := by
    rw [scan, importProtocol, hsome]
    rfl
  have hrest := record_extends label isGiTriggeringTs (stored ++ [(dp, isGiTriggeringTs)])
    protocolsAfter
  rw [← hnext] at hrest
  cases hscan : scan (importProtocol record label isGiTriggeringTs) stored
      (protocol :: protocolsAfter) with
  | done l =>
    rw [hscan] at hrest
    rw [entries, hdone l hscan]
    exact hrest
  | yield l =>
    rw [hscan] at hrest
    rw [entries, hyield l hscan]
    exact hrest.trans (record_datapoint_extends l after)

end Reaches

/-- The import treats an address it gets to as documented if and only if the parts that `stoi`
reads of it consist of digits only. -/
theorem address_read_iff {document : Option Json} {label : String} {isGiTriggeringTs : Bool}
    {protocol : Json} {stored : List Entry} {address : String}
    (hreach : Reaches document label isGiTriggeringTs protocol stored)
    (haddress : HasAddress protocol address) (c : ImportedConfig) :
    AddressRead c document label isGiTriggeringTs stored address ↔ DigitsOnly address := by
  obtain ⟨definition, hdefinition, hread⟩ := exchangeDefinition_of_hasAddress haddress label
  have haccepts (ca ioa : Nat) (h : IsAddress address ca ioa) :
      StoredAt document label isGiTriggeringTs stored ca ioa := by
    rw [readAddress_of_isAddress h] at hread
    obtain ⟨hca, hioa, hlabel⟩ := hdefinition (ca, ioa)
    exact ⟨definition (ca, ioa), hca, hioa, hlabel, hreach.accepted hread⟩
  constructor
  · intro h
    cases hsome : readAddress address with
    | none => exact digitsOnly_of_readAddress hsome
    | some a =>
      rw [hsome] at hread
      rw [← isAddress_iff_of_readAddress hsome]
      by_contra hnot
      obtain ⟨hentries, -⟩ := h.rejects fun ca ioa hform => hnot ⟨ca, ioa, hform⟩
      have hlength := (hreach.accepted hread).length_le
      rw [hentries, List.length_append, List.length_singleton] at hlength
      omega
  · intro hdigits
    refine ⟨haccepts, fun hnot => ?_, ?_⟩
    · have hnone : readAddress address = none := by
        refine Option.eq_none_iff_forall_ne_some.mpr fun a ha => ?_
        obtain ⟨ca, ioa, hform⟩ := (isAddress_iff_of_readAddress ha).mpr hdigits
        exact hnot ca ioa hform
      rw [hnone] at hread
      have hstored := hreach.rejected hread
      rw [importExchangeConfig_complete, completes, entries, hstored]
      exact ⟨rfl, rfl⟩
    · rintro ca ioa hca hioa rfl
      exact haccepts ca ioa (isAddress_text hca hioa)

/-- One datapoint with this address. -/
def addressText (address : String) : Option Json :=
  some (exchangedData [datapointAt "TS1" address []])

/-- Its element of `protocols`. -/
def addressProtocol (address : String) : Json :=
  .object [("name", .string "iec104"), ("address", .string address),
    ("typeid", .string "M_SP_NA_1")]

theorem addressText_reaches {address : String} (h : cString address = address) :
    Reaches (addressText address) "TS1" false (addressProtocol address) [] ∧
      HasAddress (addressProtocol address) address := by
  have hname : cString "iec104" = "iec104" := by decide
  have htypeId : cString "M_SP_NA_1" = "M_SP_NA_1" := by decide
  refine ⟨⟨[], datapointAt "TS1" address [], [], [], [], [], rfl, rfl, rfl, rfl⟩,
    ⟨_, "M_SP_NA_1", rfl, ?_, ?_, ?_⟩⟩
  · simp [member?, string?, hname]
  · exact congrArg some h
  · exact congrArg some htypeId

theorem address_read_plain :
    AddressRead {} (addressText "41025-4202832") "TS1" false [] "41025-4202832" :=
  (address_read_iff (addressText_reaches (by decide)).1 (addressText_reaches (by decide)).2
    {}).mpr (by decide)

/-- A text after the number is ignored, and the datapoint is stored under another address than
the one written. -/
theorem trailing_text_accepted :
    Reaches (addressText "41025-42O2832") "TS1" false (addressProtocol "41025-42O2832") [] ∧
      HasAddress (addressProtocol "41025-42O2832") "41025-42O2832" ∧
      ¬ AddressRead {} (addressText "41025-42O2832") "TS1" false [] "41025-42O2832" := by
  obtain ⟨hreach, haddress⟩ := addressText_reaches (by decide : cString "41025-42O2832" = _)
  refine ⟨hreach, haddress, fun h => ?_⟩
  obtain ⟨definition, -, hread⟩ := exchangeDefinition_of_hasAddress haddress "TS1"
  have hsome : readAddress "41025-42O2832" = some (41025, 42) := by decide
  have hform : ∀ ca ioa, ¬ IsAddress "41025-42O2832" ca ioa := by
    intro ca ioa hform
    exact absurd ((isAddress_iff_of_readAddress hsome).mp ⟨ca, ioa, hform⟩) (by decide)
  rw [hsome] at hread
  have hlength := (hreach.accepted hread).length_le
  rw [(h.rejects hform).1] at hlength
  simp at hlength

end Iec104South
