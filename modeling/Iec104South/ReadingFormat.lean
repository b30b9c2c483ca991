import Iec104South.AsduReadings
import Iec104South.Publishing
import Iec104South.TypeNames
import Iec104South.Lib.Text

/-!
# The format of the readings

A reading is a datapoint with named attributes: a data object, or a south event. The attributes are
pushed one by one, flags as 0 or 1, the type by its name, and a step position as a text.

* `ofDatapoint?_datapoint`: what a reading says is read back from its attributes, whatever names
  were looked up before.
* `trace_values`: the values of a run are those of the received elements that should be read.
* `run_contents`: each of their datapoints tells the value of its element, its time, and the quality
  bits that have a meaning.
-/

namespace Iec104South

open Reactive

/-! ## The attributes -/

/-- A `Datapoint` with the attributes in its value. -/
structure Datapoint where
  name : String
  attributes : List (String × DatapointValue)
deriving DecidableEq, Repr

/-- `1L` or `0L` -/
def flag (b : Bool) : DatapointValue := .int (if b then 1 else 0)

def QualityAttributes.attributes (q : QualityAttributes) : List (String × DatapointValue) :=
  [("do_quality_iv", flag q.do_quality_iv), ("do_quality_bl", flag q.do_quality_bl),
    ("do_quality_ov", flag q.do_quality_ov), ("do_quality_sb", flag q.do_quality_sb),
    ("do_quality_nt", flag q.do_quality_nt)]

def CP56Time2a.attributes (ts : CP56Time2a) : List (String × DatapointValue) :=
  [("do_ts", .int ts.msTimestamp), ("do_ts_iv", flag ts.invalid), ("do_ts_su", flag ts.summerTime),
    ("do_ts_sub", flag ts.substituted)]

/-- The attributes of `m_createDataObject` and of `m_createQualityUpdateForDataObject`, which has
no value; `typeName` is what `getStringFromTypeID` returned. -/
def DataObject.attributes (typeName : String) (o : DataObject) : List (String × DatapointValue) :=
  [("do_type", .string typeName), ("do_ca", .int o.do_ca), ("do_oa", .int o.do_oa),
    ("do_cot", .int o.do_cot), ("do_test", flag o.do_test), ("do_negative", flag o.do_negative),
    ("do_ioa", .int o.do_ioa)] ++
    (o.do_value.toList.map fun value => ("do_value", value)) ++
    o.quality.toList.flatMap QualityAttributes.attributes ++
    o.do_ts.toList.flatMap CP56Time2a.attributes

def ConnectionStatus.text : ConnectionStatus → String
  | .notConnected => "not connected"
  | .started => "started"

def GiStatus.text : GiStatus → String
  | .started => "started"
  | .inProgress => "in progress"
  | .failed => "failed"
  | .finished => "finished"
  | .idle => "idle"

/-- The datapoint of a reading that is made when the names of the types are in `t`. -/
def Reading.datapoint (t : TypeTables) : Reading → Datapoint
  | .dataObject o => ⟨"data_object", o.attributes (t.getStringFromTypeID o.do_type).1⟩
  | .southEvent connxStatus giStatus =>
    ⟨"south_event",
      (connxStatus.toList.map fun status => ("connx_status", .string status.text)) ++
        giStatus.toList.map fun status => ("gi_status", .string status.text)⟩

/-! ## Reading them back -/

namespace Datapoint

variable (d : Datapoint)

def int? (name : String) : Option Int :=
  match d.attributes.lookup name with
  | some (.int value) => some value
  | _ => none

def flag? (name : String) : Option Bool := (d.int? name).map (· ≠ 0)

def string? (name : String) : Option String :=
  match d.attributes.lookup name with
  | some (.string value) => some value
  | _ => none

/-- The five quality attributes, if they are there. -/
def quality? : Option QualityAttributes := do
  return {
    do_quality_iv := ← d.flag? "do_quality_iv"
    do_quality_bl := ← d.flag? "do_quality_bl"
    do_quality_ov := ← d.flag? "do_quality_ov"
    do_quality_sb := ← d.flag? "do_quality_sb"
    do_quality_nt := ← d.flag? "do_quality_nt" }

def timestamp? : Option CP56Time2a := do
  return {
    msTimestamp := ← d.int? "do_ts"
    invalid := ← d.flag? "do_ts_iv"
    summerTime := ← d.flag? "do_ts_su"
    substituted := ← d.flag? "do_ts_sub" }

def dataObject? : Option DataObject := do
  return {
    do_type := getTypeIdFromString (← d.string? "do_type")
    do_ca := ← d.int? "do_ca"
    do_oa := ← d.int? "do_oa"
    do_cot := ← d.int? "do_cot"
    do_test := ← d.flag? "do_test"
    do_negative := ← d.flag? "do_negative"
    do_ioa := ← d.int? "do_ioa"
    do_value := d.attributes.lookup "do_value"
    quality := d.quality?
    do_ts := d.timestamp? }

end Datapoint

def ConnectionStatus.ofText? (text : String) : Option ConnectionStatus :=
  [ConnectionStatus.notConnected, .started].find? (·.text = text)

def GiStatus.ofText? (text : String) : Option GiStatus :=
  [GiStatus.idle, .started, .inProgress, .failed, .finished].find? (·.text = text)

/-- What a consumer of the reading knows. -/
def Reading.ofDatapoint? (d : Datapoint) : Option Reading :=
  if d.name = "data_object" then d.dataObject?.map .dataObject
  else if d.name = "south_event" then
    some (.southEvent ((d.string? "connx_status").bind ConnectionStatus.ofText?)
      ((d.string? "gi_status").bind GiStatus.ofText?))
  else none

theorem ConnectionStatus.ofText?_text (status : ConnectionStatus) :
    ConnectionStatus.ofText? status.text = some status := by
  cases status <;> decide

theorem GiStatus.ofText?_text (status : GiStatus) : GiStatus.ofText? status.text = some status := by
  cases status <;> decide

@[simp] theorem lookup_cons_eq_ite (name name' : String) (value : DatapointValue)
    (attributes : List (String × DatapointValue)) :
    ((name', value) :: attributes).lookup name =
      if name = name' then some value else attributes.lookup name := by
  rw [List.lookup_cons]
  split_ifs with heq
  · rw [beq_iff_eq.mpr heq]
  · rw [beq_eq_false_iff_ne.mpr heq]

/-- The attributes of a data object give it back, if its type is the one of the name. -/
theorem dataObject?_attributes {name typeName : String} {o : DataObject}
    (h : getTypeIdFromString typeName = o.do_type) :
    Datapoint.dataObject? ⟨name, o.attributes typeName⟩ = some o := by
  obtain ⟨do_type, do_ca, do_oa, do_cot, do_test, do_negative, do_ioa, do_value, quality,
    do_ts⟩ := o
  obtain rfl : getTypeIdFromString typeName = do_type := h
  cases do_value <;> cases quality <;> cases do_ts <;>
    simp [DataObject.attributes, QualityAttributes.attributes, CP56Time2a.attributes, flag,
      Datapoint.dataObject?, Datapoint.string?, Datapoint.int?, Datapoint.flag?,
      Datapoint.quality?, Datapoint.timestamp?]

/-! ## The name of the type -/

/-- The number of an ASDU type, or the one of a name that is none. -/
def IsTypeNumber (typeId : Int) : Prop := typeId = 0 ∨ typeId ∈ mapAsduTypeId.map Prod.snd

namespace TypeTables

/-- The name that is returned for 0. -/
def zeroName (t : TypeTables) : String := (t.filled.find? 0).getD ""

/-- Before the map of the names is filled, only names that are added have the number 0. -/
theorem Kept.zeroName_not_mem {t : TypeTables} (h : t.Kept) (hfilled : ¬ t.isFilled) :
    t.zeroName ∉ Iec104South.mapAsduTypeId.map Prod.fst := by
  unfold zeroName TypeTables.filled
  rw [if_neg hfilled]
  cases hzero : t.mapAsduTypeId.inverse.find? 0 with
  | none => decide
  | some name =>
    rw [Option.getD_some, ← h.find?_getD_eq_zero, (OrdMap.find?_inverse_eq_some.mp hzero).1]
    rfl

/-- After any lookups the name returned for 0 is not the one of an ASDU type. -/
theorem zeroName_run (calls : List TypeLookup) :
    (run handle init calls).Kept ∧
      (run handle init calls).zeroName ∉ Iec104South.mapAsduTypeId.map Prod.fst := by
  refine run_of_always (I := fun t : TypeTables => t.Kept ∧
    t.zeroName ∉ Iec104South.mapAsduTypeId.map Prod.fst) (always_of_invariant ?_ (fun _ => id)
      ⟨init_kept, init_kept.zeroName_not_mem not_isFilled_init⟩)
  rintro t call ⟨hkept, hzero⟩
  refine ⟨hkept.step call, ?_⟩
  cases call with
  | getStringFromTypeID typeId =>
    unfold zeroName
    rwa [handle, filled_getStringFromTypeID, OrdMap.getD_find?_touch]
  | getTypeIdFromString name =>
    by_cases hfilled : t.isFilled
    · unfold zeroName
      rwa [handle, filled_getTypeIdFromString hfilled]
    · exact (hkept.step (.getTypeIdFromString name)).zeroName_not_mem hfilled

/-- After any lookups the number of the name that is returned for a number is that number. -/
theorem getTypeIdFromString_name (calls : List TypeLookup) {typeId : Int}
    (h : IsTypeNumber typeId) :
    Iec104South.getTypeIdFromString ((run handle init calls).getStringFromTypeID typeId).1 =
      typeId := by
  obtain ⟨hkept, hzero⟩ := zeroName_run calls
  generalize run handle init calls = t at hkept hzero ⊢
  rcases h with rfl | hmem
  · rw [← hkept.typeId_right]
    exact hkept.find?_getD_eq_zero.mpr hzero
  · obtain ⟨e, he, rfl⟩ := List.mem_map.mp hmem
    obtain ⟨hname, hne⟩ := typeName_mapAsduTypeId e he
    have hlookup : (t.getStringFromTypeID e.2).1 = e.1 :=
      (hkept.filled hne).trans hname
    rw [hlookup, Iec104South.getTypeIdFromString, lookup_mapAsduTypeId e he, Option.getD_some]

end TypeTables

/-- After any lookups of names a reading is read back from its datapoint, if its type has a number
of the table, or none. -/
theorem ofDatapoint?_datapoint (calls : List TypeLookup) (r : Reading)
    (h : ∀ o, r = .dataObject o → IsTypeNumber o.do_type) :
    Reading.ofDatapoint? (r.datapoint (run TypeTables.handle .init calls)) = some r := by
  cases r with
  | dataObject o =>
    have htype := TypeTables.getTypeIdFromString_name calls (h o rfl)
    simp only [Reading.datapoint, Reading.ofDatapoint?, if_true]
    rw [dataObject?_attributes htype, Option.map_some]
  | southEvent connxStatus giStatus =>
    cases connxStatus <;> cases giStatus <;>
      simp [Reading.datapoint, Reading.ofDatapoint?, Datapoint.string?,
        ConnectionStatus.ofText?_text, GiStatus.ofText?_text]

/-- A step position, after a name that is none. -/
theorem ofDatapoint?_datapoint_stepPosition :
    let r : Reading := .dataObject
      { do_type := M_ST_TB_1, do_ca := 41025, do_oa := 0, do_cot := 3, do_test := false,
        do_negative := false, do_ioa := 4202832, do_value := some (.string "[-3,true]"),
        quality := some (qualityAttributes 0x90),
        do_ts := some ⟨1668631513250, true, false, false⟩ }
    Reading.ofDatapoint? (r.datapoint (run TypeTables.handle .init
      [.getTypeIdFromString "M_XX_NA_1", .getStringFromTypeID 0])) = some r :=
  ofDatapoint?_datapoint _ _ (by
    rintro o heq
    cases heq
    exact .inr (by decide))

/-! ## The elements of an ASDU -/

/-- The information objects of these types have a floating point value. -/
def isFloatType (typeId : Int) : Bool :=
  typeId ∈ [M_ME_NA_1, M_ME_TD_1, M_ME_NC_1, M_ME_TF_1, C_SE_NA_1, C_SE_TA_1, C_SE_NC_1,
    C_SE_TC_1]

def isStepPositionType (typeId : Int) : Bool := typeId ∈ [M_ST_NA_1, M_ST_TB_1]

/-- The types with a seven-octet time, monitored and of commands. -/
def hasTimeTag (typeId : Int) : Bool :=
  (30 ≤ typeId && typeId ≤ 40) || (58 ≤ typeId && typeId ≤ 64)

/-- The object that lib60870 makes for an element of the type has a value of this kind. -/
def IoValue.Fits (typeId : Int) : IoValue → Prop
  | .int _ => ¬isFloatType typeId ∧ ¬isStepPositionType typeId
  | .float _ => isFloatType typeId
  | .step _ _ => ¬isFloatType typeId ∧ isStepPositionType typeId

/-- What an element says. Three bits of a quality descriptor have no meaning. -/
structure ElementContent where
  typeId : Int
  ca : Int
  oa : Int
  cot : Int
  isTest : Bool
  isNegative : Bool
  ioa : Int
  value : IoValue
  quality : Option (BitVec 8)
  timestamp : Option CP56Time2a
deriving DecidableEq, Repr

def contentOf (a : ASDU) (io : InformationObject) : ElementContent where
  typeId := a.typeId
  ca := a.ca
  oa := a.oa
  cot := a.cot
  isTest := a.isTest
  isNegative := a.isNegative
  ioa := io.objectAddress
  value := io.value
  quality := if Client.isSupportedCommand a.typeId then none else some (io.quality &&& 0xF1)
  timestamp := if hasTimeTag a.typeId then some io.timestamp else none

/-- The quality descriptor with the bits of the attributes. -/
def QualityAttributes.descriptor (q : QualityAttributes) : BitVec 8 :=
  (if q.do_quality_iv then 0x80 else 0) ||| (if q.do_quality_bl then 0x10 else 0) |||
    (if q.do_quality_ov then 0x01 else 0) ||| (if q.do_quality_sb then 0x20 else 0) |||
    if q.do_quality_nt then 0x40 else 0

theorem descriptor_qualityAttributes :
    ∀ qd : BitVec 8, (qualityAttributes qd).descriptor = qd &&& 0xF1 := by decide

/-- The number or the step position that a value stands for. -/
def DatapointValue.ioValue? : DatapointValue → Option IoValue
  | .int value => some (.int value)
  | .float bits => some (.float bits)
  | .string text => do
    let (position, rest) ← Text.splitAtFirst ',' text
    let position ← Text.decimal? (String.ofList (position.toList.drop 1))
    if rest = "true]" then return .step position true
    else if rest = "false]" then return .step position false
    else none

/-- What a data object says of its element, if it was made of one. -/
def DataObject.content? (o : DataObject) : Option ElementContent := do
  return {
    typeId := o.do_type
    ca := o.do_ca
    oa := o.do_oa
    cot := o.do_cot
    isTest := o.do_test
    isNegative := o.do_negative
    ioa := o.do_ioa
    value := ← (← o.do_value).ioValue?
    quality := o.quality.map (·.descriptor)
    timestamp := o.do_ts }

/-- What the datapoint of a reading says of an element. -/
def Datapoint.content? (d : Datapoint) : Option ElementContent :=
  match Reading.ofDatapoint? d with
  | some (.dataObject o) => o.content?
  | _ => none

/-- The text of a step position is read back. -/
theorem ioValue?_stepPosition (position : Int) (transient : Bool) :
    (stepPositionValue (.step position transient)).ioValue? = some (.step position transient) := by
  have hnot : ',' ∉ ("[" ++ toString position).toList := by
    rw [String.toList_append, List.mem_append]
    rintro (hbracket | hmem)
    · revert hbracket
      decide
    · rcases Text.isDigit_or_minus_of_mem_toString hmem with hdigit | hminus
      · exact absurd hdigit (by decide)
      · exact absurd hminus (by decide)
  have hsplit (flag : String) :
      Text.splitAtFirst ',' ("[" ++ toString position ++ "," ++ flag ++ "]") =
        some ("[" ++ toString position, flag ++ "]") := by
    refine Text.splitAtFirst_eq_some.mpr ⟨?_, hnot⟩
    have hcomma (text : String) : ("," ++ text).toList = ',' :: text.toList := by
      rw [String.toList_append]
      rfl
    rw [String.append_assoc, String.append_assoc, String.toList_append, hcomma]
  have hdrop : String.ofList (("[" ++ toString position).toList.drop 1) = toString position := by
    rw [String.toList_append]
    exact String.ofList_toList
  have hread (flag : String) :
      (DatapointValue.string ("[" ++ toString position ++ "," ++ flag ++ "]")).ioValue? =
        if flag ++ "]" = "true]" then some (.step position true)
        else if flag ++ "]" = "false]" then some (.step position false) else none := by
    simp only [DatapointValue.ioValue?, hsplit, Option.bind_eq_bind, Option.bind_some, hdrop,
      Text.decimal?_toString, Option.pure_def]
  cases transient with
  | true => exact (hread "true").trans (if_pos (by decide))
  | false => exact (hread "false").trans ((if_neg (by decide)).trans (if_pos (by decide)))

/-- The getter that the handler of a type reads the value with. -/
def valueOf (typeId : Int) : IoValue → DatapointValue :=
  if isFloatType typeId then floatValue
  else if isStepPositionType typeId then stepPositionValue else intValue

theorem ioValue?_valueOf {typeId : Int} {value : IoValue} (h : value.Fits typeId) :
    (valueOf typeId value).ioValue? = some value := by
  cases value with
  | int value =>
    obtain ⟨hfloat, hstep⟩ := h
    rw [valueOf, if_neg hfloat, if_neg hstep]
    rfl
  | float bits =>
    have hfloat : isFloatType typeId := h
    rw [valueOf, if_pos hfloat]
    rfl
  | step position transient =>
    obtain ⟨hfloat, hstep⟩ : ¬isFloatType typeId ∧ isStepPositionType typeId := h
    rw [valueOf, if_neg hfloat, if_pos hstep]
    exact ioValue?_stepPosition position transient

/-- The data object of an element. Monitored information has a quality. -/
def dataObjectOf (a : ASDU) (io : InformationObject) : DataObject :=
  createDataObject a io.objectAddress (valueOf a.typeId io.value)
    (if Client.isSupportedCommand a.typeId then none else some io.quality)
    (if hasTimeTag a.typeId then some io.timestamp else none)

/-- The handlers of the types differ in the value, the quality and the time only; those of
commands look for the time at the type. -/
theorem asduHandler_eq {typeId : Int} {handler : ASDUHandler}
    (h : asduHandler typeId = some handler) {a : ASDU} (ha : a.typeId = typeId) (now : Nat)
    (io : InformationObject) (oc : Option OutstandingCommand) (c : Client) :
    (handler now a io oc c).1 = dataObjectOf a io := by
  unfold dataObjectOf
  rw [ha]
  unfold asduHandler at h
  split at h
  case h_25 => cases h
  all_goals
    cases h
    first
    | rfl
    | simp only [handle_C_SC_NA_1, handle_C_DC_NA_1, handle_C_RC_NA_1, handle_C_SE_NA_1,
        handle_C_SE_NB_1, handle_C_SE_NC_1, commandHandler, setpointHandler, ha]
      rfl

/-- The types that have a handler are in the table. -/
theorem isTypeNumber_of_asduHandler {typeId : Int} (h : (asduHandler typeId).isSome) :
    IsTypeNumber typeId := by
  unfold asduHandler at h
  split at h
  case h_25 => cases h
  all_goals exact .inr (by decide)

theorem content?_dataObjectOf {a : ASDU} {io : InformationObject} (h : io.value.Fits a.typeId) :
    (dataObjectOf a io).content? = some (contentOf a io) := by
  have hquality : ((if Client.isSupportedCommand a.typeId then none else some io.quality).map
      qualityAttributes).map (·.descriptor) =
        if Client.isSupportedCommand a.typeId then none else some (io.quality &&& 0xF1) := by
    split_ifs
    · rfl
    · exact congrArg some (descriptor_qualityAttributes io.quality)
  simp only [dataObjectOf, createDataObject, DataObject.content?, contentOf, ioValue?_valueOf h,
    hquality, Option.bind_eq_bind, Option.bind_some, Option.pure_def]

/-- After any lookups of names the datapoint of an element tells it. -/
theorem content?_datapoint (calls : List TypeLookup) {a : ASDU} {io : InformationObject}
    (h : io.value.Fits a.typeId) (htype : (asduHandler a.typeId).isSome) :
    ((Reading.dataObject (dataObjectOf a io)).datapoint
      (run TypeTables.handle .init calls)).content? = some (contentOf a io) := by
  have hread := ofDatapoint?_datapoint calls (.dataObject (dataObjectOf a io)) (by
    rintro o heq
    cases heq
    exact isTypeNumber_of_asduHandler htype)
  rw [Datapoint.content?, hread]
  exact content?_dataObjectOf h

/-! ## The values of a run -/

theorem matchedElements_nil (t : ExchangeTable) (a : ASDU) : matchedElements t a [] = [] := by
  unfold matchedElements
  split_ifs <;> rfl

/-- A round pushes the data object of its element, if it should be read. -/
theorem Collected.datapoints_handleElement {cfg : IEC104ClientConfig} {t : ExchangeTable}
    {a : ASDU} {done : List (Option InformationObject)} {r : AsduRun} (hr : Collected t a done r)
    (now : Nat) (connection : ConId) (e : Option InformationObject) :
    (Iec104South.handleElement cfg now connection a r e).datapoints =
      r.datapoints ++ (matchedElements t a [e]).map fun e => dataObjectOf a e.1 := by
  cases e with
  | none =>
    have hnone : matchedElements t a [none] = [] := by
      unfold matchedElements
      split_ifs <;> rfl
    rw [hnone, List.map_nil, List.append_nil]
    rfl
  | some io =>
    have hlabel : r.client.exchangeDefinitions.checkExchangeDataLayer a.typeId a.ca
        io.objectAddress = (matchedElement t a (some io)).map (·.2.label) := by
      rw [← checkExchangeDataLayer_eq]
      simp only [ExchangeTable.checkExchangeDataLayer, hr.find?]
    simp only [Iec104South.handleElement, hlabel]
    cases he : matchedElement t a (some io) with
    | none => simp [handleFound, matchedElements, he]
    | some found =>
      have hio : found.1 = io := by
        simp only [matchedElement] at he
        split at he
        · split_ifs at he
          rw [← Option.some.inj he]
        · cases he
      simp only [handleFound, Option.map_some, Iec104South.handleLabelled]
      cases htype : asduHandler a.typeId with
      | none => simp [matchedElements, htype]
      | some handler =>
        have hhandled : r.handledAsdu = true := hr.handled (by simp [htype])
        simp [matchedElements, htype, he, hhandled, hio, asduHandler_eq htype rfl]

theorem elementLoop_datapoints (cfg : IEC104ClientConfig) (now : Nat) (connection : ConId)
    (a : ASDU) (c : Client) :
    (elementLoop cfg now connection a c).datapoints =
      (matchedElements c.exchangeDefinitions a a.elements).map fun e => dataObjectOf a e.1 := by
  have hfold : ∀ (todo done : List (Option InformationObject)) (r : AsduRun),
      Collected c.exchangeDefinitions a done r →
      r.datapoints =
        (matchedElements c.exchangeDefinitions a done).map (fun e => dataObjectOf a e.1) →
      (todo.foldl (handleElement cfg now connection a) r).datapoints =
        (matchedElements c.exchangeDefinitions a (done ++ todo)).map
          fun e => dataObjectOf a e.1 := by
    intro todo
    induction todo with
    | nil =>
      intro done r _ hdatapoints
      rwa [List.append_nil]
    | cons e todo ih =>
      intro done r hr hdatapoints
      rw [List.foldl_cons, List.append_cons]
      refine ih _ _ (hr.handleElement now connection e) ?_
      rw [hr.datapoints_handleElement, hdatapoints, matchedElements_concat, List.map_append]
  have hnil := matchedElements_nil c.exchangeDefinitions a
  refine hfold a.elements [] _ ⟨fun _ _ => rfl, fun _ => rfl, ?_, ?_⟩ ?_
  · rw [hnil]
    rfl
  · rw [hnil]
    exact .nil
  · rw [hnil]
    rfl

theorem asduValues_eq (cfg : IEC104ClientConfig) (now : Nat) (connection : ConId) (a : ASDU)
    (c : Client) :
    asduValues cfg now connection a c =
      (matchedElements c.exchangeDefinitions a a.elements).map
        fun e => (e.2.label, dataObjectOf a e.1) := by
  rw [asduValues, (collected_elementLoop cfg now connection a c).labels, elementLoop_datapoints,
    List.zip_map']

/-- An element of an ASDU that is received, with its definition. -/
abbrev MatchedElement := ASDU × InformationObject × DataExchangeDefinition

/-- The elements that a step of a client with these connections should read. -/
def elementsToRead (t : ExchangeTable) (connections : List ConId) :
    ClientInput → List MatchedElement
  | .asdu con a _ =>
    if con ∈ connections then (matchedElements t a a.elements).map (a, ·) else []
  | _ => []

/-- The reading of an element, as it is ingested. -/
def MatchedElement.value (e : MatchedElement) : String × DataObject :=
  (e.2.2.label, dataObjectOf e.1 e.2.1)

theorem matchedElements_congr {t t' : ExchangeTable}
    (h : ∀ ca ioa, t'.find? ca ioa = t.find? ca ioa) (a : ASDU)
    (elements : List (Option InformationObject)) :
    matchedElements t' a elements = matchedElements t a elements := by
  have helement : matchedElement t' a = matchedElement t a := by
    funext e
    cases e with
    | none => rfl
    | some io => simp only [matchedElement, h]
  simp only [matchedElements, helement]

/-- An element that should be read was received, and its type has a handler. -/
theorem mem_matchedElements {t : ExchangeTable} {a : ASDU}
    {elements : List (Option InformationObject)} {e : InformationObject × DataExchangeDefinition}
    (h : e ∈ matchedElements t a elements) :
    (asduHandler a.typeId).isSome ∧ some e.1 ∈ elements := by
  unfold matchedElements at h
  split_ifs at h with htype
  · obtain ⟨element, helement, hmatched⟩ := List.mem_filterMap.mp h
    refine ⟨htype, ?_⟩
    cases element with
    | none => cases hmatched
    | some io =>
      simp only [matchedElement] at hmatched
      split at hmatched
      · split_ifs at hmatched
        rw [← Option.some.inj hmatched]
        exact helement
      · cases hmatched
  · cases h

/-- A step publishes the values of the elements to read. -/
theorem clientStep_values (cfg : IEC104ClientConfig) (redGroup : ConId → RedGroupCon) (s : System)
    (i : ClientInput) :
    (clientStep cfg redGroup s i).2.filterMap Effect.value? =
      (elementsToRead s.client.exchangeDefinitions s.connections i).map MatchedElement.value := by
  obtain ⟨-, -, events, hout, hvalues, -, -, -, -⟩ := handle_publishes cfg redGroup s.clear i
  have hemitted : (clientStep cfg redGroup s i).2 = events := hout
  rw [hemitted, hvalues]
  cases i with
  | asdu con a now =>
    simp only [readValues, elementsToRead]
    split_ifs with hcon hcon' hcon'
    · rw [asduValues_eq, List.map_map]
      rfl
    · exact absurd hcon hcon'
    · exact absurd hcon' hcon
    · rfl
  | _ => rfl

/-- In every run the values that are published are those of the elements to read, in order. -/
theorem trace_values (cfg : IEC104ClientConfig) (redGroup : ConId → RedGroupCon) (s : System)
    (is : List ClientInput) :
    (trace (clientStep cfg redGroup) s is).filterMap Effect.value? =
      (is.flatMap (elementsToRead s.client.exchangeDefinitions s.connections)).map
        MatchedElement.value := by
  induction is generalizing s with
  | nil => rfl
  | cons i is ih =>
    have hsame : ∀ ca ioa, (clientStep cfg redGroup s i).1.client.exchangeDefinitions.find? ca ioa =
        s.client.exchangeDefinitions.find? ca ioa := (handle_publishes cfg redGroup s.clear i).find?
    have hnext : elementsToRead (clientStep cfg redGroup s i).1.client.exchangeDefinitions
        (clientStep cfg redGroup s i).1.connections =
          elementsToRead s.client.exchangeDefinitions s.connections := by
      have hconnections : (clientStep cfg redGroup s i).1.connections = s.connections :=
        handle_connections cfg redGroup s.clear i
      funext j
      cases j with
      | asdu con a now =>
        simp only [elementsToRead, hconnections, matchedElements_congr hsame]
      | _ => rfl
    rw [trace, List.filterMap_append, clientStep_values, ih, hnext, List.flatMap_cons,
      List.map_append]

/-- The elements that are received have values of their types. -/
def WellTyped : ClientInput → Prop
  | .asdu _ a _ => ∀ io, some io ∈ a.elements → io.value.Fits a.typeId
  | _ => True

/-- In every run, whatever the threads do and whatever names were looked up before: the values
that are published are those of the received elements that have a definition of a matching type, in
their order, and each reading tells its element. -/
theorem run_contents (cfg : IEC104ClientConfig) (redGroup : ConId → RedGroupCon) (s : System)
    (is : List ClientInput) (hwell : ∀ i ∈ is, WellTyped i) :
    List.Forall₂
      (fun (d : String × DataObject) (e : MatchedElement) =>
        d.1 = e.2.2.label ∧ ∀ calls : List TypeLookup,
          ((Reading.dataObject d.2).datapoint (run TypeTables.handle .init calls)).content? =
            some (contentOf e.1 e.2.1))
      ((trace (clientStep cfg redGroup) s is).filterMap Effect.value?)
      (is.flatMap (elementsToRead s.client.exchangeDefinitions s.connections)) := by
  rw [trace_values, List.forall₂_map_left_iff, List.forall₂_same]
  intro e he
  obtain ⟨i, hi, hread⟩ := List.mem_flatMap.mp he
  refine ⟨rfl, fun calls => ?_⟩
  cases i with
  | asdu con a now =>
    simp only [elementsToRead] at hread
    split_ifs at hread
    · obtain ⟨e, hmatched, rfl⟩ := List.mem_map.mp hread
      obtain ⟨htype, helement⟩ := mem_matchedElements hmatched
      exact content?_datapoint calls (hwell _ hi e.1 helement) htype
    · cases hread
  | _ => cases hread

/-- A step position, an element that does not decode, and one without a definition. -/
def tapPositions : ASDU where
  typeId := M_ST_TB_1
  cot := CS101_COT_SPONTANEOUS
  ca := 1
  elements :=
    [some ⟨10, .step (-3) true, 0x90, ⟨1668631513250, true, false, false⟩⟩, none,
      some ⟨11, .step 7 false, 0, ⟨1668631513250, false, false, false⟩⟩]

theorem run_contents_tapPositions :
    let s := System.started {} (fun _ => {}) (.ofDatapoints [⟨1, 10, M_ST_NA_1, "TAP", 0⟩]) [0] 0
    let is : List ClientInput :=
      [.connectionEvent 0 .opened 0, .asdu 0 tapPositions 5, .asdu 1 tapPositions 6]
    (is.flatMap (elementsToRead s.client.exchangeDefinitions s.connections)).length = 1 ∧
      List.Forall₂
        (fun (d : String × DataObject) (e : MatchedElement) =>
          d.1 = e.2.2.label ∧ ∀ calls : List TypeLookup,
            ((Reading.dataObject d.2).datapoint (run TypeTables.handle .init calls)).content? =
              some (contentOf e.1 e.2.1))
        ((trace (clientStep {} fun _ => {}) s is).filterMap Effect.value?)
        (is.flatMap (elementsToRead s.client.exchangeDefinitions s.connections)) :=
  ⟨by decide, run_contents {} (fun _ => {}) _ _
    (by simp [WellTyped, tapPositions, IoValue.Fits, isFloatType, isStepPositionType])⟩

end Iec104South
