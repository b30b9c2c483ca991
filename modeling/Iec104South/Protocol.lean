import Mathlib.Data.List.Basic
import Mathlib.Data.Int.Basic

/-!
# What the plugin sees of IEC 60870-5-104

The values that cross the border to lib60870: type identifications, causes of
transmission, received ASDUs with their information objects, the events of a
connection, and the readings and library calls the plugin emits.

Numbers are those of the standard (and of the library's headers). Only the types and
causes that some branch of the plugin names are given names here.
-/

namespace Iec104South

/-! ## Type identifications -/

@[match_pattern] abbrev M_SP_NA_1 : Int := 1
@[match_pattern] abbrev M_SP_TA_1 : Int := 2
@[match_pattern] abbrev M_DP_NA_1 : Int := 3
@[match_pattern] abbrev M_DP_TA_1 : Int := 4
@[match_pattern] abbrev M_ST_NA_1 : Int := 5
@[match_pattern] abbrev M_ST_TA_1 : Int := 6
@[match_pattern] abbrev M_ME_NA_1 : Int := 9
@[match_pattern] abbrev M_ME_TA_1 : Int := 10
@[match_pattern] abbrev M_ME_NB_1 : Int := 11
@[match_pattern] abbrev M_ME_TB_1 : Int := 12
@[match_pattern] abbrev M_ME_NC_1 : Int := 13
@[match_pattern] abbrev M_ME_TC_1 : Int := 14
@[match_pattern] abbrev M_IT_NA_1 : Int := 15
@[match_pattern] abbrev M_ME_ND_1 : Int := 21
@[match_pattern] abbrev M_SP_TB_1 : Int := 30
@[match_pattern] abbrev M_DP_TB_1 : Int := 31
@[match_pattern] abbrev M_ST_TB_1 : Int := 32
@[match_pattern] abbrev M_ME_TD_1 : Int := 34
@[match_pattern] abbrev M_ME_TE_1 : Int := 35
@[match_pattern] abbrev M_ME_TF_1 : Int := 36
@[match_pattern] abbrev C_SC_NA_1 : Int := 45
@[match_pattern] abbrev C_DC_NA_1 : Int := 46
@[match_pattern] abbrev C_RC_NA_1 : Int := 47
@[match_pattern] abbrev C_SE_NA_1 : Int := 48
@[match_pattern] abbrev C_SE_NB_1 : Int := 49
@[match_pattern] abbrev C_SE_NC_1 : Int := 50
@[match_pattern] abbrev C_SC_TA_1 : Int := 58
@[match_pattern] abbrev C_DC_TA_1 : Int := 59
@[match_pattern] abbrev C_RC_TA_1 : Int := 60
@[match_pattern] abbrev C_SE_TA_1 : Int := 61
@[match_pattern] abbrev C_SE_TB_1 : Int := 62
@[match_pattern] abbrev C_SE_TC_1 : Int := 63
@[match_pattern] abbrev M_EI_NA_1 : Int := 70
@[match_pattern] abbrev C_IC_NA_1 : Int := 100
@[match_pattern] abbrev C_CS_NA_1 : Int := 103
@[match_pattern] abbrev C_TS_TA_1 : Int := 107

/-! ## Causes of transmission -/

@[match_pattern] abbrev CS101_COT_SPONTANEOUS : Int := 3
@[match_pattern] abbrev CS101_COT_ACTIVATION : Int := 6
@[match_pattern] abbrev CS101_COT_ACTIVATION_CON : Int := 7
@[match_pattern] abbrev CS101_COT_ACTIVATION_TERMINATION : Int := 10
@[match_pattern] abbrev CS101_COT_INTERROGATED_BY_STATION : Int := 20
@[match_pattern] abbrev CS101_COT_UNKNOWN_TYPE_ID : Int := 44

/-! ## Received ASDUs -/

/-- A decoded seven-octet time. -/
structure CP56Time2a where
  msTimestamp : Int
  invalid : Bool
  summerTime : Bool
  substituted : Bool
deriving DecidableEq, Repr

/-- The value getter of an information object: integers, the bits of a `float`, or a step
position with its transient flag. -/
inductive IoValue where
  | int (value : Int)
  | float (bits : BitVec 32)
  | step (position : Int) (transient : Bool)
deriving DecidableEq, Repr

/-- A decoded information object. -/
structure InformationObject where
  objectAddress : Int
  value : IoValue
  quality : BitVec 8
  timestamp : CP56Time2a
deriving DecidableEq, Repr

/-- A received ASDU. An element the library cannot decode is `none`. -/
structure ASDU where
  typeId : Int
  cot : Int
  ca : Int
  oa : Int := 0
  isTest : Bool := false
  isNegative : Bool := false
  elements : List (Option InformationObject)
deriving DecidableEq, Repr

/-- `CS104_ConnectionEvent`; `other` stands for any event without a branch in the handler. -/
inductive ConnectionEvent where
  | opened
  | closed
  | startdtConReceived
  | stopdtConReceived
  | other
deriving DecidableEq, Repr

/-! ## Readings -/

/-- `IEC60870_QUALITY_INVALID` and `IEC60870_QUALITY_NON_TOPICAL`. -/
def IEC60870_QUALITY_INVALID : BitVec 8 := 0x80
def IEC60870_QUALITY_NON_TOPICAL : BitVec 8 := 0x40

/-- The five quality bits a data object carries. -/
structure QualityAttributes where
  do_quality_iv : Bool
  do_quality_bl : Bool
  do_quality_ov : Bool
  do_quality_sb : Bool
  do_quality_nt : Bool
deriving DecidableEq, Repr

/-- The quality attributes of a quality descriptor. -/
def qualityAttributes (qd : BitVec 8) : QualityAttributes where
  do_quality_iv := qd &&& 0x80 != 0
  do_quality_bl := qd &&& 0x10 != 0
  do_quality_ov := qd &&& 0x01 != 0
  do_quality_sb := qd &&& 0x20 != 0
  do_quality_nt := qd &&& 0x40 != 0

/-- A value as it is stored in a datapoint. -/
inductive DatapointValue where
  | int (value : Int)
  | float (bits : BitVec 32)
  | string (value : String)
deriving DecidableEq, Repr

/-- The `data_object` datapoint. `do_type` holds the type identification; the reading
carries its name. A quality update has no `do_value`. -/
structure DataObject where
  do_type : Int
  do_ca : Int
  do_oa : Int
  do_cot : Int
  do_test : Bool
  do_negative : Bool
  do_ioa : Int
  do_value : Option DatapointValue
  quality : Option QualityAttributes
  do_ts : Option CP56Time2a
deriving DecidableEq, Repr

/-- `IEC104Client::GiStatus`. -/
inductive GiStatus where
  | idle
  | started
  | inProgress
  | failed
  | finished
deriving DecidableEq, Repr

/-- `IEC104Client::ConnectionStatus`. -/
inductive ConnectionStatus where
  | started
  | notConnected
deriving DecidableEq, Repr

/-- What is passed to `ingest`: a data object, or a south event with the statuses it
reports. -/
inductive Reading where
  | dataObject (object : DataObject)
  | southEvent (connxStatus : Option ConnectionStatus) (giStatus : Option GiStatus)
deriving DecidableEq, Repr

/-! ## What the plugin emits -/

/-- The identity of an `IEC104ClientConnection` object. -/
abbrev ConId := Nat

/-- A `CS104_Connection`. -/
abbrev Handle := Nat

/-- The command object passed to `CS104_Connection_sendProcessCommandEx`. -/
structure CommandObject where
  typeId : Int
  ioa : Int
  value : IoValue
  select : Bool
  msTimestamp : Option Int
deriving DecidableEq, Repr

/-- The path status reported in audits. -/
inductive AuditType where
  | disconnected
  | passive
  | active
deriving DecidableEq, Repr

/-- The calls that leave the plugin: ingested readings, audits, and calls of lib60870.
`accepted` is what the library call returned. -/
inductive Effect where
  | ingest (assetName : String) (reading : Reading)
  | connectionStatusAudit (auditType : AuditType)
  | clientStatusAudit (status : ConnectionStatus)
  | create (con : Handle)
  | connectAsync (con : Handle)
  | destroy (con : Handle)
  | close (con : Handle)
  | sendStartDT (con : Handle)
  | sendInterrogationCommand (con : Handle) (ca : Int) (accepted : Bool)
  | sendClockSyncCommand (con : Option Handle) (ca : Int) (accepted : Bool)
  | sendProcessCommandEx (con : Handle) (cot ca : Int) (command : CommandObject) (accepted : Bool)
deriving DecidableEq, Repr

/-- The GI status an emitted effect publishes. -/
def Effect.giStatus? : Effect → Option GiStatus
  | .ingest _ (.southEvent _ status) => status
  | _ => none

/-- The GI statuses published by a list of effects, in order. -/
def giEvents (out : List Effect) : List GiStatus := out.filterMap Effect.giStatus?

@[simp] theorem giEvents_nil : giEvents [] = [] := rfl

@[simp] theorem giEvents_append (a b : List Effect) :
    giEvents (a ++ b) = giEvents a ++ giEvents b := List.filterMap_append ..

/-- A reading or an audit, and not a call of lib60870. -/
def Effect.isReport : Effect → Bool
  | .ingest .. | .connectionStatusAudit _ | .clientStatusAudit _ => true
  | _ => false

/-- The effects are readings and audits. -/
def Reports (out : List Effect) : Prop := ∀ e ∈ out, e.isReport

namespace Reports

theorem filter_eq_nil {out : List Effect} (h : Reports out) {p : Effect → Bool}
    (hp : ∀ e, e.isReport → p e = false) : out.filter p = [] :=
  List.filter_eq_nil_iff.mpr fun e he => by simp [hp e (h e he)]

theorem any_eq_false {out : List Effect} (h : Reports out) {p : Effect → Bool}
    (hp : ∀ e, e.isReport → p e = false) : out.any p = false :=
  List.any_eq_false.mpr fun e he => by simp [hp e (h e he)]

theorem filterMap_eq_nil {out : List Effect} (h : Reports out) {α : Type*} {f : Effect → Option α}
    (hf : ∀ e, e.isReport → f e = none) : out.filterMap f = [] :=
  List.filterMap_eq_nil_iff.mpr fun e he => hf e (h e he)

end Reports

end Iec104South
