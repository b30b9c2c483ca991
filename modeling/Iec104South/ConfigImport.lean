import Iec104South.Lib.Scan
import Iec104South.Lib.Json
import Iec104South.Config

/-!
# Importing the configuration

`importProtocolConfig`, `importExchangeConfig` and `importTlsConfig`. Each gets the result
of parsing its text, `none` if the parser reports an error, and changes the configuration
object; an import that returns early leaves what it has stored so far.

The checks of an integer member differ in the name, the bounds and the default only, so
each of them is an instance of `intMember`.
-/

namespace Iec104South

open Json

/-! ## Redundancy groups -/

/-- A connection of a redundancy group with its addresses. -/
structure RedGroupConnection extends RedGroupCon where
  serverIp : String
  clientIp : String := ""
  tcpPort : Int := 2404
  connId : Int := -1
deriving DecidableEq, Repr

/-- `IEC104ClientRedGroup` -/
structure RedGroup where
  name : String
  index : Nat
  useTls : Bool := false
  connections : List RedGroupConnection := []
  k : Int := 12
  w : Int := 8
  t0 : Int := 30
  t1 : Int := 15
  t2 : Int := 10
  t3 : Int := 20
deriving DecidableEq, Repr

/-- `AddConnection` -/
def RedGroup.addConnection (con : RedGroupConnection) (group : RedGroup) : RedGroup :=
  { group with
    connections := group.connections ++ [{ con with connId := group.connections.length }] }

/-! ## The configuration object -/

/-- `IEC104ClientConfig` while it is imported: the parameters the client works with, the
table, and what only the set-up of connections reads. -/
structure ImportedConfig where
  config : IEC104ClientConfig := {}
  exchangeDefinitions : ExchangeTable := .empty
  redundancyGroups : List RedGroup := []
  ioaSize : Int := 3
  /-- 0 is the maximum -/
  asduSize : Int := 0
  origAddr : Int := 0
  giRepeatCount : Int := 2
  privateKey : String := ""
  ownCertificate : String := ""
  remoteCertificates : List String := []
  caCertificates : List String := []
  protocolConfigComplete : Bool := false
  exchangeConfigComplete : Bool := false
  tlsConfigComplete : Bool := false

/-! ## Members with a default -/

/-- An integer member in range replaces the default; any other value is ignored. -/
def intMember (members : List (String × Json)) (name : String) (inRange : Int → Bool)
    (default : Int) : Int :=
  match member? members name int? with
  | some value => if inRange value then value else default
  | none => default

/-- An integer member that is not negative. -/
def natMember (members : List (String × Json)) (name : String) (default : Nat) : Nat :=
  (intMember members name (0 ≤ ·) default).toNat

def boolMember (members : List (String × Json)) (name : String) (default : Bool) : Bool :=
  (member? members name bool?).getD default

/-! ## importProtocolConfig -/

/-- `isValidIPAddress` -/
def isValidIPAddress (addrStr : String) : Bool := Text.isDottedQuad addrStr

/-- The connection an element of `connections` describes. -/
def redGroupConnection (con : Json) : Option RedGroupConnection := do
  let con ← con.object?
  let srvIp ← member? con "srv_ip" string?
  if !isValidIPAddress srvIp then none
  return {
    serverIp := srvIp
    clientIp := ((member? con "clt_ip" string?).filter isValidIPAddress).getD ""
    tcpPort := intMember con "port" (fun value => 0 < value && value < 65636) 2404
    conn := boolMember con "conn" true
    start := boolMember con "start" true }

def importRedGroupCon (con : Json) (redundancyGroup : RedGroup) : RedGroup :=
  match redGroupConnection con with
  | some connection => redundancyGroup.addConnection connection
  | none => redundancyGroup

/-- The group an element of `redundancy_groups` describes, which gets the given index. -/
def redGroup (redGroup : Json) (index : Nat) : Option RedGroup := do
  let redGroup ← redGroup.object?
  let redGroupName ← member? redGroup "rg_name" string?
  let redundancyGroup : RedGroup := { name := redGroupName, index := index }
  let cons := (member? redGroup "connections" array?).getD []
  let redundancyGroup := cons.foldl (fun group con => importRedGroupCon con group) redundancyGroup
  return { redundancyGroup with
    k := intMember redGroup "k_value" (fun value => 0 < value && value < 32768) redundancyGroup.k
    w := intMember redGroup "w_value" (fun value => 0 < value && value < 32768) redundancyGroup.w
    t0 := intMember redGroup "t0_timeout" (fun value => 0 < value && value < 256) redundancyGroup.t0
    t1 := intMember redGroup "t1_timeout" (fun value => 0 < value && value < 256) redundancyGroup.t1
    t2 := intMember redGroup "t2_timeout" (fun value => 0 < value && value < 256) redundancyGroup.t2
    t3 := intMember redGroup "t3_timeout" (fun value => -1 < value) redundancyGroup.t3
    useTls := boolMember redGroup "tls" redundancyGroup.useTls }

def importRedGroup (c : ImportedConfig) (json : Json) : ImportedConfig :=
  match redGroup json c.redundancyGroups.length with
  | some redundancyGroup => { c with redundancyGroups := c.redundancyGroups ++ [redundancyGroup] }
  | none => c

/-- The loop over the connections appends those it accepts, numbered in their order. -/
theorem foldl_importRedGroupCon (cons : List Json) (group : RedGroup) :
    cons.foldl (fun group con => importRedGroupCon con group) group = { group with
      connections := group.connections ++
        (cons.filterMap redGroupConnection).mapIdx fun i con =>
          { con with connId := ↑(group.connections.length + i) } } := by
  have hframe : cons.foldl (fun group con => importRedGroupCon con group) group = { group with
      connections :=
        (cons.foldl (fun group con => importRedGroupCon con group) group).connections } := by
    induction cons generalizing group with
    | nil => rfl
    | cons json cons ih =>
      rw [List.foldl_cons, ih]
      unfold importRedGroupCon
      split <;> rfl
  rw [hframe, foldl_numbered RedGroup.connections redGroupConnection
    (fun i con => { con with connId := i })]
  intro group json
  unfold importRedGroupCon
  cases redGroupConnection json with
  | none => exact (List.append_nil _).symm
  | some con => rfl

/-- Its index is all that a group takes from its position among the others. -/
theorem redGroup_index (json : Json) (index : Nat) :
    redGroup json index = (redGroup json 0).map ({ · with index := index }) := by
  simp only [redGroup, foldl_importRedGroupCon]
  cases json.object? with
  | none => rfl
  | some members =>
    cases hname : member? members "rg_name" string? with
    | none => simp [hname]
    | some name => simp [hname]

/-- The loop over the groups appends those it accepts, numbered in their order. -/
theorem foldl_importRedGroup (redGroups : List Json) (c : ImportedConfig) :
    redGroups.foldl importRedGroup c = { c with
      redundancyGroups := c.redundancyGroups ++
        (redGroups.filterMap (redGroup · 0)).mapIdx fun i group =>
          { group with index := c.redundancyGroups.length + i } } := by
  have hframe : redGroups.foldl importRedGroup c = { c with
      redundancyGroups := (redGroups.foldl importRedGroup c).redundancyGroups } := by
    induction redGroups generalizing c with
    | nil => rfl
    | cons json redGroups ih =>
      rw [List.foldl_cons, ih]
      unfold importRedGroup
      split <;> rfl
  rw [hframe, foldl_numbered ImportedConfig.redundancyGroups (redGroup · 0)
    (fun i group => { group with index := i })]
  intro c json
  unfold importRedGroup
  rw [redGroup_index]
  cases redGroup json 0 with
  | none => exact (List.append_nil _).symm
  | some group => rfl

/-- The application layer parameters. -/
def importApplicationLayer (applicationLayer : List (String × Json)) (c : ImportedConfig) :
    ImportedConfig :=
  { c with
    origAddr := intMember applicationLayer "orig_addr"
      (fun value => 0 ≤ value && value ≤ 255) c.origAddr
    ioaSize := intMember applicationLayer "ioaddr_size"
      (fun value => 0 < value && value < 4) c.ioaSize
    asduSize := intMember applicationLayer "asdu_size"
      (fun value => value == 0 || (10 < value && value < 254)) c.asduSize
    giRepeatCount := intMember applicationLayer "gi_repeat_count" (0 ≤ ·) c.giRepeatCount
    config := { c.config with
      caSize := intMember applicationLayer "ca_asdu_size"
        (fun value => 0 < value && value < 3) c.config.caSize
      timeSyncPeriod := natMember applicationLayer "time_sync" c.config.timeSyncPeriod
      giAllCa := boolMember applicationLayer "gi_all_ca" c.config.giAllCa
      giTime := natMember applicationLayer "gi_time" c.config.giTime
      giEnabled := boolMember applicationLayer "gi_enabled" c.config.giEnabled
      giCycle := natMember applicationLayer "gi_cycle" c.config.giCycle
      cmdParallel := natMember applicationLayer "cmd_parallel" c.config.cmdParallel
      cmdExecTimeout := natMember applicationLayer "cmd_exec_timeout" c.config.cmdExecTimeout } }

/-- The asset name of the south monitoring, if the stack has one. -/
def southMonitoringAsset (protocolStack : List (String × Json)) : Option String := do
  let southMonitoring ← member? protocolStack "south_monitoring" object?
  member? southMonitoring "asset" string?

/-- The stack and its two layers. -/
def protocolLayers (document : Option Json) :
    Option (List (String × Json) × List (String × Json) × List (String × Json)) := do
  let root ← (← document).object?
  let protocolStack ← member? root "protocol_stack" object?
  let transportLayer ← member? protocolStack "transport_layer" object?
  let applicationLayer ← member? protocolStack "application_layer" object?
  return (protocolStack, transportLayer, applicationLayer)

def importProtocolConfig (document : Option Json) (c : ImportedConfig) : ImportedConfig :=
  let c := { c with protocolConfigComplete := false }
  match protocolLayers document with
  | none => c
  | some (protocolStack, transportLayer, applicationLayer) =>
    let c := { c with
      config := { c.config with
        connxStatus := (southMonitoringAsset protocolStack).getD c.config.connxStatus } }
    let redundancyGroups := (member? transportLayer "redundancy_groups" array?).getD []
    let c := importApplicationLayer applicationLayer (redundancyGroups.foldl importRedGroup c)
    { c with protocolConfigComplete := true }

/-! ## importExchangeConfig -/

/-- `mapAsduTypeId` -/
def mapAsduTypeId : List (String × Int) :=
  [("M_SP_TA_1", M_SP_TA_1), ("M_SP_NA_1", M_SP_NA_1), ("M_DP_NA_1", M_DP_NA_1),
    ("M_DP_TA_1", M_DP_TA_1), ("M_ST_NA_1", M_ST_NA_1), ("M_ST_TA_1", M_ST_TA_1),
    ("M_BO_NA_1", 7), ("M_BO_TA_1", 8), ("M_ME_NA_1", M_ME_NA_1), ("M_ME_TA_1", M_ME_TA_1),
    ("M_ME_NB_1", M_ME_NB_1), ("M_ME_TB_1", M_ME_TB_1), ("M_ME_NC_1", M_ME_NC_1),
    ("M_ME_TC_1", M_ME_TC_1), ("M_IT_NA_1", M_IT_NA_1), ("M_IT_TA_1", 16), ("M_EP_TA_1", 17),
    ("M_EP_TB_1", 18), ("M_EP_TC_1", 19), ("M_PS_NA_1", 20), ("M_ME_ND_1", M_ME_ND_1),
    ("M_SP_TB_1", M_SP_TB_1), ("M_DP_TB_1", M_DP_TB_1), ("M_ST_TB_1", M_ST_TB_1),
    ("M_BO_TB_1", 33), ("M_ME_TD_1", M_ME_TD_1), ("M_ME_TE_1", M_ME_TE_1),
    ("M_ME_TF_1", M_ME_TF_1), ("M_IT_TB_1", 37), ("M_EP_TD_1", 38), ("M_EP_TE_1", 39),
    ("M_EP_TF_1", 40), ("S_IT_TC_1", 41), ("C_SC_NA_1", C_SC_NA_1), ("C_DC_NA_1", C_DC_NA_1),
    ("C_RC_NA_1", C_RC_NA_1), ("C_SE_NA_1", C_SE_NA_1), ("C_SE_NB_1", C_SE_NB_1),
    ("C_SE_NC_1", C_SE_NC_1), ("C_BO_NA_1", 51), ("C_SC_TA_1", C_SC_TA_1),
    ("C_DC_TA_1", C_DC_TA_1), ("C_RC_TA_1", C_RC_TA_1), ("C_SE_TA_1", C_SE_TA_1),
    ("C_SE_TB_1", C_SE_TB_1), ("C_SE_TC_1", C_SE_TC_1), ("C_BO_TA_1", 64),
    ("M_EI_NA_1", M_EI_NA_1), ("S_CH_NA_1", 81), ("S_RP_NA_1", 82), ("S_AR_NA_1", 83),
    ("S_KR_NA_1", 84), ("S_KS_NA_1", 85), ("S_KC_NA_1", 86), ("S_ER_NA_1", 87),
    ("S_US_NA_1", 90), ("S_UQ_NA_1", 91), ("S_UR_NA_1", 92), ("S_UK_NA_1", 93),
    ("S_UA_NA_1", 94), ("S_UC_NA_1", 95), ("C_IC_NA_1", C_IC_NA_1), ("C_CI_NA_1", 101),
    ("C_RD_NA_1", 102), ("C_CS_NA_1", C_CS_NA_1), ("C_TS_NA_1", 104), ("C_RP_NA_1", 105),
    ("C_CD_NA_1", 106), ("C_TS_TA_1", C_TS_TA_1), ("P_ME_NA_1", 110), ("P_ME_NB_1", 111),
    ("P_ME_NC_1", 112), ("P_AC_NA_1", 113), ("F_FR_NA_1", 120), ("F_SR_NA_1", 121),
    ("F_SC_NA_1", 122), ("F_LS_NA_1", 123), ("F_AF_NA_1", 124), ("F_SG_NA_1", 125),
    ("F_DR_TA_1", 126), ("F_SC_NB_1", 127)]

/-- `getTypeIdFromString`: an unknown name is created with the number 0. -/
def getTypeIdFromString (name : String) : Int := (mapAsduTypeId.lookup name).getD 0

/-- The definition an element of `protocols` describes: `some none` for another protocol,
`none` where the import returns. -/
def exchangeDefinition (label : String) (protocol : Json) :
    Option (Option DataExchangeDefinition) := do
  let protocol ← protocol.object?
  let protocolName ← member? protocol "name" string?
  if protocolName ≠ "iec104" then return none
  let address ← member? protocol "address" string?
  let typeIdStr ← member? protocol "typeid" string?
  let giGroups :=
    match member? protocol "gi_groups" string? with
    | some giGroupsStr => if "station" ∈ Text.tokenize ' ' giGroupsStr then 1 else 0
    | none => 0
  let (caStr, ioaStr) ← Text.splitAtFirst '-' address
  let ca ← Text.stoi caStr
  let ioa ← Text.stoi ioaStr
  return some {
    ca := ca
    ioa := ioa
    label := label
    typeId := getTypeIdFromString typeIdStr
    giGroups := giGroups }

/-- `isGiTriggeringTs`: the pivot subtypes contain `trigger_south_gi`. -/
def isGiTriggeringTs (datapoint : List (String × Json)) : Bool :=
  ((member? datapoint "pivot_subtypes" array?).getD []).any fun subtype =>
    subtype.string? == some "trigger_south_gi"

/-- The label of an element of `datapoints`, whether it triggers a GI, and its protocols. -/
def datapointHead (datapoint : Json) : Option (String × Bool × List Json) := do
  let datapoint ← datapoint.object?
  let label ← member? datapoint "label" string?
  let protocols ← member? datapoint "protocols" array?
  return (label, isGiTriggeringTs datapoint, protocols)

section

variable {σ : Type} (add : σ → DataExchangeDefinition → Bool → σ)

/-- A round of the loop over the protocols; `add` stores the definition. -/
def importProtocol (label : String) (isGiTriggeringTs : Bool) (s : σ) (protocol : Json) :
    ForInStep σ :=
  match exchangeDefinition label protocol with
  | none => .done s
  | some none => .yield s
  | some (some dp) => .yield (add s dp isGiTriggeringTs)

/-- A round of the loop over the datapoints. -/
def importDatapoint (s : σ) (datapoint : Json) : ForInStep σ :=
  match datapointHead datapoint with
  | none => .done s
  | some (label, isGiTriggeringTs, protocols) =>
    scan (importProtocol add label isGiTriggeringTs) s protocols

end

/-- The array `datapoints` of the text. -/
def exchangedDatapoints (document : Option Json) : Option (List Json) := do
  let root ← (← document).object?
  let exchangeData ← member? root "exchanged_data" object?
  member? exchangeData "datapoints" array?

def deleteExchangeDefinitions (c : ImportedConfig) : ImportedConfig :=
  { c with exchangeDefinitions := .empty }

/-- A definition is stored, and its address noted if it triggers a GI. -/
def addDefinition (c : ImportedConfig) (dp : DataExchangeDefinition) (isGiTriggeringTs : Bool) :
    ImportedConfig :=
  { c with
    exchangeDefinitions := c.exchangeDefinitions.store dp
    config := { c.config with
      cgTriggeringTsAdresses :=
        if isGiTriggeringTs then c.config.cgTriggeringTsAdresses.insert (dp.ca, dp.ioa)
        else c.config.cgTriggeringTsAdresses } }

def importExchangeConfig (document : Option Json) (c : ImportedConfig) : ImportedConfig :=
  let c := deleteExchangeDefinitions { c with exchangeConfigComplete := false }
  match exchangedDatapoints document with
  | none => c
  | some datapoints =>
    match scan (importDatapoint addDefinition) c datapoints with
    | .done c => c
    | .yield c => { c with
        config := { c.config with
          listOfCAs := collectCAs c.config.listOfCAs c.exchangeDefinitions }
        exchangeConfigComplete := true }

/-! ## importTlsConfig -/

/-- The files of a list of certificates; an element without one is skipped. -/
def certFiles (certs : List Json) : List String :=
  certs.filterMap fun cert => cert.object?.bind fun cert => member? cert "cert_file" string?

/-- The object `tls_conf` of the text. -/
def tlsConf (document : Option Json) : Option (List (String × Json)) := do
  let root ← (← document).object?
  member? root "tls_conf" object?

def importTlsConfig (document : Option Json) (c : ImportedConfig) : ImportedConfig :=
  let c := { c with tlsConfigComplete := false }
  match tlsConf document with
  | none => c
  | some tlsConf =>
    { c with
      privateKey := (member? tlsConf "private_key" string?).getD c.privateKey
      ownCertificate := (member? tlsConf "own_cert" string?).getD c.ownCertificate
      caCertificates :=
        c.caCertificates ++ certFiles ((member? tlsConf "ca_certs" array?).getD [])
      remoteCertificates :=
        c.remoteCertificates ++ certFiles ((member? tlsConf "remote_certs" array?).getD [])
      tlsConfigComplete := true }

/-- `IEC104::setJsonConfig`: the three texts are imported into a new object. -/
def setJsonConfig (stackConfiguration msgConfiguration tlsConfiguration : Option Json) :
    ImportedConfig :=
  importTlsConfig tlsConfiguration
    (importExchangeConfig msgConfiguration (importProtocolConfig stackConfiguration {}))

end Iec104South
