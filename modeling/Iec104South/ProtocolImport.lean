import Iec104South.PrepareConnection
import Iec104South.ExchangeImport

/-!
# The parameters of the connections

What a protocol text makes of the parameters of a connection. The legal ranges are those of
the standard (`LegalParameters`), and a member outside of its range, or of a wrong type,
should leave the default (`FromText`). Two bounds of the import are wider than the range:
`legalParameters_iff` says which texts they let through.
-/

namespace Iec104South

open Json

/-- The parameters lib60870 is given for a connection of a group. -/
structure ConnectionParameters where
  tcpPort : Int
  apci : APCIParameters
  appLayer : AppLayerParameters

def connectionParameters (c : ImportedConfig) (group : RedGroup) (con : RedGroupConnection) :
    ConnectionParameters where
  tcpPort := con.tcpPort
  apci := (prepareParameters c group).1
  appLayer := (prepareParameters c group).2

theorem connectionParameters_of_prepareConnection {env : TlsEnv} {c : ImportedConfig}
    {group : RedGroup} {con : RedGroupConnection} {prepared : PreparedConnection}
    (h : prepareConnection env c group con = some prepared) :
    (⟨prepared.tcpPort, prepared.apci, prepared.appLayer⟩ : ConnectionParameters) =
      connectionParameters c group con := by
  obtain ⟨hport, hparameters⟩ := prepareConnection_parameters h
  obtain ⟨hapci, happLayer⟩ := Prod.mk.inj hparameters
  rw [hport, hapci, happLayer]
  rfl

/-- The imports that follow the one of the protocol text leave the parameters alone. -/
theorem connectionParameters_setJsonConfig (stackConfiguration msgConfiguration
    tlsConfiguration : Option Json) (group : RedGroup) (con : RedGroupConnection) :
    connectionParameters (setJsonConfig stackConfiguration msgConfiguration tlsConfiguration)
        group con =
      connectionParameters (importProtocolConfig stackConfiguration {}) group con := by
  have htls (c : ImportedConfig) :
      connectionParameters (importTlsConfig tlsConfiguration c) group con =
        connectionParameters c group con := by
    unfold importTlsConfig
    split <;> rfl
  have hexchange (c : ImportedConfig) :
      connectionParameters (importExchangeConfig msgConfiguration c) group con =
        connectionParameters c group con := by
    rw [importExchangeConfig_eq]
    dsimp only
    split_ifs
    · rw [addAll_eq]
      rfl
    · rw [addAll_eq]
      rfl
  rw [setJsonConfig, htls, hexchange]

/-! ## The legal ranges -/

/-- The parameters are legal for the protocol. -/
structure LegalParameters (p : ConnectionParameters) : Prop where
  tcpPort : 1 ≤ p.tcpPort ∧ p.tcpPort ≤ 65535
  originatorAddress : 0 ≤ p.appLayer.originatorAddress ∧ p.appLayer.originatorAddress ≤ 255
  sizeOfCA : 1 ≤ p.appLayer.sizeOfCA ∧ p.appLayer.sizeOfCA ≤ 2
  sizeOfIOA : 1 ≤ p.appLayer.sizeOfIOA ∧ p.appLayer.sizeOfIOA ≤ 3
  maxSizeOfASDU : 11 ≤ p.appLayer.maxSizeOfASDU ∧ p.appLayer.maxSizeOfASDU ≤ 249
  k : 1 ≤ p.apci.k ∧ p.apci.k ≤ 32767
  w : 1 ≤ p.apci.w ∧ p.apci.w ≤ 32767
  t0 : 1 ≤ p.apci.t0 ∧ p.apci.t0 ≤ 255
  t1 : 1 ≤ p.apci.t1 ∧ p.apci.t1 ≤ 255
  t2 : 1 ≤ p.apci.t2 ∧ p.apci.t2 ≤ 255
  t3 : 0 ≤ p.apci.t3

/-- The value of an integer member if it lies in the range, the default otherwise. -/
def legalMember (members : List (String × Json)) (name : String) (low high default : Int) : Int :=
  match member? members name int? with
  | some value => if low ≤ value ∧ value ≤ high then value else default
  | none => default

/-- The parameters a text asks for: `application`, `group` and `con` are the members of the
application layer, of the redundancy group and of the connection. -/
structure FromText (application group con : List (String × Json)) (p : ConnectionParameters) :
    Prop where
  tcpPort : p.tcpPort = legalMember con "port" 1 65535 2404
  originatorAddress : p.appLayer.originatorAddress = legalMember application "orig_addr" 0 255 0
  sizeOfCA : p.appLayer.sizeOfCA = legalMember application "ca_asdu_size" 1 2 2
  sizeOfIOA : p.appLayer.sizeOfIOA = legalMember application "ioaddr_size" 1 3 3
  maxSizeOfASDU : p.appLayer.maxSizeOfASDU = legalMember application "asdu_size" 11 249 249
  k : p.apci.k = legalMember group "k_value" 1 32767 12
  w : p.apci.w = legalMember group "w_value" 1 32767 8
  t0 : p.apci.t0 = legalMember group "t0_timeout" 1 255 30
  t1 : p.apci.t1 = legalMember group "t1_timeout" 1 255 15
  t2 : p.apci.t2 = legalMember group "t2_timeout" 1 255 10
  t3 : p.apci.t3 = legalMember group "t3_timeout" 0 (2 ^ 31 - 1) 20

theorem legalMember_mem (members : List (String × Json)) (name : String) {low high default : Int}
    (hlow : low ≤ default) (hhigh : default ≤ high) :
    low ≤ legalMember members name low high default ∧
      legalMember members name low high default ≤ high := by
  unfold legalMember
  split
  · split_ifs with hrange
    · exact hrange
    · exact ⟨hlow, hhigh⟩
  · exact ⟨hlow, hhigh⟩

/-- Every default lies in its own range. -/
theorem FromText.legal {application group con : List (String × Json)} {p : ConnectionParameters}
    (h : FromText application group con p) : LegalParameters p where
  tcpPort := h.tcpPort ▸ legalMember_mem _ _ (by decide) (by decide)
  originatorAddress := h.originatorAddress ▸ legalMember_mem _ _ (by decide) (by decide)
  sizeOfCA := h.sizeOfCA ▸ legalMember_mem _ _ (by decide) (by decide)
  sizeOfIOA := h.sizeOfIOA ▸ legalMember_mem _ _ (by decide) (by decide)
  maxSizeOfASDU := h.maxSizeOfASDU ▸ legalMember_mem _ _ (by decide) (by decide)
  k := h.k ▸ legalMember_mem _ _ (by decide) (by decide)
  w := h.w ▸ legalMember_mem _ _ (by decide) (by decide)
  t0 := h.t0 ▸ legalMember_mem _ _ (by decide) (by decide)
  t1 := h.t1 ▸ legalMember_mem _ _ (by decide) (by decide)
  t2 := h.t2 ▸ legalMember_mem _ _ (by decide) (by decide)
  t3 := (h.t3 ▸ legalMember_mem _ _ (by decide) (by decide) : _ ∧ _).1

/-! ## The checks of the import -/

theorem intMember_of_some {members : List (String × Json)} {name : String} {value : Int}
    (h : member? members name int? = some value) (inRange : Int → Bool) (default : Int) :
    intMember members name inRange default = if inRange value then value else default := by
  rw [intMember, h]

/-- A check of the import that agrees with the range on the value of the member is the legal
one. -/
theorem intMember_eq_legalMember {members : List (String × Json)} {name : String}
    {inRange : Int → Bool} {low high default : Int}
    (h : ∀ value, member? members name int? = some value →
      (inRange value ↔ low ≤ value ∧ value ≤ high)) :
    intMember members name inRange default = legalMember members name low high default := by
  unfold intMember legalMember
  cases hvalue : member? members name int? with
  | none => rfl
  | some value => simp only [h value hvalue]

/-- The integer member lies between the bounds. -/
def MemberIn (members : List (String × Json)) (name : String) (low high : Int) : Prop :=
  ∃ value, member? members name int? = some value ∧ low ≤ value ∧ value ≤ high

theorem port_of_memberIn {con : List (String × Json)} (h : MemberIn con "port" 65536 65635) :
    65535 < intMember con "port" (fun value => 0 < value && value < 65636) 2404 := by
  obtain ⟨value, hvalue, hlow, hhigh⟩ := h
  have hcheck : (0 < value && value < 65636) = true := by
    simp only [Bool.and_eq_true, decide_eq_true_eq]
    omega
  rw [intMember_of_some hvalue, if_pos hcheck]
  omega

/-- Beside the 100 ports too many the check of the port is the legal one. -/
theorem port_of_not_memberIn {con : List (String × Json)}
    (h : ¬MemberIn con "port" 65536 65635) :
    intMember con "port" (fun value => 0 < value && value < 65636) 2404 =
      legalMember con "port" 1 65535 2404 := by
  refine intMember_eq_legalMember fun value hvalue => ?_
  have hout : ¬(65536 ≤ value ∧ value ≤ 65635) := fun hrange => h ⟨value, hvalue, hrange⟩
  simp only [Bool.and_eq_true, decide_eq_true_eq]
  omega

/-- The maximal size of an ASDU that `prepareParameters` makes of an imported one. -/
def maxSizeOfASDU (asduSize : Int) : Int := if asduSize = 0 then 249 else asduSize

theorem asduSize_of_memberIn {application : List (String × Json)}
    (h : MemberIn application "asdu_size" 250 253) :
    249 < maxSizeOfASDU (intMember application "asdu_size"
      (fun value => value == 0 || (10 < value && value < 254)) 0) := by
  obtain ⟨value, hvalue, hlow, hhigh⟩ := h
  have hcheck : (value == 0 || (10 < value && value < 254)) = true := by
    simp only [Bool.or_eq_true, Bool.and_eq_true, decide_eq_true_eq]
    omega
  rw [intMember_of_some hvalue, if_pos hcheck, maxSizeOfASDU, if_neg (by omega)]
  omega

/-- Beside the sizes above the maximum the check of the size is the legal one. -/
theorem asduSize_of_not_memberIn {application : List (String × Json)}
    (h : ¬MemberIn application "asdu_size" 250 253) :
    maxSizeOfASDU (intMember application "asdu_size"
      (fun value => value == 0 || (10 < value && value < 254)) 0) =
        legalMember application "asdu_size" 11 249 249 := by
  cases hvalue : member? application "asdu_size" int? with
  | none => simp [intMember, legalMember, hvalue, maxSizeOfASDU]
  | some value =>
    have hout : ¬(250 ≤ value ∧ value ≤ 253) := fun hrange => h ⟨value, hvalue, hrange⟩
    have hcheck : (value == 0 || (10 < value && value < 254)) ↔
        value = 0 ∨ (11 ≤ value ∧ value ≤ 249) := by
      simp only [Bool.or_eq_true, Bool.and_eq_true, decide_eq_true_eq, beq_iff_eq]
      omega
    have hlegal : legalMember application "asdu_size" 11 249 249 =
        if 11 ≤ value ∧ value ≤ 249 then value else 249 := by
      rw [legalMember, hvalue]
    rw [intMember_of_some hvalue, hlegal, maxSizeOfASDU]
    simp only [hcheck]
    split_ifs <;> omega

/-! ## What the import makes of a text -/

/-- The text configures a connection of a group: the members of both are accepted. -/
structure Configures (document : Option Json) (application group con : List (String × Json)) :
    Prop where
  layers : ∃ protocolStack transportLayer,
    protocolLayers document = some (protocolStack, transportLayer, application) ∧
      .object group ∈ (member? transportLayer "redundancy_groups" array?).getD []
  name : ∃ redGroupName, member? group "rg_name" string? = some redGroupName
  connection : .object con ∈ (member? group "connections" array?).getD []
  address : ∃ srvIp, member? con "srv_ip" string? = some srvIp ∧ isValidIPAddress srvIp

/-- The group has the name, the connections and the parameters of the text. -/
structure GroupOf (members : List (String × Json)) (group : RedGroup) : Prop where
  name : member? members "rg_name" string? = some group.name
  connections : group.connections =
    (((member? members "connections" array?).getD []).filterMap redGroupConnection).mapIdx
      fun i con => { con with connId := ↑(0 + i) }
  k : group.k = legalMember members "k_value" 1 32767 12
  w : group.w = legalMember members "w_value" 1 32767 8
  t0 : group.t0 = legalMember members "t0_timeout" 1 255 30
  t1 : group.t1 = legalMember members "t1_timeout" 1 255 15
  t2 : group.t2 = legalMember members "t2_timeout" 1 255 10
  t3 : group.t3 = legalMember members "t3_timeout" 0 (2 ^ 31 - 1) 20

/-- The connection has the address of the text, and the port its check lets through. -/
structure ConnectionOf (members : List (String × Json)) (con : RedGroupConnection) : Prop where
  serverIp : member? members "srv_ip" string? = some con.serverIp
  tcpPort : con.tcpPort =
    intMember members "port" (fun value => 0 < value && value < 65636) 2404

theorem redGroup_eq_some {json : Json} {index : Nat} {group : RedGroup}
    (h : redGroup json index = some group) :
    ∃ members, json = .object members ∧ GroupOf members group := by
  simp only [redGroup, foldl_importRedGroupCon, Option.bind_eq_bind, Option.bind_eq_some_iff,
    Option.pure_def, Option.some.injEq] at h
  obtain ⟨members, hobject, name, hname, rfl⟩ := h
  refine ⟨members, object?_eq_some.mp hobject, hname, rfl, ?_, ?_, ?_, ?_, ?_, ?_⟩
  all_goals
    refine intMember_eq_legalMember fun value hvalue => ?_
    obtain ⟨_, -, hint⟩ := member?_eq_some.mp hvalue
    have hbounds := int?_bounds hint
    simp only [Bool.and_eq_true, decide_eq_true_eq]
    omega

theorem redGroup_of_name {members : List (String × Json)} {name : String}
    (h : member? members "rg_name" string? = some name) :
    ∃ group, redGroup (.object members) 0 = some group := by
  refine Option.isSome_iff_exists.mp ?_
  simp [redGroup, object?, h]

theorem redGroupConnection_eq_some {json : Json} {con : RedGroupConnection}
    (h : redGroupConnection json = some con) :
    ∃ members, json = .object members ∧ isValidIPAddress con.serverIp ∧
      ConnectionOf members con := by
  simp only [redGroupConnection, Option.bind_eq_bind, Option.bind_eq_some_iff] at h
  obtain ⟨members, hobject, srvIp, hip, hcon⟩ := h
  split_ifs at hcon with hinvalid
  · cases hcon
  · cases hcon
    exact ⟨members, object?_eq_some.mp hobject, by simpa using hinvalid, hip, rfl⟩

theorem redGroupConnection_of_address {members : List (String × Json)} {srvIp : String}
    (h : member? members "srv_ip" string? = some srvIp) (hvalid : isValidIPAddress srvIp) :
    ∃ con, redGroupConnection (.object members) = some con := by
  refine Option.isSome_iff_exists.mp ?_
  simp [redGroupConnection, object?, h, hvalid]

/-- The groups and the application layer parameters of a text with the two layers. -/
theorem importProtocolConfig_eq {document : Option Json}
    {protocolStack transportLayer application : List (String × Json)}
    (h : protocolLayers document = some (protocolStack, transportLayer, application)) :
    (importProtocolConfig document {}).redundancyGroups =
        (((member? transportLayer "redundancy_groups" array?).getD []).filterMap
          (redGroup · 0)).mapIdx (fun i group => { group with index := 0 + i }) ∧
      (importProtocolConfig document {}).origAddr = legalMember application "orig_addr" 0 255 0 ∧
      (importProtocolConfig document {}).config.caSize =
        legalMember application "ca_asdu_size" 1 2 2 ∧
      (importProtocolConfig document {}).ioaSize = legalMember application "ioaddr_size" 1 3 3 ∧
      (importProtocolConfig document {}).asduSize = intMember application "asdu_size"
        (fun value => value == 0 || (10 < value && value < 254)) 0 := by
  have himport : importProtocolConfig document {} =
      { importApplicationLayer application
          (((member? transportLayer "redundancy_groups" array?).getD []).foldl importRedGroup
            { config := { connxStatus := (southMonitoringAsset protocolStack).getD "" } }) with
        protocolConfigComplete := true } := by
    simp only [importProtocolConfig, h]
  rw [himport, foldl_importRedGroup]
  refine ⟨rfl, ?_, ?_, ?_, rfl⟩
  all_goals
    refine intMember_eq_legalMember fun value _ => ?_
    simp only [Bool.and_eq_true, decide_eq_true_eq] <;> omega

theorem importProtocolConfig_of_incomplete {document : Option Json}
    (h : protocolLayers document = none) :
    (importProtocolConfig document {}).redundancyGroups = [] := by
  simp only [importProtocolConfig, h]

section

variable {document : Option Json} {application group con : List (String × Json)}
  {redGroup : RedGroup} {connection : RedGroupConnection}

/-- Without the members that the two wide checks let through, the parameters are those the
text asks for. -/
theorem fromText_of_not_memberIn
    (hlayers : ∃ protocolStack transportLayer,
      protocolLayers document = some (protocolStack, transportLayer, application))
    (hgroup : GroupOf group redGroup) (hcon : ConnectionOf con connection)
    (hport : ¬MemberIn con "port" 65536 65635)
    (hasdu : ¬MemberIn application "asdu_size" 250 253) :
    FromText application group con
      (connectionParameters (importProtocolConfig document {}) redGroup connection) := by
  obtain ⟨_, _, hlayers⟩ := hlayers
  obtain ⟨-, horig, hca, hioa, hsize⟩ := importProtocolConfig_eq hlayers
  refine ⟨?_, horig, hca, hioa, ?_, hgroup.k, hgroup.w, hgroup.t0, hgroup.t1, hgroup.t2,
    hgroup.t3⟩
  · exact hcon.tcpPort.trans (port_of_not_memberIn hport)
  · show maxSizeOfASDU (importProtocolConfig document {}).asduSize = _
    rw [hsize]
    exact asduSize_of_not_memberIn hasdu

/-- A member that one of the two wide checks lets through makes a parameter illegal. -/
theorem not_memberIn_of_legal
    (hlayers : ∃ protocolStack transportLayer,
      protocolLayers document = some (protocolStack, transportLayer, application))
    (hcon : ConnectionOf con connection)
    (h : LegalParameters
      (connectionParameters (importProtocolConfig document {}) redGroup connection)) :
    ¬MemberIn con "port" 65536 65635 ∧ ¬MemberIn application "asdu_size" 250 253 := by
  obtain ⟨_, _, hlayers⟩ := hlayers
  obtain ⟨-, -, -, -, hsize⟩ := importProtocolConfig_eq hlayers
  constructor
  · intro hport
    have hlegal : connection.tcpPort ≤ 65535 := h.tcpPort.2
    have hwide := port_of_memberIn hport
    rw [← hcon.tcpPort] at hwide
    omega
  · intro hasdu
    have hlegal : maxSizeOfASDU (importProtocolConfig document {}).asduSize ≤ 249 :=
      h.maxSizeOfASDU.2
    have hwide := asduSize_of_memberIn hasdu
    rw [← hsize] at hwide
    omega

end

/-- A connection the text configures is imported, as a connection of its group. -/
theorem exists_connection_of_configures {document : Option Json}
    {application group con : List (String × Json)} (h : Configures document application group con) :
    ∃ redGroup ∈ (importProtocolConfig document {}).redundancyGroups,
      ∃ connection ∈ redGroup.connections, ConnectionOf con connection := by
  obtain ⟨protocolStack, transportLayer, hlayers, hmem⟩ := h.layers
  obtain ⟨redGroupName, hname⟩ := h.name
  obtain ⟨srvIp, haddress, hvalid⟩ := h.address
  obtain ⟨g, hg⟩ := redGroup_of_name hname
  obtain ⟨c, hc⟩ := redGroupConnection_of_address haddress hvalid
  obtain ⟨_, hmembers, hgroup⟩ := redGroup_eq_some hg
  cases hmembers
  obtain ⟨_, hmembers, -, hcon⟩ := redGroupConnection_eq_some hc
  cases hmembers
  obtain ⟨i, hi⟩ := numbered_mem (f := (Iec104South.redGroup · 0))
    (fun i (group : RedGroup) => { group with index := 0 + i }) hmem hg
  obtain ⟨j, hj⟩ := numbered_mem (f := redGroupConnection)
    (fun i (con : RedGroupConnection) => { con with connId := ↑(0 + i) }) h.connection hc
  refine ⟨{ g with index := 0 + i }, ?_, { c with connId := ↑(0 + j) }, ?_, hcon.serverIp,
    hcon.tcpPort⟩
  · rw [(importProtocolConfig_eq hlayers).1]
    exact hi
  · show _ ∈ g.connections
    rw [hgroup.connections]
    exact hj

/-- Every imported connection is one that the text configures. -/
theorem configures_of_connection {document : Option Json} {redGroup : RedGroup}
    {connection : RedGroupConnection}
    (hgroup : redGroup ∈ (importProtocolConfig document {}).redundancyGroups)
    (hcon : connection ∈ redGroup.connections) :
    ∃ application group con, Configures document application group con ∧
      GroupOf group redGroup ∧ ConnectionOf con connection := by
  cases hlayers : protocolLayers document with
  | none =>
    rw [importProtocolConfig_of_incomplete hlayers] at hgroup
    cases hgroup
  | some layers =>
    obtain ⟨protocolStack, transportLayer, application⟩ := layers
    rw [(importProtocolConfig_eq hlayers).1] at hgroup
    obtain ⟨json, hjson, g, i, hg, rfl⟩ := exists_of_mem_numbered hgroup
    obtain ⟨group, rfl, hof⟩ := redGroup_eq_some hg
    have hcon' : connection ∈ g.connections := hcon
    rw [hof.connections] at hcon'
    obtain ⟨json, hjson', c, j, hc, rfl⟩ := exists_of_mem_numbered hcon'
    obtain ⟨con, rfl, hvalid, hconOf⟩ := redGroupConnection_eq_some hc
    exact ⟨application, group, con,
      ⟨⟨protocolStack, transportLayer, hlayers, hjson⟩, ⟨_, hof.name⟩, hjson',
        ⟨_, hconOf.serverIp, hvalid⟩⟩,
      { hof with }, { hconOf with }⟩

/-! ## When the parameters are legal -/

/-- Every connection gets legal parameters, and those the text asks for, exactly if no connection
is given a port between 65536 and 65635 and the size of an ASDU is not between 250 and 253. -/
theorem legalParameters_iff (document : Option Json) :
    (∀ redGroup ∈ (importProtocolConfig document {}).redundancyGroups,
        ∀ connection ∈ redGroup.connections,
          LegalParameters
            (connectionParameters (importProtocolConfig document {}) redGroup connection) ∧
          ∃ application group con, Configures document application group con ∧
            GroupOf group redGroup ∧ ConnectionOf con connection ∧
            FromText application group con
              (connectionParameters (importProtocolConfig document {}) redGroup connection)) ↔
      ∀ application group con, Configures document application group con →
        ¬MemberIn con "port" 65536 65635 ∧ ¬MemberIn application "asdu_size" 250 253 := by
  constructor
  · intro h application group con hconfigures
    obtain ⟨redGroup, hgroup, connection, hmem, hcon⟩ :=
      exists_connection_of_configures hconfigures
    obtain ⟨protocolStack, transportLayer, hlayers, -⟩ := hconfigures.layers
    exact not_memberIn_of_legal ⟨protocolStack, transportLayer, hlayers⟩ hcon
      (h redGroup hgroup connection hmem).1
  · intro h redGroup hgroup connection hmem
    obtain ⟨application, group, con, hconfigures, hgroupOf, hcon⟩ :=
      configures_of_connection hgroup hmem
    obtain ⟨hport, hasdu⟩ := h application group con hconfigures
    obtain ⟨protocolStack, transportLayer, hlayers, -⟩ := hconfigures.layers
    have hfrom := fromText_of_not_memberIn ⟨protocolStack, transportLayer, hlayers⟩ hgroupOf hcon
      hport hasdu
    exact ⟨hfrom.legal, application, group, con, hconfigures, hgroupOf, hcon, hfrom⟩

/-- One connection with the port 65600, and ASDUs of 253 bytes. -/
def aboveRangeText : Option Json :=
  some (.object [("protocol_stack", .object
    [("transport_layer", .object [("redundancy_groups", .array
      [.object [("rg_name", .string "red-group1"), ("connections", .array
        [.object [("srv_ip", .string "127.0.0.1"), ("port", .int 65600)]])]])]),
      ("application_layer", .object [("asdu_size", .int 253)])])])

/-- A port that no connection can have passes the check of the import. -/
theorem port_above_range :
    ¬∀ document, ∀ redGroup ∈ (importProtocolConfig document {}).redundancyGroups,
      ∀ connection ∈ redGroup.connections, LegalParameters
        (connectionParameters (importProtocolConfig document {}) redGroup connection) := by
  intro h
  have hlegal := h aboveRangeText
    { name := "red-group1", index := 0,
      connections := [{ serverIp := "127.0.0.1", tcpPort := 65600, connId := 0 }] }
    (by decide) { serverIp := "127.0.0.1", tcpPort := 65600, connId := 0 } (by decide)
  exact absurd hlegal.tcpPort.2 (by decide)

end Iec104South
