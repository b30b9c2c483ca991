import Iec104South.Tokenize
import Iec104South.TypeNames
import Iec104South.ProtocolImport

/-!
# Writing a configuration

The three texts of a configuration, as a tool writes them: with all members, in the ranges that the
imports check. `Legal` says which configurations have such texts: they are the ones that complete
imports leave, and `setJsonConfig` reads them back as they were.

* `redGroup_toJson`, `exchangeDefinition_toJson`: what is read of a group and of a datapoint.
* `importable_iff`: a configuration comes from complete imports if and only if it is legal.
* `reimport`: the texts written from an imported configuration are imported as it.
-/

namespace Iec104South

open Json

/-! ## Members that are written -/

section

variable {members : List (String × Json)} {name : String}

theorem intMember_of_lookup {value : Int} (h : members.lookup name = some (.int value))
    {inRange : Int → Bool} (default : Int) (hbounds : -2 ^ 31 ≤ value ∧ value < 2 ^ 31)
    (hrange : inRange value) : intMember members name inRange default = value := by
  have hread : member? members name int? = some value :=
    member?_eq_some.mpr ⟨_, h, if_pos hbounds⟩
  rw [intMember_of_some hread, if_pos hrange]

theorem natMember_of_lookup {value : Nat} (h : members.lookup name = some (.int value))
    (default : Nat) (hbound : value < 2 ^ 31) : natMember members name default = value := by
  rw [natMember, intMember_of_lookup h _ (by omega) (by simp), Int.toNat_natCast]

theorem boolMember_of_lookup {value : Bool} (h : members.lookup name = some (.bool value))
    (default : Bool) : boolMember members name default = value := by
  rw [boolMember, member?, h]
  rfl

theorem stringMember_of_lookup {value : String} (h : members.lookup name = some (.string value))
    (hvalue : IsCString value) : member? members name string? = some value :=
  member?_eq_some.mpr ⟨_, h, string?_of_isCString hvalue⟩

end

/-! ## Connections and groups -/

def RedGroupConnection.toJson (con : RedGroupConnection) : Json :=
  .object [("srv_ip", .string con.serverIp), ("clt_ip", .string con.clientIp),
    ("port", .int con.tcpPort), ("conn", .bool con.conn), ("start", .bool con.start)]

/-- The addresses are IP addresses, the one of the client may be missing, and the port is in the
range that is checked. -/
structure RedGroupConnection.Legal (con : RedGroupConnection) : Prop where
  serverIp : isValidIPAddress con.serverIp ∧ IsCString con.serverIp
  clientIp : con.clientIp = "" ∨ isValidIPAddress con.clientIp ∧ IsCString con.clientIp
  tcpPort : 0 < con.tcpPort ∧ con.tcpPort < 65636

def RedGroup.toJson (group : RedGroup) : Json :=
  .object [("rg_name", .string group.name),
    ("connections", .array (group.connections.map (·.toJson))), ("k_value", .int group.k),
    ("w_value", .int group.w), ("t0_timeout", .int group.t0), ("t1_timeout", .int group.t1),
    ("t2_timeout", .int group.t2), ("t3_timeout", .int group.t3), ("tls", .bool group.useTls)]

/-- The parameters are in the ranges that are checked, and the connections numbered. -/
structure RedGroup.Legal (group : RedGroup) : Prop where
  name : IsCString group.name
  connections : ∀ con ∈ group.connections, con.Legal
  numbered : group.connections.mapIdx (fun i con => { con with connId := ↑i }) = group.connections
  k : 0 < group.k ∧ group.k < 32768
  w : 0 < group.w ∧ group.w < 32768
  t0 : 0 < group.t0 ∧ group.t0 < 256
  t1 : 0 < group.t1 ∧ group.t1 < 256
  t2 : 0 < group.t2 ∧ group.t2 < 256
  t3 : -1 < group.t3 ∧ group.t3 < 2 ^ 31

theorem redGroupConnection_toJson {con : RedGroupConnection} (h : con.Legal) :
    redGroupConnection con.toJson = some { con with connId := -1 } := by
  obtain ⟨hvalid, hserver⟩ := h.serverIp
  obtain ⟨hlow, hhigh⟩ := h.tcpPort
  have hclient : ((string? (.string con.clientIp)).filter isValidIPAddress).getD "" =
      con.clientIp := by
    rcases h.clientIp with hnone | ⟨hvalid', hclient⟩
    · rw [hnone]
      decide
    · rw [string?_of_isCString hclient, Option.filter_some, if_pos hvalid', Option.getD_some]
  simp only [redGroupConnection, RedGroupConnection.toJson, object?, Option.bind_eq_bind,
    Option.bind_some]
  rw [stringMember_of_lookup rfl hserver,
    intMember_of_lookup rfl _ (by omega) (by simp [hlow, hhigh]), boolMember_of_lookup rfl,
    boolMember_of_lookup rfl]
  rw [Option.bind_some, if_neg (by simp [hvalid])]
  exact congrArg (fun clientIp => some { con with clientIp := clientIp, connId := -1 }) hclient

theorem redGroup_toJson {group : RedGroup} (h : group.Legal) :
    redGroup group.toJson 0 = some { group with index := 0 } := by
  have hconnections : ((group.connections.map (·.toJson)).filterMap redGroupConnection).mapIdx
      (fun i con => { con with connId := ↑(0 + i) }) = group.connections := by
    rw [mapIdx_filterMap_map fun con hcon =>
      ⟨_, redGroupConnection_toJson (h.connections con hcon), fun _ => rfl⟩]
    simpa using h.numbered
  have htimeout {value : Int} (hvalue : 0 < value ∧ value < 256) :
      (0 < value && value < 256) ∧ -2 ^ 31 ≤ value ∧ value < 2 ^ 31 := by
    simp only [Bool.and_eq_true, decide_eq_true_eq]
    omega
  have hwindow {value : Int} (hvalue : 0 < value ∧ value < 32768) :
      (0 < value && value < 32768) ∧ -2 ^ 31 ≤ value ∧ value < 2 ^ 31 := by
    simp only [Bool.and_eq_true, decide_eq_true_eq]
    omega
  have ht3 := h.t3
  simp only [redGroup, RedGroup.toJson, object?, foldl_importRedGroupCon, Option.bind_eq_bind,
    Option.bind_some]
  rw [stringMember_of_lookup rfl h.name, intMember_of_lookup rfl _ (hwindow h.k).2 (hwindow h.k).1,
    intMember_of_lookup rfl _ (hwindow h.w).2 (hwindow h.w).1,
    intMember_of_lookup rfl _ (htimeout h.t0).2 (htimeout h.t0).1,
    intMember_of_lookup rfl _ (htimeout h.t1).2 (htimeout h.t1).1,
    intMember_of_lookup rfl _ (htimeout h.t2).2 (htimeout h.t2).1,
    intMember_of_lookup rfl _ (by omega) (by simpa using ht3.1), boolMember_of_lookup rfl]
  exact congrArg (fun connections => some { group with connections := connections, index := 0 })
    hconnections

/-! ## The protocol text -/

namespace ImportedConfig

/-- The members of the application layer. -/
def applicationLayer (c : ImportedConfig) : List (String × Json) :=
  [("orig_addr", .int c.origAddr), ("ioaddr_size", .int c.ioaSize),
    ("asdu_size", .int c.asduSize), ("gi_repeat_count", .int c.giRepeatCount),
    ("ca_asdu_size", .int c.config.caSize), ("time_sync", .int c.config.timeSyncPeriod),
    ("gi_all_ca", .bool c.config.giAllCa), ("gi_time", .int c.config.giTime),
    ("gi_enabled", .bool c.config.giEnabled), ("gi_cycle", .int c.config.giCycle),
    ("cmd_parallel", .int c.config.cmdParallel),
    ("cmd_exec_timeout", .int c.config.cmdExecTimeout)]

/-- The groups, the application layer and the asset of the south monitoring. -/
def protocolStack (c : ImportedConfig) : List (String × Json) :=
  [("transport_layer", .object
      [("redundancy_groups", .array (c.redundancyGroups.map (·.toJson)))]),
    ("application_layer", .object c.applicationLayer),
    ("south_monitoring", .object [("asset", .string c.config.connxStatus)])]

def protocolText (c : ImportedConfig) : Json :=
  .object [("protocol_stack", .object c.protocolStack)]

/-- The parameters of the protocol are in the ranges that are checked, the groups numbered, and
what no text sets has its default. -/
structure ProtocolLegal (c : ImportedConfig) : Prop where
  redundancyGroups : ∀ group ∈ c.redundancyGroups, group.Legal
  numbered : c.redundancyGroups.mapIdx (fun i group => { group with index := i }) =
    c.redundancyGroups
  origAddr : 0 ≤ c.origAddr ∧ c.origAddr ≤ 255
  ioaSize : 0 < c.ioaSize ∧ c.ioaSize < 4
  asduSize : c.asduSize = 0 ∨ 10 < c.asduSize ∧ c.asduSize < 254
  giRepeatCount : 0 ≤ c.giRepeatCount ∧ c.giRepeatCount < 2 ^ 31
  caSize : 0 < c.config.caSize ∧ c.config.caSize < 3
  timeSyncPeriod : c.config.timeSyncPeriod < 2 ^ 31
  giTime : c.config.giTime < 2 ^ 31
  giCycle : c.config.giCycle < 2 ^ 31
  cmdParallel : c.config.cmdParallel < 2 ^ 31
  cmdExecTimeout : c.config.cmdExecTimeout < 2 ^ 31
  connxStatus : IsCString c.config.connxStatus
  defaultCa : c.config.defaultCa = 1
  timeSyncCa : c.config.timeSyncCa = 1
  complete : c.protocolConfigComplete

/-- What the protocol text says of the configuration. -/
def protocolPart (c : ImportedConfig) : ImportedConfig where
  config := { c.config with listOfCAs := [], cgTriggeringTsAdresses := [] }
  redundancyGroups := c.redundancyGroups
  ioaSize := c.ioaSize
  asduSize := c.asduSize
  origAddr := c.origAddr
  giRepeatCount := c.giRepeatCount
  protocolConfigComplete := true

theorem importApplicationLayer_toJson {c : ImportedConfig} (h : c.ProtocolLegal)
    (c' : ImportedConfig) :
    importApplicationLayer c.applicationLayer c' = { c' with
      origAddr := c.origAddr
      ioaSize := c.ioaSize
      asduSize := c.asduSize
      giRepeatCount := c.giRepeatCount
      config := { c.config with
        connxStatus := c'.config.connxStatus
        defaultCa := c'.config.defaultCa
        timeSyncCa := c'.config.timeSyncCa
        listOfCAs := c'.config.listOfCAs
        cgTriggeringTsAdresses := c'.config.cgTriggeringTsAdresses } } := by
  have horig := h.origAddr
  have hioa := h.ioaSize
  have hcount := h.giRepeatCount
  have hca := h.caSize
  have hasdu : (c.asduSize == 0 || (10 < c.asduSize && c.asduSize < 254)) ∧
      -2 ^ 31 ≤ c.asduSize ∧ c.asduSize < 2 ^ 31 := by
    have hsize := h.asduSize
    simp only [Bool.or_eq_true, beq_iff_eq, Bool.and_eq_true, decide_eq_true_eq]
    omega
  unfold importApplicationLayer
  rw [intMember_of_lookup rfl _ (by omega) (by simpa using hca),
    intMember_of_lookup rfl _ (by omega) (by simpa using hioa),
    intMember_of_lookup rfl _ hasdu.2 hasdu.1,
    intMember_of_lookup rfl _ (by omega) (by simpa using horig),
    intMember_of_lookup rfl _ (by omega) (by simpa using hcount.1),
    natMember_of_lookup rfl _ h.cmdParallel, natMember_of_lookup rfl _ h.timeSyncPeriod,
    natMember_of_lookup rfl _ h.giCycle, natMember_of_lookup rfl _ h.giTime,
    natMember_of_lookup rfl _ h.cmdExecTimeout, boolMember_of_lookup rfl, boolMember_of_lookup rfl]

theorem importProtocolConfig_protocolText {c : ImportedConfig} (h : c.ProtocolLegal) :
    importProtocolConfig (some c.protocolText) {} = c.protocolPart := by
  have hgroups : ((c.redundancyGroups.map (·.toJson)).filterMap (redGroup · 0)).mapIdx
      (fun i group => { group with index := 0 + i }) = c.redundancyGroups := by
    rw [mapIdx_filterMap_map (f := (redGroup · 0)) fun group hgroup =>
      ⟨_, redGroup_toJson (h.redundancyGroups group hgroup), fun _ => rfl⟩]
    simpa using h.numbered
  have hlayers : protocolLayers (some c.protocolText) = some (c.protocolStack,
      [("redundancy_groups", .array (c.redundancyGroups.map (·.toJson)))],
      c.applicationLayer) := rfl
  have hasset : southMonitoringAsset c.protocolStack = some c.config.connxStatus := by
    show member? [("asset", .string c.config.connxStatus)] "asset" string? = _
    exact stringMember_of_lookup rfl h.connxStatus
  have hlist : (member? [("redundancy_groups", .array (c.redundancyGroups.map (·.toJson)))]
      "redundancy_groups" array?).getD [] = c.redundancyGroups.map (·.toJson) := rfl
  simp only [importProtocolConfig, hlayers, hasset, hlist, foldl_importRedGroup]
  rw [importApplicationLayer_toJson h]
  simpa [protocolPart, h.defaultCa, h.timeSyncCa] using hgroups

end ImportedConfig

/-! ## The exchange text -/

def DataExchangeDefinition.address (dp : DataExchangeDefinition) : String :=
  toString dp.ca ++ "-" ++ toString dp.ioa

/-- The element of `protocols` of a definition. -/
def DataExchangeDefinition.toJson (dp : DataExchangeDefinition) : Json :=
  .object [("name", .string "iec104"), ("address", .string dp.address),
    ("typeid", .string (typeName dp.typeId)),
    ("gi_groups", .string (if isInStationGroup dp then "station" else ""))]

/-- The datapoint of an entry. -/
def entryJson (e : Entry) : Json :=
  .object [("label", .string e.1.label),
    ("pivot_subtypes", .array (if e.2 then [.string "trigger_south_gi"] else [])),
    ("protocols", .array [e.1.toJson])]

def exchangeText (l : List Entry) : Json := exchangedData (l.map entryJson)

/-- The address can be written, and the type has a name or is the 0 of an unknown one. -/
structure DataExchangeDefinition.Legal (dp : DataExchangeDefinition) : Prop where
  ca : 0 ≤ dp.ca ∧ dp.ca < 2 ^ 31
  ioa : -2 ^ 31 ≤ dp.ioa ∧ dp.ioa < 2 ^ 31
  label : IsCString dp.label
  typeId : dp.typeId = 0 ∨ dp.typeId ∈ mapAsduTypeId.map Prod.snd
  giGroups : dp.giGroups = 0 ∨ dp.giGroups = 1

theorem stoi_toString {z : Int} (h : -2 ^ 31 ≤ z ∧ z < 2 ^ 31) :
    Text.stoi (toString z) = some z := by
  rw [Text.stoi_eq_filter, Text.leadingInt_of_decimal? (Text.decimal?_toString z),
    Option.filter_some, if_pos (decide_eq_true h)]

theorem isCString_toString (z : Int) : IsCString (toString z) := by
  intro hnul
  rcases Text.isDigit_or_minus_of_mem_toString hnul with hdigit | hminus
  · exact absurd hdigit (by decide)
  · exact absurd hminus (by decide)

theorem getTypeIdFromString_typeName {typeId : Int}
    (h : typeId = 0 ∨ typeId ∈ mapAsduTypeId.map Prod.snd) :
    IsCString (typeName typeId) ∧ getTypeIdFromString (typeName typeId) = typeId := by
  rcases h with rfl | hmem
  · decide
  · obtain ⟨e, he, rfl⟩ := List.mem_map.mp hmem
    have hnames : ∀ e ∈ mapAsduTypeId, IsCString e.1 := by decide
    rw [(typeName_mapAsduTypeId e he).1, getTypeIdFromString, lookup_mapAsduTypeId e he]
    exact ⟨hnames e he, rfl⟩

namespace DataExchangeDefinition

variable {dp : DataExchangeDefinition}

theorem splitAtFirst_address (h : 0 ≤ dp.ca) :
    Text.splitAtFirst '-' dp.address = some (toString dp.ca, toString dp.ioa) := by
  have hdigits : '-' ∉ (toString dp.ca).toList := by
    rw [Int.toString_eq_repr, Int.repr_eq_if, if_pos h, Nat.toList_repr]
    intro hmem
    exact absurd (Nat.isDigit_of_mem_toDigits (by decide) (by decide) hmem) (by decide)
  refine Text.splitAtFirst_eq_some.mpr ⟨?_, hdigits⟩
  rw [address, String.toList_append, String.toList_append, List.append_assoc]
  rfl

theorem isCString_address : IsCString dp.address := by
  rw [IsCString, address, String.toList_append, String.toList_append, List.mem_append,
    List.mem_append, not_or, not_or]
  exact ⟨⟨isCString_toString dp.ca, by decide⟩, isCString_toString dp.ioa⟩

theorem exchangeDefinition_toJson (h : dp.Legal) :
    exchangeDefinition dp.label dp.toJson = some (some dp) := by
  obtain ⟨htypeName, htypeId⟩ := getTypeIdFromString_typeName h.typeId
  have hca := h.ca
  -- the text is split into the one token that is looked for, or into an empty one
  have hgroups : (if "station" ∈ Text.tokenize ' ' (if isInStationGroup dp then "station" else "")
      then 1 else 0) = dp.giGroups := by
    rcases h.giGroups with hzero | hone
    · rw [isInStationGroup, hzero]
      decide
    · rw [isInStationGroup, hone]
      decide
  have hgroupsText : IsCString (if isInStationGroup dp then "station" else "") := by
    split_ifs <;> decide
  simp only [exchangeDefinition, toJson, object?, Option.bind_eq_bind, Option.bind_some]
  rw [stringMember_of_lookup rfl (by decide : IsCString "iec104"),
    stringMember_of_lookup rfl isCString_address, stringMember_of_lookup rfl htypeName,
    stringMember_of_lookup rfl hgroupsText]
  simp only [Option.bind_some, ne_eq, not_true_eq_false, if_false, splitAtFirst_address hca.1,
    stoi_toString h.ioa, stoi_toString (z := dp.ca) (by omega), hgroups, htypeId]
  rfl

theorem datapointHead_entryJson (e : Entry) (h : e.1.Legal) :
    datapointHead (entryJson e) = some (e.1.label, e.2, [e.1.toJson]) := by
  obtain ⟨dp, mark⟩ := e
  simp only [datapointHead, entryJson, object?, Option.bind_eq_bind, Option.bind_some]
  rw [stringMember_of_lookup rfl h.label]
  cases mark <;> rfl

end DataExchangeDefinition

/-- The loop over the datapoints stores the entries they were written from. -/
theorem scan_entryJson (stored l : List Entry) (h : ∀ e ∈ l, e.1.Legal) :
    scan (importDatapoint record) stored (l.map entryJson) = .yield (stored ++ l) := by
  induction l generalizing stored with
  | nil => exact congrArg ForInStep.yield (List.append_nil stored).symm
  | cons e l ih =>
    have he := h e List.mem_cons_self
    have hround : importDatapoint record stored (entryJson e) = .yield (stored ++ [e]) := by
      rw [importDatapoint, DataExchangeDefinition.datapointHead_entryJson e he]
      simp only [scan, importProtocol, DataExchangeDefinition.exchangeDefinition_toJson he, record]
    rw [List.map_cons, scan, hround]
    dsimp only
    rw [ih _ fun e' he' => h e' (List.mem_cons_of_mem e he'), List.append_assoc]
    rfl

theorem storedBy_exchangeText {l : List Entry} (h : ∀ e ∈ l, e.1.Legal) :
    storedBy (some (exchangeText l)) = .yield l := scan_entryJson [] l h

/-- The addresses that trigger a GI after the entries are stored. -/
def triggering (l : List Entry) : List (Int × Int) :=
  (addAll {} l).config.cgTriggeringTsAdresses

theorem cgTriggering_addAll {c : ImportedConfig} (h : c.config.cgTriggeringTsAdresses = [])
    (l : List Entry) : (addAll c l).config.cgTriggeringTsAdresses = triggering l := by
  induction l using List.reverseRecOn with
  | nil => exact h
  | append_singleton l e ih =>
    rw [triggering, addAll_concat, addAll_concat]
    simp only [addDefinition, ih]
    rfl

namespace ImportedConfig

/-- The exchange data are those of the entries. -/
structure ExchangeLegal (l : List Entry) (c : ImportedConfig) : Prop where
  entries : ∀ e ∈ l, e.1.Legal
  definitions : c.exchangeDefinitions = .ofDatapoints (l.map (·.1))
  cas : c.config.listOfCAs = collectCAs [] c.exchangeDefinitions
  triggers : c.config.cgTriggeringTsAdresses = triggering l
  complete : c.exchangeConfigComplete

/-- What a complete import stores in an object without exchange data. -/
theorem importExchangeConfig_of_storedBy {document : Option Json} {l : List Entry}
    (h : storedBy document = .yield l) {c : ImportedConfig} (hcas : c.config.listOfCAs = [])
    (htriggers : c.config.cgTriggeringTsAdresses = []) :
    importExchangeConfig document c = { c with
      exchangeDefinitions := .ofDatapoints (l.map (·.1))
      exchangeConfigComplete := true
      config := { c.config with
        listOfCAs := collectCAs [] (.ofDatapoints (l.map (·.1)))
        cgTriggeringTsAdresses := triggering l } } := by
  have hentries : entries document = l := by rw [entries, h]; rfl
  have hcompletes : completes document := by rw [completes, h]; rfl
  rw [importExchangeConfig_eq, hentries]
  dsimp only
  rw [if_pos hcompletes, addAll_eq, cgTriggering_addAll, addAll_exchangeDefinitions]
  · simp only [deleteExchangeDefinitions, hcas]
    rfl
  · exact htriggers

/-! ## The TLS text -/

def certJson (file : String) : Json := .object [("cert_file", .string file)]

/-- The members of `tls_conf`. -/
def tlsMembers (c : ImportedConfig) : List (String × Json) :=
  [("private_key", .string c.privateKey), ("own_cert", .string c.ownCertificate),
    ("ca_certs", .array (c.caCertificates.map certJson)),
    ("remote_certs", .array (c.remoteCertificates.map certJson))]

def tlsText (c : ImportedConfig) : Json := .object [("tls_conf", .object c.tlsMembers)]

structure TlsLegal (c : ImportedConfig) : Prop where
  privateKey : IsCString c.privateKey
  ownCertificate : IsCString c.ownCertificate
  caCertificates : ∀ file ∈ c.caCertificates, IsCString file
  remoteCertificates : ∀ file ∈ c.remoteCertificates, IsCString file
  complete : c.tlsConfigComplete

theorem certFiles_map_certJson {files : List String} (h : ∀ file ∈ files, IsCString file) :
    certFiles (files.map certJson) = files := by
  rw [certFiles, List.filterMap_map]
  refine (List.filterMap_congr fun file hfile => ?_).trans List.filterMap_some
  show member? [("cert_file", .string file)] "cert_file" string? = some file
  exact stringMember_of_lookup rfl (h file hfile)

theorem importTlsConfig_tlsText {c : ImportedConfig} (h : c.TlsLegal) {c' : ImportedConfig}
    (hca : c'.caCertificates = []) (hremote : c'.remoteCertificates = []) :
    importTlsConfig (some c.tlsText) c' = { c' with
      privateKey := c.privateKey
      ownCertificate := c.ownCertificate
      caCertificates := c.caCertificates
      remoteCertificates := c.remoteCertificates
      tlsConfigComplete := true } := by
  have hconf : tlsConf (some c.tlsText) = some c.tlsMembers := rfl
  have hcaList : (member? c.tlsMembers "ca_certs" array?).getD [] =
      c.caCertificates.map certJson := rfl
  have hremoteList : (member? c.tlsMembers "remote_certs" array?).getD [] =
      c.remoteCertificates.map certJson := rfl
  simp only [importTlsConfig, hconf, hcaList, hremoteList]
  rw [stringMember_of_lookup rfl h.privateKey, stringMember_of_lookup rfl h.ownCertificate, hca,
    hremote, certFiles_map_certJson h.caCertificates, certFiles_map_certJson h.remoteCertificates]
  rfl

/-! ## The configuration -/

/-- The configuration can be written as texts, those of the entries for its exchange data. -/
structure Legal (l : List Entry) (c : ImportedConfig) : Prop where
  protocol : c.ProtocolLegal
  exchange : c.ExchangeLegal l
  tls : c.TlsLegal

/-- The texts are imported as the configuration they were written from. -/
theorem setJsonConfig_texts {l : List Entry} {c : ImportedConfig} (h : c.Legal l) :
    setJsonConfig (some c.protocolText) (some (exchangeText l)) (some c.tlsText) = c := by
  rw [setJsonConfig, importProtocolConfig_protocolText h.protocol,
    importExchangeConfig_of_storedBy (storedBy_exchangeText h.exchange.entries) rfl rfl,
    importTlsConfig_tlsText h.tls rfl rfl, ← h.exchange.triggers, ← h.exchange.definitions,
    ← h.exchange.cas]
  have hprotocol : c.protocolConfigComplete = true := h.protocol.complete
  have hexchange : c.exchangeConfigComplete = true := h.exchange.complete
  have htls : c.tlsConfigComplete = true := h.tls.complete
  cases c
  simp_all [protocolPart]

end ImportedConfig

/-! ## What imports leave is legal -/

section

variable {members : List (String × Json)} {name : String}

theorem isCString_of_member? {value : String} (h : member? members name string? = some value) :
    IsCString value := by
  obtain ⟨_, -, hread⟩ := member?_eq_some.mp h
  exact isCString_of_string? hread

/-- A member in range, or a default that is. -/
theorem intMember_mem {inRange : Int → Bool} {default : Int} (h : inRange default)
    (hbounds : -2 ^ 31 ≤ default ∧ default < 2 ^ 31) :
    inRange (intMember members name inRange default) ∧
      -2 ^ 31 ≤ intMember members name inRange default ∧
      intMember members name inRange default < 2 ^ 31 := by
  unfold intMember
  split
  · next value hvalue =>
    obtain ⟨_, -, hread⟩ := member?_eq_some.mp hvalue
    split_ifs with hrange
    · exact ⟨hrange, int?_bounds hread⟩
    · exact ⟨h, hbounds⟩
  · exact ⟨h, hbounds⟩

theorem intMember_pos_lt {high default : Int} (h : 0 < default ∧ default < high)
    (hhigh : high ≤ 2 ^ 31) :
    0 < intMember members name (fun value => 0 < value && value < high) default ∧
      intMember members name (fun value => 0 < value && value < high) default < high := by
  have hmember := @intMember_mem members name (fun value => 0 < value && value < high) default
    (by simpa using h) (by omega)
  simpa using hmember.1

theorem natMember_lt {default : Nat} (h : default < 2 ^ 31) :
    natMember members name default < 2 ^ 31 := by
  have hmember := @intMember_mem members name (0 ≤ ·) default (by simp) (by omega)
  have hnonneg := of_decide_eq_true hmember.1
  unfold natMember
  omega

end

theorem redGroupConnection_legal {json : Json} {con : RedGroupConnection}
    (h : redGroupConnection json = some con) : con.Legal := by
  simp only [redGroupConnection, Option.bind_eq_bind, Option.bind_eq_some_iff] at h
  obtain ⟨members, -, srvIp, hip, hcon⟩ := h
  split_ifs at hcon with hinvalid
  · cases hcon
  · cases hcon
    refine ⟨⟨by simpa using hinvalid, isCString_of_member? hip⟩, ?_, ?_⟩
    · dsimp only
      cases hclient : (member? members "clt_ip" string?).filter isValidIPAddress with
      | none => exact .inl rfl
      | some cltIp =>
        obtain ⟨hread, hvalid⟩ := Option.filter_eq_some_iff.mp hclient
        exact .inr ⟨hvalid, isCString_of_member? hread⟩
    · exact intMember_pos_lt (by decide) (by decide)

theorem redGroup_legal {json : Json} {group : RedGroup} (h : redGroup json 0 = some group) :
    group.Legal := by
  simp only [redGroup, foldl_importRedGroupCon, Option.bind_eq_bind, Option.bind_eq_some_iff,
    Option.pure_def, Option.some.injEq] at h
  obtain ⟨members, -, groupName, hname, rfl⟩ := h
  have ht3 := @intMember_mem members "t3_timeout" (fun value => -1 < value) 20 rfl (by decide)
  refine ⟨isCString_of_member? hname, fun con hcon => ?_, ?_,
    intMember_pos_lt (by decide) (by decide), intMember_pos_lt (by decide) (by decide),
    intMember_pos_lt (by decide) (by decide), intMember_pos_lt (by decide) (by decide),
    intMember_pos_lt (by decide) (by decide), by simpa using ht3.1, ht3.2.2⟩
  · obtain ⟨json, -, con', i, hread, rfl⟩ := exists_of_mem_numbered hcon
    have hlegal := redGroupConnection_legal hread
    exact ⟨hlegal.serverIp, hlegal.clientIp, hlegal.tcpPort⟩
  · simp [Function.comp_def]

namespace ImportedConfig

/-- The import of a protocol text that gets to its end. -/
theorem protocolLegal_importProtocolConfig {document : Option Json}
    (h : (importProtocolConfig document {}).protocolConfigComplete) :
    (importProtocolConfig document {}).ProtocolLegal := by
  unfold importProtocolConfig at h ⊢
  cases hlayers : protocolLayers document with
  | none =>
    rw [hlayers] at h
    cases h
  | some layers =>
    obtain ⟨stack, transportLayer, applicationLayer⟩ := layers
    simp only [foldl_importRedGroup]
    have horig := @intMember_mem applicationLayer "orig_addr"
      (fun value => 0 ≤ value && value ≤ 255) 0 rfl (by decide)
    have hasdu := @intMember_mem applicationLayer "asdu_size"
      (fun value => value == 0 || (10 < value && value < 254)) 0 rfl (by decide)
    have hcount := @intMember_mem applicationLayer "gi_repeat_count" (0 ≤ ·) 2 rfl (by decide)
    simp only [Bool.and_eq_true, Bool.or_eq_true, beq_iff_eq, decide_eq_true_eq]
      at horig hasdu hcount
    refine ⟨fun group hgroup => ?_, ?_, horig.1, intMember_pos_lt (by simp) (by decide), hasdu.1,
      ⟨hcount.1, hcount.2.2⟩, intMember_pos_lt (by simp) (by decide), natMember_lt (by simp),
      natMember_lt (by simp), natMember_lt (by simp), natMember_lt (by simp),
      natMember_lt (by simp), ?_, rfl, rfl, rfl⟩
    · obtain ⟨json, -, group', i, hread, rfl⟩ := exists_of_mem_numbered hgroup
      have hlegal := redGroup_legal hread
      exact ⟨hlegal.name, hlegal.connections, hlegal.numbered, hlegal.k, hlegal.w, hlegal.t0,
        hlegal.t1, hlegal.t2, hlegal.t3⟩
    · simp [importApplicationLayer, Function.comp_def]
    · show IsCString ((southMonitoringAsset stack).getD "")
      cases hasset : southMonitoringAsset stack with
      | none => decide
      | some asset =>
        obtain ⟨members, -, hmember⟩ := Option.bind_eq_some_iff.mp hasset
        exact isCString_of_member? hmember

/-- What the import stores of a datapoint. -/
theorem legal_of_exchangeDefinition {label : String} (hlabel : IsCString label) {protocol : Json}
    {dp : DataExchangeDefinition} (h : exchangeDefinition label protocol = some (some dp)) :
    dp.Legal := by
  unfold exchangeDefinition at h
  obtain ⟨members, -, h⟩ := Option.bind_eq_some_iff.mp h
  obtain ⟨protocolName, -, h⟩ := Option.bind_eq_some_iff.mp h
  split at h
  · cases h
  obtain ⟨address, -, h⟩ := Option.bind_eq_some_iff.mp h
  obtain ⟨typeIdStr, -, h⟩ := Option.bind_eq_some_iff.mp h
  obtain ⟨parts, hparts, h⟩ := Option.bind_eq_some_iff.mp h
  obtain ⟨ca, hca, h⟩ := Option.bind_eq_some_iff.mp h
  obtain ⟨ioa, hioa, h⟩ := Option.bind_eq_some_iff.mp h
  obtain rfl := Option.some.inj (Option.some.inj h)
  obtain ⟨-, hminus⟩ := Text.splitAtFirst_eq_some.mp hparts
  refine ⟨⟨Text.stoi_nonneg hca hminus, (Text.stoi_bounds hca).2⟩, Text.stoi_bounds hioa, hlabel,
    ?_, ?_⟩
  · show getTypeIdFromString typeIdStr = 0 ∨ getTypeIdFromString typeIdStr ∈ _
    unfold getTypeIdFromString
    cases hlookup : mapAsduTypeId.lookup typeIdStr with
    | none => exact .inl rfl
    | some typeId =>
      exact .inr (List.mem_map_of_mem (lookup_mapAsduTypeId_iff.mp hlookup))
  · dsimp only
    split
    · split_ifs
      · exact .inr rfl
      · exact .inl rfl
    · exact .inl rfl

theorem legal_of_mem_entries {document : Option Json} {e : Entry} (h : e ∈ entries document) :
    e.1.Legal := by
  obtain ⟨label, protocol, stored, hreach, hdefinition⟩ := reaches_of_mem_entries h
  obtain ⟨_, datapoint, _, _, _, _, -, -, hhead, -⟩ := hreach.path
  obtain ⟨members, -, hhead⟩ := Option.bind_eq_some_iff.mp hhead
  obtain ⟨label', hlabel, hhead⟩ := Option.bind_eq_some_iff.mp hhead
  obtain ⟨protocols, -, hhead⟩ := Option.bind_eq_some_iff.mp hhead
  obtain rfl : label' = label := (Prod.mk.inj (Option.some.inj hhead)).1
  exact legal_of_exchangeDefinition (isCString_of_member? hlabel) hdefinition

theorem isCString_of_mem_certFiles {certs : List Json} {file : String}
    (h : file ∈ certFiles certs) : IsCString file := by
  obtain ⟨cert, -, hread⟩ := List.mem_filterMap.mp h
  obtain ⟨members, -, hmember⟩ := Option.bind_eq_some_iff.mp hread
  exact isCString_of_member? hmember

/-- All three imports got to their ends. -/
structure Complete (c : ImportedConfig) : Prop where
  protocol : c.protocolConfigComplete
  exchange : c.exchangeConfigComplete
  tls : c.tlsConfigComplete

/-- The import of a TLS text that gets to its end changes the TLS files only. -/
theorem importTlsConfig_legal {document : Option Json} {l : List Entry} {c : ImportedConfig}
    (hprotocol : c.ProtocolLegal) (hexchange : c.ExchangeLegal l)
    (hkey : c.privateKey = "") (hcert : c.ownCertificate = "") (hca : c.caCertificates = [])
    (hremote : c.remoteCertificates = []) (h : (importTlsConfig document c).tlsConfigComplete) :
    (importTlsConfig document c).Legal l := by
  have hmember (members : List (String × Json)) (name : String) :
      IsCString ((member? members name string?).getD "") := by
    cases hread : member? members name string? with
    | none => decide
    | some value => exact isCString_of_member? hread
  unfold importTlsConfig at h ⊢
  cases hconf : tlsConf document with
  | none =>
    rw [hconf] at h
    cases h
  | some members =>
    simp only [hkey, hcert, hca, hremote, List.nil_append]
    refine ⟨?_, ?_, ?_⟩
    · obtain ⟨⟩ := hprotocol
      constructor <;> assumption
    · exact ⟨hexchange.entries, hexchange.definitions, hexchange.cas, hexchange.triggers,
        hexchange.complete⟩
    · exact ⟨hmember _ _, hmember _ _, fun _ => isCString_of_mem_certFiles,
        fun _ => isCString_of_mem_certFiles, rfl⟩

/-- The import of a protocol text leaves the exchange data and the TLS files alone. -/
theorem importProtocolConfig_others (document : Option Json) :
    let c := importProtocolConfig document {}
    (c.config.listOfCAs = [] ∧ c.config.cgTriggeringTsAdresses = []) ∧ c.privateKey = "" ∧
      c.ownCertificate = "" ∧ c.caCertificates = [] ∧ c.remoteCertificates = [] := by
  unfold importProtocolConfig
  cases protocolLayers document with
  | none => exact ⟨⟨rfl, rfl⟩, rfl, rfl, rfl, rfl⟩
  | some layers =>
    simp only [foldl_importRedGroup]
    exact ⟨⟨rfl, rfl⟩, rfl, rfl, rfl, rfl⟩

/-- What three complete imports leave can be written again. -/
theorem legal_setJsonConfig {stackConfiguration msgConfiguration tlsConfiguration : Option Json}
    (h : (setJsonConfig stackConfiguration msgConfiguration tlsConfiguration).Complete) :
    (setJsonConfig stackConfiguration msgConfiguration tlsConfiguration).Legal
      (entries msgConfiguration) := by
  have hflags (c : ImportedConfig) :
      (importTlsConfig tlsConfiguration c).protocolConfigComplete = c.protocolConfigComplete ∧
        (importTlsConfig tlsConfiguration c).exchangeConfigComplete =
          c.exchangeConfigComplete := by
    unfold importTlsConfig
    split <;> exact ⟨rfl, rfl⟩
  obtain ⟨⟨hcas, htriggers⟩, hkey, hcert, hca, hremote⟩ :=
    importProtocolConfig_others stackConfiguration
  obtain ⟨hprotocol, hexchange, htls⟩ := h
  rw [setJsonConfig] at hprotocol hexchange htls ⊢
  rw [(hflags _).2, importExchangeConfig_complete] at hexchange
  have hstored : storedBy msgConfiguration = .yield (entries msgConfiguration) := by
    unfold completes at hexchange
    unfold entries
    cases hscan : storedBy msgConfiguration with
    | done l =>
      rw [hscan] at hexchange
      cases hexchange
    | yield l => rfl
  rw [importExchangeConfig_of_storedBy hstored hcas htriggers] at hprotocol htls ⊢
  rw [(hflags _).1] at hprotocol
  have hlegal := protocolLegal_importProtocolConfig hprotocol
  refine importTlsConfig_legal ?_ ?_ hkey hcert hca hremote htls
  · obtain ⟨⟩ := hlegal
    constructor <;> assumption
  · exact ⟨fun _ => legal_of_mem_entries, rfl, rfl, rfl, rfl⟩

theorem Legal.complete {l : List Entry} {c : ImportedConfig} (h : c.Legal l) : c.Complete :=
  ⟨h.protocol.complete, h.exchange.complete, h.tls.complete⟩

end ImportedConfig

/-- A configuration, with the entries of its exchange data, is what three complete imports leave if
and only if it is legal. -/
theorem importable_iff (l : List Entry) (c : ImportedConfig) :
    (∃ stackConfiguration msgConfiguration tlsConfiguration,
      setJsonConfig stackConfiguration msgConfiguration tlsConfiguration = c ∧
        entries msgConfiguration = l ∧ c.Complete) ↔ c.Legal l := by
  constructor
  · rintro ⟨_, _, _, rfl, rfl, hcomplete⟩
    exact ImportedConfig.legal_setJsonConfig hcomplete
  · intro h
    refine ⟨_, _, _, ImportedConfig.setJsonConfig_texts h, ?_, h.complete⟩
    rw [entries, storedBy_exchangeText h.exchange.entries]
    rfl

/-- The texts written from an imported configuration are imported as that configuration. -/
theorem reimport {stackConfiguration msgConfiguration tlsConfiguration : Option Json}
    (h : (setJsonConfig stackConfiguration msgConfiguration tlsConfiguration).Complete) :
    let c := setJsonConfig stackConfiguration msgConfiguration tlsConfiguration
    setJsonConfig (some c.protocolText) (some (exchangeText (entries msgConfiguration)))
      (some c.tlsText) = c :=
  ImportedConfig.setJsonConfig_texts (ImportedConfig.legal_setJsonConfig h)

/-- One redundancy group with a connection, and an element that is ignored. -/
def oneGroupText : Option Json :=
  some (.object [("protocol_stack", .object
    [("transport_layer", .object [("redundancy_groups", .array
        [.object [("rg_name", .string "red-group1"), ("connections", .array
          [.object [("srv_ip", .string "127.0.0.1"), ("port", .int 2404)], .null])]])]),
      ("application_layer", .object [("gi_time", .int 60), ("orig_addr", .int 256)])])])

/-- A private key, and a certificate list of which one element names a file. -/
def oneCertificateText : Option Json :=
  some (.object [("tls_conf", .object [("private_key", .string "iec104_client.key"),
    ("remote_certs", .array [.null, .object [("cert_file", .string "iec104_server.cer")]])])])

theorem reimport_oneGroup :
    let c := setJsonConfig oneGroupText replacedDatapointText oneCertificateText
    setJsonConfig (some c.protocolText) (some (exchangeText (entries replacedDatapointText)))
      (some c.tlsText) = c :=
  reimport ⟨by decide, by decide, by decide⟩

end Iec104South
