import Iec104South.ConThread
import Iec104South.Operation
import Iec104South.PathAudits
import Iec104South.Publishing

/-!
# The plugin and its service

The entry points that the south service calls, and the clients that they start. A client runs on
its own threads until it is stopped; what it keeps alive is a reference from its connections, so a
client with connections that is replaced without being stopped runs on. The table of definitions
belongs to a configuration object, which a client that is started again shares.

* `Service`: the handle, the clients that run, and the configuration objects.
* `pluginStep`: one call of the service, or one step of a running client.
* `Service.Valid`: the references are valid, in every run (`step_valid`).
* `operation_handle`: an operation is a step of the client, or it leaves the client as it is.
-/

namespace Iec104South

open Reactive

/-- A `ConfigCategory`, with the values of its items. -/
structure ConfigCategory where
  name : String := ""
  items : List (String × String)
deriving DecidableEq, Repr

namespace ConfigCategory

def itemExists (config : ConfigCategory) (name : String) : Bool := (config.items.lookup name).isSome

def getValue (config : ConfigCategory) (name : String) : String :=
  (config.items.lookup name).getD ""

/-- The category has the three texts of the configuration. -/
def isComplete (config : ConfigCategory) : Bool :=
  config.itemExists "protocol_stack" && config.itemExists "exchanged_data" &&
    config.itemExists "tls"

end ConfigCategory

/-- What the plugin uses of the service and of other libraries: the parser of the texts, the
conversion `(float)atof`, and the category of `default_config`. -/
structure PluginEnv where
  parse : String → Option Json
  readFloat : String → BitVec 32
  defaultConfig : ConfigCategory

/-- The object that an import of the category makes, if it has all texts. -/
def PluginEnv.imported (env : PluginEnv) (config : ConfigCategory) : Option ImportedConfig :=
  if config.isComplete then
    some (setJsonConfig (env.parse (config.getValue "protocol_stack"))
      (env.parse (config.getValue "exchanged_data")) (env.parse (config.getValue "tls")))
  else none

/-! ## Objects -/

abbrev ConfigId := Nat

abbrev ClientId := Nat

/-- `IEC104`; the configuration and the client are references. -/
structure IEC104 where
  asset : String
  serviceName : String
  config : ConfigId
  ingestRegistered : Bool := false
  client : Option ClientId := none
deriving DecidableEq, Repr

def IEC104.setAssetName (asset : String) (iec104 : IEC104) : IEC104 :=
  { iec104 with asset := asset }

/-- An `IEC104Client` that is started. -/
structure RunningClient where
  config : ConfigId
  system : System

namespace ImportedConfig

/-- The connections that `prepareConnections` makes, numbered in their order. -/
def pathConnections (c : ImportedConfig) : List PathConnection :=
  (prepareConnections c.redundancyGroups).1

def connectionIds (c : ImportedConfig) : List ConId := List.range c.pathConnections.length

/-- The configured connection of a connection. -/
def redGroupCon (c : ImportedConfig) (con : ConId) : RedGroupCon :=
  (c.pathConnections[con]?.map (·.redGroupConnection.toRedGroupCon)).getD {}

/-- `IEC104Client::start` with this configuration. -/
def startClient (c : ImportedConfig) (timeInMs : Nat) : System :=
  .started c.config c.redGroupCon c.exchangeDefinitions c.connectionIds timeInMs

/-- A step of a client with this configuration. -/
def clientStep (c : ImportedConfig) : Machine System ClientInput Effect :=
  Iec104South.clientStep c.config c.redGroupCon

end ImportedConfig

/-- The end of `_conThread`. -/
def Plugin.conThreadEnd (p : Plugin) : Plugin :=
  (p.takeHandle .finish).sendConnectionStatusAudit .disconnected

/-- What is emitted while the client stops: the connections end one after the other. -/
def System.stopEvents (cfg : IEC104ClientConfig) (s : System) : List Effect :=
  s.connections.flatMap (fun con => (s.clear.plugin con).conThreadEnd.client.out) ++
    (s.clear.monitoringThreadEnd cfg).client.out

structure Service where
  handle : Option IEC104 := none
  configs : ConfigId → ImportedConfig := fun _ => {}
  clients : ClientId → Option RunningClient := fun _ => none
  nextConfig : ConfigId := 0
  nextClient : ClientId := 0

inductive PluginEffect where
  | initialAudit (audit : PathAudit)
  | client (id : ClientId) (e : Effect)
  /-- what an operation returns -/
  | returned (success : Bool)
deriving DecidableEq, Repr

inductive PluginInput where
  | init (config : Option ConfigCategory)
  | registerIngest
  | start (timeInMs : Nat)
  | reconfigure (newConfig : ConfigCategory) (timeInMs : Nat)
  | shutdown
  | operation (operation : String) (params : List Parameter) (now : Nat) (accepted : Bool)
  /-- a step of a running client that is no operation -/
  | client (id : ClientId) (i : ClientInput)
deriving DecidableEq, Repr

namespace Service

/-- `m_client` of the handle. -/
def current (s : Service) : Option ClientId := s.handle.bind (·.client)

def currentClient (s : Service) : Option RunningClient := s.current.bind s.clients

/-- Readings reach the service when a callback is registered. -/
def deliver (s : Service) (id : ClientId) (out : List Effect) : List PluginEffect :=
  out.filterMap fun
    | .ingest assetName reading =>
      if s.handle.any (·.ingestRegistered) then some (.client id (.ingest assetName reading))
      else none
    | e => some (.client id e)

/-- `std::make_shared<IEC104ClientConfig>`, and the imports into the new object. -/
def setConfig (c : ImportedConfig) (s : Service) : Service :=
  { s with
    handle := s.handle.map ({ · with config := s.nextConfig })
    configs := Function.update s.configs s.nextConfig c
    nextConfig := s.nextConfig + 1 }

/-- `setJsonConfig`, if the category has all texts. -/
def importConfig (env : PluginEnv) (config : ConfigCategory) (s : Service) : Service :=
  match env.imported config with
  | some c => s.setConfig c
  | none => s

/-- `IEC104Client::stop`: the monitoring thread ends, and with it the connections. -/
def stopClient (id : ClientId) (s : Service) : Service × List PluginEffect :=
  match s.clients id with
  | some client =>
    ({ s with clients := Function.update s.clients id none },
      s.deliver id (client.system.stopEvents (s.configs client.config).config))
  | none => (s, [])

/-- A reference to the client is dropped: the destructor stops a client that has no connections;
connections refer to their client. -/
def releaseClient (id : ClientId) (s : Service) : Service × List PluginEffect :=
  if (s.clients id).any (·.system.connections.isEmpty) then s.stopClient id else (s, [])

/-- `IEC104::start`: always a new client. -/
def start (timeInMs : Nat) (s : Service) : Service × List PluginEffect :=
  match s.handle with
  | none => (s, [])
  | some iec104 =>
    let id := s.nextClient
    let c := s.configs iec104.config
    let released := match iec104.client with
      | some old => s.releaseClient old
      | none => (s, [])
    let system := c.startClient timeInMs
    ({ released.1 with
      handle := some { iec104 with client := some id }
      clients := Function.update released.1.clients id (some ⟨iec104.config, system⟩)
      nextClient := id + 1 },
      released.2 ++ ((prepareConnections c.redundancyGroups).2.map .initialAudit ++
        s.deliver id (.clientStatusAudit .notConnected :: system.client.out)))

/-- `IEC104::stop` -/
def stop (s : Service) : Service × List PluginEffect :=
  match s.handle with
  | none => (s, [])
  | some iec104 =>
    let stopped := match iec104.client with
      | some id => s.stopClient id
      | none => (s, [])
    ({ stopped.1 with handle := some { iec104 with client := none } }, stopped.2)

/-- `plugin_init`. The service has one handle at a time, and makes the next one after
`plugin_shutdown`. A call while there is a handle, which would make a second `IEC104`, does
nothing here. -/
def init (env : PluginEnv) (config : Option ConfigCategory) (s : Service) : Service :=
  match s.handle with
  | some _ => s
  | none =>
    let config := config.getD env.defaultConfig
    let asset := if config.itemExists "asset" then config.getValue "asset" else "iec 104"
    importConfig env config
      { s with
        handle := some { asset := asset, serviceName := config.name, config := s.nextConfig }
        configs := Function.update s.configs s.nextConfig {}
        nextConfig := s.nextConfig + 1 }

/-- `plugin_reconfigure`: without an asset the plugin stays stopped. -/
def reconfigure (env : PluginEnv) (newConfig : ConfigCategory) (timeInMs : Nat) (s : Service) :
    Service × List PluginEffect :=
  match s.handle with
  | none => (s, [])
  | some _ =>
    let stopped := s.stop
    let s := stopped.1.importConfig env newConfig
    if newConfig.itemExists "asset" then
      let named := { s with
        handle := s.handle.map (IEC104.setAssetName (newConfig.getValue "asset")) }
      ((named.start timeInMs).1, stopped.2 ++ (named.start timeInMs).2)
    else (s, stopped.2)

/-- `plugin_shutdown` -/
def shutdown (s : Service) : Service × List PluginEffect :=
  ({ s.stop.1 with handle := none }, s.stop.2)

/-- The client with the table of its configuration object. -/
def load (client : RunningClient) (s : Service) : System :=
  { client.system with
    client := { client.system.client with
      exchangeDefinitions := (s.configs client.config).exchangeDefinitions } }

/-- The client after a step, which may have changed the table. -/
def store (id : ClientId) (config : ConfigId) (system : System) (s : Service) : Service :=
  { s with
    configs := Function.update s.configs config { s.configs config with
      exchangeDefinitions := system.client.exchangeDefinitions }
    clients := Function.update s.clients id (some ⟨config, system⟩) }

/-- A step on one of the threads of a client. -/
def stepClient (id : ClientId) (i : ClientInput) (s : Service) : Service × List PluginEffect :=
  match s.clients id with
  | some client =>
    let stepped := (s.configs client.config).clientStep (s.load client) i
    (s.store id client.config stepped.1, s.deliver id stepped.2)
  | none => (s, [])

/-- `plugin_operation` -/
def operation (env : PluginEnv) (operation : String) (params : List Parameter) (now : Nat)
    (accepted : Bool) (s : Service) : Service × List PluginEffect :=
  match s.current with
  | none => (s, [.returned false])
  | some id =>
    match s.clients id with
    | none => (s, [.returned false])
    | some client =>
      let system := (s.load client).clear
      let result := IEC104.operation env.readFloat (s.configs client.config).config system.cons
        operation params now accepted (some system.client)
      let c := result.2.getD system.client
      (s.store id client.config { system with client := c },
        s.deliver id c.out ++ [.returned result.1])

end Service

/-- One call of the service, or one step of a client. -/
def pluginStep (env : PluginEnv) : Machine Service PluginInput PluginEffect
  | s, .init config => (s.init env config, [])
  | s, .registerIngest =>
    ({ s with handle := s.handle.map ({ · with ingestRegistered := true }) }, [])
  | s, .start timeInMs => s.start timeInMs
  | s, .reconfigure newConfig timeInMs => s.reconfigure env newConfig timeInMs
  | s, .shutdown => s.shutdown
  | s, .operation operation params now accepted => s.operation env operation params now accepted
  | s, .client id i => s.stepClient id i

/-! ## What the calls do -/

/-- The input of the client that an operation is, if it gets to the client. -/
def operationInput (readFloat : String → BitVec 32) (operation : String) (params : List Parameter)
    (now : Nat) (accepted : Bool) : Option ClientInput :=
  if operation = "CS104_Connection_sendInterrogationCommand" then
    some (.sendInterrogationCommand (Text.atoi (textOf params .type)) accepted)
  else if operation = "CS104_Connection_sendTestCommandWithTimestamp" then none
  else if operation = "IEC104Command" then
    (IEC104.command readFloat params).map (.sendCommand · now accepted)
  else if operation = "request_connection_status" then some .sendConnectionStatus
  else if operation = "north_status" then
    if unquote (textOf params .type) = "init_socket_finished" then some .scheduleGI else none
  else none

/-- An operation is a step of the client, or it leaves the client as it is. -/
theorem operation_handle (readFloat : String → BitVec 32) (cfg : IEC104ClientConfig)
    (redGroup : ConId → RedGroupCon) (s : System) (operation : String) (params : List Parameter)
    (now : Nat) (accepted : Bool) :
    { s with client := (IEC104.operation readFloat cfg s.cons operation params now accepted
      (some s.client)).2.getD s.client } =
        ((operationInput readFloat operation params now accepted).map
          (s.handle cfg redGroup)).getD s := by
  simp only [IEC104.operation, operationInput]
  split_ifs
  · simp only [Option.map_some, Option.getD_some, System.handle, System.sendInterrogationCommand]
    cases hactive : s.client.activeConnection with
    | none => rfl
    | some con =>
      simp [System.onConnection, System.plugin, Plugin.handle, Plugin.northInterrogation, hactive,
        Plugin.emit]
  · rfl
  · cases IEC104.command readFloat params <;> rfl
  · rfl
  · rfl
  · rfl
  · rfl

namespace Service

variable (s : Service)

/-- The clients that run on when the one of the handle stops. -/
def stoppedClients (id : ClientId) : Option RunningClient :=
  if s.current = some id then none else s.clients id

theorem stop_eq :
    s.stop.1 = { s with
      handle := s.handle.map ({ · with client := none })
      clients := s.stoppedClients } := by
  have hkeeps (hnone : ∀ id, s.current = some id → s.clients id = none) :
      s.stoppedClients = s.clients := by
    funext id
    unfold stoppedClients
    split_ifs with hid
    · exact (hnone id hid).symm
    · rfl
  cases hhandle : s.handle with
  | none =>
    rw [hkeeps fun id hid => by simp [current, hhandle] at hid]
    simp only [stop, hhandle, Option.map_none]
    rw [← hhandle]
  | some iec104 =>
    have hcurrent : s.current = iec104.client := by rw [current, hhandle, Option.bind_some]
    cases hclient : iec104.client with
    | none =>
      rw [hkeeps fun id hid => by simp [hcurrent, hclient] at hid]
      simp [stop, hhandle, hclient]
    | some id =>
      simp only [stop, hhandle, hclient, stopClient, Option.map_some]
      cases hrunning : s.clients id with
      | none =>
        rw [hkeeps fun id' hid' => by
          rw [hcurrent, hclient] at hid'
          rwa [← Option.some.inj hid']]
      | some client =>
        have hstopped : Function.update s.clients id none = s.stoppedClients := by
          funext id'
          rw [stoppedClients, hcurrent, hclient, Function.update_apply]
          simp only [Option.some.injEq, eq_comm]
        rw [hstopped]

/-- The clients that run on when a start replaces the one of the handle. -/
def keptClients (id : ClientId) : Option RunningClient :=
  if s.current = some id ∧ (s.clients id).any (·.system.connections.isEmpty) then none
  else s.clients id

theorem start_eq {iec104 : IEC104} (h : s.handle = some iec104) (timeInMs : Nat) :
    (s.start timeInMs).1 = { s with
      handle := some { iec104 with client := some s.nextClient }
      clients := Function.update s.keptClients s.nextClient
        (some ⟨iec104.config, (s.configs iec104.config).startClient timeInMs⟩)
      nextClient := s.nextClient + 1 } := by
  have hcurrent : s.current = iec104.client := by rw [current, h, Option.bind_some]
  simp only [start, h]
  cases hclient : iec104.client with
  | none =>
    have hkept : s.keptClients = s.clients := by
      funext id
      simp [keptClients, hcurrent, hclient]
    rw [hkept]
  | some old =>
    have hkept : (s.releaseClient old).1 = { s with clients := s.keptClients } := by
      unfold releaseClient
      split_ifs with hempty
      · cases hrunning : s.clients old with
        | none => simp [hrunning] at hempty
        | some client =>
          have hreleased : Function.update s.clients old none = s.keptClients := by
            funext id
            rw [keptClients, hcurrent, hclient, Function.update_apply]
            by_cases hid : id = old
            · subst hid
              simp [hempty]
            · simp [hid, Ne.symm hid]
          simp only [stopClient, hrunning, hreleased]
      · have hsame : s.keptClients = s.clients := by
          funext id
          rw [keptClients, hcurrent, hclient]
          by_cases hid : old = id
          · subst hid
            rw [if_neg fun h => hempty h.2]
          · simp [hid]
        rw [hsame]
    simp only [hkept]

theorem start_of_none (h : s.handle = none) (timeInMs : Nat) : (s.start timeInMs).1 = s := by
  rw [start, h]

theorem init_of_some (env : PluginEnv) (config : Option ConfigCategory) {iec104 : IEC104}
    (h : s.handle = some iec104) : s.init env config = s := by
  rw [init, h]

theorem current_setConfig (c : ImportedConfig) : (s.setConfig c).current = s.current := by
  unfold current setConfig
  cases s.handle <;> rfl

theorem importConfig_eq (env : PluginEnv) (config : ConfigCategory) :
    s.importConfig env config = s ∨ ∃ c, s.importConfig env config = s.setConfig c := by
  unfold importConfig
  split
  · exact .inr ⟨_, rfl⟩
  · exact .inl rfl

end Service

/-- The references are valid. -/
structure Service.Valid (s : Service) : Prop where
  client : ∀ id r, s.clients id = some r → id < s.nextClient ∧ r.config < s.nextConfig
  config : ∀ iec104, s.handle = some iec104 → iec104.config < s.nextConfig
  current : ∀ iec104 id, s.handle = some iec104 → iec104.client = some id →
    ∃ system, s.clients id = some ⟨iec104.config, system⟩

namespace Service

variable {s : Service}

theorem current_eq_some {id : ClientId} :
    s.current = some id ↔ ∃ iec104, s.handle = some iec104 ∧ iec104.client = some id := by
  unfold current
  exact Option.bind_eq_some_iff

theorem Valid.stop (hs : s.Valid) : s.stop.1.Valid ∧ s.stop.1.current = none := by
  rw [stop_eq]
  refine ⟨⟨fun id r hr => ?_, fun iec104 hhandle => ?_, fun iec104 id hhandle hclient => ?_⟩, ?_⟩
  · refine hs.client id r ?_
    simp only [stoppedClients] at hr
    split_ifs at hr
    exact hr
  · obtain ⟨iec104, hold, rfl⟩ := Option.map_eq_some_iff.mp hhandle
    exact hs.config iec104 hold
  · obtain ⟨iec104, -, rfl⟩ := Option.map_eq_some_iff.mp hhandle
    cases hclient
  · unfold Service.current
    cases s.handle <;> rfl

/-- A new configuration object, while no client runs on the handle. -/
theorem Valid.setConfig (hs : s.Valid) (hnone : s.current = none) (c : ImportedConfig) :
    (s.setConfig c).Valid := by
  refine ⟨fun id r hr => ?_, fun iec104 hhandle => ?_, fun iec104 id hhandle hclient => ?_⟩
  · obtain ⟨hid, hconfig⟩ := hs.client id r hr
    exact ⟨hid, hconfig.trans (Nat.lt_succ_self _)⟩
  · obtain ⟨iec104, -, rfl⟩ := Option.map_eq_some_iff.mp hhandle
    exact Nat.lt_succ_self _
  · have hsome : (s.setConfig c).current = some id :=
      current_eq_some.mpr ⟨iec104, hhandle, hclient⟩
    rw [current_setConfig, hnone] at hsome
    cases hsome

theorem clients_of_keptClients {id : ClientId} {r : RunningClient}
    (h : s.keptClients id = some r) : s.clients id = some r := by
  unfold Service.keptClients at h
  split_ifs at h
  exact h

theorem Valid.start (hs : s.Valid) (timeInMs : Nat) : (s.start timeInMs).1.Valid := by
  cases hhandle : s.handle with
  | none =>
    rw [s.start_of_none hhandle]
    exact hs
  | some iec104 =>
    rw [s.start_eq hhandle]
    refine ⟨fun id r hr => ?_, fun iec104' hhandle' => ?_, fun iec104' id hhandle' hclient => ?_⟩
    · dsimp only at hr ⊢
      by_cases hid : id = s.nextClient
      · subst hid
        rw [Function.update_self] at hr
        cases hr
        exact ⟨Nat.lt_succ_self _, hs.config iec104 hhandle⟩
      · rw [Function.update_of_ne hid] at hr
        obtain ⟨hlt, hconfig⟩ := hs.client id r (clients_of_keptClients hr)
        exact ⟨hlt.trans (Nat.lt_succ_self _), hconfig⟩
    · cases hhandle'
      exact hs.config iec104 hhandle
    · cases hhandle'
      cases hclient
      exact ⟨_, Function.update_self ..⟩

/-- A client that has taken a step. -/
theorem Valid.store (hs : s.Valid) {id : ClientId} {config : ConfigId} {system : System}
    (hrunning : s.clients id = some ⟨config, system⟩) (system' : System) :
    (s.store id config system').Valid := by
  refine ⟨fun id' r hr => ?_, hs.config, fun iec104 id' hhandle hclient => ?_⟩
  · by_cases hid : id' = id
    · subst hid
      obtain rfl : ⟨config, system'⟩ = r :=
        Option.some.inj ((Function.update_self id' _ s.clients).symm.trans hr)
      exact hs.client id' ⟨config, system⟩ hrunning
    · exact hs.client id' r ((Function.update_of_ne hid _ s.clients).symm.trans hr)
  · obtain ⟨system₀, hold⟩ := hs.current iec104 id' hhandle hclient
    by_cases hid : id' = id
    · subst hid
      rw [hrunning] at hold
      cases hold
      exact ⟨system', Function.update_self ..⟩
    · exact ⟨system₀, (Function.update_of_ne hid _ s.clients).trans hold⟩

/-! ## The steps -/

theorem importConfig_clients (env : PluginEnv) (config : ConfigCategory) :
    (s.importConfig env config).clients = s.clients := by
  rcases s.importConfig_eq env config with heq | ⟨c, heq⟩
  · rw [heq]
  · rw [heq]
    rfl

theorem current_eq_none_of_handle (h : s.handle = none) : s.current = none := by
  rw [Service.current, h, Option.bind_none]

/-- No client runs on the handle. -/
structure Stopped (s : Service) : Prop where
  valid : s.Valid
  current : s.current = none

theorem Stopped.importConfig (h : s.Stopped) (env : PluginEnv) (config : ConfigCategory) :
    (s.importConfig env config).Stopped := by
  rcases s.importConfig_eq env config with heq | ⟨c, heq⟩
  · rw [heq]
    exact h
  · rw [heq]
    exact ⟨h.valid.setConfig h.current c, (s.current_setConfig c).trans h.current⟩

theorem current_map {f : IEC104 → IEC104} (hclient : ∀ iec104, (f iec104).client =
    iec104.client) : Service.current { s with handle := s.handle.map f } = s.current := by
  unfold Service.current
  cases s.handle with
  | none => rfl
  | some iec104 => exact hclient iec104

/-- Other members of the object are set. -/
theorem Valid.map (hs : s.Valid) {f : IEC104 → IEC104} (hconfig : ∀ iec104, (f iec104).config =
    iec104.config) (hclient : ∀ iec104, (f iec104).client = iec104.client) :
    Valid { s with handle := s.handle.map f } := by
  refine ⟨hs.client, fun iec104 hhandle => ?_, fun iec104 id hhandle hid => ?_⟩
  · obtain ⟨iec104, hold, rfl⟩ := Option.map_eq_some_iff.mp hhandle
    rw [hconfig]
    exact hs.config iec104 hold
  · obtain ⟨iec104, hold, rfl⟩ := Option.map_eq_some_iff.mp hhandle
    rw [hconfig]
    exact hs.current iec104 id hold (hclient iec104 ▸ hid)

/-- A new object for a service that has none. -/
theorem Valid.create (hs : s.Valid) (asset serviceName : String) :
    Stopped { s with
      handle := some { asset := asset, serviceName := serviceName, config := s.nextConfig }
      configs := Function.update s.configs s.nextConfig {}
      nextConfig := s.nextConfig + 1 } := by
  refine ⟨⟨fun id r hr => ?_, fun iec104 hhandle => ?_, fun iec104 id hhandle hclient => ?_⟩, rfl⟩
  · obtain ⟨hid, hconfig⟩ := hs.client id r hr
    exact ⟨hid, hconfig.trans (Nat.lt_succ_self _)⟩
  · cases hhandle
    exact Nat.lt_succ_self _
  · cases hhandle
    cases hclient

/-- A handle is made, and nothing is started. -/
theorem init_cases (hs : s.Valid) (env : PluginEnv) (config : Option ConfigCategory) :
    s.init env config = s ∨
      s.handle = none ∧ (s.init env config).Stopped ∧ (s.init env config).clients = s.clients := by
  cases hhandle : s.handle with
  | some iec104 => exact .inl (s.init_of_some env config hhandle)
  | none =>
    refine .inr ⟨rfl, ?_⟩
    simp only [Service.init, hhandle]
    exact ⟨(hs.create _ _).importConfig env _, importConfig_clients ..⟩

/-- A reconfiguration stops the client, imports, and starts the next one if there is an asset. -/
theorem reconfigure_cases (hs : s.Valid) (env : PluginEnv) (newConfig : ConfigCategory)
    (timeInMs : Nat) :
    s.handle = none ∧ (s.reconfigure env newConfig timeInMs).1 = s ∨
      ∃ s', s'.Stopped ∧ s'.clients = s.stop.1.clients ∧
        ((s.reconfigure env newConfig timeInMs).1 = s' ∨
          (s.reconfigure env newConfig timeInMs).1 = (s'.start timeInMs).1) := by
  cases hhandle : s.handle with
  | none => exact .inl ⟨rfl, by rw [reconfigure, hhandle]⟩
  | some iec104 =>
    have hstopped : (s.stop.1.importConfig env newConfig).Stopped :=
      Stopped.importConfig ⟨hs.stop.1, hs.stop.2⟩ env newConfig
    have hclients := importConfig_clients (s := s.stop.1) env newConfig
    simp only [reconfigure, hhandle]
    split_ifs
    · refine .inr ⟨_, ⟨hstopped.valid.map (f := IEC104.setAssetName (newConfig.getValue "asset"))
        (fun _ => rfl) fun _ => rfl, ?_⟩, hclients, .inr rfl⟩
      exact (current_map (f := IEC104.setAssetName (newConfig.getValue "asset"))
        fun _ => rfl).trans hstopped.current
    · exact .inr ⟨_, hstopped, hclients, .inl rfl⟩

/-- An operation or a step of a client lets that client take a step. -/
theorem store_cases (env : PluginEnv) (i : PluginInput) (hi : (∃ operation params now accepted,
    i = .operation operation params now accepted) ∨ ∃ id j, i = .client id j) :
    (pluginStep env s i).1 = s ∨ ∃ id client system, s.clients id = some client ∧
      (pluginStep env s i).1 = s.store id client.config system := by
  obtain ⟨operation, params, now, accepted, rfl⟩ | ⟨id, j, rfl⟩ := hi
  · simp only [pluginStep, Service.operation]
    split
    · exact .inl rfl
    · next id _ =>
      split
      · exact .inl rfl
      · next client hrunning => exact .inr ⟨id, client, _, hrunning, rfl⟩
  · cases hrunning : s.clients id with
    | none => exact .inl (by simp only [pluginStep, stepClient, hrunning])
    | some client =>
      refine .inr ⟨id, client, ((s.configs client.config).clientStep (s.load client) j).1,
        hrunning, ?_⟩
      simp only [pluginStep, stepClient, hrunning]

theorem step_valid (env : PluginEnv) (hs : s.Valid) (i : PluginInput) :
    (pluginStep env s i).1.Valid := by
  cases i with
  | init config =>
    rcases init_cases hs env config with hsame | ⟨-, hstopped, -⟩
    · rw [pluginStep, hsame]
      exact hs
    · exact hstopped.valid
  | registerIngest => exact hs.map (fun _ => rfl) fun _ => rfl
  | start timeInMs => exact hs.start timeInMs
  | reconfigure newConfig timeInMs =>
    rcases reconfigure_cases hs env newConfig timeInMs with
      ⟨-, hsame⟩ | ⟨s', hstopped, -, hstep | hstep⟩
    · rw [pluginStep, hsame]
      exact hs
    · rw [pluginStep, hstep]
      exact hstopped.valid
    · rw [pluginStep, hstep]
      exact hstopped.valid.start timeInMs
  | shutdown =>
    refine ⟨hs.stop.1.client, fun _ hhandle => ?_, fun _ _ hhandle => ?_⟩
    · cases hhandle
    · cases hhandle
  | operation operation params now accepted =>
    rcases store_cases env (.operation operation params now accepted) (.inl ⟨_, _, _, _, rfl⟩) with
      hsame | ⟨id, client, system, hrunning, hstep⟩
    · rw [hsame]
      exact hs
    · rw [hstep]
      exact hs.store hrunning system
  | client id j =>
    rcases store_cases env (.client id j) (.inr ⟨_, _, rfl⟩) with
      hsame | ⟨id, client, system, hrunning, hstep⟩
    · rw [hsame]
      exact hs
    · rw [hstep]
      exact hs.store hrunning system

end Service

end Iec104South
