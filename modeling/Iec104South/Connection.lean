import Iec104South.HandleAsdu

/-!
# One connection

`IEC104ClientConnection`: the handlers lib60870 calls on its threads, the periodic
tasks, and the connection thread. They act on a `Plugin`, the connection together with
the client it shares with the other connections.

Every function here runs as one step. `conThread` and `conThreadDisconnect` are the two
parts of one round of `_conThread`: the switch over the connection state, and the
treatment of a disconnect request.
-/

namespace Iec104South

/-- `IEC104ClientConnection::ConState`. -/
inductive ConState where
  | idle
  | connecting
  | connectedInactive
  | connectedActive
  | closed
  | waitForReconnect
  | fatalError
deriving DecidableEq, Repr

/-- `m_interrogationRequestState`: 0, 1 and 2. -/
inductive RequestState where
  | idle
  | waitActCon
  | waitActTerm
deriving DecidableEq, Repr

/-- The state of `IEC104ClientConnection`; `m_giRequested` is kept in `Client`. -/
structure Connection where
  connected : Bool := false
  connecting : Bool := false
  connect : Bool := false
  disconnect : Bool := false
  connection : Option Handle := none
  connectionState : ConState := .idle
  startDtSent : Bool := false
  timeSynchronized : Bool := false
  timeSyncCommandSent : Bool := false
  firstTimeSyncOperationCompleted : Bool := false
  nextTimeSync : Nat := 0
  firstGISent : Bool := false
  interrogationInProgress : Bool := false
  interrogationRequestState : RequestState := .idle
  interrogationRequestSent : Nat := 0
  nextGIStartTime : Nat := 0
  endOfInitReceived : Bool := false
  delayExpirationTime : Nat := 0
  /-- the iterator `m_listOfCA_it` as an index -/
  listOfCA_it : Nat := 0
  /-- the constructor sends the first audit -/
  last_audit : AuditType := .disconnected
deriving DecidableEq, Repr

namespace Connection

def isConnected (con : Connection) : Bool := con.connected

def isDisconnected (con : Connection) : Bool := !con.connecting && !con.connected

/-- `Activate`; the `STARTDT` is sent when there is a handle to send it on. -/
def activate (con : Connection) : List Effect × Connection :=
  if con.connectionState = .connectedInactive then
    (con.connection.toList.map .sendStartDT,
      { con with startDtSent := true, connectionState := .connectedActive })
  else ([], con)

/-- `m_connectionHandler` -/
def connectionHandler (event : ConnectionEvent) (now : Nat) (con : Connection) : Connection :=
  match event with
  | .closed => { con with connectionState := .closed, connected := false, connecting := false }
  | .opened =>
    { con with connectionState := .connectedInactive, connected := true, connecting := false }
  | .startdtConReceived =>
    { con with
      nextTimeSync := now
      timeSynchronized := false
      firstTimeSyncOperationCompleted := false
      firstGISent := false
      connectionState := .connectedActive }
  | .stopdtConReceived => { con with connectionState := .connectedInactive }
  | .other => con

@[simp] theorem connectionHandler_requestState (event : ConnectionEvent) (now : Nat)
    (con : Connection) :
    (con.connectionHandler event now).interrogationRequestState =
      con.interrogationRequestState := by
  cases event <;> rfl

/-- `Disonnect` -/
def disonnect (con : Connection) : Connection := { con with disconnect := true, connect := false }

/-- `Connect` -/
def requestConnect (con : Connection) : Connection :=
  { con with disconnect := false, connect := true }

/-- What is left of a connection without the variables of its link. -/
def withoutLink (con : Connection) : Connection :=
  { con with
    connected := false
    connecting := false
    connect := false
    disconnect := false
    connection := none
    connectionState := .idle
    startDtSent := false
    delayExpirationTime := 0
    last_audit := .disconnected }

/-- `sendInterrogationCommand`: whether it succeeded, and what was passed to the library. -/
def sendInterrogationCommand (ca : Int) (accepted : Bool) (con : Connection) :
    Bool × List Effect :=
  match con.connection with
  | some handle =>
    if con.connectionState = .connectedActive then
      (accepted, [.sendInterrogationCommand handle ca accepted])
    else (false, [])
  | none => (false, [])

/-- `closeConnection` -/
def closeConnection (con : Connection) : List Effect := con.connection.toList.map .close

/-- The reply to a clock synchronisation command, as `m_asduReceivedHandler` treats it. -/
def timeSyncReply (cfg : IEC104ClientConfig) (now : Nat) (a : ASDU) (con : Connection) :
    Connection :=
  { (if con.timeSyncCommandSent then
      if a.cot = CS101_COT_ACTIVATION_CON then
        if !a.isNegative then
          { con with
            timeSynchronized := true
            nextTimeSync := addSeconds now cfg.timeSyncPeriod
            timeSyncCommandSent := false }
        else con
      else if a.cot = CS101_COT_UNKNOWN_TYPE_ID then { con with timeSynchronized := true }
      else con
    else con) with
    firstTimeSyncOperationCompleted := true }

/-- Whether the time synchronisation part of the periodic tasks sends a command. -/
def timeSyncDue (syncTime : Nat) (con : Connection) : Bool :=
  (!con.timeSynchronized && !con.firstTimeSyncOperationCompleted && !con.timeSyncCommandSent) ||
    (con.timeSynchronized && !con.timeSyncCommandSent && con.nextTimeSync ≤ syncTime)

end Connection

/-- A call that makes or destroys a handle, or an audit of the connection. -/
def Effect.isLinkEvent : Effect → Bool
  | .create _ | .connectAsync _ | .destroy _ | .connectionStatusAudit _ => true
  | _ => false

theorem giEvents_of_isLinkEvent {events : List Effect} (h : ∀ e ∈ events, e.isLinkEvent) :
    giEvents events = [] := by
  refine List.filterMap_eq_nil_iff.mpr fun e he => ?_
  have hlink := h e he
  cases e with
  | ingest => cases hlink
  | _ => rfl

/-- A connection with the client it belongs to; `self` is its identity. -/
structure Plugin where
  client : Client
  con : Connection
  self : ConId

/-- What a round of the connection thread gets from its environment: clock readings, the
handle created by the library, and the results of the library's send functions. -/
structure Env where
  /-- read for the delays of the connection state -/
  delayTime : Nat := 0
  created : Option Handle := none
  /-- read by the time synchronisation -/
  syncTime : Nat := 0
  /-- read by the GI part -/
  currentTime : Nat := 0
  /-- read after a GI request was sent -/
  sentTime : Nat := 0
  syncAccepted : Bool := true
  giAccepted : Bool := true
deriving DecidableEq, Repr

namespace Plugin

def emit (out : List Effect) (p : Plugin) : Plugin :=
  { p with client := { p.client with out := p.client.out ++ out } }

def updateGiStatus (cfg : IEC104ClientConfig) (newState : GiStatus) (p : Plugin) : Plugin :=
  { p with client := p.client.updateGiStatus cfg newState }

/-- The end of a GI: the new status, and the datapoints it did not deliver become invalid. -/
def concludeGi (cfg : IEC104ClientConfig) (newState : GiStatus) (p : Plugin) : Plugin :=
  let p := p.updateGiStatus cfg newState
  { p with
    client :=
      p.client.updateQualityForDataObjectsNotReceivedInGIResponse IEC60870_QUALITY_INVALID }

def closeConnection (p : Plugin) : Plugin := p.emit p.con.closeConnection

/-- `m_sendConnectionStatusAudit`: an audit is not repeated. -/
def sendConnectionStatusAudit (auditType : AuditType) (p : Plugin) : Plugin :=
  if auditType = p.con.last_audit then p
  else { p.emit [.connectionStatusAudit auditType] with
    con := { p.con with last_audit := auditType } }

/-! ## Periodic tasks -/

/-- The request to the broadcast address with which a cycle starts without `gi_all_ca`. -/
def sendBroadcastGi (cfg : IEC104ClientConfig) (env : Env) (p : Plugin) : Plugin :=
  let sent := p.con.sendInterrogationCommand cfg.broadcastCA env.giAccepted
  let p := p.emit sent.2
  if sent.1 then
    { p with con := { p.con with
      firstGISent := true
      interrogationInProgress := true
      interrogationRequestState := .waitActCon
      interrogationRequestSent := env.sentTime
      nextGIStartTime := addSeconds env.sentTime cfg.giCycle } }
  else { p with con := { p.con with firstGISent := true } }

def startNewInterrogationCycle (cfg : IEC104ClientConfig) (env : Env) (p : Plugin) : Plugin :=
  let p := { p with
    con := { p.con with endOfInitReceived := false }
    client := p.client.createListOfDatapointsInStationGroup }
  if !cfg.giAllCa then (p.updateGiStatus cfg .started).sendBroadcastGi cfg env
  else
    let p := { p with con := { p.con with listOfCA_it := 0, firstGISent := true } }
    if cfg.listOfCAs.isEmpty then p
    else
      { p with con := { p.con with interrogationInProgress := true } }.updateGiStatus cfg .started

def timeSyncCa (cfg : IEC104ClientConfig) : Int :=
  if cfg.timeSyncCa ≠ -1 then cfg.timeSyncCa
  else if cfg.defaultCa ≠ -1 then cfg.defaultCa
  else cfg.broadcastCA

/-- The time synchronisation part of `executePeriodicTasks`. -/
def timeSyncTasks (cfg : IEC104ClientConfig) (env : Env) (p : Plugin) : Plugin :=
  if p.con.timeSyncDue env.syncTime then
    let nextTimeSync :=
      if p.con.timeSynchronized then addSeconds env.syncTime cfg.timeSyncPeriod
      else p.con.nextTimeSync
    { p.emit [.sendClockSyncCommand p.con.connection (timeSyncCa cfg) env.syncAccepted] with
      con := { p.con with
        nextTimeSync := nextTimeSync
        timeSyncCommandSent := p.con.timeSyncCommandSent || env.syncAccepted } }
  else p

/-- No ACT_CON or no ACT_TERM in time: both states of a pending request end the same way. -/
def failGiRequest (cfg : IEC104ClientConfig) (env : Env) (p : Plugin) : Plugin :=
  ({ p with con := { p.con with
      interrogationRequestState := .idle
      nextGIStartTime := addSeconds env.currentTime cfg.giCycle } }.concludeGi
    cfg .failed).closeConnection

/-- The timeout of a pending request has passed; `gi_time` 0 is no timeout. -/
def giTimedOut (cfg : IEC104ClientConfig) (env : Env) (p : Plugin) : Bool :=
  cfg.giTime ≠ 0 && addSeconds p.con.interrogationRequestSent cfg.giTime < env.currentTime

def checkGiTimeout (cfg : IEC104ClientConfig) (env : Env) (p : Plugin) : Plugin :=
  if p.giTimedOut cfg env then p.failGiRequest cfg env else p

/-- The request to the CA the iterator points to. -/
def sendGiToCa (cfg : IEC104ClientConfig) (env : Env) (ca : Int) (p : Plugin) : Plugin :=
  let sent := p.con.sendInterrogationCommand ca env.giAccepted
  let p := p.emit sent.2
  let p :=
    if sent.1 then
      { p with con := { p.con with
        interrogationRequestState := .waitActCon
        interrogationRequestSent := env.sentTime } }.updateGiStatus cfg .started
    else (p.concludeGi cfg .failed).closeConnection
  { p with con := { p.con with listOfCA_it := p.con.listOfCA_it + 1 } }

/-- A cycle is in progress and no request is pending. -/
def continueCycle (cfg : IEC104ClientConfig) (env : Env) (p : Plugin) : Plugin :=
  if cfg.giAllCa then
    match cfg.listOfCAs[p.con.listOfCA_it]? with
    | some ca => p.sendGiToCa cfg env ca
    | none => { p with con := { p.con with
        interrogationInProgress := false
        nextGIStartTime := addSeconds env.currentTime cfg.giCycle } }
  else { p with con := { p.con with interrogationInProgress := false } }

/-- No cycle is in progress: start one when it is due, or after an end of initialisation. -/
def startCycleWhenDue (cfg : IEC104ClientConfig) (env : Env) (p : Plugin) : Plugin :=
  if 0 < cfg.giCycle ∧ p.con.nextGIStartTime < env.currentTime then
    p.startNewInterrogationCycle cfg env
  else if p.con.endOfInitReceived then p.startNewInterrogationCycle cfg env
  else p

/-- Start a cycle on request, unless a GI is running. -/
def startCycleOnRequest (cfg : IEC104ClientConfig) (env : Env) (p : Plugin) : Plugin :=
  if p.client.giRequested p.self ∧
      (p.client.giStatus = .failed ∨ p.client.giStatus = .finished) then
    { p with client := p.client.setGiRequested p.self false }.startNewInterrogationCycle cfg env
  else p

/-- The GI part of `executePeriodicTasks`. -/
def giTasks (cfg : IEC104ClientConfig) (env : Env) (p : Plugin) : Plugin :=
  if !p.con.firstGISent then p.startNewInterrogationCycle cfg env
  else if p.con.interrogationInProgress then
    if p.con.interrogationRequestState ≠ .idle then p.checkGiTimeout cfg env
    else p.continueCycle cfg env
  else (p.startCycleWhenDue cfg env).startCycleOnRequest cfg env

def executePeriodicTasks (cfg : IEC104ClientConfig) (env : Env) (p : Plugin) : Plugin :=
  let p := if cfg.isTimeSyncEnabled then p.timeSyncTasks cfg env else p
  if !cfg.isTimeSyncEnabled || p.con.firstTimeSyncOperationCompleted then
    if cfg.giEnabled then p.giTasks cfg env else p
  else p

/-! ## Received ASDUs -/

/-- An ACT_CON of a `C_IC_NA_1`. -/
def giConfirmed (cfg : IEC104ClientConfig) (a : ASDU) (p : Plugin) : Plugin :=
  if p.con.interrogationRequestState = .waitActCon then
    let p := { p with con := { p.con with interrogationRequestState := .waitActTerm } }
    if a.isNegative then p.concludeGi cfg .failed else p.updateGiStatus cfg .inProgress
  else p

/-- `giStatus == STARTED || giStatus == IN_PROGRESS` -/
def giRunning (p : Plugin) : Bool :=
  p.client.giStatus == .started || p.client.giStatus == .inProgress

/-- An ACT_TERM of a `C_IC_NA_1`. -/
def giTerminated (cfg : IEC104ClientConfig) (p : Plugin) : Plugin :=
  if p.con.interrogationRequestState = .waitActTerm then
    let p := { p with con := { p.con with interrogationRequestState := .idle } }
    if p.giRunning then p.concludeGi cfg .finished else p
  else p

/-- A `C_IC_NA_1` with any other cause of transmission. -/
def giRejected (cfg : IEC104ClientConfig) (p : Plugin) : Plugin :=
  if p.giRunning then { p.concludeGi cfg .failed with con := p.con.disonnect } else p

def giReply (cfg : IEC104ClientConfig) (a : ASDU) (p : Plugin) : Plugin :=
  if a.cot = CS101_COT_ACTIVATION_CON then p.giConfirmed cfg a
  else if a.cot = CS101_COT_ACTIVATION_TERMINATION then p.giTerminated cfg
  else p.giRejected cfg

/-- The switch over the ASDUs the client did not handle. -/
def unhandledASDU (cfg : IEC104ClientConfig) (now : Nat) (a : ASDU) (p : Plugin) : Bool × Plugin :=
  match a.typeId with
  | M_EI_NA_1 => (true, { p with con := { p.con with endOfInitReceived := true } })
  | C_CS_NA_1 => (true, { p with con := p.con.timeSyncReply cfg now a })
  | C_IC_NA_1 => (true, p.giReply cfg a)
  | C_TS_TA_1 => (true, p)
  | _ => (false, p)

/-- An interrogation response restarts the timer while ACT_TERM is awaited. -/
def interrogationResponse (now : Nat) (a : ASDU) (p : Plugin) : Plugin :=
  if isInterrogationResponse a ∧ p.con.interrogationRequestState = .waitActTerm then
    { p with con := { p.con with interrogationRequestSent := now } }
  else p

/-- `m_asduReceivedHandler` -/
def asduReceivedHandler (cfg : IEC104ClientConfig) (now : Nat) (a : ASDU) (p : Plugin) :
    Bool × Plugin :=
  let p := p.interrogationResponse now a
  let handled := handleASDU cfg now p.self a p.client
  let p := { p with client := handled.2 }
  if handled.1 then (true, p) else p.unhandledASDU cfg now a

/-! ## The connection thread -/

/-- The switch over the connection state in `_conThread`. -/
def conThread (cfg : IEC104ClientConfig) (env : Env) (p : Plugin) : Plugin :=
  match p.con.connectionState with
  | .idle =>
    if p.con.connect then
      let p := p.emit (p.con.connection.toList.map .destroy)
      match env.created with
      | some handle => { p.emit [.create handle, .connectAsync handle] with
          con := { p.con with
            startDtSent := false
            connection := some handle
            connectionState := .connecting
            connecting := true
            delayExpirationTime := (env.delayTime + 10000) % 2 ^ 64 } }
      | none => { p with
          con := { p.con with
            startDtSent := false
            connection := none
            connectionState := .fatalError } }
    else p
  | .connecting =>
    if p.con.delayExpirationTime < env.delayTime then
      { p with con := { p.con with connectionState := .idle } }
    else p
  | .connectedInactive => p.sendConnectionStatusAudit .passive
  | .connectedActive => (p.sendConnectionStatusAudit .active).executePeriodicTasks cfg env
  | .closed =>
    let p := p.sendConnectionStatusAudit .disconnected
    { p with con := { p.con with
      delayExpirationTime := (env.delayTime + 10000) % 2 ^ 64
      connectionState := .waitForReconnect } }
  | .waitForReconnect =>
    if p.con.delayExpirationTime ≤ env.delayTime then
      { p with con := { p.con with connectionState := .idle } }
    else p
  | .fatalError => p

/-- The treatment of a disconnect request in `_conThread`. -/
def conThreadDisconnect (p : Plugin) : Plugin :=
  if p.con.disconnect then
    { p.emit (p.con.connection.toList.map .destroy) with
      con := { p.con with
        connected := false
        connecting := false
        disconnect := false
        connection := none } }.sendConnectionStatusAudit .disconnected
  else p

/-! ## What the operations change

`_con` and `_client` lemmas give the two halves of a result; the GI functions have one
lemma for each GI variable. -/

section Lemmas

variable (cfg : IEC104ClientConfig) (env : Env) (p : Plugin)

@[simp] theorem emit_con (out : List Effect) : (p.emit out).con = p.con := rfl

@[simp] theorem emit_client (out : List Effect) :
    (p.emit out).client = { p.client with out := p.client.out ++ out } := rfl

@[simp] theorem updateGiStatus_con (s : GiStatus) : (p.updateGiStatus cfg s).con = p.con := rfl

@[simp] theorem updateGiStatus_client (s : GiStatus) :
    (p.updateGiStatus cfg s).client =
      { p.client with
        giStatus := s
        out := p.client.out ++ Client.giStatusEvents cfg p.client.giStatus s } :=
  p.client.updateGiStatus_eq cfg s

@[simp] theorem concludeGi_con (s : GiStatus) : (p.concludeGi cfg s).con = p.con := rfl

@[simp] theorem concludeGi_client (s : GiStatus) :
    (p.concludeGi cfg s).client =
      { p.client with
        giStatus := s
        out := p.client.out ++ Client.giStatusEvents cfg p.client.giStatus s ++
          p.client.listOfStationGroupDatapoints.map
            (Client.qualityUpdate IEC60870_QUALITY_INVALID) } := by
  simp [concludeGi, Client.updateQualityForDataObjectsNotReceivedInGIResponse,
    Client.sendQualityUpdates_eq]

@[simp] theorem closeConnection_con : p.closeConnection.con = p.con := rfl

@[simp] theorem closeConnection_client :
    p.closeConnection.client =
      { p.client with out := p.client.out ++ p.con.connection.toList.map .close } := rfl

@[simp] theorem giEvents_map_close (handles : List Handle) :
    giEvents (handles.map .close) = [] := by
  simp [giEvents, Effect.giStatus?]

@[simp] theorem giEvents_map_destroy (handles : List Handle) :
    giEvents (handles.map .destroy) = [] := by
  simp [giEvents, Effect.giStatus?]

@[simp] theorem giEvents_map_sendStartDT (handles : List Handle) :
    giEvents (handles.map .sendStartDT) = [] := by
  simp [giEvents, Effect.giStatus?]

@[simp] theorem giEvents_sendInterrogationCommand (con : Connection) (ca : Int) (accepted : Bool) :
    giEvents (con.sendInterrogationCommand ca accepted).2 = [] := by
  unfold Connection.sendInterrogationCommand
  split
  · split_ifs <;> rfl
  · rfl

@[simp] theorem sendInterrogationCommand_endOfInitReceived (con : Connection) (b : Bool) (ca : Int)
    (accepted : Bool) :
    { con with endOfInitReceived := b }.sendInterrogationCommand ca accepted =
      con.sendInterrogationCommand ca accepted := rfl

/-- An accepted request needs a handle in the active state. -/
theorem sendInterrogationCommand_fst (con : Connection) (ca : Int) (accepted : Bool) :
    (con.sendInterrogationCommand ca accepted).1 =
      (con.connection.isSome && con.connectionState == .connectedActive && accepted) := by
  unfold Connection.sendInterrogationCommand
  split
  · next handle hcon => split_ifs with hactive <;> simp [hcon, hactive]
  · next hcon => simp [hcon]

@[simp] theorem sendBroadcastGi_client :
    (p.sendBroadcastGi cfg env).client =
      { p.client with
        out := p.client.out ++
          (p.con.sendInterrogationCommand cfg.broadcastCA env.giAccepted).2 } := by
  simp only [sendBroadcastGi]
  split_ifs <;> rfl

/-! ### Starting a cycle -/

/-- The GI status after the start of a cycle: with `gi_all_ca` and no CA it is kept. -/
def startedStatus (s : GiStatus) : GiStatus :=
  if cfg.giAllCa ∧ cfg.listOfCAs = [] then s else .started

/-- Whether the broadcast request of a new cycle is sent. -/
def broadcastSent : Bool :=
  !cfg.giAllCa && (p.con.sendInterrogationCommand cfg.broadcastCA env.giAccepted).1

theorem startNewInterrogationCycle_client :
    (p.startNewInterrogationCycle cfg env).client =
      { p.client with
        listOfStationGroupDatapoints :=
          p.client.exchangeDefinitions.definitions.filter isInStationGroup
        giStatus := startedStatus cfg p.client.giStatus
        out := p.client.out ++
          (Client.giStatusEvents cfg p.client.giStatus (startedStatus cfg p.client.giStatus) ++
            if cfg.giAllCa then []
            else (p.con.sendInterrogationCommand cfg.broadcastCA env.giAccepted).2) } := by
  cases hall : cfg.giAllCa with
  | false =>
    simp [startNewInterrogationCycle, hall, startedStatus,
      Client.createListOfDatapointsInStationGroup]
  | true =>
    cases hcas : cfg.listOfCAs with
    | nil =>
      simp [startNewInterrogationCycle, hall, hcas, startedStatus,
        Client.createListOfDatapointsInStationGroup, Client.giStatusEvents]
    | cons ca cas =>
      simp [startNewInterrogationCycle, hall, hcas, startedStatus,
        Client.createListOfDatapointsInStationGroup]

theorem startNewInterrogationCycle_con :
    (p.startNewInterrogationCycle cfg env).con =
      { p.con with
        endOfInitReceived := false
        firstGISent := true
        interrogationInProgress := p.con.interrogationInProgress ||
          (if cfg.giAllCa then !cfg.listOfCAs.isEmpty else p.broadcastSent cfg env)
        interrogationRequestState :=
          if p.broadcastSent cfg env then .waitActCon else p.con.interrogationRequestState
        interrogationRequestSent :=
          if p.broadcastSent cfg env then env.sentTime else p.con.interrogationRequestSent
        nextGIStartTime :=
          if p.broadcastSent cfg env then addSeconds env.sentTime cfg.giCycle
          else p.con.nextGIStartTime
        listOfCA_it := if cfg.giAllCa then 0 else p.con.listOfCA_it } := by
  cases hall : cfg.giAllCa with
  | false =>
    have hsend : p.broadcastSent cfg env =
        (p.con.sendInterrogationCommand cfg.broadcastCA env.giAccepted).1 := by
      simp [broadcastSent, hall]
    cases hsent : (p.con.sendInterrogationCommand cfg.broadcastCA env.giAccepted).1 with
    | false => simp [startNewInterrogationCycle, hall, hsend, hsent, sendBroadcastGi]
    | true => simp [startNewInterrogationCycle, hall, hsend, hsent, sendBroadcastGi]
  | true =>
    cases hcas : cfg.listOfCAs.isEmpty with
    | false => simp [startNewInterrogationCycle, hall, hcas, broadcastSent]
    | true => simp [startNewInterrogationCycle, hall, hcas, broadcastSent]

/-! ### The other GI functions -/

theorem failGiRequest_con :
    (p.failGiRequest cfg env).con =
      { p.con with
        interrogationRequestState := .idle
        nextGIStartTime := addSeconds env.currentTime cfg.giCycle } := rfl

theorem failGiRequest_client :
    (p.failGiRequest cfg env).client =
      { p.client with
        giStatus := .failed
        out := p.client.out ++ Client.giStatusEvents cfg p.client.giStatus .failed ++
          p.client.listOfStationGroupDatapoints.map
            (Client.qualityUpdate IEC60870_QUALITY_INVALID) ++
          p.con.connection.toList.map .close } := by
  simp [failGiRequest]

theorem sendGiToCa_con (ca : Int) :
    (p.sendGiToCa cfg env ca).con =
      { p.con with
        interrogationRequestState :=
          if (p.con.sendInterrogationCommand ca env.giAccepted).1 then .waitActCon
          else p.con.interrogationRequestState
        interrogationRequestSent :=
          if (p.con.sendInterrogationCommand ca env.giAccepted).1 then env.sentTime
          else p.con.interrogationRequestSent
        listOfCA_it := p.con.listOfCA_it + 1 } := by
  cases hsent : (p.con.sendInterrogationCommand ca env.giAccepted).1 with
  | false => simp [sendGiToCa, hsent]
  | true => simp [sendGiToCa, hsent]

theorem sendGiToCa_client (ca : Int) :
    (p.sendGiToCa cfg env ca).client =
      { p.client with
        giStatus :=
          if (p.con.sendInterrogationCommand ca env.giAccepted).1 then .started else .failed
        out := p.client.out ++ (p.con.sendInterrogationCommand ca env.giAccepted).2 ++
          if (p.con.sendInterrogationCommand ca env.giAccepted).1 then
            Client.giStatusEvents cfg p.client.giStatus .started
          else Client.giStatusEvents cfg p.client.giStatus .failed ++
            p.client.listOfStationGroupDatapoints.map
              (Client.qualityUpdate IEC60870_QUALITY_INVALID) ++
            p.con.connection.toList.map .close } := by
  cases hsent : (p.con.sendInterrogationCommand ca env.giAccepted).1 with
  | false => simp [sendGiToCa, hsent]
  | true => simp [sendGiToCa, hsent]

/-- The rule for the GI part: what each of its actions establishes, under the guard with which
it is reached, the GI part establishes. Only a start can follow another action. -/
theorem giTasks_rule {P : Plugin → Prop} (hp : P p)
    (hstart : ∀ q, P q → q.con.firstGISent = false ∨ q.con.interrogationInProgress = false →
      P (q.startNewInterrogationCycle cfg env))
    (hrequest : ∀ q, P q → P { q with client := q.client.setGiRequested q.self false })
    (hfail : p.con.firstGISent → p.con.interrogationInProgress →
      p.con.interrogationRequestState ≠ .idle → p.giTimedOut cfg env → P (p.failGiRequest cfg env))
    (hsend : ∀ ca, cfg.giAllCa → p.con.firstGISent → p.con.interrogationInProgress →
      p.con.interrogationRequestState = .idle →
      cfg.listOfCAs[p.con.listOfCA_it]? = some ca → P (p.sendGiToCa cfg env ca))
    (hend : ∀ nextGIStartTime, p.con.interrogationRequestState = .idle →
      p.con.interrogationInProgress →
      (cfg.giAllCa → cfg.listOfCAs[p.con.listOfCA_it]? = none) → P { p with con := { p.con with
        interrogationInProgress := false
        nextGIStartTime := nextGIStartTime } }) :
    P (p.giTasks cfg env) := by
  unfold giTasks
  split_ifs with hfirst hprogress hstate
  · exact hstart p hp (.inl (by simpa using hfirst))
  · unfold checkGiTimeout
    split_ifs with htimeout
    · exact hfail (by simpa using hfirst) hprogress hstate htimeout
    · exact hp
  · have hidle : p.con.interrogationRequestState = .idle := not_not.mp hstate
    unfold continueCycle
    split_ifs with hall
    · split
      · next ca hca => exact hsend ca hall (by simpa using hfirst) hprogress hidle hca
      · next hnone => exact hend _ hidle hprogress fun _ => hnone
    · exact hend p.con.nextGIStartTime hidle hprogress fun h => absurd h hall
  · have hstop : p.con.interrogationInProgress = false := by simpa using hprogress
    -- a second start in the same round: the first one left the status alone, so there is no CA
    have honrequest : ∀ q, P q → (q.client.giStatus = .failed ∨ q.client.giStatus = .finished →
        q.con.interrogationInProgress = false) → P (q.startCycleOnRequest cfg env) := by
      intro q hq hqstop
      unfold startCycleOnRequest
      split_ifs with hreq
      · exact hstart _ (hrequest q hq) (.inr (hqstop hreq.2))
      · exact hq
    have hstarted : P ((p.startNewInterrogationCycle cfg env).startCycleOnRequest cfg env) := by
      refine honrequest _ (hstart p hp (.inr hstop)) fun hstatus => ?_
      simp only [startNewInterrogationCycle_client, startedStatus] at hstatus
      split_ifs at hstatus with hnone
      · simp [startNewInterrogationCycle_con, hstop, hnone.1, hnone.2]
      · simp at hstatus
    unfold startCycleWhenDue
    split_ifs
    · exact hstarted
    · exact hstarted
    · exact honrequest p hp fun _ => hstop

/-- The GI part leaves the time synchronisation alone and only adds to the output. -/
theorem giTasks_frame :
    (p.giTasks cfg env).con.timeSyncCommandSent = p.con.timeSyncCommandSent ∧
      p.client.out <+: (p.giTasks cfg env).client.out := by
  refine giTasks_rule cfg env p (P := fun q =>
    q.con.timeSyncCommandSent = p.con.timeSyncCommandSent ∧ p.client.out <+: q.client.out)
    ⟨rfl, List.prefix_rfl⟩ ?_ ?_ ?_ ?_ ?_
  · rintro q ⟨hsent, hout⟩ _
    rw [startNewInterrogationCycle_con, startNewInterrogationCycle_client]
    exact ⟨hsent, hout.trans (List.prefix_append ..)⟩
  · exact fun q hq => hq
  · intro _ _ _ _
    rw [failGiRequest_con, failGiRequest_client, List.append_assoc, List.append_assoc]
    exact ⟨rfl, List.prefix_append ..⟩
  · intro ca _ _ _ _ _
    rw [sendGiToCa_con, sendGiToCa_client, List.append_assoc]
    exact ⟨rfl, List.prefix_append ..⟩
  · exact fun _ _ _ _ => ⟨rfl, List.prefix_rfl⟩

/-! ### The parts of a round before the GI -/

/-- The audits `m_sendConnectionStatusAudit` emits. -/
def auditEvents (auditType : AuditType) : List Effect :=
  if auditType = p.con.last_audit then [] else [.connectionStatusAudit auditType]

theorem sendConnectionStatusAudit_eq (auditType : AuditType) :
    p.sendConnectionStatusAudit auditType =
      { p.emit (p.auditEvents auditType) with con := { p.con with last_audit := auditType } } := by
  unfold sendConnectionStatusAudit auditEvents
  split_ifs with hsame
  · simp [emit, hsame]
  · rfl

@[simp] theorem giEvents_auditEvents (auditType : AuditType) :
    giEvents (p.auditEvents auditType) = [] := by
  unfold auditEvents
  split_ifs <;> rfl

@[simp] theorem reports_auditEvents (auditType : AuditType) :
    Reports (p.auditEvents auditType) := by
  unfold auditEvents
  split_ifs <;> simp [Reports, Effect.isReport]

/-- What a round in the active state does before the GI part. -/
def beforeGi : Plugin :=
  let p := p.sendConnectionStatusAudit .active
  if cfg.isTimeSyncEnabled then p.timeSyncTasks cfg env else p

/-- The round reaches the GI part. -/
def runsGiTasks : Bool :=
  p.con.connectionState == .connectedActive && cfg.giEnabled &&
    (!cfg.isTimeSyncEnabled || p.con.firstTimeSyncOperationCompleted)

variable {cfg} in
theorem active_of_runsGiTasks (h : p.runsGiTasks cfg) :
    p.con.connectionState = .connectedActive := by
  simp only [runsGiTasks, Bool.and_eq_true, beq_iff_eq] at h
  exact h.1.1

/-- What the time synchronisation sends. -/
def timeSyncEvents : List Effect :=
  if p.con.timeSyncDue env.syncTime then
    [.sendClockSyncCommand p.con.connection (timeSyncCa cfg) env.syncAccepted]
  else []

/-- What a round emits before the GI part. -/
def beforeGiEvents : List Effect :=
  p.auditEvents .active ++ if cfg.isTimeSyncEnabled then p.timeSyncEvents cfg env else []

@[simp] theorem giEvents_beforeGiEvents : giEvents (p.beforeGiEvents cfg env) = [] := by
  unfold beforeGiEvents timeSyncEvents
  rw [giEvents_append, giEvents_auditEvents]
  split_ifs <;> rfl

/-- The time synchronisation changes two of its flags and the output. -/
theorem timeSyncTasks_eq :
    ∃ (nextTimeSync : Nat) (timeSyncCommandSent : Bool),
      p.timeSyncTasks cfg env =
        { p.emit (p.timeSyncEvents cfg env) with
          con := { p.con with
            nextTimeSync := nextTimeSync
            timeSyncCommandSent := timeSyncCommandSent } } := by
  unfold timeSyncTasks timeSyncEvents
  cases hdue : p.con.timeSyncDue env.syncTime with
  | true =>
    rw [if_pos rfl, if_pos rfl]
    exact ⟨_, _, rfl⟩
  | false => exact ⟨p.con.nextTimeSync, p.con.timeSyncCommandSent, by simp [emit]⟩

/-- The part before the GI changes the time synchronisation and the last audit only. -/
theorem beforeGi_eq :
    ∃ (nextTimeSync : Nat) (timeSyncCommandSent : Bool),
      p.beforeGi cfg env =
        { p.emit (p.beforeGiEvents cfg env) with
          con := { p.con with
            last_audit := .active
            nextTimeSync := nextTimeSync
            timeSyncCommandSent := timeSyncCommandSent } } := by
  have haudit := p.sendConnectionStatusAudit_eq .active
  unfold beforeGi beforeGiEvents
  split_ifs
  · obtain ⟨n, sent, hsync⟩ := (p.sendConnectionStatusAudit .active).timeSyncTasks_eq cfg env
    have hevents : (p.sendConnectionStatusAudit .active).timeSyncEvents cfg env =
        p.timeSyncEvents cfg env := by
      rw [haudit]
      rfl
    refine ⟨n, sent, ?_⟩
    rw [hsync, hevents, haudit]
    simp [emit]
  · refine ⟨p.con.nextTimeSync, p.con.timeSyncCommandSent, ?_⟩
    rw [haudit, List.append_nil]

theorem beforeGi_out :
    (p.beforeGi cfg env).client.out = p.client.out ++ p.beforeGiEvents cfg env := by
  obtain ⟨_, _, heq⟩ := p.beforeGi_eq cfg env
  rw [heq]
  rfl

theorem beforeGi_connection :
    (p.beforeGi cfg env).con.connection = p.con.connection ∧
      (p.beforeGi cfg env).con.connectionState = p.con.connectionState := by
  obtain ⟨_, _, heq⟩ := p.beforeGi_eq cfg env
  rw [heq]
  exact ⟨rfl, rfl⟩

theorem conThread_connectedActive (h : p.con.connectionState = .connectedActive) :
    p.conThread cfg env =
      if p.runsGiTasks cfg then (p.beforeGi cfg env).giTasks cfg env else p.beforeGi cfg env := by
  have hfirst : (p.beforeGi cfg env).con.firstTimeSyncOperationCompleted =
      p.con.firstTimeSyncOperationCompleted := by
    obtain ⟨_, _, hbefore⟩ := p.beforeGi_eq cfg env
    rw [hbefore]
  simp only [conThread, h, executePeriodicTasks]
  show (if !cfg.isTimeSyncEnabled || (p.beforeGi cfg env).con.firstTimeSyncOperationCompleted then
    if cfg.giEnabled then (p.beforeGi cfg env).giTasks cfg env else p.beforeGi cfg env
    else p.beforeGi cfg env) = _
  rw [hfirst]
  cases hgi : cfg.giEnabled <;> simp [runsGiTasks, h, hgi]

/-- Outside the active state a round changes the link and emits what belongs to it. -/
theorem conThread_inactive (h : p.con.connectionState ≠ .connectedActive) :
    (p.conThread cfg env).con.withoutLink = p.con.withoutLink ∧
      (p.conThread cfg env).self = p.self ∧
      ∃ events : List Effect, (∀ e ∈ events, e.isLinkEvent) ∧
        (p.conThread cfg env).client = { p.client with out := p.client.out ++ events } := by
  have hsilent : ∃ events : List Effect, (∀ e ∈ events, e.isLinkEvent) ∧
      p.client = { p.client with out := p.client.out ++ events } :=
    ⟨[], by simp, by simp⟩
  have haudit (auditType : AuditType) : ∀ e ∈ p.auditEvents auditType, e.isLinkEvent := by
    unfold auditEvents
    split_ifs <;> simp [Effect.isLinkEvent]
  have hdestroy : ∀ e ∈ p.con.connection.toList.map Effect.destroy, e.isLinkEvent := by
    simp [Effect.isLinkEvent]
  unfold conThread
  cases hstate : p.con.connectionState with
  | idle =>
    dsimp only
    split_ifs
    · cases env.created with
      | none => exact ⟨rfl, rfl, _, hdestroy, rfl⟩
      | some handle =>
        have hcreate : ∀ e ∈ [Effect.create handle, .connectAsync handle], e.isLinkEvent := by
          simp [Effect.isLinkEvent]
        refine ⟨rfl, rfl, _, List.forall_mem_append.mpr ⟨hdestroy, hcreate⟩, ?_⟩
        simp only [emit, List.append_assoc]
    · exact ⟨rfl, rfl, hsilent⟩
  | connecting | waitForReconnect =>
    dsimp only
    split_ifs
    · exact ⟨rfl, rfl, hsilent⟩
    · exact ⟨rfl, rfl, hsilent⟩
  | connectedInactive | closed =>
    dsimp only
    rw [sendConnectionStatusAudit_eq]
    exact ⟨rfl, rfl, _, haudit _, rfl⟩
  | connectedActive => exact absurd hstate h
  | fatalError => exact ⟨rfl, rfl, hsilent⟩

/-- The round of the connection thread starts a GI cycle. -/
def startsCycle (cfg : IEC104ClientConfig) (env : Env) (p : Plugin) : Bool :=
  p.runsGiTasks cfg &&
    (!p.con.firstGISent ||
      (!p.con.interrogationInProgress &&
        ((0 < cfg.giCycle && p.con.nextGIStartTime < env.currentTime) ||
          p.con.endOfInitReceived ||
          (p.client.giRequested p.self &&
            (p.client.giStatus == .failed || p.client.giStatus == .finished)))))

/-- The round of the connection thread fails the pending request. -/
def timesOutGi (cfg : IEC104ClientConfig) (env : Env) (p : Plugin) : Bool :=
  p.runsGiTasks cfg && p.con.firstGISent && p.con.interrogationInProgress &&
    p.con.interrogationRequestState != .idle && p.giTimedOut cfg env

theorem beforeGi_startsCycle :
    (p.beforeGi cfg env).startsCycle cfg env = p.startsCycle cfg env := by
  obtain ⟨_, _, heq⟩ := p.beforeGi_eq cfg env
  rw [heq]
  rfl

variable {cfg env p} in
theorem runsGiTasks_of_startsCycle (h : p.startsCycle cfg env) : p.runsGiTasks cfg :=
  (Bool.and_eq_true_iff.mp h).1

/-- A round that starts a cycle ends with the start. A second start in the same round needs
a status that the first one did not set to STARTED, that is, no CA to interrogate. -/
theorem giTasks_of_startsCycle (h : p.startsCycle cfg env) :
    ∃ (q : Plugin) (requested : ConId → Bool),
      (q = p ∨ cfg.giAllCa ∧ cfg.listOfCAs = [] ∧ q = p.startNewInterrogationCycle cfg env) ∧
      p.giTasks cfg env = { q with
        client := { q.client with giRequested := requested } }.startNewInterrogationCycle cfg env
    := by
  simp only [startsCycle, Bool.and_eq_true, Bool.or_eq_true, Bool.not_eq_true'] at h
  have honrequest : ∃ (q : Plugin) (requested : ConId → Bool),
      (q = p ∨ cfg.giAllCa ∧ cfg.listOfCAs = [] ∧ q = p.startNewInterrogationCycle cfg env) ∧
      (p.startNewInterrogationCycle cfg env).startCycleOnRequest cfg env = { q with client :=
        { q.client with giRequested := requested } }.startNewInterrogationCycle cfg env := by
    unfold startCycleOnRequest
    split_ifs with hrequest
    · have hnone : cfg.giAllCa ∧ cfg.listOfCAs = [] := by
        by_contra hsome
        simp [startNewInterrogationCycle_client, startedStatus, hsome] at hrequest
      exact ⟨_, _, .inr ⟨hnone.1, hnone.2, rfl⟩, rfl⟩
    · exact ⟨p, p.client.giRequested, .inl rfl, rfl⟩
  unfold giTasks
  rcases h.2 with hfirst | ⟨hstop, hdue⟩
  · exact ⟨p, p.client.giRequested, .inl rfl, by simp [hfirst]⟩
  · split_ifs with hfirst hprogress hstate
    · exact ⟨p, p.client.giRequested, .inl rfl, rfl⟩
    · simp [hstop] at hprogress
    · simp [hstop] at hprogress
    -- after a start on time or after an end of initialisation, the request is looked at again
    · unfold startCycleWhenDue
      split_ifs with hcycle hend
      · exact honrequest
      · exact honrequest
      · have hrequest : p.client.giRequested p.self ∧
            (p.client.giStatus = .failed ∨ p.client.giStatus = .finished) := by
          rcases hdue with (hdue | hdue) | hdue
          · exact absurd (by simpa using hdue) hcycle
          · exact absurd hdue hend
          · simpa using hdue
        rw [startCycleOnRequest, if_pos hrequest]
        exact ⟨p, _, .inl rfl, rfl⟩

/-! ### Received ASDUs -/

/-- The connection and the client after `handleASDU`. -/
def received (now : Nat) (a : ASDU) : Plugin :=
  let p := p.interrogationResponse now a
  { p with client := (handleASDU cfg now p.self a p.client).2 }

theorem received_con (now : Nat) (a : ASDU) :
    (p.received cfg now a).con =
      { p.con with
        interrogationRequestSent :=
          if isInterrogationResponse a ∧ p.con.interrogationRequestState = .waitActTerm then now
          else p.con.interrogationRequestSent } := by
  simp only [received, interrogationResponse]
  split_ifs <;> rfl

@[simp] theorem interrogationResponse_client (now : Nat) (a : ASDU) :
    (p.interrogationResponse now a).client = p.client := by
  unfold interrogationResponse
  split_ifs <;> rfl

@[simp] theorem interrogationResponse_self (now : Nat) (a : ASDU) :
    (p.interrogationResponse now a).self = p.self := by
  unfold interrogationResponse
  split_ifs <;> rfl

theorem received_client (now : Nat) (a : ASDU) :
    (p.received cfg now a).client = (handleASDU cfg now p.self a p.client).2 := by
  simp [received]

@[simp] theorem received_giStatus (now : Nat) (a : ASDU) :
    (p.received cfg now a).client.giStatus = receivedGiStatus a p.client.giStatus := by
  simp [received_client]

theorem received_giRunning (now : Nat) (a : ASDU) :
    (p.received cfg now a).giRunning = p.giRunning := by
  simp only [giRunning, received_giStatus, receivedGiStatus]
  cases p.client.giStatus <;> cases isInterrogationResponse a <;> rfl

theorem asduReceivedHandler_eq (now : Nat) (a : ASDU) :
    p.asduReceivedHandler cfg now a =
      if (handleASDU cfg now p.self a p.client).1 then (true, p.received cfg now a)
      else (p.received cfg now a).unhandledASDU cfg now a := by
  simp [asduReceivedHandler, received]

theorem asduReceivedHandler_giReply (now : Nat) {a : ASDU} (h : isGiReply a) :
    (p.asduReceivedHandler cfg now a).2 = (p.received cfg now a).giReply cfg a := by
  obtain ⟨htype, hdecodes⟩ := isGiReply_iff.mp h
  have hunhandled : (handleASDU cfg now p.self a p.client).1 = false := by
    have hnone : asduHandler C_IC_NA_1 = none := rfl
    simpa [handleASDU_handled, htype, hnone, Option.isSome_iff_ne_none] using hdecodes
  rw [asduReceivedHandler_eq, hunhandled]
  simp only [unhandledASDU, htype, Bool.false_eq_true, if_false]
  rfl

/-- What an ASDU that is no GI reply does to the connection. -/
theorem asduReceivedHandler_other (now : Nat) {a : ASDU} (h : isGiReply a = false) :
    ∃ con', (p.asduReceivedHandler cfg now a).2 = { p.received cfg now a with con := con' } ∧
      (con' = (p.received cfg now a).con ∨
        con' = { (p.received cfg now a).con with endOfInitReceived := true } ∨
        (a.typeId = C_CS_NA_1 ∧ (∃ e ∈ a.elements, e ≠ none) ∧
          con' = (p.received cfg now a).con.timeSyncReply cfg now a)) := by
  rw [asduReceivedHandler_eq]
  split_ifs with hhandled
  · exact ⟨_, rfl, .inl rfl⟩
  · unfold unhandledASDU
    split
    · exact ⟨_, rfl, .inr (.inl rfl)⟩
    · next htype =>
      have hdecodes : ∃ e ∈ a.elements, e ≠ none := by
        rw [handleASDU_handled] at hhandled
        simp only [Bool.or_eq_true, not_or, List.all_eq_true, not_forall] at hhandled
        obtain ⟨e, he, hsome⟩ := hhandled.2
        exact ⟨e, he, by simpa using hsome⟩
      exact ⟨_, rfl, .inr (.inr ⟨htype, hdecodes, rfl⟩)⟩
    · next htype =>
      exfalso
      have hnone : asduHandler C_IC_NA_1 = none := rfl
      have hreply : isGiReply a := by
        refine isGiReply_iff.mpr ⟨htype, ?_⟩
        simpa [handleASDU_handled, htype, hnone, Option.isSome_iff_ne_none] using hhandled
      simp [hreply] at h
    · exact ⟨_, rfl, .inl rfl⟩
    · exact ⟨_, rfl, .inl rfl⟩

/-- An ASDU that is no GI reply leaves the pending request alone. -/
theorem asduReceivedHandler_requestState (now : Nat) {a : ASDU} (h : isGiReply a = false) :
    ∃ con', (p.asduReceivedHandler cfg now a).2 = { p.received cfg now a with con := con' } ∧
      con'.interrogationRequestState = p.con.interrogationRequestState := by
  obtain ⟨con', heq, hcon⟩ := asduReceivedHandler_other cfg p now h
  refine ⟨con', heq, ?_⟩
  rcases hcon with rfl | rfl | ⟨-, -, rfl⟩
  · simp [received_con]
  · simp [received_con]
  · simp only [Connection.timeSyncReply]
    split_ifs <;> simp [received_con]

/-- A received ASDU makes no request pending, and it keeps the cycle and the connection. -/
theorem asduReceivedHandler_con (now : Nat) (a : ASDU) :
    ((p.asduReceivedHandler cfg now a).2.con.interrogationRequestState ≠ .idle →
        p.con.interrogationRequestState ≠ .idle) ∧
      (p.asduReceivedHandler cfg now a).2.con.interrogationInProgress =
        p.con.interrogationInProgress ∧
      (p.asduReceivedHandler cfg now a).2.con.firstGISent = p.con.firstGISent ∧
      (p.asduReceivedHandler cfg now a).2.con.listOfCA_it = p.con.listOfCA_it := by
  cases hreply : isGiReply a with
  | true =>
    rw [asduReceivedHandler_giReply cfg p now hreply]
    simp only [giReply, giConfirmed, giTerminated, giRejected]
    split_ifs <;> simp_all [received_con, Connection.disonnect]
  | false =>
    obtain ⟨con', heq, rfl | rfl | ⟨-, -, rfl⟩⟩ := asduReceivedHandler_other cfg p now hreply
    · simp [heq, received_con]
    · simp [heq, received_con]
    · rw [heq]
      simp only [Connection.timeSyncReply]
      split_ifs <;> simp [received_con]

end Lemmas

end Plugin

end Iec104South
