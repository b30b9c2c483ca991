import Iec104South.Config

/-!
# The client

`IEC104Client`: the state all connections share. Its methods are functions on `Client`;
what they ingest, report and pass to lib60870 is appended to `out`.

Shared pointers are modelled by identities: an `OutstandingCommand` carries the number
of its allocation, a connection object is its `ConId`, and a definition is its slot of
the table. The member `m_giRequested` of each connection is kept here, because
the client reads and writes it through `m_activeConnection`.
-/

namespace Iec104South

/-- `IEC104Client::OutstandingCommand`; `id` is the identity of the object. -/
structure OutstandingCommand where
  id : Nat
  typeId : Int
  ca : Int
  ioa : Int
  clientCon : Option ConId
  actConReceived : Bool := false
  timeout : Nat
deriving DecidableEq, Repr

/-- The state of `IEC104Client`. -/
structure Client where
  exchangeDefinitions : ExchangeTable
  listOfStationGroupDatapoints : List DataExchangeDefinition := []
  outstandingCommands : List OutstandingCommand := []
  /-- the identity of the next `OutstandingCommand` -/
  nextCommandId : Nat := 0
  connStatus : ConnectionStatus := .notConnected
  giStatus : GiStatus := .idle
  activeConnection : Option ConId := none
  /-- `m_giRequested` of each connection -/
  giRequested : ConId → Bool := fun _ => false
  /-- what has been emitted, in order -/
  out : List Effect := []

namespace Client

def emit (c : Client) (e : Effect) : Client := { c with out := c.out ++ [e] }

/-- `m_activeConnection->getGiRequested()`, `none` without an active connection. -/
def activeGiRequested (c : Client) : Option Bool := c.activeConnection.map c.giRequested

def setGiRequested (con : ConId) (value : Bool) (c : Client) : Client :=
  { c with giRequested := Function.update c.giRequested con value }

/-- The side effect of an access to `ExchangeDefinition()[ca][ioa]`. -/
def touch (ca ioa : Int) (c : Client) : Client :=
  { c with exchangeDefinitions := c.exchangeDefinitions.touch ca ioa }

/-! ## Publishing -/

/-- Each data object is ingested under the label of the same index. -/
def sendData (datapoints : List DataObject) (labels : List String) (c : Client) : Client :=
  { c with out := c.out ++ (datapoints.zip labels).map fun d => .ingest d.2 (.dataObject d.1) }

def sendSouthMonitoringEvent (cfg : IEC104ClientConfig) (connxStatus giStatus : Bool)
    (c : Client) : Client :=
  if cfg.connxStatus.isEmpty then c
  else if !connxStatus && !giStatus then c
  else c.emit (.ingest cfg.connxStatus (.southEvent
    (if connxStatus then some c.connStatus else none)
    (if giStatus then some c.giStatus else none)))

def updateConnectionStatus (cfg : IEC104ClientConfig) (newState : ConnectionStatus)
    (c : Client) : Client :=
  if c.connStatus = newState then c
  else
    (sendSouthMonitoringEvent cfg true false { c with connStatus := newState }).emit
      (.clientStatusAudit newState)

def updateGiStatus (cfg : IEC104ClientConfig) (newState : GiStatus) (c : Client) : Client :=
  if c.giStatus = newState then c
  else sendSouthMonitoringEvent cfg false true { c with giStatus := newState }

def sendConnectionStatus (cfg : IEC104ClientConfig) (c : Client) : Client :=
  sendSouthMonitoringEvent cfg true true c

/-! ## Quality updates -/

/-- `m_createQualityUpdateForDataObject` without a timestamp, as all its callers use it. -/
def createQualityUpdateForDataObject (dp : DataExchangeDefinition) (qd : BitVec 8) :
    DataObject where
  do_type := dp.typeId
  do_ca := dp.ca
  do_oa := 0
  do_cot := CS101_COT_SPONTANEOUS
  do_test := false
  do_negative := false
  do_ioa := dp.ioa
  do_value := none
  quality := some (qualityAttributes qd)
  do_ts := none

/-- The quality update of `dp` as it is ingested. -/
def qualityUpdate (qd : BitVec 8) (dp : DataExchangeDefinition) : Effect :=
  .ingest dp.label (.dataObject (createQualityUpdateForDataObject dp qd))

def sendQualityUpdates (dps : List DataExchangeDefinition) (qd : BitVec 8) (c : Client) : Client :=
  sendData (dps.map (createQualityUpdateForDataObject · qd)) (dps.map (·.label)) c

def updateQualityForAllDataObjects (qd : BitVec 8) (c : Client) : Client :=
  sendQualityUpdates (c.exchangeDefinitions.definitions.filter isDataPointInMonitoringDirection)
    qd c

def updateQualityForDataObjectsNotReceivedInGIResponse (qd : BitVec 8) (c : Client) : Client :=
  sendQualityUpdates c.listOfStationGroupDatapoints qd c

def removeFromListOfDatapoints (toRemove : DataExchangeDefinition) (c : Client) : Client :=
  { c with listOfStationGroupDatapoints :=
      c.listOfStationGroupDatapoints.filter (· ≠ toRemove) }

def createListOfDatapointsInStationGroup (c : Client) : Client :=
  { c with listOfStationGroupDatapoints :=
      c.exchangeDefinitions.definitions.filter isInStationGroup }

theorem sendQualityUpdates_eq (dps : List DataExchangeDefinition) (qd : BitVec 8) (c : Client) :
    sendQualityUpdates dps qd c = { c with out := c.out ++ dps.map (qualityUpdate qd) } := by
  have hzip : ((dps.map (createQualityUpdateForDataObject · qd)).zip (dps.map (·.label))).map
      (fun d => Effect.ingest d.2 (.dataObject d.1)) = dps.map (qualityUpdate qd) := by
    induction dps with
    | nil => rfl
    | cons dp dps ih => simpa [qualityUpdate] using ih
  simp only [sendQualityUpdates, sendData, hzip]

@[simp] theorem giEvents_qualityUpdates (dps : List DataExchangeDefinition) (qd : BitVec 8) :
    giEvents (dps.map (qualityUpdate qd)) = [] := by
  simp [giEvents, qualityUpdate, Effect.giStatus?]

@[simp] theorem reports_qualityUpdates (dps : List DataExchangeDefinition) (qd : BitVec 8) :
    Reports (dps.map (qualityUpdate qd)) := by
  intro e he
  obtain ⟨dp, -, rfl⟩ := List.mem_map.mp he
  rfl

/-- The events `updateGiStatus` publishes when it changes the status from `old` to `new`. -/
def giStatusEvents (cfg : IEC104ClientConfig) (old new : GiStatus) : List Effect :=
  if old = new ∨ cfg.connxStatus.isEmpty then []
  else [.ingest cfg.connxStatus (.southEvent none (some new))]

@[simp] theorem reports_giStatusEvents (cfg : IEC104ClientConfig) (old new : GiStatus) :
    Reports (giStatusEvents cfg old new) := by
  unfold giStatusEvents
  split_ifs <;> simp [Reports, Effect.isReport]

theorem updateGiStatus_eq (cfg : IEC104ClientConfig) (newState : GiStatus) (c : Client) :
    c.updateGiStatus cfg newState =
      { c with giStatus := newState, out := c.out ++ giStatusEvents cfg c.giStatus newState } := by
  rcases eq_or_ne c.giStatus newState with rfl | hne
  · simp [updateGiStatus, giStatusEvents]
  · by_cases hempty : cfg.connxStatus.isEmpty
    · simp [updateGiStatus, sendSouthMonitoringEvent, giStatusEvents, hne, hempty]
    · simp [updateGiStatus, sendSouthMonitoringEvent, giStatusEvents, hne, hempty, emit]

theorem giEvents_giStatusEvents (cfg : IEC104ClientConfig) (old new : GiStatus) :
    giEvents (giStatusEvents cfg old new) =
      if old = new ∨ cfg.connxStatus.isEmpty then [] else [new] := by
  unfold giStatusEvents
  split <;> rfl

/-- The events `updateConnectionStatus` publishes when it changes the status. -/
def connectionStatusEvents (cfg : IEC104ClientConfig) (old new : ConnectionStatus) :
    List Effect :=
  if old = new then []
  else (if cfg.connxStatus.isEmpty then []
    else [.ingest cfg.connxStatus (.southEvent (some new) none)]) ++ [.clientStatusAudit new]

@[simp] theorem reports_connectionStatusEvents (cfg : IEC104ClientConfig)
    (old new : ConnectionStatus) : Reports (connectionStatusEvents cfg old new) := by
  unfold connectionStatusEvents
  split_ifs <;> simp [Reports, Effect.isReport]

theorem updateConnectionStatus_eq (cfg : IEC104ClientConfig) (newState : ConnectionStatus)
    (c : Client) :
    c.updateConnectionStatus cfg newState =
      { c with
        connStatus := newState
        out := c.out ++ connectionStatusEvents cfg c.connStatus newState } := by
  rcases eq_or_ne c.connStatus newState with rfl | hne
  · simp [updateConnectionStatus, connectionStatusEvents]
  · by_cases hempty : cfg.connxStatus.isEmpty
    · simp [updateConnectionStatus, sendSouthMonitoringEvent, connectionStatusEvents, hne,
        hempty, emit]
    · simp [updateConnectionStatus, sendSouthMonitoringEvent, connectionStatusEvents, hne,
        hempty, emit]

@[simp] theorem giEvents_connectionStatusEvents (cfg : IEC104ClientConfig)
    (old new : ConnectionStatus) : giEvents (connectionStatusEvents cfg old new) = [] := by
  unfold connectionStatusEvents
  split_ifs <;> rfl

/-! ## Outstanding commands -/

/-- `isSupportedCommand` -/
def isSupportedCommand (typeId : Int) : Bool :=
  (45 ≤ typeId && typeId ≤ 51) || (58 ≤ typeId && typeId ≤ 64)

/-- The reply on `connection` for `(typeId, ca, ioa)` answers this entry. -/
def answers (typeId ca ioa : Int) (connection : ConId) (command : OutstandingCommand) : Bool :=
  command.typeId == typeId && command.ca == ca && command.ioa == ioa &&
    command.clientCon == some connection

/-- The first, that is the oldest, entry the reply answers. -/
def checkForOutstandingCommand (typeId ca ioa : Int) (connection : ConId) (c : Client) :
    Option OutstandingCommand :=
  c.outstandingCommands.find? (answers typeId ca ioa connection)

def timedOut (cfg : IEC104ClientConfig) (currentTime : Nat) (command : OutstandingCommand) : Bool :=
  (command.timeout + cfg.cmdExecTimeout) % 2 ^ 64 < currentTime

/-- Erase an entry by the identity of its object. -/
def removeOutstandingCommand (command : OutstandingCommand) (c : Client) : Client :=
  { c with outstandingCommands := c.outstandingCommands.filter (·.id ≠ command.id) }

def checkOutstandingCommandTimeouts (cfg : IEC104ClientConfig) (currentTime : Nat)
    (c : Client) : Client :=
  (c.outstandingCommands.filter (timedOut cfg currentTime)).foldl
    (fun c commandToRemove => removeOutstandingCommand commandToRemove c) c

/-- Book a command on the active connection, unless the limit is reached. -/
def addOutstandingCommandAndCheckLimit (cfg : IEC104ClientConfig) (ca ioa : Int)
    (withTime : Bool) (typeIdWithTimestamp typeIdNoTimestamp : Int) (now : Nat) (c : Client) :
    Option OutstandingCommand × Client :=
  if 0 < cfg.cmdParallel ∧ cfg.cmdParallel ≤ c.outstandingCommands.length then (none, c)
  else
    let command : OutstandingCommand :=
      { id := c.nextCommandId
        typeId := if withTime then typeIdWithTimestamp else typeIdNoTimestamp
        ca := ca, ioa := ioa, clientCon := c.activeConnection, timeout := now }
    (some command, { c with
      outstandingCommands := c.outstandingCommands ++ [command]
      nextCommandId := c.nextCommandId + 1 })

/-- `outstandingCommand->actConReceived = true`, with the timer restarted. -/
def confirmOutstandingCommand (now : Nat) (command : OutstandingCommand) (c : Client) : Client :=
  { c with outstandingCommands := c.outstandingCommands.map fun e =>
      if e.id = command.id then { e with actConReceived := true, timeout := now } else e }

/-- Reply to a single, double or step command: confirmed by ACT-CON, done with ACT-TERM. -/
def replyToCommand (now : Nat) (cot : Int) (outstandingCommand : Option OutstandingCommand)
    (c : Client) : Client :=
  match outstandingCommand with
  | none => c
  | some command =>
    if cot = CS101_COT_ACTIVATION_CON then confirmOutstandingCommand now command c
    else if cot = CS101_COT_ACTIVATION_TERMINATION then removeOutstandingCommand command c
    else c

/-- Reply to a setpoint command: done with ACT-CON. -/
def replyToSetpoint (cot : Int) (outstandingCommand : Option OutstandingCommand)
    (c : Client) : Client :=
  match outstandingCommand with
  | none => c
  | some command =>
    if cot = CS101_COT_ACTIVATION_CON then removeOutstandingCommand command c else c

end Client

end Iec104South
