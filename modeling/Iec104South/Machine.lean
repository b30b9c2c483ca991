import Iec104South.Lib.Reactive
import Iec104South.Connection

/-!
# Runs of one connection

The connection and its client as a reactive machine. The inputs are everything that
reaches them: the callbacks of lib60870, the rounds of the connection thread, the calls of
the monitoring thread, and the north operations. Any list of inputs is a run, so a run is
any interleaving, with any clock readings and any results of the library calls.

* `step`: one input, with what it emitted.
* `GiView`: the variables of the GI; only library events, received ASDUs and rounds of the
  connection thread change them (`handle_giView`).
-/

namespace Iec104South

open Reactive

inductive Input where
  | connectionEvent (event : ConnectionEvent) (now : Nat)
  | asdu (a : ASDU) (now : Nat)
  | conThread (env : Env)
  | conThreadDisconnect
  | activate
  | connect
  | disonnect
  /-- the monitoring thread makes this connection the active one, or forgets it -/
  | setActiveConnection (active : Bool)
  | updateConnectionStatus (newState : ConnectionStatus)
  | updateQualityForAllDataObjects (qd : BitVec 8)
  /-- the north operation, for any CA -/
  | sendInterrogationCommand (ca : Int) (accepted : Bool)
  | scheduleGI
  | sendConnectionStatus
deriving DecidableEq, Repr

/-- What is decidable for every kind of input is decidable. -/
@[reducible] def Input.decidable {P : Input → Prop}
    [∀ now, Decidable (P (.connectionEvent .opened now))]
    [∀ now, Decidable (P (.connectionEvent .closed now))]
    [∀ now, Decidable (P (.connectionEvent .startdtConReceived now))]
    [∀ now, Decidable (P (.connectionEvent .stopdtConReceived now))]
    [∀ now, Decidable (P (.connectionEvent .other now))]
    [∀ a now, Decidable (P (.asdu a now))] [∀ env, Decidable (P (.conThread env))]
    [Decidable (P .conThreadDisconnect)] [Decidable (P .activate)] [Decidable (P .connect)]
    [Decidable (P .disonnect)] [∀ active, Decidable (P (.setActiveConnection active))]
    [∀ newState, Decidable (P (.updateConnectionStatus newState))]
    [∀ qd, Decidable (P (.updateQualityForAllDataObjects qd))]
    [∀ ca accepted, Decidable (P (.sendInterrogationCommand ca accepted))]
    [Decidable (P .scheduleGI)] [Decidable (P .sendConnectionStatus)] : ∀ i, Decidable (P i)
  | .connectionEvent .opened _ | .connectionEvent .closed _
  | .connectionEvent .startdtConReceived _ | .connectionEvent .stopdtConReceived _
  | .connectionEvent .other _ | .asdu .. | .conThread _ | .conThreadDisconnect | .activate
  | .connect | .disonnect | .setActiveConnection _ | .updateConnectionStatus _
  | .updateQualityForAllDataObjects _ | .sendInterrogationCommand .. | .scheduleGI
  | .sendConnectionStatus => inferInstance

namespace Plugin

/-- `scheduleGI`, which asks the active connection for a GI. -/
def scheduleGI (p : Plugin) : Plugin := { p with client := requestGi p.client }

/-- `IEC104Client::sendInterrogationCommand`, which uses the active connection. -/
def northInterrogation (ca : Int) (accepted : Bool) (p : Plugin) : Plugin :=
  if p.client.activeConnection = some p.self then
    p.emit (p.con.sendInterrogationCommand ca accepted).2
  else p

def handle (cfg : IEC104ClientConfig) (p : Plugin) : Input → Plugin
  | .connectionEvent event now => { p with con := p.con.connectionHandler event now }
  | .asdu a now => (p.asduReceivedHandler cfg now a).2
  | .conThread env => p.conThread cfg env
  | .conThreadDisconnect => p.conThreadDisconnect
  | .activate => { p.emit p.con.activate.1 with con := p.con.activate.2 }
  | .connect => { p with con := p.con.requestConnect }
  | .disonnect => { p with con := p.con.disonnect }
  | .setActiveConnection active =>
    { p with client := { p.client with
      activeConnection := if active then some p.self else none } }
  | .updateConnectionStatus newState =>
    { p with client := p.client.updateConnectionStatus cfg newState }
  | .updateQualityForAllDataObjects qd =>
    { p with client := p.client.updateQualityForAllDataObjects qd }
  | .sendInterrogationCommand ca accepted => p.northInterrogation ca accepted
  | .scheduleGI => p.scheduleGI
  | .sendConnectionStatus => { p with client := p.client.sendConnectionStatus cfg }

/-- Forget what has been emitted. -/
def clear (p : Plugin) : Plugin := { p with client := { p.client with out := [] } }

@[simp] theorem clear_con (p : Plugin) : p.clear.con = p.con := rfl

@[simp] theorem clear_client (p : Plugin) : p.clear.client = { p.client with out := [] } := rfl

/-- A connection as it is constructed, with a client that imported the table `t`. -/
def init (t : ExchangeTable) (self : ConId) : Plugin where
  client := { exchangeDefinitions := t }
  con := {}
  self := self

end Plugin

/-- One step of the connection and its client. -/
def step (cfg : IEC104ClientConfig) : Machine Plugin Input Effect :=
  fun p i => ((p.clear.handle cfg i), (p.clear.handle cfg i).client.out)

/-! ## The GI variables -/

/-- The variables of the GI in the connection and the client. -/
structure GiView where
  firstGISent : Bool
  interrogationInProgress : Bool
  interrogationRequestState : RequestState
  listOfCA_it : Nat
  giStatus : GiStatus
  listOfStationGroupDatapoints : List DataExchangeDefinition
  definitions : List DataExchangeDefinition
deriving DecidableEq, Repr

def Plugin.giView (p : Plugin) : GiView where
  firstGISent := p.con.firstGISent
  interrogationInProgress := p.con.interrogationInProgress
  interrogationRequestState := p.con.interrogationRequestState
  listOfCA_it := p.con.listOfCA_it
  giStatus := p.client.giStatus
  listOfStationGroupDatapoints := p.client.listOfStationGroupDatapoints
  definitions := p.client.exchangeDefinitions.definitions

theorem Plugin.giView_eq_iff {p q : Plugin} :
    q.giView = p.giView ↔
      q.con.firstGISent = p.con.firstGISent ∧
      q.con.interrogationInProgress = p.con.interrogationInProgress ∧
      q.con.interrogationRequestState = p.con.interrogationRequestState ∧
      q.con.listOfCA_it = p.con.listOfCA_it ∧
      q.client.giStatus = p.client.giStatus ∧
      q.client.listOfStationGroupDatapoints = p.client.listOfStationGroupDatapoints ∧
      q.client.exchangeDefinitions.definitions = p.client.exchangeDefinitions.definitions := by
  simp only [giView, GiView.mk.injEq]

@[simp] theorem Plugin.giView_clear (p : Plugin) : p.clear.giView = p.giView := rfl

/-- The inputs that can change the variables of the GI. -/
def Input.touchesGi : Input → Bool
  | .connectionEvent .. | .asdu .. | .conThread .. => true
  | _ => false

/-- The statuses a step republishes on request. -/
def Input.requestedStatus (cfg : IEC104ClientConfig) (giStatus : GiStatus) : Input → List GiStatus
  | .sendConnectionStatus => if cfg.connxStatus.isEmpty then [] else [giStatus]
  | _ => []

namespace Plugin

/-- What a round does before the GI part leaves the GI alone. -/
theorem beforeGi_giView (cfg : IEC104ClientConfig) (env : Env) (p : Plugin) :
    (p.beforeGi cfg env).giView = p.giView := by
  obtain ⟨_, _, heq⟩ := p.beforeGi_eq cfg env
  rw [heq]
  rfl

/-- Neither the link of the connection nor the connection status belongs to the GI. -/
theorem giView_of_withoutLink {p q : Plugin} (hcon : q.con.withoutLink = p.con.withoutLink)
    {out : List Effect} {connStatus : ConnectionStatus} {activeConnection : Option ConId}
    {giRequested : ConId → Bool}
    (hclient : q.client = { p.client with
      out := out
      connStatus := connStatus
      activeConnection := activeConnection
      giRequested := giRequested }) : q.giView = p.giView := by
  refine giView_eq_iff.mpr ⟨congrArg (·.firstGISent) hcon,
    congrArg (·.interrogationInProgress) hcon, congrArg (·.interrogationRequestState) hcon,
    congrArg (·.listOfCA_it) hcon, ?_⟩
  rw [hclient]
  exact ⟨rfl, rfl, rfl⟩

/-- Outside the active state a round of the connection thread leaves the GI alone. -/
theorem conThread_giView (cfg : IEC104ClientConfig) (env : Env) (p : Plugin)
    (h : p.con.connectionState ≠ .connectedActive) :
    (p.conThread cfg env).giView = p.giView ∧
      giEvents (p.conThread cfg env).client.out = giEvents p.client.out := by
  obtain ⟨hcon, -, events, hevents, hclient⟩ := p.conThread_inactive cfg env h
  refine ⟨giView_of_withoutLink hcon hclient, ?_⟩
  rw [hclient, giEvents_append, giEvents_of_isLinkEvent hevents, List.append_nil]

/-- A round is the GI part after a preparation that leaves the GI alone, or no GI at all. -/
theorem conThread_cases (cfg : IEC104ClientConfig) (env : Env) (p : Plugin) :
    (p.runsGiTasks cfg = false ∧ (p.conThread cfg env).giView = p.giView ∧
        giEvents (p.conThread cfg env).client.out = giEvents p.client.out) ∨
      p.runsGiTasks cfg ∧ (p.beforeGi cfg env).giView = p.giView ∧
        p.conThread cfg env = (p.beforeGi cfg env).giTasks cfg env := by
  cases hrun : p.runsGiTasks cfg with
  | true =>
    rw [conThread_connectedActive cfg env p (p.active_of_runsGiTasks hrun), if_pos hrun]
    exact .inr ⟨rfl, beforeGi_giView cfg env p, rfl⟩
  | false =>
    refine .inl ⟨rfl, ?_⟩
    by_cases hactive : p.con.connectionState = .connectedActive
    · rw [conThread_connectedActive cfg env p hactive, hrun]
      exact ⟨beforeGi_giView cfg env p, by simp [beforeGi_out]⟩
    · exact conThread_giView cfg env p hactive

/-- What the other inputs change: the link, and of the client the connection status, the active
connection or the GI requests. -/
theorem handle_frame (cfg : IEC104ClientConfig) (p : Plugin) {i : Input}
    (hi : i.touchesGi = false) :
    (p.handle cfg i).con.withoutLink = p.con.withoutLink ∧ (p.handle cfg i).self = p.self ∧
      (i = .scheduleGI ∧ (p.handle cfg i).client = requestGi p.client ∨
        i ≠ .scheduleGI ∧
          ∃ (out : List Effect) (connStatus : ConnectionStatus) (activeConnection : Option ConId),
            (p.handle cfg i).client = { p.client with
              out := out
              connStatus := connStatus
              activeConnection := activeConnection }) := by
  by_cases hschedule : i = .scheduleGI
  · subst hschedule
    exact ⟨rfl, rfl, .inl ⟨rfl, rfl⟩⟩
  cases i with
  | connectionEvent _ _ | asdu _ _ | conThread _ => cases hi
  | scheduleGI => exact absurd rfl hschedule
  | conThreadDisconnect =>
    simp only [handle, conThreadDisconnect]
    split_ifs
    · rw [sendConnectionStatusAudit_eq]
      exact ⟨rfl, rfl, .inr ⟨hschedule, _, _, _, rfl⟩⟩
    · exact ⟨rfl, rfl, .inr ⟨hschedule, _, _, _, rfl⟩⟩
  | activate =>
    simp only [handle, Connection.activate]
    split_ifs <;> exact ⟨rfl, rfl, .inr ⟨hschedule, _, _, _, rfl⟩⟩
  | connect | disonnect | setActiveConnection =>
    exact ⟨rfl, rfl, .inr ⟨hschedule, _, _, _, rfl⟩⟩
  | updateConnectionStatus s =>
    exact ⟨rfl, rfl,
      .inr ⟨hschedule, _, _, _, Client.updateConnectionStatus_eq cfg s p.client⟩⟩
  | updateQualityForAllDataObjects qd =>
    exact ⟨rfl, rfl, .inr ⟨hschedule, _, _, _, Client.sendQualityUpdates_eq _ qd p.client⟩⟩
  | sendInterrogationCommand ca accepted =>
    simp only [handle, northInterrogation]
    split_ifs <;> exact ⟨rfl, rfl, .inr ⟨hschedule, _, _, _, rfl⟩⟩
  | sendConnectionStatus =>
    refine ⟨rfl, rfl, .inr ⟨hschedule, ?_⟩⟩
    simp only [handle, Client.sendConnectionStatus, Client.sendSouthMonitoringEvent]
    split_ifs <;> exact ⟨_, _, _, rfl⟩

theorem handle_giView (cfg : IEC104ClientConfig) (p : Plugin) {i : Input}
    (hi : i.touchesGi = false) : (p.handle cfg i).giView = p.giView := by
  obtain ⟨hcon, -, ⟨-, hclient⟩ | ⟨-, _, _, _, hclient⟩⟩ := handle_frame cfg p hi
  · unfold requestGi at hclient
    split at hclient <;> exact giView_of_withoutLink hcon hclient
  · exact giView_of_withoutLink hcon hclient

theorem giEvents_handle (cfg : IEC104ClientConfig) (p : Plugin) {i : Input}
    (hi : i.touchesGi = false) :
    giEvents (p.handle cfg i).client.out =
      giEvents p.client.out ++ i.requestedStatus cfg p.client.giStatus := by
  cases i with
  | connectionEvent _ _ | asdu _ _ | conThread _ => cases hi
  | conThreadDisconnect =>
    simp only [handle, conThreadDisconnect]
    split_ifs
    · rw [sendConnectionStatusAudit_eq]
      simp [Input.requestedStatus]
    · simp [Input.requestedStatus]
  | activate =>
    simp only [handle, Connection.activate]
    split_ifs
    · simp [Input.requestedStatus]
    · simp [Input.requestedStatus]
  | connect => simp [handle, Input.requestedStatus]
  | disonnect => simp [handle, Input.requestedStatus]
  | setActiveConnection => simp [handle, Input.requestedStatus]
  | updateConnectionStatus s =>
    simp [handle, Client.updateConnectionStatus_eq, Input.requestedStatus]
  | updateQualityForAllDataObjects qd =>
    simp [handle, Client.updateQualityForAllDataObjects, Client.sendQualityUpdates_eq,
      Input.requestedStatus]
  | sendInterrogationCommand ca accepted =>
    simp only [handle, northInterrogation]
    split_ifs <;> simp [Input.requestedStatus]
  | scheduleGI =>
    simp only [handle, scheduleGI, requestGi]
    split <;> simp [Input.requestedStatus, Client.setGiRequested]
  | sendConnectionStatus =>
    simp only [handle, Client.sendConnectionStatus, Client.sendSouthMonitoringEvent,
      Input.requestedStatus]
    split_ifs <;> simp_all [Client.emit, giEvents, Effect.giStatus?]

end Plugin

/-! ## Inputs of sample runs -/

/-- Connect, open and activate a connection, and let the first GI request be sent. -/
def firstRequest : List Input :=
  [.connect, .conThread { created := some 1 }, .connectionEvent .opened 0, .activate,
    .connectionEvent .startdtConReceived 0, .conThread {}]

/-- A `C_IC_NA_1` of the station `ca`. -/
def interrogationReply (cot ca : Int) (isNegative : Bool) : ASDU where
  typeId := C_IC_NA_1
  cot := cot
  ca := ca
  isNegative := isNegative
  elements := [some
    { objectAddress := 0, value := .int 20, quality := 0, timestamp := ⟨0, false, false, false⟩ }]

/-- A positive answer to a clock synchronisation command. -/
def clockSyncConfirmation : ASDU where
  typeId := C_CS_NA_1
  cot := CS101_COT_ACTIVATION_CON
  ca := 1
  elements := [some
    { objectAddress := 0, value := .int 0, quality := 0, timestamp := ⟨0, false, false, false⟩ }]

/-- Lose the session and open the next one on a new handle. -/
def reconnect : List Input :=
  [.connectionEvent .closed 0, .conThread {}, .conThread { delayTime := 10000 },
    .conThread { delayTime := 10000, created := some 2 }, .connectionEvent .opened 10000,
    .activate]

/-- One station with one single point in the station group. -/
def oneStation : ExchangeTable :=
  .ofDatapoints [{ ca := 1, ioa := 10, typeId := M_SP_NA_1, label := "p", giGroups := 1 }]

end Iec104South
