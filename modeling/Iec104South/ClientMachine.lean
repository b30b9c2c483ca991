import Iec104South.CommandsConcurrent
import Iec104South.GiAttempts

/-!
# Runs of the client

The client with all its connections and its monitoring thread. A step is a case of `_conThread`,
the treatment of a disconnect request, a call of a library handler, the locked section of the
monitoring thread, or a north operation. Any list of inputs is a run, from the start of the
client until it is stopped. An ASDU is handled in one step, which is the run of its sections
(`run_receive`).

* `monitoringThread_cases`: the four things a round of the monitoring thread can do.
* `Connection.link`: what the monitoring thread sees and changes of a connection, and what the
  steps of the connection do to it (`conThread_link`, `asduReceivedHandler_link`).
-/

namespace Iec104South

open Reactive

inductive ClientInput where
  | monitoringThread (timeInMs monotonicTimeInMs : Nat)
  | checkOutstandingCommandTimeouts (currentTime : Nat)
  | connectionEvent (con : ConId) (event : ConnectionEvent) (now : Nat)
  | asdu (con : ConId) (a : ASDU) (now : Nat)
  | conThread (con : ConId) (env : Env)
  | conThreadDisconnect (con : ConId)
  | sendCommand (op : CommandOperation) (now : Nat) (accepted : Bool)
  | sendInterrogationCommand (ca : Int) (accepted : Bool)
  | scheduleGI
  | sendConnectionStatus
deriving DecidableEq, Repr

/-- What is decidable for every kind of input is decidable. -/
@[reducible] def ClientInput.decidable {P : ClientInput → Prop}
    [∀ timeInMs monotonicTimeInMs, Decidable (P (.monitoringThread timeInMs monotonicTimeInMs))]
    [∀ currentTime, Decidable (P (.checkOutstandingCommandTimeouts currentTime))]
    [∀ con now, Decidable (P (.connectionEvent con .opened now))]
    [∀ con now, Decidable (P (.connectionEvent con .closed now))]
    [∀ con now, Decidable (P (.connectionEvent con .startdtConReceived now))]
    [∀ con now, Decidable (P (.connectionEvent con .stopdtConReceived now))]
    [∀ con now, Decidable (P (.connectionEvent con .other now))]
    [∀ con a now, Decidable (P (.asdu con a now))]
    [∀ con env, Decidable (P (.conThread con env))]
    [∀ con, Decidable (P (.conThreadDisconnect con))]
    [∀ op now accepted, Decidable (P (.sendCommand op now accepted))]
    [∀ ca accepted, Decidable (P (.sendInterrogationCommand ca accepted))]
    [Decidable (P .scheduleGI)] [Decidable (P .sendConnectionStatus)] : ∀ i, Decidable (P i)
  | .monitoringThread .. | .checkOutstandingCommandTimeouts _ | .connectionEvent _ .opened _
  | .connectionEvent _ .closed _ | .connectionEvent _ .startdtConReceived _
  | .connectionEvent _ .stopdtConReceived _ | .connectionEvent _ .other _ | .asdu ..
  | .conThread .. | .conThreadDisconnect _ | .sendCommand .. | .sendInterrogationCommand ..
  | .scheduleGI | .sendConnectionStatus => inferInstance

namespace System

/-- A client that imported the table `t`, with its monitoring thread and its connections
started. -/
def started (cfg : IEC104ClientConfig) (redGroup : ConId → RedGroupCon) (t : ExchangeTable)
    (connections : List ConId) (timeInMs : Nat) : System :=
  (init t connections).monitoringThreadStart cfg redGroup timeInMs

/-- A step of one of the connections. -/
def connectionStep (cfg : IEC104ClientConfig) (con : ConId) (i : Input) (s : System) : System :=
  if con ∈ s.connections then s.onConnection con (·.handle cfg i) else s

def handle (cfg : IEC104ClientConfig) (redGroup : ConId → RedGroupCon) (s : System) :
    ClientInput → System
  | .monitoringThread timeInMs monotonicTimeInMs =>
    s.monitoringThread cfg redGroup timeInMs monotonicTimeInMs
  | .checkOutstandingCommandTimeouts currentTime =>
    { s with client := s.client.checkOutstandingCommandTimeouts cfg currentTime }
  | .connectionEvent con event now => s.connectionStep cfg con (.connectionEvent event now)
  | .asdu con a now => s.connectionStep cfg con (.asdu a now)
  | .conThread con env => s.connectionStep cfg con (.conThread env)
  | .conThreadDisconnect con => s.connectionStep cfg con .conThreadDisconnect
  | .sendCommand op now accepted =>
    { s with client := (s.client.sendCommand cfg s.cons op now accepted).2 }
  | .sendInterrogationCommand ca accepted => s.sendInterrogationCommand cfg ca accepted
  | .scheduleGI => { s with client := requestGi s.client }
  | .sendConnectionStatus => { s with client := s.client.sendConnectionStatus cfg }

/-- Forget what has been emitted. -/
def clear (s : System) : System := { s with client := { s.client with out := [] } }

end System

/-- One step of the client. -/
def clientStep (cfg : IEC104ClientConfig) (redGroup : ConId → RedGroupCon) :
    Machine System ClientInput Effect :=
  fun s i => (s.clear.handle cfg redGroup i, (s.clear.handle cfg redGroup i).client.out)

section Lemmas

variable (cfg : IEC104ClientConfig) (redGroup : ConId → RedGroupCon) (s : System)

@[simp] theorem updateConnectionStatus_giStatus (newState : ConnectionStatus) (c : Client) :
    (c.updateConnectionStatus cfg newState).giStatus = c.giStatus := by
  rw [Client.updateConnectionStatus_eq]

@[simp] theorem updateConnectionStatus_activeConnection (newState : ConnectionStatus)
    (c : Client) :
    (c.updateConnectionStatus cfg newState).activeConnection = c.activeConnection := by
  rw [Client.updateConnectionStatus_eq]

@[simp] theorem markNonTopical_client_giStatus (monotonicTimeInMs : Nat) :
    (s.markNonTopical monotonicTimeInMs).client.giStatus = s.client.giStatus := by
  unfold System.markNonTopical
  split_ifs
  · simp [Client.updateQualityForAllDataObjects, Client.sendQualityUpdates_eq]
  · rfl
  · rfl
  · rfl

@[simp] theorem markNonTopical_activeConnection (monotonicTimeInMs : Nat) :
    (s.markNonTopical monotonicTimeInMs).client.activeConnection = s.client.activeConnection := by
  unfold System.markNonTopical
  split_ifs
  · simp [Client.updateQualityForAllDataObjects, Client.sendQualityUpdates_eq]
  · rfl
  · rfl
  · rfl

@[simp] theorem markNonTopical_cons (monotonicTimeInMs : Nat) :
    (s.markNonTopical monotonicTimeInMs).cons = s.cons ∧
      (s.markNonTopical monotonicTimeInMs).connections = s.connections := by
  unfold System.markNonTopical
  split_ifs <;> exact ⟨rfl, rfl⟩

@[simp] theorem connectBackups_client (timeInMs : Nat) :
    (s.connectBackups timeInMs).client = s.client := by
  unfold System.connectBackups
  split_ifs <;> rfl

@[simp] theorem connectBackups_connections (timeInMs : Nat) :
    (s.connectBackups timeInMs).connections = s.connections := by
  unfold System.connectBackups
  split_ifs <;> rfl

/-- The connection the next round of the monitoring thread activates. -/
def System.activates (s : System) : Option ConId :=
  match s.client.activeConnection with
  | none => s.connections.find? fun con => (s.cons con).isConnected
  | some _ => none

theorem System.activates_eq_some {con : ConId} (h : s.activates = some con) :
    s.client.activeConnection = none ∧ con ∈ s.connections ∧ (s.cons con).connected := by
  unfold System.activates at h
  split at h
  · next hnone =>
    have hopen := List.find?_some h
    exact ⟨hnone, List.mem_of_find?_eq_some h, hopen⟩
  · cases h

/-- A STARTDT was passed to the library. -/
def sendsStartDT (out : List Effect) : Bool :=
  out.any fun
    | .sendStartDT _ => true
    | _ => false

@[simp] theorem sendsStartDT_append (a b : List Effect) :
    sendsStartDT (a ++ b) = (sendsStartDT a || sendsStartDT b) := List.any_append

@[simp] theorem sendsStartDT_of_reports {out : List Effect} (h : Reports out) :
    sendsStartDT out = false :=
  h.any_eq_false fun e he => by cases e <;> first | rfl | cases he

/-- A round of the monitoring thread activates a connection, waits for one, forgets the one it
has lost, or disconnects what is open beside it. -/
inductive MonitoringRound (s s' : System) : Prop where
  | activates (con : ConId) (hactivates : s.activates = some con)
      (hcons : s'.cons = Function.update s.cons con (s.cons con).activate.2)
      (hactive : s'.client.activeConnection = some con)
      (hout : sendsStartDT s'.client.out =
        (sendsStartDT s.client.out || sendsStartDT (s.cons con).activate.1))
  | waits (hnone : s.client.activeConnection = none) (hactivates : s.activates = none)
      (hcons : ∀ con, s'.cons con = s.cons con ∨ s'.cons con = (s.cons con).requestConnect)
      (hactive : s'.client.activeConnection = none)
  | loses (con : ConId) (hbefore : s.client.activeConnection = some con)
      (hlost : (s.cons con).connected = false) (hcons : s'.cons = s.cons)
      (hactive : s'.client.activeConnection = none)
  | keeps (con : ConId) (hbefore : s.client.activeConnection = some con)
      (hconnected : (s.cons con).connected)
      (hcons : ∀ other, s'.cons other = s.cons other ∨
        (other ≠ con ∧ (s.cons other).connected ∧ s'.cons other = (s.cons other).disonnect))
      (hactive : s'.client.activeConnection = some con)

theorem monitoringThread_cases (timeInMs monotonicTimeInMs : Nat) :
    MonitoringRound s (s.monitoringThread cfg redGroup timeInMs monotonicTimeInMs) := by
  cases hbefore : s.client.activeConnection with
  | none =>
    cases hopen : s.connections.find? fun con => (s.cons con).isConnected with
    | some con =>
      refine .activates con (by simp [System.activates, hbefore, hopen]) ?_ ?_ ?_
      · simp [System.monitoringThread, hbefore, hopen, System.activateConnection,
          System.onConnection, System.plugin, Plugin.handle]
      · simp [System.monitoringThread, hbefore, hopen, System.activateConnection]
      · simp [System.monitoringThread, hbefore, hopen, System.activateConnection,
          System.onConnection, System.plugin, Plugin.handle, Client.updateConnectionStatus_eq]
    | none =>
      have hcons := (markNonTopical_cons s monotonicTimeInMs).1
      refine .waits hbefore (by simp [System.activates, hbefore, hopen]) (fun con => ?_) ?_
      · simp only [System.monitoringThread, hbefore, hopen, System.connectBackups, hcons]
        split_ifs
        · dsimp only
          split_ifs
          · exact .inr rfl
          · exact .inl rfl
        · exact .inl rfl
      · simp [System.monitoringThread, hbefore, hopen]
  | some con =>
    cases hconnected : (s.cons con).connected with
    | false =>
      refine .loses con hbefore hconnected ?_ ?_
      · simp [System.monitoringThread, hbefore, Connection.isConnected, hconnected]
      · simp [System.monitoringThread, hbefore, Connection.isConnected, hconnected]
    | true =>
      refine .keeps con hbefore hconnected (fun other => ?_) ?_
      · simp only [System.monitoringThread, hbefore, Connection.isConnected, hconnected,
          System.disconnectUnnecessary, Bool.not_true, Bool.false_eq_true, if_false]
        split_ifs with hunnecessary
        · exact .inr ⟨hunnecessary.2.1, hunnecessary.2.2.1, if_pos hunnecessary⟩
        · exact .inl (if_neg hunnecessary)
      · simp [System.monitoringThread, hbefore, Connection.isConnected, hconnected,
          System.disconnectUnnecessary]

theorem monitoringThread_giStatus (timeInMs monotonicTimeInMs : Nat) :
    (s.monitoringThread cfg redGroup timeInMs monotonicTimeInMs).client.giStatus =
      s.client.giStatus := by
  unfold System.monitoringThread
  split
  · split
    · simp [System.activateConnection, System.onConnection, System.plugin, Plugin.handle]
    · simp
  · dsimp only
    split_ifs
    · rfl
    · rfl

theorem monitoringThread_connections (timeInMs monotonicTimeInMs : Nat) :
    (s.monitoringThread cfg redGroup timeInMs monotonicTimeInMs).connections =
      s.connections := by
  unfold System.monitoringThread
  split
  · split
    · rfl
    · simp [markNonTopical_cons]
  · dsimp only
    split_ifs <;> rfl

@[simp] theorem handle_connections (i : ClientInput) :
    (s.handle cfg redGroup i).connections = s.connections := by
  cases i with
  | monitoringThread => exact monitoringThread_connections cfg redGroup s _ _
  | connectionEvent | asdu | conThread | conThreadDisconnect =>
    simp only [System.handle, System.connectionStep]
    split_ifs <;> rfl
  | sendInterrogationCommand ca accepted =>
    simp only [System.handle, System.sendInterrogationCommand]
    split <;> rfl
  | _ => rfl

/-- The operations that work on the client only, or send over a connection. -/
def ClientInput.isNorth : ClientInput → Bool
  | .checkOutstandingCommandTimeouts _ | .sendCommand .. | .sendInterrogationCommand ..
  | .scheduleGI | .sendConnectionStatus => true
  | _ => false

theorem sendCommand_shared (cons : ConId → Connection) (op : CommandOperation) (now : Nat)
    (accepted : Bool) (c : Client) :
    (c.sendCommand cfg cons op now accepted).2.giStatus = c.giStatus ∧
      (c.sendCommand cfg cons op now accepted).2.activeConnection = c.activeConnection := by
  rw [sendCommand_eq]
  split_ifs
  · exact ⟨rfl, rfl⟩
  · obtain ⟨out, hsent⟩ :=
      transmitCommand_eq cons op accepted ((c.touch op.ca op.ioa).withBooked op now)
    dsimp only
    rw [hsent]
    split_ifs <;> exact ⟨rfl, rfl⟩
  · exact ⟨rfl, rfl⟩

theorem checkOutstandingCommandTimeouts_shared (currentTime : Nat) (c : Client) :
    (c.checkOutstandingCommandTimeouts cfg currentTime).giStatus = c.giStatus ∧
      (c.checkOutstandingCommandTimeouts cfg currentTime).activeConnection =
        c.activeConnection := by
  unfold Client.checkOutstandingCommandTimeouts
  refine List.foldlRecOn (motive := fun c' : Client => c'.giStatus = c.giStatus ∧
    c'.activeConnection = c.activeConnection) _ _ ⟨rfl, rfl⟩ ?_
  exact fun _ h _ _ => h

/-- These operations leave the connections, the GI status and the active connection alone. -/
theorem handle_north {i : ClientInput} (hi : i.isNorth) :
    (s.handle cfg redGroup i).cons = s.cons ∧
      (s.handle cfg redGroup i).client.giStatus = s.client.giStatus ∧
      (s.handle cfg redGroup i).client.activeConnection = s.client.activeConnection := by
  cases i with
  | checkOutstandingCommandTimeouts currentTime =>
    exact ⟨rfl, checkOutstandingCommandTimeouts_shared cfg currentTime s.client⟩
  | sendCommand op now accepted =>
    exact ⟨rfl, sendCommand_shared cfg s.cons op now accepted s.client⟩
  | sendInterrogationCommand ca accepted =>
    simp only [System.handle, System.sendInterrogationCommand]
    split
    · next con hactive =>
      simp [System.onConnection, System.plugin, Plugin.handle, Plugin.northInterrogation, hactive]
    · exact ⟨rfl, rfl, rfl⟩
  | scheduleGI =>
    have hframe := Client.Frame.requestGi s.client
    exact ⟨rfl, hframe.giStatus, hframe.activeConnection⟩
  | sendConnectionStatus =>
    refine ⟨rfl, ?_⟩
    show (s.client.sendConnectionStatus cfg).giStatus = _ ∧
      (s.client.sendConnectionStatus cfg).activeConnection = _
    unfold Client.sendConnectionStatus Client.sendSouthMonitoringEvent
    split_ifs <;> exact ⟨rfl, rfl⟩
  | _ => cases hi

end Lemmas

/-! ## What the monitoring thread sees of a connection -/

/-- The variables of the connection set-up. -/
structure Link where
  connected : Bool
  connect : Bool
  disconnect : Bool
  connection : Option Handle
  connectionState : ConState
deriving DecidableEq, Repr

def Connection.link (con : Connection) : Link where
  connected := con.connected
  connect := con.connect
  disconnect := con.disconnect
  connection := con.connection
  connectionState := con.connectionState

namespace Plugin

variable (cfg : IEC104ClientConfig) (env : Env) (p : Plugin)

/-- What a round of the connection thread does to the set-up. -/
def conThreadLink (env : Env) (con : Connection) : Link :=
  match con.connectionState with
  | .idle =>
    if con.connect then
      { con.link with
        connection := env.created
        connectionState := if env.created.isSome then .connecting else .fatalError }
    else con.link
  | .connecting =>
    if con.delayExpirationTime < env.delayTime then { con.link with connectionState := .idle }
    else con.link
  | .closed => { con.link with connectionState := .waitForReconnect }
  | .waitForReconnect =>
    if con.delayExpirationTime ≤ env.delayTime then { con.link with connectionState := .idle }
    else con.link
  | .connectedInactive | .connectedActive | .fatalError => con.link

theorem conThreadLink_disconnect (con : Connection) :
    (conThreadLink env con).disconnect = con.disconnect := by
  unfold conThreadLink
  split <;> (try split_ifs) <;> rfl

/-- The set-up and the active connection. -/
def SameLink (p q : Plugin) : Prop :=
  q.con.link = p.con.link ∧ q.client.activeConnection = p.client.activeConnection

theorem giTasks_sameLink : SameLink p (p.giTasks cfg env) := by
  refine giTasks_rule cfg env p (P := SameLink p) ⟨rfl, rfl⟩ ?_ (fun _ hq => hq) ?_ ?_
    (fun _ _ _ _ => ⟨rfl, rfl⟩)
  · intro q hq _
    rw [SameLink, startNewInterrogationCycle_con, startNewInterrogationCycle_client]
    exact hq
  · intro _ _ _ _
    rw [SameLink, failGiRequest_con, failGiRequest_client]
    exact ⟨rfl, rfl⟩
  · intro ca _ _ _ _ _
    rw [SameLink, sendGiToCa_con, sendGiToCa_client]
    exact ⟨rfl, rfl⟩

theorem beforeGi_sameLink : SameLink p (p.beforeGi cfg env) := by
  obtain ⟨_, _, heq⟩ := p.beforeGi_eq cfg env
  rw [heq]
  exact ⟨rfl, rfl⟩

theorem conThread_link :
    (p.conThread cfg env).con.link = conThreadLink env p.con ∧
      (p.conThread cfg env).client.activeConnection = p.client.activeConnection := by
  unfold conThreadLink
  cases hstate : p.con.connectionState with
  | idle =>
    simp only [conThread, hstate]
    cases hconnect : p.con.connect with
    | false => exact ⟨rfl, rfl⟩
    | true =>
      cases hcreated : env.created with
      | some handle => simp [Connection.link, hconnect]
      | none => simp [Connection.link, hconnect]
  | connecting | waitForReconnect =>
    simp only [conThread, hstate]
    split_ifs <;> exact ⟨rfl, rfl⟩
  | connectedInactive | closed =>
    simp only [conThread, hstate]
    rw [sendConnectionStatusAudit_eq]
    exact ⟨rfl, rfl⟩
  | connectedActive =>
    have hbefore := p.beforeGi_sameLink cfg env
    show SameLink p (p.conThread cfg env)
    rw [conThread_connectedActive cfg env p hstate]
    split_ifs
    · have htasks := (p.beforeGi cfg env).giTasks_sameLink cfg env
      exact ⟨htasks.1.trans hbefore.1, htasks.2.trans hbefore.2⟩
    · exact hbefore
  | fatalError => simp [conThread, hstate]

theorem conThreadDisconnect_link :
    p.conThreadDisconnect.con.link =
        (if p.con.disconnect then
          { p.con.link with connected := false, disconnect := false, connection := none }
        else p.con.link) ∧
      p.conThreadDisconnect.client.activeConnection = p.client.activeConnection := by
  unfold conThreadDisconnect
  split_ifs
  · rw [sendConnectionStatusAudit_eq]
    exact ⟨rfl, rfl⟩
  · exact ⟨rfl, rfl⟩

/-- The ASDU makes the connection disconnect: a running GI is rejected. -/
def rejectsGi (a : ASDU) (p : Plugin) : Bool :=
  isGiReply a && a.cot != CS101_COT_ACTIVATION_CON &&
    a.cot != CS101_COT_ACTIVATION_TERMINATION && p.giRunning

theorem asduReceivedHandler_link (now : Nat) (a : ASDU) :
    (p.asduReceivedHandler cfg now a).2.con.link =
        (if p.rejectsGi a then p.con.disonnect else p.con).link ∧
      (p.asduReceivedHandler cfg now a).2.client.activeConnection =
        p.client.activeConnection := by
  have hactive : (p.received cfg now a).client.activeConnection =
      p.client.activeConnection := by
    rw [received_client, handleASDU_eq]
    exact (elementLoop_frame cfg now p.self a p.client).activeConnection
  have hlink : (p.received cfg now a).con.link = p.con.link := by
    rw [received_con]
    rfl
  cases hreply : isGiReply a with
  | true =>
    have hrunning := p.received_giRunning cfg now a
    rw [asduReceivedHandler_giReply cfg p now hreply]
    simp only [giReply, giConfirmed, giTerminated, giRejected, rejectsGi, hreply, hrunning]
    split_ifs <;> simp_all [Connection.link, Connection.disonnect]
  | false =>
    obtain ⟨con', heq, hcon⟩ := asduReceivedHandler_other cfg p now hreply
    have hnot : p.rejectsGi a = false := by simp [rejectsGi, hreply]
    rw [heq, hnot, if_neg Bool.false_ne_true, ← hlink]
    refine ⟨?_, hactive⟩
    rcases hcon with rfl | rfl | ⟨-, -, rfl⟩
    · rfl
    · rfl
    · simp only [Connection.timeSyncReply]
      split_ifs <;> rfl

end Plugin

end Iec104South
