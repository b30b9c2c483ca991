import Mathlib.Logic.Function.Basic
import Iec104South.Commands

/-!
# Command operations on several threads

The client with all its connections. A step is one critical section of one thread: of a call of
a command operation, of the monitoring thread, or of the thread on which a connection receives
ASDUs; between two sections of one thread any other section can run.

* `call`, `book`, `transmit`, `removeOutstandingCommand`: the sections of `Client.sendCommand`
  (`run_call`).
* `receive`, `lookUp`, `handleElement`, `received`: those of `m_asduReceivedHandler`
  (`run_receive`).
* `SectionEffect`: what a section can do to the calls and to the outstanding commands
  (`systemStep_effect`); only a booking adds to the list.
-/

namespace Iec104South

open Reactive

/-- Where a call of a command operation stands, between its sections. -/
inductive CallState where
  | idle
  | checked (op : CommandOperation)
  | booked (op : CommandOperation) (command : OutstandingCommand)
  /-- the command was not sent and is still booked -/
  | failed (command : OutstandingCommand)
  | returned (success : Bool)
deriving DecidableEq, Repr

/-- The local variables of `handleASDU` on the thread of a connection. -/
structure ReceiveState where
  a : ASDU
  /-- the elements that are not handled yet -/
  elements : List (Option InformationObject)
  /-- label and outstanding command of the first of them, once they are looked up -/
  found : Option (Option String × Option OutstandingCommand) := none
  handledAsdu : Bool := true
  datapoints : List DataObject := []
  labels : List String := []

/-- What the monitoring thread remembers between its rounds. -/
structure Monitor where
  backupConnectionStartTime : Nat := 0
  qualityUpdateTimer : Nat := 0
  qualityUpdated : Bool := false
  firstConnected : Bool := false
deriving DecidableEq, Repr

/-- The client, its connections, and the threads. -/
structure System where
  client : Client
  cons : ConId → Connection := fun _ => {}
  /-- `m_connections` -/
  connections : List ConId
  monitor : Monitor := {}
  /-- the call that holds `m_activeConnectionMtx` between two of its sections -/
  activeConnectionMtx : Option Nat := none
  calls : Nat → CallState := fun _ => .idle
  receiving : ConId → Option ReceiveState := fun _ => none

/-- A client that imported the table `t`, with the connections of its redundancy group. -/
def System.init (t : ExchangeTable) (connections : List ConId) : System where
  client := { exchangeDefinitions := t }
  connections := connections

/-- What a section reports about a call. -/
inductive CommandEvent where
  /-- the address is in the exchange configuration -/
  | checked (call : Nat)
  /-- the limit is reached -/
  | refused (call : Nat)
  /-- booked when so many commands were outstanding -/
  | booked (call : Nat) (command : OutstandingCommand) (outstanding : Nat)
  | transmitted (call : Nat) (con : ConId) (e : Effect)
  | returned (call : Nat) (success : Bool)
deriving DecidableEq, Repr

inductive SystemInput where
  | call (k : Nat) (op : CommandOperation)
  | book (k : Nat) (now : Nat)
  | transmit (k : Nat) (accepted : Bool)
  | removeOutstandingCommand (k : Nat)
  | monitoringThreadStart (timeInMs : Nat)
  | monitoringThread (timeInMs monotonicTimeInMs : Nat)
  | monitoringThreadEnd
  | checkOutstandingCommandTimeouts (currentTime : Nat)
  | receive (con : ConId) (a : ASDU) (now : Nat)
  | lookUp (con : ConId)
  | handleElement (con : ConId) (now : Nat)
  | received (con : ConId) (now : Nat)
  | connectionEvent (con : ConId) (event : ConnectionEvent) (now : Nat)
  | conThread (con : ConId) (env : Env)
  | conThreadDisconnect (con : ConId)
  | sendInterrogationCommand (ca : Int) (accepted : Bool)
  | scheduleGI
  | sendConnectionStatus
deriving DecidableEq, Repr

/-- The call whose section an input is. -/
def SystemInput.call? : SystemInput → Option Nat
  | .call k _ | .book k _ | .transmit k _ | .removeOutstandingCommand k => some k
  | _ => none

namespace System

variable (cfg : IEC104ClientConfig)

/-- One connection of the system with the client. -/
def plugin (s : System) (con : ConId) : Plugin := ⟨s.client, s.cons con, con⟩

/-- A section of one connection. -/
def onConnection (con : ConId) (f : Plugin → Plugin) (s : System) : System :=
  { s with
    client := (f (s.plugin con)).client
    cons := Function.update s.cons con (f (s.plugin con)).con }

def setCall (k : Nat) (state : CallState) (s : System) : System :=
  { s with calls := Function.update s.calls k state }

def setReceiving (con : ConId) (state : Option ReceiveState) (s : System) : System :=
  { s with receiving := Function.update s.receiving con state }

/-- A section under `m_activeConnectionMtx` runs only while no call holds the mutex. -/
def underMtx (f : System → System × List CommandEvent) (s : System) :
    System × List CommandEvent :=
  if s.activeConnectionMtx = none then f s else (s, [])

/-! ## The sections of a command operation -/

def call (k : Nat) (op : CommandOperation) (s : System) : System × List CommandEvent :=
  match s.calls k with
  | .idle =>
    let checked := s.client.checkCommand op
    let s := { s with client := checked.2 }
    if checked.1 then (s.setCall k (.checked op), [.checked k])
    else (s.setCall k (.returned false), [.returned k false])
  | _ => (s, [])

/-- `addOutstandingCommandAndCheckLimit`, under `m_activeConnectionMtx`. -/
def book (k : Nat) (now : Nat) (s : System) : System × List CommandEvent :=
  match s.calls k with
  | .checked op =>
    match s.client.bookCommand cfg op now with
    | (none, c) =>
      ({ s with client := c }.setCall k (.returned false), [.refused k, .returned k false])
    | (some command, c) =>
      ({ s with client := c }.setCall k (.booked op command),
        [.booked k command s.client.outstandingCommands.length])
  | _ => (s, [])

/-- Send over the active connection, under `m_activeConnectionMtx`. A call that fails keeps the
mutex until it has removed its command. -/
def transmit (k : Nat) (accepted : Bool) (s : System) : System × List CommandEvent :=
  match s.calls k with
  | .booked op command =>
    let sent := s.client.transmitCommand s.cons op accepted
    let transmitted :=
      match s.client.activeConnection with
      | some con => (op.send accepted (s.cons con)).2.map (.transmitted k con)
      | none => []
    let s := { s with client := sent.2 }
    if sent.1 then (s.setCall k (.returned true), transmitted ++ [.returned k true])
    else ({ s with activeConnectionMtx := some k }.setCall k (.failed command), transmitted)
  | _ => (s, [])

def removeOutstandingCommand (k : Nat) (s : System) : System × List CommandEvent :=
  match s.calls k with
  | .failed command =>
    let s := { s with
      client := s.client.removeOutstandingCommand command
      activeConnectionMtx := none }
    (s.setCall k (.returned false), [.returned k false])
  | _ => (s, [])

/-! ## The monitoring thread -/

/-- `BACKUP_CONNECTION_TIMEOUT` from now. -/
def backupTime (timeInMs : Nat) : Nat := (timeInMs + 5000) % 2 ^ 64

/-- `Start` of all connections, and what `_monitoringThread` does before its loop. -/
def monitoringThreadStart (redGroup : ConId → RedGroupCon) (timeInMs : Nat) (s : System) :
    System :=
  { s with
    cons := fun con =>
      if con ∈ s.connections then { s.cons con with connect := (redGroup con).conn }
      else s.cons con
    client := (s.client.updateConnectionStatus cfg .notConnected).updateQualityForAllDataObjects
      IEC60870_QUALITY_INVALID
    monitor := { backupConnectionStartTime := backupTime timeInMs } }

/-- Activate an open connection. -/
def activateConnection (timeInMs : Nat) (con : ConId) (s : System) : System :=
  let s := s.onConnection con (·.handle cfg .activate)
  { s with
    client := { s.client with activeConnection := some con }.updateConnectionStatus cfg .started
    monitor :=
      { backupConnectionStartTime := backupTime timeInMs
        qualityUpdateTimer := 0
        qualityUpdated := false
        firstConnected := true } }

/-- 500 ms after the connection was lost, all datapoints are marked non topical. -/
def markNonTopical (monotonicTimeInMs : Nat) (s : System) : System :=
  if s.monitor.firstConnected ∧ !s.monitor.qualityUpdated then
    if s.monitor.qualityUpdateTimer ≠ 0 then
      if s.monitor.qualityUpdateTimer < monotonicTimeInMs then
        { s with
          client := s.client.updateQualityForAllDataObjects IEC60870_QUALITY_NON_TOPICAL
          monitor := { s.monitor with qualityUpdated := true } }
      else s
    else { s with
      monitor := { s.monitor with qualityUpdateTimer := (monotonicTimeInMs + 500) % 2 ^ 64 } }
  else s

/-- Connect all disconnected connections when none has been open for a while. -/
def connectBackups (timeInMs : Nat) (s : System) : System :=
  if s.monitor.backupConnectionStartTime < timeInMs then
    { s with
      cons := fun con =>
        if con ∈ s.connections ∧ (s.cons con).isDisconnected then (s.cons con).requestConnect
        else s.cons con
      monitor := { s.monitor with backupConnectionStartTime := backupTime timeInMs } }
  else s

/-- Disconnect what is open beside the active connection. -/
def disconnectUnnecessary (redGroup : ConId → RedGroupCon) (active : ConId) (s : System) : System :=
  { s with
    cons := fun con =>
      if con ∈ s.connections ∧ con ≠ active ∧ (s.cons con).isConnected ∧ !(redGroup con).start then
        (s.cons con).disonnect
      else s.cons con }

/-- The section of `_monitoringThread` under `m_activeConnectionMtx`. -/
def monitoringThread (redGroup : ConId → RedGroupCon) (timeInMs monotonicTimeInMs : Nat)
    (s : System) : System :=
  match s.client.activeConnection with
  | none =>
    match s.connections.find? fun con => (s.cons con).isConnected with
    | some con => s.activateConnection cfg timeInMs con
    | none =>
      let s := s.markNonTopical monotonicTimeInMs
      { s with
        client := s.client.updateConnectionStatus cfg .notConnected }.connectBackups timeInMs
  | some active =>
    let s := { s with
      monitor := { s.monitor with backupConnectionStartTime := backupTime timeInMs } }
    if !(s.cons active).isConnected then
      { s with client := { s.client with activeConnection := none } }
    else s.disconnectUnnecessary redGroup active

def monitoringThreadEnd (s : System) : System :=
  { s with
    client := { s.client with
      activeConnection := none
      outstandingCommands := [] }.updateConnectionStatus cfg .notConnected
    connections := [] }

/-- The north operation, which uses the active connection. -/
def sendInterrogationCommand (ca : Int) (accepted : Bool) (s : System) : System :=
  match s.client.activeConnection with
  | some con => s.onConnection con (·.handle cfg (.sendInterrogationCommand ca accepted))
  | none => s

/-! ## The sections of a received ASDU -/

/-- The head of `m_asduReceivedHandler` and of `handleASDU`. -/
def receive (con : ConId) (a : ASDU) (now : Nat) (s : System) : System :=
  match s.receiving con with
  | none =>
    let s := s.onConnection con (·.interrogationResponse now a)
    { s with client := beginASDU cfg a s.client }.setReceiving con
      (some { a := a, elements := a.elements })
  | some _ => s

/-- Look up the label and the outstanding command of the next element. -/
def lookUp (con : ConId) (s : System) : System :=
  match s.receiving con with
  | some ⟨a, some io :: elements, none, handledAsdu, datapoints, labels⟩ =>
    let ioa := io.objectAddress
    let label := s.client.exchangeDefinitions.checkExchangeDataLayer a.typeId a.ca ioa
    let c := s.client.touch a.ca ioa
    { s with client := c }.setReceiving con
      (some ⟨a, some io :: elements, some (label, outstandingCommandFor con a ioa c), handledAsdu,
        datapoints, labels⟩)
  | _ => s

/-- Handle the next element with what was looked up for it. -/
def handleElement (con : ConId) (now : Nat) (s : System) : System :=
  match s.receiving con with
  | some ⟨a, none :: elements, found, handledAsdu, datapoints, labels⟩ =>
    s.setReceiving con (some ⟨a, elements, found, handledAsdu, datapoints, labels⟩)
  | some ⟨a, some io :: elements, some (label, command), handledAsdu, datapoints, labels⟩ =>
    let r := handleFound cfg now a io label command ⟨s.client, handledAsdu, datapoints, labels⟩
    { s with client := r.client }.setReceiving con
      (some ⟨a, elements, none, r.handledAsdu, r.datapoints, r.labels⟩)
  | _ => s

/-- Ingest what was read, and let the connection treat an ASDU that was not handled. -/
def received (con : ConId) (now : Nat) (s : System) : System :=
  match s.receiving con with
  | some ⟨a, [], _, handledAsdu, datapoints, labels⟩ =>
    let s := { s with client := s.client.sendData datapoints labels }.setReceiving con none
    if handledAsdu then s else s.onConnection con fun p => (p.unhandledASDU cfg now a).2
  | _ => s

end System

/-- One section of one thread. -/
def systemStep (cfg : IEC104ClientConfig) (redGroup : ConId → RedGroupCon) :
    Machine System SystemInput CommandEvent
  | s, .call k op => s.call k op
  | s, .book k now => s.underMtx (·.book cfg k now)
  | s, .transmit k accepted => s.underMtx (·.transmit k accepted)
  | s, .removeOutstandingCommand k => s.removeOutstandingCommand k
  | s, .monitoringThreadStart timeInMs => (s.monitoringThreadStart cfg redGroup timeInMs, [])
  | s, .monitoringThread timeInMs monotonicTimeInMs =>
    s.underMtx fun s => (s.monitoringThread cfg redGroup timeInMs monotonicTimeInMs, [])
  | s, .monitoringThreadEnd => s.underMtx fun s => (s.monitoringThreadEnd cfg, [])
  | s, .checkOutstandingCommandTimeouts currentTime =>
    ({ s with client := s.client.checkOutstandingCommandTimeouts cfg currentTime }, [])
  | s, .receive con a now => (s.receive cfg con a now, [])
  | s, .lookUp con => (s.lookUp con, [])
  | s, .handleElement con now => (s.handleElement cfg con now, [])
  | s, .received con now => (s.received cfg con now, [])
  | s, .connectionEvent con event now =>
    (s.onConnection con (·.handle cfg (.connectionEvent event now)), [])
  | s, .conThread con env => (s.onConnection con (·.handle cfg (.conThread env)), [])
  | s, .conThreadDisconnect con => (s.onConnection con (·.handle cfg .conThreadDisconnect), [])
  | s, .sendInterrogationCommand ca accepted =>
    s.underMtx fun s => (s.sendInterrogationCommand cfg ca accepted, [])
  | s, .scheduleGI => ({ s with client := requestGi s.client }, [])
  | s, .sendConnectionStatus => ({ s with client := s.client.sendConnectionStatus cfg }, [])

/-! ## What a section does

One lemma for each section of a call, in the state in which it runs. -/

section Sections

variable (cfg : IEC104ClientConfig) (redGroup : ConId → RedGroupCon) {s : System} {k : Nat}

@[simp] theorem setCall_calls_self (k : Nat) (state : CallState) (s : System) :
    (s.setCall k state).calls k = state := Function.update_self ..

@[simp] theorem setCall_client (k : Nat) (state : CallState) (s : System) :
    (s.setCall k state).client = s.client := rfl

theorem setCall_calls_of_ne {j k : Nat} (h : j ≠ k) (state : CallState) (s : System) :
    (s.setCall k state).calls j = s.calls j := Function.update_of_ne h ..

@[simp] theorem setCall_setCall (k : Nat) (state state' : CallState) (s : System) (c : Client) :
    { s.setCall k state with client := c }.setCall k state' =
      { s with client := c }.setCall k state' := by
  simp [System.setCall]

theorem call_idle (h : s.calls k = .idle) (op : CommandOperation) :
    s.call k op =
      if (s.client.checkCommand op).1 then
        ({ s with client := s.client.touch op.ca op.ioa }.setCall k (.checked op), [.checked k])
      else
        ({ s with client := s.client.touch op.ca op.ioa }.setCall k (.returned false),
          [.returned k false]) := by
  simp only [System.call, h]
  rfl

theorem book_checked {op : CommandOperation} (h : s.calls k = .checked op) (now : Nat) :
    s.book cfg k now =
      if s.client.limitReached cfg then
        (s.setCall k (.returned false), [.refused k, .returned k false])
      else
        ({ s with client := s.client.withBooked op now }.setCall k
            (.booked op (bookedCommand op now s.client)),
          [.booked k (bookedCommand op now s.client) s.client.outstandingCommands.length]) := by
  simp only [System.book, h, bookCommand_eq]
  split_ifs <;> rfl

theorem underMtx_free (h : s.activeConnectionMtx = none)
    (f : System → System × List CommandEvent) : s.underMtx f = f s := if_pos h

/-- The events of a transmission: the calls of the library, each with the connection. -/
def transmissions (op : CommandOperation) (k : Nat) (accepted : Bool) (s : System) :
    List CommandEvent :=
  match s.client.activeConnection with
  | some con => (op.send accepted (s.cons con)).2.map (.transmitted k con)
  | none => []

/-- The library is passed a command of this type for this address. -/
def Effect.Carries (typeId ca ioa : Int) : Effect → Prop
  | .sendProcessCommandEx _ _ ca' cmdObj _ => cmdObj.typeId = typeId ∧ ca' = ca ∧ cmdObj.ioa = ioa
  | _ => False

/-- The active connection sends commands, and the library accepts this one. -/
def sends (accepted : Bool) (s : System) : Bool :=
  match s.client.activeConnection with
  | some con =>
    (s.cons con).connection.isSome && (s.cons con).connectionState == .connectedActive && accepted
  | none => false

/-- A command that is sent is the one transmission of its call, over the active connection. -/
theorem transmissions_cases (op : CommandOperation) (k : Nat) (accepted : Bool) (s : System) :
    (s.client.transmitCommand s.cons op accepted).1 = sends accepted s ∧
      (transmissions op k accepted s = [] ∧ sends accepted s = false ∨
        ∃ con e, s.client.activeConnection = some con ∧ e.Carries op.typeId op.ca op.ioa ∧
          transmissions op k accepted s = [.transmitted k con e]) := by
  cases hactive : s.client.activeConnection with
  | none => simp [Client.transmitCommand, transmissions, sends, hactive]
  | some con =>
    obtain ⟨cmdObj, htype, hioa, hsend⟩ :
        ∃ cmdObj : CommandObject, cmdObj.typeId = op.typeId ∧ cmdObj.ioa = op.ioa ∧
          op.send accepted (s.cons con) = (s.cons con).sendCommand op.ca cmdObj accepted := by
      cases op <;> exact ⟨_, rfl, rfl, rfl⟩
    simp only [Client.transmitCommand, transmissions, sends, hactive, hsend,
      Connection.sendCommand]
    cases hhandle : (s.cons con).connection with
    | none => simp
    | some handle =>
      dsimp only
      split_ifs with hstate
      · simp [hstate, Effect.Carries, htype, hioa]
      · simp [hstate]

theorem transmit_booked {op : CommandOperation} {command : OutstandingCommand}
    (h : s.calls k = .booked op command) (accepted : Bool) :
    s.transmit k accepted =
      if (s.client.transmitCommand s.cons op accepted).1 then
        ({ s with client := (s.client.transmitCommand s.cons op accepted).2 }.setCall k
            (.returned true), transmissions op k accepted s ++ [.returned k true])
      else
        ({ s with
            client := (s.client.transmitCommand s.cons op accepted).2
            activeConnectionMtx := some k }.setCall k (.failed command),
          transmissions op k accepted s) := by
  simp only [System.transmit, h]
  rfl

theorem removeOutstandingCommand_failed {command : OutstandingCommand}
    (h : s.calls k = .failed command) :
    s.removeOutstandingCommand k =
      ({ s with
          client := s.client.removeOutstandingCommand command
          activeConnectionMtx := none }.setCall k (.returned false), [.returned k false]) := by
  simp only [System.removeOutstandingCommand, h]

/-- A call that has returned has no section left. -/
theorem systemStep_returned {i : SystemInput} (hi : i.call? = some k) {success : Bool}
    (h : s.calls k = .returned success) : systemStep cfg redGroup s i = (s, []) := by
  cases i with
  | call j op =>
    cases hi
    simp only [systemStep, System.call, h]
  | book j now =>
    cases hi
    simp only [systemStep, System.underMtx, System.book, h, ite_self]
  | transmit j accepted =>
    cases hi
    simp only [systemStep, System.underMtx, System.transmit, h, ite_self]
  | removeOutstandingCommand j =>
    cases hi
    simp only [systemStep, System.removeOutstandingCommand, h]
  | _ => cases hi

theorem run_returned {success : Bool} (h : s.calls k = .returned success) {is : List SystemInput}
    (his : ∀ i ∈ is, i.call? = some k) : run (systemStep cfg redGroup) s is = s := by
  induction is with
  | nil => rfl
  | cons i is ih =>
    rw [run, systemStep_returned cfg redGroup (his i List.mem_cons_self) h]
    exact ih fun j hj => his j (List.mem_cons_of_mem i hj)

/-- The sections of a booked call: the transmission, and the removal after a failed one. -/
theorem run_booked {op : CommandOperation} {command : OutstandingCommand}
    (h : s.calls k = .booked op command) (hfree : s.activeConnectionMtx = none)
    (accepted : Bool) :
    run (systemStep cfg redGroup) s [.transmit k accepted, .removeOutstandingCommand k] =
      { s with
        client :=
          if (s.client.transmitCommand s.cons op accepted).1 then
            (s.client.transmitCommand s.cons op accepted).2
          else (s.client.transmitCommand s.cons op accepted).2.removeOutstandingCommand
            command }.setCall k (.returned (s.client.transmitCommand s.cons op accepted).1) := by
  simp only [run, systemStep, underMtx_free hfree, transmit_booked h]
  split_ifs with hsent
  · rw [hsent]
    simp only [System.removeOutstandingCommand, setCall_calls_self]
  · rw [removeOutstandingCommand_failed (setCall_calls_self ..), Bool.eq_false_iff.mpr hsent]
    simp [System.setCall, hfree]

/-- The sections of a call one after the other are the whole operation. -/
theorem run_call (hidle : s.calls k = .idle) (hfree : s.activeConnectionMtx = none)
    (op : CommandOperation) (now : Nat) (accepted : Bool) :
    run (systemStep cfg redGroup) s
        [.call k op, .book k now, .transmit k accepted, .removeOutstandingCommand k] =
      { s with client := (s.client.sendCommand cfg s.cons op now accepted).2 }.setCall k
        (.returned (s.client.sendCommand cfg s.cons op now accepted).1) := by
  rw [run, systemStep, call_idle hidle, sendCommand_eq]
  by_cases hlisted : (s.client.checkCommand op).1
  · set s₁ := { s with client := s.client.touch op.ca op.ioa }.setCall k (.checked op)
    have hbook : s₁.underMtx (·.book cfg k now) = s₁.book cfg k now :=
      underMtx_free (s := s₁) hfree _
    rw [if_pos hlisted, if_pos hlisted, run, systemStep, hbook,
      book_checked cfg (setCall_calls_self ..), setCall_client]
    by_cases hlimit : (s.client.touch op.ca op.ioa).limitReached cfg
    · rw [if_pos hlimit, if_pos hlimit, run_returned cfg redGroup (setCall_calls_self ..)
        (by simp [SystemInput.call?])]
      exact setCall_setCall ..
    · rw [if_neg hlimit, if_neg hlimit, run_booked cfg redGroup (setCall_calls_self ..) ?_]
      · simp [System.setCall]
      · exact hfree
  · rw [if_neg hlisted, if_neg hlisted, run_returned cfg redGroup (setCall_calls_self ..)
      (by simp [SystemInput.call?])]

/-- The sections of the thread on which `con` receives `a`. -/
def receiveSections (con : ConId) (a : ASDU) (now : Nat) : List SystemInput :=
  .receive con a now :: (a.elements.flatMap fun _ => [.lookUp con, .handleElement con now]) ++
    [.received con now]

/-- The system while `con` is in the element loop, with the local variables in `r`. -/
def inLoop (con : ConId) (a : ASDU) (elements : List (Option InformationObject)) (r : AsduRun)
    (s : System) : System :=
  { s with client := r.client }.setReceiving con
    (some ⟨a, elements, none, r.handledAsdu, r.datapoints, r.labels⟩)

theorem run_round (con : ConId) (a : ASDU) (now : Nat) (e : Option InformationObject)
    (elements : List (Option InformationObject)) (r : AsduRun) :
    run (systemStep cfg redGroup) (inLoop con a (e :: elements) r s)
        [.lookUp con, .handleElement con now] =
      inLoop con a elements (handleElement cfg now con a r e) s := by
  cases e with
  | none => simp [run, systemStep, inLoop, System.lookUp, System.handleElement, System.setReceiving,
      handleElement]
  | some io => simp [run, systemStep, inLoop, System.lookUp, System.handleElement,
      System.setReceiving, handleElement]

theorem run_elements (con : ConId) (a : ASDU) (now : Nat)
    (elements : List (Option InformationObject)) (r : AsduRun) :
    run (systemStep cfg redGroup) (inLoop con a elements r s)
        (elements.flatMap fun _ => [.lookUp con, .handleElement con now]) =
      inLoop con a [] (elements.foldl (handleElement cfg now con a) r) s := by
  induction elements generalizing r with
  | nil => rfl
  | cons e elements ih => rw [List.flatMap_cons, run_append, run_round, ih, List.foldl_cons]

/-- The sections of a received ASDU one after the other are the whole handler. -/
theorem run_receive {con : ConId} (hidle : s.receiving con = none) (a : ASDU) (now : Nat) :
    run (systemStep cfg redGroup) s (receiveSections con a now) =
      s.onConnection con fun p => (p.asduReceivedHandler cfg now a).2 := by
  set p := (s.plugin con).interrogationResponse now a with hp
  set s₁ := s.onConnection con (·.interrogationResponse now a)
  have hreceive : s.receive cfg con a now =
      inLoop con a a.elements { client := beginASDU cfg a p.client } s₁ := by
    simp only [System.receive, hidle]
    rfl
  rw [receiveSections, List.cons_append, run, run_append, systemStep, hreceive, run_elements]
  -- the thread is done with the ASDU and waits for the next one
  have hrestore : Function.update s.receiving con none = s.receiving := by
    rw [← hidle, Function.update_eq_self]
  have hself : p.self = con := Plugin.interrogationResponse_self _ now a
  have hhandler : (s.plugin con).asduReceivedHandler cfg now a =
      if (handleASDU cfg now p.self a p.client).1 then
        (true, { p with client := (handleASDU cfg now p.self a p.client).2 })
      else { p with client := (handleASDU cfg now p.self a p.client).2 }.unhandledASDU cfg now a :=
    rfl
  rw [hself] at hhandler
  simp only [handleASDU] at hhandler
  set r := a.elements.foldl (handleElement cfg now con a) { client := beginASDU cfg a p.client }
    with hr
  simp only [run, systemStep, System.received, inLoop, System.setReceiving, Function.update_self,
    System.onConnection, hhandler, ← hr]
  split_ifs with hhandled
  · simp [s₁, System.onConnection, hrestore, ← hp]
  · have hcon : p = Plugin.interrogationResponse now a ⟨s.client, s.cons con, con⟩ := hp
    simp [s₁, System.onConnection, System.plugin, hrestore, ← hcon]

end Sections

/-! ## What a section does to the outstanding commands -/

/-- No command is booked on the way from `c` to `c'`. -/
structure Client.NoBooking (c c' : Client) : Prop where
  nextCommandId : c'.nextCommandId = c.nextCommandId
  length_le : c'.outstandingCommands.length ≤ c.outstandingCommands.length

namespace Client.NoBooking

variable {c c' : Client}

theorem refl (c : Client) : c.NoBooking c := ⟨rfl, le_rfl⟩

theorem trans {c₁ c₂ c₃ : Client} (h : c₁.NoBooking c₂) (h' : c₂.NoBooking c₃) :
    c₁.NoBooking c₃ :=
  ⟨h'.nextCommandId.trans h.nextCommandId, h'.length_le.trans h.length_le⟩

theorem of_eq (hnext : c'.nextCommandId = c.nextCommandId)
    (hsame : c'.outstandingCommands = c.outstandingCommands) : c.NoBooking c' :=
  ⟨hnext, hsame ▸ le_rfl⟩

theorem removeOutstandingCommand (command : OutstandingCommand) (c : Client) :
    c.NoBooking (c.removeOutstandingCommand command) :=
  ⟨rfl, List.length_filter_le _ _⟩

theorem confirmOutstandingCommand (now : Nat) (command : OutstandingCommand) (c : Client) :
    c.NoBooking (c.confirmOutstandingCommand now command) :=
  ⟨rfl, (List.length_map _).le⟩

theorem checkOutstandingCommandTimeouts (cfg : IEC104ClientConfig) (currentTime : Nat)
    (c : Client) : c.NoBooking (c.checkOutstandingCommandTimeouts cfg currentTime) :=
  List.foldlRecOn (motive := c.NoBooking) _ _ (refl c) fun _ h command _ =>
    h.trans (removeOutstandingCommand command _)

theorem updateConnectionStatus (cfg : IEC104ClientConfig) (newState : ConnectionStatus)
    (c : Client) : c.NoBooking (c.updateConnectionStatus cfg newState) := by
  rw [updateConnectionStatus_eq]
  exact ⟨rfl, le_rfl⟩

theorem updateQualityForAllDataObjects (qd : BitVec 8) (c : Client) :
    c.NoBooking (c.updateQualityForAllDataObjects qd) := by
  rw [Client.updateQualityForAllDataObjects, sendQualityUpdates_eq]
  exact ⟨rfl, le_rfl⟩

theorem beginASDU (cfg : IEC104ClientConfig) (a : ASDU) (c : Client) :
    c.NoBooking (beginASDU cfg a c) := by
  rw [beginASDU_eq]
  exact ⟨rfl, le_rfl⟩

theorem sendConnectionStatus (cfg : IEC104ClientConfig) (c : Client) :
    c.NoBooking (c.sendConnectionStatus cfg) := by
  simp only [Client.sendConnectionStatus, sendSouthMonitoringEvent]
  split_ifs <;> exact ⟨rfl, le_rfl⟩

theorem reply (kind : ReplyKind) (now : Nat) (cot : Int) (oc : Option OutstandingCommand)
    (c : Client) : c.NoBooking (c.reply kind now cot oc) := by
  cases oc with
  | none => cases kind <;> exact refl c
  | some command =>
    cases kind with
    | none => exact refl c
    | command =>
      simp only [Client.reply, replyToCommand]
      split_ifs
      · exact confirmOutstandingCommand now command c
      · exact removeOutstandingCommand command c
      · exact refl c
    | setpoint =>
      simp only [Client.reply, replyToSetpoint]
      split_ifs
      · exact removeOutstandingCommand command c
      · exact refl c

theorem handleFound (cfg : IEC104ClientConfig) (now : Nat) (a : ASDU) (io : InformationObject)
    (label : Option String) (oc : Option OutstandingCommand) (r : AsduRun) :
    r.client.NoBooking (handleFound cfg now a io label oc r).client := by
  unfold Iec104South.handleFound
  split
  · exact refl _
  · next label =>
    have hgi : r.client.NoBooking (receivedInGi a io.objectAddress r.client) :=
      of_eq (Client.Frame.receivedInGi ..).nextCommandId (receivedInGi_outstandingCommands ..)
    have hreply := reply (replyKind a.typeId) now a.cot oc
      (receivedInGi a io.objectAddress r.client)
    refine hgi.trans (hreply.trans (of_eq ?_ ?_))
    · exact (Client.Frame.handleLabelled ..).nextCommandId.trans hreply.nextCommandId.symm
    · exact handleLabelled_outstandingCommands ..

end Client.NoBooking

namespace Plugin

/-- What the bookings of commands read and write. -/
def bookings (p : Plugin) : Nat × List OutstandingCommand :=
  (p.client.nextCommandId, p.client.outstandingCommands)

/-- The exchange table and the bookings, which a connection leaves to its client. -/
def kept (p : Plugin) : ExchangeTable × Nat × List OutstandingCommand :=
  (p.client.exchangeDefinitions, p.bookings)

theorem noBooking_of_kept {p q : Plugin} (h : q.kept = p.kept) : p.client.NoBooking q.client :=
  .of_eq (congrArg (·.2.1) h) (congrArg (·.2.2) h)

variable (cfg : IEC104ClientConfig) (env : Env) (p : Plugin)

theorem sendConnectionStatusAudit_kept (auditType : AuditType) :
    (p.sendConnectionStatusAudit auditType).kept = p.kept := by
  rw [sendConnectionStatusAudit_eq]
  rfl

theorem giTasks_kept : (p.giTasks cfg env).kept = p.kept := by
  refine giTasks_rule cfg env p (P := fun q => q.kept = p.kept) rfl ?_ ?_ ?_ ?_ ?_
  · intro q hq _
    rw [← hq, kept, bookings, startNewInterrogationCycle_client]
    rfl
  · exact fun q hq => hq
  · intro _ _ _ _
    rw [kept, bookings, failGiRequest_client]
    rfl
  · intro ca _ _ _ _ _
    rw [kept, bookings, sendGiToCa_client]
    rfl
  · exact fun _ _ _ _ => rfl

theorem conThread_kept : (p.conThread cfg env).kept = p.kept := by
  by_cases hactive : p.con.connectionState = .connectedActive
  · have hbefore : (p.beforeGi cfg env).kept = p.kept := by
      obtain ⟨_, _, heq⟩ := p.beforeGi_eq cfg env
      rw [heq]
      rfl
    rw [conThread_connectedActive cfg env p hactive]
    split_ifs
    · exact (giTasks_kept ..).trans hbefore
    · exact hbefore
  · obtain ⟨-, -, _, -, hclient⟩ := p.conThread_inactive cfg env hactive
    rw [kept, bookings, hclient]
    rfl

theorem conThreadDisconnect_kept : p.conThreadDisconnect.kept = p.kept := by
  unfold conThreadDisconnect
  split_ifs
  · exact sendConnectionStatusAudit_kept ..
  · rfl

theorem activate_kept : (p.handle cfg .activate).kept = p.kept := by
  simp only [handle, Connection.activate]
  split_ifs <;> rfl

theorem northInterrogation_kept (ca : Int) (accepted : Bool) :
    (p.northInterrogation ca accepted).kept = p.kept := by
  unfold northInterrogation
  split_ifs <;> rfl

theorem interrogationResponse_kept (now : Nat) (a : ASDU) :
    (p.interrogationResponse now a).kept = p.kept := by
  unfold interrogationResponse
  split_ifs <;> rfl

theorem unhandledASDU_kept (now : Nat) (a : ASDU) :
    (p.unhandledASDU cfg now a).2.kept = p.kept := by
  unfold unhandledASDU
  split
  · rfl
  · rfl
  · simp only [giReply, giConfirmed, giTerminated, giRejected]
    split_ifs <;> simp [kept, bookings]
  · rfl
  · rfl

end Plugin

/-- What a section does to the calls and to the outstanding commands, and what it reports. -/
inductive SectionEffect (cfg : IEC104ClientConfig) (s : System) :
    SystemInput → System × List CommandEvent → Prop
  | other {i : SystemInput} {s' : System} :
      s'.calls = s.calls → s.client.NoBooking s'.client → SectionEffect cfg s i (s', [])
  | checked {k : Nat} {op : CommandOperation} :
      s.calls k = .idle →
      SectionEffect cfg s (.call k op) (s.setCall k (.checked op), [.checked k])
  | unlisted {k : Nat} {op : CommandOperation} :
      s.calls k = .idle →
      SectionEffect cfg s (.call k op)
        ({ s with client := s.client.touch op.ca op.ioa }.setCall k (.returned false),
          [.returned k false])
  | refused {k now : Nat} {op : CommandOperation} :
      s.calls k = .checked op → s.client.limitReached cfg →
      SectionEffect cfg s (.book k now)
        (s.setCall k (.returned false), [.refused k, .returned k false])
  | booked {k now : Nat} {op : CommandOperation} :
      s.calls k = .checked op → ¬ s.client.limitReached cfg →
      SectionEffect cfg s (.book k now)
        ({ s with client := s.client.withBooked op now }.setCall k
            (.booked op (bookedCommand op now s.client)),
          [.booked k (bookedCommand op now s.client) s.client.outstandingCommands.length])
  | sent {k : Nat} {accepted : Bool} {op : CommandOperation} {command : OutstandingCommand}
      {con : ConId} {e : Effect} {out : List Effect} :
      s.calls k = .booked op command → s.client.activeConnection = some con →
      e.Carries op.typeId op.ca op.ioa →
      SectionEffect cfg s (.transmit k accepted)
        ({ s with client := { s.client with out := out } }.setCall k (.returned true),
          [.transmitted k con e, .returned k true])
  | failed {k : Nat} {accepted : Bool} {op : CommandOperation} {command : OutstandingCommand}
      {out : List Effect} {transmitted : List CommandEvent} :
      s.calls k = .booked op command →
      (transmitted = [] ∨
        ∃ con e, e.Carries op.typeId op.ca op.ioa ∧ transmitted = [.transmitted k con e]) →
      SectionEffect cfg s (.transmit k accepted)
        ({ s with
            client := { s.client with out := out }
            activeConnectionMtx := some k }.setCall k (.failed command), transmitted)
  | removed {k : Nat} {command : OutstandingCommand} :
      s.calls k = .failed command →
      SectionEffect cfg s (.removeOutstandingCommand k)
        ({ s with
            client := s.client.removeOutstandingCommand command
            activeConnectionMtx := none }.setCall k (.returned false), [.returned k false])

namespace SectionEffect

variable {cfg : IEC104ClientConfig} {redGroup : ConId → RedGroupCon} {s : System} {k : Nat}

/-- A section that has to wait, or whose call is not at it. -/
theorem idle (i : SystemInput) : SectionEffect cfg s i (s, []) := .other rfl (.refl _)

theorem underMtx {i : SystemInput} {f : System → System × List CommandEvent}
    (h : s.activeConnectionMtx = none → SectionEffect cfg s i (f s)) :
    SectionEffect cfg s i (s.underMtx f) := by
  unfold System.underMtx
  split_ifs with hfree
  · exact h hfree
  · exact idle i

theorem onConnection {i : SystemInput} {con : ConId} {f : Plugin → Plugin}
    (h : (f (s.plugin con)).kept = (s.plugin con).kept) :
    SectionEffect cfg s i (s.onConnection con f, []) :=
  .other rfl (Plugin.noBooking_of_kept h)

/-- The check of a listed address creates no slot in the table. -/
theorem touch_of_checked {op : CommandOperation} {c : Client} (h : (c.checkCommand op).1) :
    c.touch op.ca op.ioa = c := by
  simp only [Client.checkCommand, ExchangeTable.checkExchangeDataLayer] at h
  cases hfind : c.exchangeDefinitions.find? op.ca op.ioa with
  | none => simp [hfind] at h
  | some dp => rw [Client.touch, ExchangeTable.touch_of_find? hfind]

theorem call (op : CommandOperation) : SectionEffect cfg s (.call k op) (s.call k op) := by
  cases hcall : s.calls k with
  | idle =>
    rw [call_idle hcall]
    split_ifs with hlisted
    · rw [touch_of_checked hlisted]
      exact .checked hcall
    · exact .unlisted hcall
  | _ =>
    simp only [System.call, hcall]
    exact idle _

theorem book (now : Nat) : SectionEffect cfg s (.book k now) (s.book cfg k now) := by
  cases hcall : s.calls k with
  | checked op =>
    rw [book_checked cfg hcall]
    split_ifs with hlimit
    · exact .refused hcall hlimit
    · exact .booked hcall hlimit
  | _ =>
    simp only [System.book, hcall]
    exact idle _

theorem transmit (accepted : Bool) :
    SectionEffect cfg s (.transmit k accepted) (s.transmit k accepted) := by
  cases hcall : s.calls k with
  | booked op command =>
    obtain ⟨out, hout⟩ := transmitCommand_eq s.cons op accepted s.client
    obtain ⟨hsent, htransmissions⟩ := transmissions_cases op k accepted s
    rw [transmit_booked hcall, hsent, hout]
    split_ifs with hsends
    · rcases htransmissions with ⟨-, hfalse⟩ | ⟨con, e, hactive, hcarries, hone⟩
      · exact absurd (hsends.symm.trans hfalse) Bool.noConfusion
      · rw [hone]
        exact .sent hcall hactive hcarries
    · refine .failed hcall ?_
      rcases htransmissions with ⟨hnone, -⟩ | ⟨con, e, -, hcarries, hone⟩
      · exact .inl hnone
      · exact .inr ⟨con, e, hcarries, hone⟩
  | _ =>
    simp only [System.transmit, hcall]
    exact idle _

theorem removeOutstandingCommand :
    SectionEffect cfg s (.removeOutstandingCommand k) (s.removeOutstandingCommand k) := by
  cases hcall : s.calls k with
  | failed command =>
    rw [removeOutstandingCommand_failed hcall]
    exact .removed hcall
  | _ =>
    simp only [System.removeOutstandingCommand, hcall]
    exact idle _

theorem monitoringThread (timeInMs monotonicTimeInMs : Nat) (i : SystemInput) :
    SectionEffect cfg s i (s.monitoringThread cfg redGroup timeInMs monotonicTimeInMs, []) := by
  unfold System.monitoringThread
  split
  · split
    -- activating a connection touches its state, the status and `m_activeConnection`
    · next con _ =>
      have hactivate := Plugin.noBooking_of_kept (Plugin.activate_kept cfg (s.plugin con))
      set activated := ((s.plugin con).handle cfg .activate).client
      have hactive : activated.NoBooking { activated with activeConnection := some con } :=
        ⟨rfl, le_rfl⟩
      exact .other rfl (hactivate.trans (hactive.trans (.updateConnectionStatus cfg .started _)))
    · have hmark : (s.markNonTopical monotonicTimeInMs).calls = s.calls ∧
          s.client.NoBooking (s.markNonTopical monotonicTimeInMs).client := by
        unfold System.markNonTopical
        split_ifs
        · exact ⟨rfl, .updateQualityForAllDataObjects _ _⟩
        all_goals exact ⟨rfl, .refl _⟩
      have hstatus := hmark.2.trans (.updateConnectionStatus cfg .notConnected _)
      unfold System.connectBackups
      dsimp only
      split_ifs
      · exact .other hmark.1 hstatus
      · exact .other hmark.1 hstatus
  · dsimp only
    split_ifs
    · exact .other rfl ⟨rfl, le_rfl⟩
    · exact .other rfl (.refl _)

theorem sendInterrogationCommand (ca : Int) (accepted : Bool) (i : SystemInput) :
    SectionEffect cfg s i (s.sendInterrogationCommand cfg ca accepted, []) := by
  unfold System.sendInterrogationCommand
  split
  · exact onConnection (Plugin.northInterrogation_kept ..)
  · exact idle i

theorem receive (con : ConId) (a : ASDU) (now : Nat) (i : SystemInput) :
    SectionEffect cfg s i (s.receive cfg con a now, []) := by
  unfold System.receive
  split
  · have hresponse := Plugin.noBooking_of_kept
      (Plugin.interrogationResponse_kept (s.plugin con) now a)
    exact .other rfl (hresponse.trans (.beginASDU cfg a _))
  · exact idle i

theorem lookUp (con : ConId) (i : SystemInput) : SectionEffect cfg s i (s.lookUp con, []) := by
  unfold System.lookUp
  split
  · exact .other rfl ⟨rfl, le_rfl⟩
  · exact idle i

theorem handleElement (con : ConId) (now : Nat) (i : SystemInput) :
    SectionEffect cfg s i (s.handleElement cfg con now, []) := by
  unfold System.handleElement
  split
  · exact .other rfl (.refl _)
  · next a io elements label command handledAsdu datapoints labels _ =>
    exact .other rfl (.handleFound cfg now a io label command
      ⟨s.client, handledAsdu, datapoints, labels⟩)
  · exact idle i

theorem received (con : ConId) (now : Nat) (i : SystemInput) :
    SectionEffect cfg s i (s.received cfg con now, []) := by
  unfold System.received
  split
  · next a _ handledAsdu datapoints labels _ =>
    dsimp only
    split_ifs
    · exact .other rfl ⟨rfl, le_rfl⟩
    · have hsend : s.client.NoBooking (s.client.sendData datapoints labels) := ⟨rfl, le_rfl⟩
      have hunhandled := Plugin.noBooking_of_kept (Plugin.unhandledASDU_kept cfg
        ⟨s.client.sendData datapoints labels, s.cons con, con⟩ now a)
      exact .other rfl (hsend.trans hunhandled)
  · exact idle i

end SectionEffect

theorem systemStep_effect (cfg : IEC104ClientConfig) (redGroup : ConId → RedGroupCon) (s : System)
    (i : SystemInput) : SectionEffect cfg s i (systemStep cfg redGroup s i) := by
  cases i with
  | call k op => exact .call op
  | book k now => exact .underMtx fun _ => .book now
  | transmit k accepted => exact .underMtx fun _ => .transmit accepted
  | removeOutstandingCommand k => exact .removeOutstandingCommand
  | monitoringThreadStart timeInMs =>
    exact .other rfl ((Client.NoBooking.updateConnectionStatus cfg .notConnected _).trans
      (.updateQualityForAllDataObjects _ _))
  | monitoringThread timeInMs monotonicTimeInMs =>
    rw [systemStep]
    refine .underMtx fun _ => ?_
    exact .monitoringThread timeInMs monotonicTimeInMs _
  | monitoringThreadEnd =>
    rw [systemStep]
    refine .underMtx fun _ => ?_
    have hclear : s.client.NoBooking
        { s.client with activeConnection := none, outstandingCommands := [] } :=
      ⟨rfl, Nat.zero_le _⟩
    exact .other rfl (hclear.trans (.updateConnectionStatus cfg .notConnected _))
  | checkOutstandingCommandTimeouts currentTime =>
    exact .other rfl (.checkOutstandingCommandTimeouts cfg currentTime _)
  | receive con a now => exact .receive con a now _
  | lookUp con => exact .lookUp con _
  | handleElement con now => exact .handleElement con now _
  | received con now => exact .received con now _
  | connectionEvent con event now => exact .onConnection rfl
  | conThread con env => exact .onConnection (Plugin.conThread_kept ..)
  | conThreadDisconnect con => exact .onConnection (Plugin.conThreadDisconnect_kept _)
  | sendInterrogationCommand ca accepted =>
    rw [systemStep]
    refine .underMtx fun _ => ?_
    exact .sendInterrogationCommand ca accepted _
  | scheduleGI =>
    exact .other rfl (.of_eq (Client.Frame.requestGi _).nextCommandId
      (requestGi_outstandingCommands _))
  | sendConnectionStatus => exact .other rfl (.sendConnectionStatus cfg _)

/-! ## Inputs of sample runs -/

/-- A table with one single command. -/
def commandTable : ExchangeTable :=
  .ofDatapoints [{ ca := 1, ioa := 10, typeId := C_SC_NA_1, label := "c" }]

end Iec104South
