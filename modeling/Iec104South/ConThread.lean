import Iec104South.Commands
import Iec104South.ClientMachine

/-!
# The connection thread between its locks

`_conThread` section by section: between two sections the threads of lib60870, the monitoring
thread and the north operations run. The handle is taken and cleared under `m_conLock` and
destroyed after the lock is released, so what lib60870 delivers while `CS104_Connection_destroy`
runs is part of the machine.

* `ConThread.nextSection`: the next section of the thread.
* `conThreadStep`: one section, one callback of lib60870, or one call from another thread.
* `round_of_sections`: the sections of a round that nothing interrupts are `conThread` and
  `conThreadDisconnect`.
-/

namespace Iec104South

open Reactive

/-- Why `_conThread` takes the handle: to replace it, because of a disconnect request, or
because the thread ends. -/
inductive TakePurpose where
  | reconnect
  | disconnect
  | finish
deriving DecidableEq, Repr

/-- Where `_conThread` stands. -/
inductive Section where
  | notRunning
  /-- before the test of `m_started` and the switch -/
  | loop
  | take (purpose : TakePurpose)
  /-- in `CS104_Connection_destroy` -/
  | destroying (con : Handle) (purpose : TakePurpose)
  | taken (purpose : TakePurpose)
  /-- a delay has expired, and the state is about to be set to IDLE -/
  | expired
  | inactive
  | active
  | gi
  | closed
  /-- after the switch -/
  | checkDisconnect
deriving DecidableEq, Repr

/-- The handle that is being destroyed. -/
def Section.dying : Section → Option Handle
  | destroying con _ => some con
  | _ => none

/-- A connection with its thread, and what lib60870 knows of the handles. -/
structure ConThread where
  plugin : Plugin
  started : Bool := false
  pc : Section := .notRunning
  /-- created, and not destroyed when `CS104_Connection_destroy` has not returned -/
  undestroyed : List Handle := []
  /-- the handles whose session was opened or started, and not closed since -/
  openSessions : List Handle := []

/-- The variables that are set when the handle is taken. -/
def TakePurpose.take (con : Connection) : TakePurpose → Connection
  | reconnect => { con with startDtSent := false, connection := none }
  | disconnect =>
    { con with connected := false, connecting := false, disconnect := false, connection := none }
  | finish => { con with connection := none }

/-- The switch over the connection state, up to the first write of a case. -/
def Connection.switch (env : Env) (con : Connection) : Section :=
  match con.connectionState with
  | .idle => if con.connect then .take .reconnect else .checkDisconnect
  | .connecting => if con.delayExpirationTime < env.delayTime then .expired else .checkDisconnect
  | .connectedInactive => .inactive
  | .connectedActive => .active
  | .closed => .closed
  | .waitForReconnect =>
    if con.delayExpirationTime ≤ env.delayTime then .expired else .checkDisconnect
  | .fatalError => .checkDisconnect

namespace Plugin

/-- `CS104_Connection_destroy` is called for the taken handle, if there was one. -/
def takeHandle (purpose : TakePurpose) (p : Plugin) : Plugin :=
  { p.emit (p.con.connection.toList.map .destroy) with con := purpose.take p.con }

/-- The locked section of the IDLE case. `prepareConnection` creates a handle only when there
is none. -/
def prepare (env : Env) (p : Plugin) : Option Handle × Plugin :=
  match p.con.connection, env.created with
  | none, some handle =>
    (some handle, { p.emit [.create handle, .connectAsync handle] with
      con := { p.con with
        connection := some handle
        connectionState := .connecting
        connecting := true
        delayExpirationTime := (env.delayTime + 10000) % 2 ^ 64 } })
  | _, _ => (none, { p with con := { p.con with connectionState := .fatalError } })

/-- The time synchronisation part of a round in the active state. -/
def syncSection (cfg : IEC104ClientConfig) (env : Env) (p : Plugin) : Plugin :=
  let p := p.sendConnectionStatusAudit .active
  if cfg.isTimeSyncEnabled then p.timeSyncTasks cfg env else p

/-- The GI part. -/
def giSection (cfg : IEC104ClientConfig) (env : Env) (p : Plugin) : Plugin :=
  if !cfg.isTimeSyncEnabled || p.con.firstTimeSyncOperationCompleted then
    if cfg.giEnabled then p.giTasks cfg env else p
  else p

/-- The session is lost: wait before the next connection. -/
def closedSection (env : Env) (p : Plugin) : Plugin :=
  let p := p.sendConnectionStatusAudit .disconnected
  { p with con := { p.con with
    delayExpirationTime := (env.delayTime + 10000) % 2 ^ 64
    connectionState := .waitForReconnect } }

end Plugin

namespace ConThread

/-- The next section of `_conThread`. `CS104_Connection_destroy` closes an open session, and
returns after that. -/
def nextSection (cfg : IEC104ClientConfig) (env : Env) (s : ConThread) : ConThread :=
  match s.pc with
  | .notRunning => s
  | .loop => { s with pc := if s.started then s.plugin.con.switch env else .take .finish }
  | .take purpose =>
    { s with
      plugin := s.plugin.takeHandle purpose
      pc := match s.plugin.con.connection with
        | some con => .destroying con purpose
        | none => .taken purpose }
  | .destroying con purpose =>
    if con ∈ s.openSessions then s
    else { s with undestroyed := s.undestroyed.erase con, pc := .taken purpose }
  | .taken .reconnect =>
    let prepared := s.plugin.prepare env
    { s with
      plugin := prepared.2
      undestroyed := prepared.1.toList ++ s.undestroyed
      pc := .checkDisconnect }
  | .taken .disconnect =>
    { s with plugin := s.plugin.sendConnectionStatusAudit .disconnected, pc := .loop }
  | .taken .finish =>
    { s with plugin := s.plugin.sendConnectionStatusAudit .disconnected, pc := .notRunning }
  | .expired =>
    { s with
      plugin := { s.plugin with con := { s.plugin.con with connectionState := .idle } }
      pc := .checkDisconnect }
  | .inactive =>
    { s with plugin := s.plugin.sendConnectionStatusAudit .passive, pc := .checkDisconnect }
  | .active => { s with plugin := s.plugin.syncSection cfg env, pc := .gi }
  | .gi => { s with plugin := s.plugin.giSection cfg env, pc := .checkDisconnect }
  | .closed => { s with plugin := s.plugin.closedSection env, pc := .checkDisconnect }
  | .checkDisconnect =>
    { s with pc := if s.plugin.con.disconnect then .take .disconnect else .loop }

end ConThread

/-! ## A round that nothing interrupts -/

namespace ConThread

variable (cfg : IEC104ClientConfig) (env : Env) {s : ConThread}

/-- The sections of the thread lead from one state to another. -/
def Reaches (s s' : ConThread) : Prop := ∃ n, (nextSection cfg env)^[n] s = s'

theorem nextSection_openSessions : (s.nextSection cfg env).openSessions = s.openSessions := by
  unfold nextSection
  split <;> (try split_ifs) <;> rfl

section

variable {cfg env}

theorem Reaches.trans {s' s'' : ConThread} (h : Reaches cfg env s s')
    (h' : Reaches cfg env s' s'') : Reaches cfg env s s'' := by
  obtain ⟨n, rfl⟩ := h
  obtain ⟨n', rfl⟩ := h'
  exact ⟨n' + n, Function.iterate_add_apply ..⟩

theorem Reaches.openSessions {s' : ConThread} (h : Reaches cfg env s s') :
    s'.openSessions = s.openSessions := by
  obtain ⟨n, rfl⟩ := h
  induction n with
  | zero => rfl
  | succ n ih => rw [Function.iterate_succ_apply', nextSection_openSessions, ih]

theorem reaches_next {s' : ConThread} (h : s.nextSection cfg env = s') : Reaches cfg env s s' :=
  ⟨1, h⟩

end

/-- Taking a handle without an open session. -/
theorem reaches_taken {purpose : TakePurpose} (hpc : s.pc = .take purpose)
    (hclosed : s.openSessions = []) :
    ∃ s', Reaches cfg env s s' ∧ s'.pc = .taken purpose ∧
      s'.plugin = s.plugin.takeHandle purpose := by
  cases hcon : s.plugin.con.connection with
  | none =>
    refine ⟨_, reaches_next rfl, ?_, ?_⟩
    · simp [nextSection, hpc, hcon]
    · simp [nextSection, hpc]
  | some con =>
    have htake : s.nextSection cfg env =
        { s with plugin := s.plugin.takeHandle purpose, pc := .destroying con purpose } := by
      simp [nextSection, hpc, hcon]
    refine ⟨_, (reaches_next htake).trans (reaches_next rfl), ?_, ?_⟩
    · simp [nextSection, hclosed]
    · simp [nextSection, hclosed]

/-- The sections of the switch. -/
theorem reaches_checkDisconnect (hpc : s.pc = .loop) (hstarted : s.started)
    (hclosed : s.plugin.con.connectionState = .idle ∧ s.plugin.con.connect →
      s.openSessions = []) :
    ∃ s', Reaches cfg env s s' ∧ s'.pc = .checkDisconnect ∧
      s'.plugin = s.plugin.conThread cfg env := by
  have hswitch : s.nextSection cfg env = { s with pc := s.plugin.con.switch env } := by
    simp [nextSection, hpc, hstarted]
  cases hstate : s.plugin.con.connectionState with
  | idle =>
    cases hconnect : s.plugin.con.connect with
    | false =>
      refine ⟨_, reaches_next hswitch, ?_, ?_⟩
      · simp [Connection.switch, hstate, hconnect]
      · simp [Plugin.conThread, hstate, hconnect]
    | true =>
      obtain ⟨s', hreach, hpc', hplugin⟩ := reaches_taken cfg env
        (s := { s with pc := .take .reconnect }) rfl (hclosed ⟨hstate, hconnect⟩)
      have htake : s.nextSection cfg env = { s with pc := .take .reconnect } := by
        simp [hswitch, Connection.switch, hstate, hconnect]
      refine ⟨_, ((reaches_next htake).trans hreach).trans (reaches_next rfl), ?_, ?_⟩
      · simp [nextSection, hpc']
      · cases hcreated : env.created with
        | none =>
          simp [nextSection, hpc', hplugin, Plugin.prepare, Plugin.takeHandle, TakePurpose.take,
            Plugin.conThread, hstate, hconnect, hcreated]
        | some con =>
          simp [nextSection, hpc', hplugin, Plugin.prepare, Plugin.takeHandle, TakePurpose.take,
            Plugin.conThread, hstate, hconnect, hcreated]
          rfl
  | connecting =>
    by_cases hexpired : s.plugin.con.delayExpirationTime < env.delayTime
    · refine ⟨_, (reaches_next hswitch).trans (reaches_next rfl), ?_, ?_⟩
      · simp [nextSection, Connection.switch, hstate, hexpired]
      · simp [nextSection, Connection.switch, Plugin.conThread, hstate, hexpired]
    · refine ⟨_, reaches_next hswitch, ?_, ?_⟩
      · simp [Connection.switch, hstate, hexpired]
      · simp [Plugin.conThread, hstate, hexpired]
  | waitForReconnect =>
    by_cases hexpired : s.plugin.con.delayExpirationTime ≤ env.delayTime
    · refine ⟨_, (reaches_next hswitch).trans (reaches_next rfl), ?_, ?_⟩
      · simp [nextSection, Connection.switch, hstate, hexpired]
      · simp [nextSection, Connection.switch, Plugin.conThread, hstate, hexpired]
    · refine ⟨_, reaches_next hswitch, ?_, ?_⟩
      · simp [Connection.switch, hstate, hexpired]
      · simp [Plugin.conThread, hstate, hexpired]
  | connectedInactive | closed =>
    refine ⟨_, (reaches_next hswitch).trans (reaches_next rfl), ?_, ?_⟩
    · simp [nextSection, Connection.switch, hstate]
    · simp [nextSection, Connection.switch, Plugin.conThread, Plugin.closedSection, hstate]
  | connectedActive =>
    refine ⟨_, ((reaches_next hswitch).trans (reaches_next rfl)).trans (reaches_next rfl), ?_, ?_⟩
    · simp [nextSection, Connection.switch, hstate]
    · simp [nextSection, Connection.switch, hstate, Plugin.conThread, Plugin.syncSection,
        Plugin.giSection, Plugin.executePeriodicTasks]
  | fatalError =>
    refine ⟨_, reaches_next hswitch, ?_, ?_⟩
    · simp [Connection.switch, hstate]
    · simp [Plugin.conThread, hstate]

theorem reaches_loop (hpc : s.pc = .checkDisconnect)
    (hclosed : s.plugin.con.disconnect → s.openSessions = []) :
    ∃ s', Reaches cfg env s s' ∧ s'.pc = .loop ∧ s'.plugin = s.plugin.conThreadDisconnect := by
  cases hdisconnect : s.plugin.con.disconnect with
  | false =>
    refine ⟨_, reaches_next rfl, ?_, ?_⟩
    · simp [nextSection, hpc, hdisconnect]
    · simp [nextSection, hpc, Plugin.conThreadDisconnect, hdisconnect]
  | true =>
    obtain ⟨s', hreach, hpc', hplugin⟩ := reaches_taken cfg env
      (s := { s with pc := .take .disconnect }) rfl (hclosed hdisconnect)
    have htake : s.nextSection cfg env = { s with pc := .take .disconnect } := by
      simp [nextSection, hpc, hdisconnect]
    refine ⟨_, ((reaches_next htake).trans hreach).trans (reaches_next rfl), ?_, ?_⟩
    · simp [nextSection, hpc']
    · simp [nextSection, hpc', hplugin, Plugin.conThreadDisconnect, hdisconnect,
        Plugin.takeHandle, TakePurpose.take]

/-- The sections of a round that nothing interrupts are the two parts of the round. A handle that
is destroyed in the round has no open session. -/
theorem round_of_sections (s : ConThread) (hpc : s.pc = .loop) (hstarted : s.started)
    (hclosed : s.plugin.con.connectionState = .idle ∧ s.plugin.con.connect ∨
      s.plugin.con.disconnect → s.openSessions = []) :
    ∃ n, ((nextSection cfg env)^[n] s).pc = .loop ∧
      ((nextSection cfg env)^[n] s).plugin = (s.plugin.conThread cfg env).conThreadDisconnect := by
  obtain ⟨s', hswitch, hpc', hplugin'⟩ := reaches_checkDisconnect cfg env hpc hstarted
    fun h => hclosed (.inl h)
  have hkept : s'.plugin.con.disconnect = s.plugin.con.disconnect := by
    rw [hplugin']
    exact (congrArg Link.disconnect (s.plugin.conThread_link cfg env).1).trans
      (Plugin.conThreadLink_disconnect env s.plugin.con)
  obtain ⟨s'', hdisconnect, hpc'', hplugin''⟩ := reaches_loop cfg env hpc' fun h =>
    hswitch.openSessions.trans (hclosed (.inr (hkept.symm.trans h)))
  obtain ⟨n, rfl⟩ := hswitch.trans hdisconnect
  exact ⟨n, hpc'', hplugin''.trans (congrArg Plugin.conThreadDisconnect hplugin')⟩

end ConThread

/-! ## Everything that reaches the connection -/

/-- The inputs that are calls from other threads. -/
def Input.isCall : Input → Bool
  | .connectionEvent .. | .asdu .. | .conThread .. | .conThreadDisconnect => false
  | _ => true

inductive ConThreadInput where
  /-- `Start`, with `Conn()` of the configured connection -/
  | start (conn : Bool)
  /-- `Stop`, which then waits for the end of the thread -/
  | stop
  | conThread (env : Env)
  | connectionEvent (con : Handle) (event : ConnectionEvent) (now : Nat)
  | asdu (con : Handle) (a : ASDU) (now : Nat)
  /-- a command operation sends over this connection -/
  | sendCommand (op : CommandOperation) (accepted : Bool)
  | call (i : Input)

namespace ConThread

/-- `Start` is not called before a `Stop` has returned. -/
def start (conn : Bool) (s : ConThread) : ConThread :=
  if s.started = false ∧ s.pc = .notRunning then
    { s with
      plugin := { s.plugin with con := { s.plugin.con with connect := conn } }
      started := true
      pc := .loop }
  else s

/-- lib60870 delivers an event of a handle that is not destroyed. -/
def connectionEvent (con : Handle) (event : ConnectionEvent) (now : Nat) (s : ConThread) :
    ConThread :=
  if con ∈ s.undestroyed then
    { s with
      plugin := { s.plugin with con := s.plugin.con.connectionHandler event now }
      openSessions :=
        match event with
        | .closed => s.openSessions.filter (· ≠ con)
        | .opened | .startdtConReceived | .stopdtConReceived => con :: s.openSessions
        | .other => s.openSessions }
  else s

def handle (cfg : IEC104ClientConfig) (s : ConThread) : ConThreadInput → ConThread
  | .start conn => s.start conn
  | .stop => { s with started := false }
  | .conThread env => s.nextSection cfg env
  | .connectionEvent con event now => s.connectionEvent con event now
  | .asdu con a now =>
    if con ∈ s.undestroyed then { s with plugin := (s.plugin.asduReceivedHandler cfg now a).2 }
    else s
  | .sendCommand op accepted =>
    { s with plugin := s.plugin.emit (op.send accepted s.plugin.con).2 }
  | .call i => if i.isCall then { s with plugin := s.plugin.handle cfg i } else s

def clear (s : ConThread) : ConThread := { s with plugin := s.plugin.clear }

/-- A connection as it is constructed; its thread is not started. -/
def init (t : ExchangeTable) (self : ConId) : ConThread where
  plugin := Plugin.init t self

end ConThread

/-- One step of a connection, its thread and lib60870. -/
def conThreadStep (cfg : IEC104ClientConfig) : Machine ConThread ConThreadInput Effect :=
  fun s i => (s.clear.handle cfg i, (s.clear.handle cfg i).plugin.client.out)

end Iec104South
