import Iec104South.HandleDiscipline
import Iec104South.Lib.Progress

/-!
# The next connection attempt

`connects_again`: a connection that is asked for and has no session calls
`CS104_Connection_connectAsync` again. At most five sections of the thread begin the last delay,
and when its 10 seconds are over at most ten more lead to the call, from wherever the thread
stands and whatever the other threads do, as long as nobody disconnects it and lib60870 delivers
nothing. A fatal error is left out: no attempt follows it (`fatal_error_final`).

* `Recovering`: nothing but the delay keeps the connection from its next attempt.
* `toDelay`, `toConnect`: how many sections there are to the last delay, and to the call.
-/

namespace Iec104South

open Reactive

/-- The states in which a connection without a session waits for the next one. -/
def ConState.Waits : ConState → Prop
  | .idle | .connecting | .closed | .waitForReconnect => True
  | .connectedInactive | .connectedActive | .fatalError => False

instance : DecidablePred ConState.Waits
  | .idle | .connecting | .closed | .waitForReconnect => isTrue trivial
  | .connectedInactive | .connectedActive | .fatalError => isFalse id

/-- The sections in which the thread ends. -/
def Section.Ends : Section → Prop
  | .take .finish | .destroying _ .finish | .taken .finish | .notRunning => True
  | _ => False

/-- The sections until the thread has finished its round. -/
def Section.toLoop : Section → Nat
  | .notRunning | .loop => 0
  | .checkDisconnect | .taken _ => 1
  | .destroying _ _ | .expired | .inactive | .gi | .closed => 2
  | .take _ | .active => 3

/-- The sections until the delay before the next attempt has begun. -/
def toDelay (state : ConState) : Section → Nat
  | .take .reconnect | .destroying _ .reconnect | .taken .reconnect | .expired => 0
  | .closed => 1
  | pc => if state = .closed then pc.toLoop + 2 else 0

/-- The sections until the attempt, when the delay is over. -/
def toConnect (state : ConState) : Section → Nat
  | .taken .reconnect => 1
  | .destroying _ .reconnect => 2
  | .take .reconnect => 3
  | .expired => 6
  | pc => pc.toLoop + if state = .idle then 4 else 7

/-- The thread runs, the connection is asked for, and there is no session. The delay ends 10 seconds
after `now` at the latest. -/
structure Recovering (now : Nat) (s : ConThread) : Prop where
  started : s.started
  running : ¬ s.pc.Ends
  connect : s.plugin.con.connect
  undisturbed : s.plugin.con.disconnect = false
  down : s.plugin.con.connectionState.Waits
  closed : s.openSessions = []
  delay : s.plugin.con.delayExpirationTime ≤ now + 10000

/-- The sections that lead back to the switch. -/
def Section.Returns : Section → Prop
  | .loop | .checkDisconnect | .inactive | .active | .gi | .take .disconnect
  | .destroying _ .disconnect | .taken .disconnect => True
  | _ => False

theorem Section.Returns.toDelay {pc : Section} (h : pc.Returns) (state : ConState) :
    toDelay state pc = if state = .closed then pc.toLoop + 2 else 0 := by
  unfold Returns at h
  split at h <;> first | rfl | cases h

theorem Section.Returns.toConnect {pc : Section} (h : pc.Returns) (state : ConState) :
    toConnect state pc = pc.toLoop + if state = .idle then 4 else 7 := by
  unfold Returns at h
  split at h <;> first | rfl | cases h

theorem Section.Returns.not_ends {pc : Section} (h : pc.Returns) : ¬ pc.Ends := by
  unfold Returns at h
  split at h <;> first | exact id | cases h

/-! ## The sections of the thread -/

/-- A section of the thread attempts a connection, or comes nearer to it. -/
inductive RecoveryStep (now : Nat) (env : Env) (s s' : ConThread) : Prop where
  | connects (con : Handle) (h : .connectAsync con ∈ s'.plugin.client.out)
  | recovers (h : Recovering now s')
      (hdelay : toDelay s'.plugin.con.connectionState s'.pc ≤
        toDelay s.plugin.con.connectionState s.pc - 1)
      (hconnect : toDelay s.plugin.con.connectionState s.pc = 0 → now + 10000 < env.delayTime →
        toConnect s'.plugin.con.connectionState s'.pc <
          toConnect s.plugin.con.connectionState s.pc)

namespace Recovering

variable {cfg : IEC104ClientConfig} {now : Nat} {s : ConThread}

theorem of_keepsSetUp (hs : Recovering now s) {q : Plugin} (hq : KeepsSetUp s.plugin q)
    {s' : ConThread} (hplugin : s'.plugin = q) (hstarted : s'.started = s.started)
    (hrunning : ¬ s'.pc.Ends) (hclosed : s'.openSessions = s.openSessions) :
    Recovering now s' := by
  subst hplugin
  refine ⟨hstarted ▸ hs.started, hrunning, hq.connect hs.connect, hq.undisturbed hs.undisturbed,
    ?_, hclosed.trans hs.closed, ?_⟩
  · rw [hq.connectionState]
    exact hs.down
  · rw [hq.delay]
    exact hs.delay

theorem not_ends (hs : Recovering now s) {pc : Section} (hpc : s.pc = pc) : ¬ pc.Ends :=
  hpc ▸ hs.running

/-- A section on the way back to the switch. -/
theorem returns (hs : Recovering now s) (env : Env) (hpc : s.pc.Returns) {q : Plugin}
    (hq : KeepsSetUp s.plugin q) {pc : Section} (hpc' : pc.Returns)
    (hless : pc.toLoop < s.pc.toLoop) :
    RecoveryStep now env s { s with plugin := q, pc := pc } := by
  refine .recovers (hs.of_keepsSetUp hq rfl rfl hpc'.not_ends rfl) ?_ fun _ _ => ?_
  · simp only [hq.connectionState, hpc.toDelay, hpc'.toDelay]
    split_ifs
    · omega
    · omega
  · simp only [hq.connectionState, hpc.toConnect, hpc'.toConnect]
    omega

/-- The switch, where the connection is down. -/
theorem switch (hs : Recovering now s) (env : Env) (hpc : s.pc = .loop) :
    RecoveryStep now env s { s with pc := s.plugin.con.switch env } := by
  have hnext {pc : Section} (hpc' : ¬ pc.Ends) : Recovering now { s with pc := pc } :=
    hs.of_keepsSetUp (.refl _) rfl rfl hpc' rfl
  have hexpires (hpc' : s.plugin.con.switch env = .expired)
      (hstate : s.plugin.con.connectionState ≠ .idle) :
      RecoveryStep now env s { s with pc := s.plugin.con.switch env } := by
    rw [hpc']
    refine .recovers (hnext id) (Nat.zero_le _) fun _ _ => ?_
    simp [toConnect, hpc, hstate, Section.toLoop]
  have hwaits (hpc' : s.plugin.con.switch env = .checkDisconnect)
      (hstate : s.plugin.con.connectionState ≠ .closed)
      (hdelay : env.delayTime ≤ s.plugin.con.delayExpirationTime) :
      RecoveryStep now env s { s with pc := s.plugin.con.switch env } := by
    rw [hpc']
    refine .recovers (hnext id) ?_ fun _ hover => ?_
    · simp [toDelay, hstate]
    · exact absurd (hdelay.trans hs.delay) (Nat.not_le_of_lt hover)
  cases hstate : s.plugin.con.connectionState with
  | idle =>
    have htake : s.plugin.con.switch env = .take .reconnect := by
      simp [Connection.switch, hstate, hs.connect]
    rw [htake]
    refine .recovers (hnext id) (Nat.zero_le _) fun _ _ => ?_
    simp [toConnect, hpc, hstate, Section.toLoop]
  | connecting =>
    by_cases hexpired : s.plugin.con.delayExpirationTime < env.delayTime
    · exact hexpires (by simp [Connection.switch, hstate, hexpired]) (by simp [hstate])
    · exact hwaits (by simp [Connection.switch, hstate, hexpired]) (by simp [hstate])
        (Nat.le_of_not_lt hexpired)
  | waitForReconnect =>
    by_cases hexpired : s.plugin.con.delayExpirationTime ≤ env.delayTime
    · exact hexpires (by simp [Connection.switch, hstate, hexpired]) (by simp [hstate])
    · exact hwaits (by simp [Connection.switch, hstate, hexpired]) (by simp [hstate])
        (Nat.le_of_not_le hexpired)
  | closed =>
    have hclosed : s.plugin.con.switch env = .closed := by simp [Connection.switch, hstate]
    rw [hclosed]
    refine .recovers (hnext id) ?_ fun hdelay => ?_
    · simp [toDelay, hpc, hstate, Section.toLoop]
    · simp [toDelay, hpc, hstate] at hdelay
  | connectedInactive | connectedActive | fatalError =>
    have hdown := hs.down
    rw [hstate] at hdown
    exact hdown.elim

/-- The handle is taken: the next section is one nearer. -/
theorem take (hs : Recovering now s) (env : Env) {purpose : TakePurpose}
    (hpc : s.pc = .take purpose) {pc : Section} (hpc' : pc = .taken purpose ∨
      ∃ con, pc = .destroying con purpose) :
    RecoveryStep now env s { s with plugin := s.plugin.takeHandle purpose, pc := pc } := by
  have htaken : KeepsSetUp s.plugin (s.plugin.takeHandle purpose) := .takeHandle purpose
  cases purpose with
  | reconnect =>
    rcases hpc' with rfl | ⟨con, rfl⟩ <;>
    · refine .recovers (hs.of_keepsSetUp htaken rfl rfl id rfl) (Nat.zero_le _) fun _ _ => ?_
      simp [toConnect, hpc]
  | disconnect =>
    have hreturns : s.pc.Returns := by rw [hpc]; trivial
    rcases hpc' with rfl | ⟨con, rfl⟩ <;>
    · refine hs.returns env hreturns htaken trivial ?_
      simp [hpc, Section.toLoop]
  | finish => exact absurd trivial (hs.not_ends hpc)

/-- The handle is destroyed. -/
theorem destroyed (hs : Recovering now s) (env : Env) {con : Handle} {purpose : TakePurpose}
    (hpc : s.pc = .destroying con purpose) :
    RecoveryStep now env s
      { s with undestroyed := s.undestroyed.erase con, pc := .taken purpose } := by
  have hnext (h : ¬ (Section.taken purpose).Ends) :
      Recovering now { s with undestroyed := s.undestroyed.erase con, pc := .taken purpose } :=
    hs.of_keepsSetUp (.refl _) rfl rfl h rfl
  cases purpose with
  | reconnect =>
    refine .recovers (hnext id) (Nat.zero_le _) fun _ _ => ?_
    simp [toConnect, hpc]
  | disconnect =>
    refine .recovers (hnext id) ?_ fun _ _ => ?_
    · simp only [toDelay, hpc, Section.toLoop]
      split_ifs <;> omega
    · simp [toConnect, hpc, Section.toLoop]
  | finish => exact absurd trivial (hs.not_ends hpc)

theorem thread (hs : Recovering now s) (hhandles : HandleInv s) {env : Env}
    (hcreated : env.created.isSome)
    (htime : env.delayTime ≤ now ∨ toDelay s.plugin.con.connectionState s.pc = 0)
    {s' : ConThread} (h : ThreadEffect cfg env s s') : RecoveryStep now env s s' := by
  cases h with
  | stays hpc =>
    rcases hpc with hpc | ⟨con, hopen, -⟩
    · exact absurd trivial (hs.not_ends hpc)
    · rw [hs.closed] at hopen
      cases hopen
  | decides hpc h =>
    cases h with
    | switch => exact hs.switch env hpc
    | finish hstopped => exact absurd (hs.started.symm.trans hstopped) Bool.noConfusion
    | disconnect hdisconnect =>
      exact absurd (hdisconnect.symm.trans hs.undisturbed) Bool.noConfusion
    | loop =>
      refine hs.returns env (by rw [hpc]; trivial) (.refl _) trivial ?_
      rw [hpc]
      decide
  | takes hpc => exact hs.take env hpc (.inl rfl)
  | destroys hpc => exact hs.take env hpc (.inr ⟨_, rfl⟩)
  | destroyed hpc => exact hs.destroyed env hpc
  | works hpc h =>
    have hsetUp := h.keepsSetUp
    cases h with
    | finished => exact absurd trivial (hs.not_ends hpc)
    | disconnected | inactive | active | gi =>
      refine hs.returns env (by rw [hpc]; trivial) hsetUp trivial ?_
      rw [hpc]
      decide
  | @creates con _ hnone hcreated =>
    refine .connects con ?_
    simp [Plugin.prepare, hnone, hcreated, Plugin.emit]
  | fails hpc hfails =>
    have hnone := hfails (hhandles.taken hpc).1
    rw [hnone] at hcreated
    cases hcreated
  | expires hpc =>
    refine .recovers ⟨hs.started, id, hs.connect, hs.undisturbed, trivial, hs.closed, hs.delay⟩
      (by simp [toDelay]) fun _ _ => ?_
    simp [toConnect, hpc, Section.toLoop]
  | loses hpc =>
    have hreading : env.delayTime ≤ now := htime.resolve_right (by simp [toDelay, hpc])
    simp only [Plugin.closedSection, Plugin.sendConnectionStatusAudit_eq]
    refine .recovers ⟨hs.started, id, hs.connect, hs.undisturbed, trivial, hs.closed, ?_⟩
      (by simp [toDelay]) fun hdelay => ?_
    · exact (Nat.mod_le _ _).trans (Nat.add_le_add_right hreading 10000)
    · simp [toDelay, hpc] at hdelay

end Recovering

/-! ## The other threads -/

/-- Nobody disconnects or stops the connection, and lib60870 reports nothing of it. The handles can
be created, and the clock is in a range. -/
def Quiet (clock : Nat → Prop) : ConThreadInput → Prop
  | .conThread env => clock env.delayTime ∧ env.created.isSome
  | .start _ | .sendCommand .. => True
  | .connectionEvent _ event _ => event = .other
  | .call i => i ≠ .disonnect
  | .stop | .asdu .. => False

def ConThreadInput.isSection : ConThreadInput → Bool
  | .conThread _ => true
  | _ => false

namespace Recovering

variable {cfg : IEC104ClientConfig} {now : Nat} {s : ConThread}

theorem call (hs : Recovering now s) {i : Input} (hcall : i.isCall) (hi : i ≠ .disonnect) :
    KeepsSetUp s.plugin (s.plugin.handle cfg i) := by
  have hinactive : s.plugin.con.connectionState ≠ .connectedInactive := by
    intro hstate
    have hdown := hs.down
    rw [hstate] at hdown
    exact hdown
  cases i with
  | connectionEvent _ _ | asdu _ _ | conThread _ | conThreadDisconnect => cases hcall
  | disonnect => exact absurd rfl hi
  | connect => exact ⟨fun _ => rfl, fun _ => rfl, rfl, rfl⟩
  | activate =>
    have hsame : s.plugin.con.activate = ([], s.plugin.con) := by
      simp [Connection.activate, hinactive]
    simp only [Plugin.handle, hsame]
    exact .of_link rfl rfl
  | setActiveConnection | updateConnectionStatus _ | updateQualityForAllDataObjects _
  | sendConnectionStatus => exact .of_link rfl rfl
  | sendInterrogationCommand ca accepted =>
    simp only [Plugin.handle, Plugin.northInterrogation]
    split_ifs <;> exact .of_link rfl rfl
  | scheduleGI =>
    simp only [Plugin.handle, Plugin.scheduleGI]
    exact .of_link rfl rfl

/-- What the other threads do meanwhile. -/
theorem other (hs : Recovering now s) {clock : Nat → Prop} {i : ConThreadInput}
    (hi : Quiet clock i) (hsection : i.isSection = false) :
    Recovering now (s.handle cfg i) ∧ (s.handle cfg i).pc = s.pc ∧
      (s.handle cfg i).plugin.con.connectionState = s.plugin.con.connectionState := by
  cases i with
  | conThread env => cases hsection
  | stop | asdu _ _ _ => exact hi.elim
  | start conn =>
    have hstart : s.handle cfg (.start conn) = s := by
      simp [ConThread.handle, ConThread.start, hs.started]
    rw [hstart]
    exact ⟨hs, rfl, rfl⟩
  | sendCommand op accepted =>
    have hkeeps : KeepsSetUp s.plugin (s.handle cfg (.sendCommand op accepted)).plugin :=
      .of_link rfl rfl
    exact ⟨hs.of_keepsSetUp hkeeps rfl rfl hs.running rfl, rfl, rfl⟩
  | connectionEvent con event time =>
    obtain rfl : event = .other := hi
    simp only [ConThread.handle, ConThread.connectionEvent]
    split_ifs
    · exact ⟨hs.of_keepsSetUp (.refl _) rfl rfl hs.running rfl, rfl, rfl⟩
    · exact ⟨hs, rfl, rfl⟩
  | call i =>
    simp only [ConThread.handle]
    split_ifs with hcall
    · have hkeeps : KeepsSetUp s.plugin (s.plugin.handle cfg i) := hs.call hcall hi
      exact ⟨hs.of_keepsSetUp hkeeps rfl rfl hs.running rfl, rfl, hkeeps.connectionState⟩
    · exact ⟨hs, rfl, rfl⟩

end Recovering

/-! ## Runs -/

theorem Connection.switch_not_ends (env : Env) (con : Connection) : ¬ (con.switch env).Ends := by
  unfold Connection.switch
  split <;> (try split_ifs) <;> exact id

namespace ConThread

variable (cfg : IEC104ClientConfig) {s : ConThread} {now : Nat}

/-- The sections in which the thread ends are reached after `Stop` only. -/
theorem thread_ends {env : Env} {s' : ConThread} (h : ThreadEffect cfg env s s')
    (hs : s.started → ¬ s.pc.Ends) : s'.started → ¬ s'.pc.Ends := by
  cases h with
  | stays => exact hs
  | decides hpc h =>
    cases h with
    | switch => exact fun _ => s.plugin.con.switch_not_ends env
    | finish hstopped => exact fun hstarted => absurd (hstopped.symm.trans hstarted) nofun
    | disconnect | loop => exact fun _ => id
  | @takes purpose hpc | @destroys purpose _ hpc | @destroyed _ purpose hpc =>
    intro hstarted
    have hpurpose := hs hstarted
    rw [hpc] at hpurpose
    cases purpose <;> exact hpurpose
  | works hpc h =>
    cases h with
    | finished =>
      intro hstarted
      have hrunning := hs hstarted
      rw [hpc] at hrunning
      exact absurd trivial hrunning
    | disconnected | inactive | active | gi => exact fun _ => id
  | creates | fails | expires | loses => exact fun _ => id

theorem handle_ends (hs : s.started → ¬ s.pc.Ends) {i : ConThreadInput} {s' : ConThread}
    (h : StepEffect cfg s i s') : s'.started → ¬ s'.pc.Ends := by
  cases h with
  | thread h => exact thread_ends cfg h hs
  | keeps | activates => exact hs
  | starts => exact fun _ => id
  | stops => exact fun hstarted => absurd hstarted Bool.false_ne_true
  | event hcon =>
    simp only [connectionEvent, if_pos hcon]
    exact hs

/-- The delay is kept, or begins at the reading of the clock. -/
theorem thread_delay {env : Env} {s' : ConThread} (h : ThreadEffect cfg env s s') :
    s'.plugin.con.delayExpirationTime = s.plugin.con.delayExpirationTime ∨
      s'.plugin.con.delayExpirationTime = (env.delayTime + 10000) % 2 ^ 64 := by
  cases h with
  | stays | decides | destroyed | fails | expires => exact .inl rfl
  | @takes purpose | @destroys purpose =>
    have hkept : KeepsSetUp s.plugin (s.plugin.takeHandle purpose) := .takeHandle purpose
    exact .inl hkept.delay
  | works _ h => exact .inl h.keepsSetUp.delay
  | creates _ hnone hcreated => exact .inr (by simp [Plugin.prepare, hnone, hcreated])
  | loses => exact .inr rfl

/-- The delay does not end later than 10 seconds after the last reading of the clock. -/
theorem handle_delay (hs : s.plugin.con.delayExpirationTime ≤ now + 10000) {i : ConThreadInput}
    (hi : ∀ env, i = .conThread env → env.delayTime ≤ now) :
    (s.handle cfg i).plugin.con.delayExpirationTime ≤ now + 10000 := by
  cases i with
  | conThread env =>
    rcases thread_delay cfg (s.nextSection_effect cfg env) with hkept | hbegun
    · exact hkept.le.trans hs
    · have hreading := hi env rfl
      exact hbegun.le.trans ((Nat.mod_le _ _).trans (Nat.add_le_add_right hreading 10000))
  | stop | sendCommand _ _ => exact hs
  | start conn =>
    simp only [handle, start]
    split_ifs <;> exact hs
  | connectionEvent con event time =>
    simp only [handle, connectionEvent]
    split_ifs
    · cases event <;> exact hs
    · exact hs
  | asdu con a time =>
    simp only [handle]
    split_ifs
    · exact (s.plugin.asduReceivedHandler_keepsDelay cfg time a).delay.le.trans hs
    · exact hs
  | call i =>
    simp only [handle]
    split_ifs with hcall
    · have hkeeps := s.plugin.handle_keepsDelay cfg fun env (h : i = .conThread env) => by
        subst h
        cases hcall
      exact hkeeps.delay.le.trans hs
    · exact hs

end ConThread

/-- What is emitted when a connection is attempted. -/
def Effect.attempts (e : Effect) : Prop := ∃ con, e = .connectAsync con

theorem toDelay_le {state : ConState} {pc : Section} : toDelay state pc ≤ 5 := by
  unfold toDelay
  split <;> (try split_ifs) <;> (try cases pc) <;> simp [Section.toLoop]

theorem toConnect_le {state : ConState} {pc : Section} : toConnect state pc ≤ 10 := by
  unfold toConnect
  split <;> (try split_ifs) <;> (try cases pc) <;> simp [Section.toLoop]

theorem toConnect_pos {state : ConState} {pc : Section} : 0 < toConnect state pc := by
  unfold toConnect
  split <;> (try split_ifs) <;> simp

/-- The sections until the delay has begun, and until the attempt when it is over. -/
def ConThread.toDelay (s : ConThread) : Nat :=
  Iec104South.toDelay s.plugin.con.connectionState s.pc

def ConThread.toConnect (s : ConThread) : Nat :=
  Iec104South.toConnect s.plugin.con.connectionState s.pc

section

variable {cfg : IEC104ClientConfig} {now : Nat} {s : ConThread}

/-- A step of the connection or of another thread. -/
theorem Recovering.step (hs : Recovering now s) (hhandles : HandleInv s) {clock : Nat → Prop}
    {i : ConThreadInput} (hi : Quiet clock i) (htime : ∀ t, clock t → t ≤ now ∨ s.toDelay = 0) :
    let s' := (conThreadStep cfg s i).1
    (∃ e ∈ (conThreadStep cfg s i).2, e.attempts) ∨
      Recovering now s' ∧ s'.toDelay ≤ s.toDelay - i.isSection.toNat ∧
        (s.toDelay = 0 → (∀ t, clock t → now + 10000 < t) →
          s'.toConnect ≤ s.toConnect - i.isSection.toNat) := by
  intro s'
  have hclear : Recovering now s.clear :=
    ⟨hs.started, hs.running, hs.connect, hs.undisturbed, hs.down, hs.closed, hs.delay⟩
  have hhandlesClear : HandleInv s.clear :=
    ⟨hhandles.undestroyed, hhandles.handleless, hhandles.active, hhandles.session⟩
  cases hsection : i.isSection with
  | true =>
    obtain ⟨env, rfl⟩ : ∃ env, i = .conThread env := by
      cases i <;> first | exact ⟨_, rfl⟩ | cases hsection
    obtain ⟨hclock, hcreated⟩ := hi
    rcases hclear.thread hhandlesClear hcreated (htime _ hclock)
      (s.clear.nextSection_effect cfg env) with
      ⟨con, hconnects⟩ | ⟨hnext, hdelay, hconnect⟩
    · exact .inl ⟨_, hconnects, con, rfl⟩
    · refine .inr ⟨hnext, hdelay, fun hzero hover => ?_⟩
      exact Nat.le_sub_one_of_lt (hconnect hzero (hover _ hclock))
  | false =>
    obtain ⟨hnext, hpc, hstate⟩ : Recovering now s' ∧ s'.pc = s.pc ∧
        s'.plugin.con.connectionState = s.plugin.con.connectionState := hclear.other hi hsection
    simp only [ConThread.toDelay, ConThread.toConnect, hpc, hstate]
    exact .inr ⟨hnext, le_rfl, fun _ _ => le_rfl⟩

/-- The steps until the last delay has begun. -/
theorem advances_toDelay (cfg : IEC104ClientConfig) (now : Nat) (s : ConThread)
    (i : ConThreadInput) (hs : HandleInv s ∧ Recovering now s) (hi : Quiet (· ≤ now) i) :
    Advances (conThreadStep cfg) (fun s => HandleInv s ∧ Recovering now s)
      ConThreadInput.isSection ConThread.toDelay Effect.attempts s i := by
  refine (hs.2.step hs.1 hi fun _ => .inl).imp_right fun ⟨hnext, hdelay, _⟩ => ?_
  exact ⟨⟨(hs.1.step cfg i).inv, hnext⟩, hdelay⟩

/-- The steps after it. -/
theorem advances_toConnect (cfg : IEC104ClientConfig) (now : Nat) (s : ConThread)
    (i : ConThreadInput) (hs : HandleInv s ∧ Recovering now s ∧ s.toDelay = 0)
    (hi : Quiet (now + 10000 < ·) i) :
    Advances (conThreadStep cfg) (fun s => HandleInv s ∧ Recovering now s ∧ s.toDelay = 0)
      ConThreadInput.isSection ConThread.toConnect Effect.attempts s i := by
  obtain ⟨hhandles, hs, hbegun⟩ := hs
  refine (hs.step hhandles hi fun _ _ => .inr hbegun).imp_right fun ⟨hnext, hdelay, hconnect⟩ => ?_
  refine ⟨⟨(hhandles.step cfg i).inv, hnext, ?_⟩, hconnect hbegun fun _ => id⟩
  omega

end

/-- What is known of the thread and its clock in every run. -/
structure DelayInv (now : Nat) (s : ConThread) : Prop where
  handles : HandleInv s
  running : s.started → ¬ s.pc.Ends
  delay : s.plugin.con.delayExpirationTime ≤ now + 10000

theorem DelayInv.run {cfg : IEC104ClientConfig} {now : Nat} {s : ConThread} (hs : DelayInv now s)
    {is : List ConThreadInput} (his : ∀ env, .conThread env ∈ is → env.delayTime ≤ now) :
    DelayInv now (run (conThreadStep cfg) s is) := by
  induction is generalizing s with
  | nil => exact hs
  | cons i is ih =>
    refine ih ⟨(hs.handles.step cfg i).inv, ?_, ?_⟩ fun env henv =>
      his env (List.mem_cons_of_mem i henv)
    · have hrunning : s.clear.started → ¬ s.clear.pc.Ends := hs.running
      exact ConThread.handle_ends cfg hrunning (s.clear.handle_effect cfg i)
    · have hdelay : s.clear.plugin.con.delayExpirationTime ≤ now + 10000 := hs.delay
      exact ConThread.handle_delay cfg hdelay fun env henv => his env (henv ▸ List.mem_cons_self)

/-- In every run of a connection that is asked for and has no session, in IDLE, CONNECTING, CLOSED
or WAIT_FOR_RECONNECT: after five sections of its thread, and ten more when the 10 seconds of the
delay are over, `CS104_Connection_connectAsync` has been called again, whatever the other threads
do as long as nobody disconnects it, lib60870 delivers no event and no ASDU, and the handles can be
created. In FATAL_ERROR there is no other attempt (`fatal_error_final`). -/
theorem connects_again (cfg : IEC104ClientConfig) (t : ExchangeTable) (self : ConId)
    (is js ks : List ConThreadInput) (now : Nat)
    (hbefore : ∀ env, .conThread env ∈ is → env.delayTime ≤ now)
    (hjs : ∀ i ∈ js, Quiet (· ≤ now) i) (hks : ∀ i ∈ ks, Quiet (now + 10000 < ·) i)
    (hbegins : 5 ≤ js.countP ConThreadInput.isSection)
    (hover : 10 ≤ ks.countP ConThreadInput.isSection) :
    let s := run (conThreadStep cfg) (ConThread.init t self) is
    s.started → s.plugin.con.connect → s.plugin.con.disconnect = false →
      s.plugin.con.connectionState.Waits → s.openSessions = [] →
      connectCalls (trace (conThreadStep cfg) s (js ++ ks)) ≠ [] := by
  intro s hstarted hconnect hundisturbed hdown hclosed
  have hinit : DelayInv now (ConThread.init t self) :=
    ⟨.init t self, fun h => absurd h Bool.false_ne_true, Nat.zero_le _⟩
  obtain ⟨hhandles, hrunning, hdelay⟩ : DelayInv now s := hinit.run hbefore
  have hs : Recovering now s :=
    ⟨hstarted, hrunning hstarted, hconnect, hundisturbed, hdown, hclosed, hdelay⟩
  have hattempts : ∃ e ∈ trace (conThreadStep cfg) s (js ++ ks), e.attempts := by
    rw [trace_append]
    rcases emits_or_settles (advances_toDelay cfg now) ⟨hhandles, hs⟩ hjs with
      ⟨e, he, hattempt⟩ | ⟨⟨hhandles', hs'⟩, hbegun⟩
    · exact ⟨e, List.mem_append_left _ he, hattempt⟩
    · have hmost : s.toDelay ≤ 5 := toDelay_le
      have hzero : (run (conThreadStep cfg) s js).toDelay = 0 := by omega
      obtain ⟨e, he, hattempt⟩ := emits_of_rank (advances_toConnect cfg now)
        (fun _ _ => toConnect_pos) ⟨hhandles', hs', hzero⟩ hks (toConnect_le.trans hover)
      exact ⟨e, List.mem_append_right _ he, hattempt⟩
  obtain ⟨e, he, con, rfl⟩ := hattempts
  exact List.ne_nil_of_mem (List.mem_filterMap.mpr ⟨_, he, rfl⟩)

/-- The session is lost while the thread is on its way to the periodic tasks. -/
def lostSession : List ConThreadInput :=
  [.start true, .conThread {}, .conThread {}, .conThread { created := some 1 },
    .connectionEvent 1 .opened 0, .call .activate, .connectionEvent 1 .startdtConReceived 0,
    .conThread {}, .conThread {}, .connectionEvent 1 .closed 0]

theorem connects_again_lostSession :
    let waiting : List ConThreadInput := List.replicate 5 (.conThread { created := some 2 })
    let expired : List ConThreadInput :=
      List.replicate 10 (.conThread { delayTime := 10001, created := some 2 })
    connectCalls (trace (conThreadStep {})
      (run (conThreadStep {}) (ConThread.init .empty 0) lostSession) (waiting ++ expired)) ≠ [] :=
  connects_again {} .empty 0 lostSession _ _ 0 (by simp [lostSession])
    (fun i hi => by rw [List.eq_of_mem_replicate hi]; exact ⟨Nat.zero_le _, rfl⟩)
    (fun i hi => by rw [List.eq_of_mem_replicate hi]; exact ⟨by decide, rfl⟩)
    (by decide) (by decide) (by decide) (by decide) (by decide) (by decide) (by decide)

end Iec104South
