import Mathlib.Data.List.Chain
import Iec104South.Machine

/-!
# The pace of the connection attempts

`connects_spaced`: two calls of `CS104_Connection_connectAsync` are at least 10 seconds apart. The
one timer of the connection serves the timeout of an attempt and the delay after a loss; both are
armed 10 seconds ahead, and the state becomes IDLE only when the timer has expired. Between an
attempt and the next one the timer therefore never lies before the attempt plus 10 seconds,
whatever events arrive, and in IDLE the clock has passed it (`PaceInv`).
-/

namespace Iec104South

open Reactive

/-- The handle on which `CS104_Connection_connectAsync` is called. -/
def Effect.connectAsync? : Effect → Option Handle
  | .connectAsync con => some con
  | _ => none

/-- The connection attempts in a list of effects. -/
def connectCalls (out : List Effect) : List Handle := out.filterMap Effect.connectAsync?

@[simp] theorem connectCalls_append (a b : List Effect) :
    connectCalls (a ++ b) = connectCalls a ++ connectCalls b := List.filterMap_append ..

theorem connectCalls_map {α : Type*} {f : α → Effect} (hf : ∀ a, (f a).connectAsync? = none)
    (l : List α) : connectCalls (l.map f) = [] := by
  simp [connectCalls, hf]

@[simp] theorem connectCalls_of_reports {out : List Effect} (h : Reports out) :
    connectCalls out = [] :=
  h.filterMap_eq_nil fun e he => by cases e <;> first | rfl | cases he

@[simp] theorem connectCalls_destroy (con : Option Handle) :
    connectCalls (con.toList.map .destroy) = [] := connectCalls_map (fun _ => rfl) _

@[simp] theorem connectCalls_close (con : Option Handle) :
    connectCalls (con.toList.map .close) = [] := connectCalls_map (fun _ => rfl) _

@[simp] theorem connectCalls_activate (con : Connection) : connectCalls con.activate.1 = [] := by
  unfold Connection.activate
  split_ifs
  · exact connectCalls_map (fun _ => rfl) _
  · rfl

@[simp] theorem connectCalls_sendInterrogationCommand (con : Connection) (ca : Int)
    (accepted : Bool) : connectCalls (con.sendInterrogationCommand ca accepted).2 = [] := by
  unfold Connection.sendInterrogationCommand
  split
  · split_ifs <;> rfl
  · rfl

/-- From `p` to `q` no connection is attempted, the timer is kept, and the state does not become
IDLE. -/
structure KeepsDelay (p q : Plugin) : Prop where
  delay : q.con.delayExpirationTime = p.con.delayExpirationTime
  idle : q.con.connectionState = .idle → p.con.connectionState = .idle
  connects : connectCalls q.client.out = connectCalls p.client.out

namespace KeepsDelay

variable {p q r : Plugin}

theorem refl (p : Plugin) : KeepsDelay p p := ⟨rfl, id, rfl⟩

theorem trans (hp : KeepsDelay p q) (hq : KeepsDelay q r) : KeepsDelay p r :=
  ⟨hq.delay.trans hp.delay, fun h => hp.idle (hq.idle h), hq.connects.trans hp.connects⟩

end KeepsDelay

namespace Plugin

variable (cfg : IEC104ClientConfig) (env : Env) (p : Plugin)

theorem sendConnectionStatusAudit_keepsDelay (auditType : AuditType) :
    KeepsDelay p (p.sendConnectionStatusAudit auditType) := by
  rw [sendConnectionStatusAudit_eq]
  exact ⟨rfl, id, by simp [emit]⟩

theorem giTasks_keepsDelay : KeepsDelay p (p.giTasks cfg env) := by
  refine giTasks_rule cfg env p (P := KeepsDelay p) (.refl p) ?_ ?_ ?_ ?_ ?_
  · intro q hq _
    refine hq.trans ⟨?_, ?_, ?_⟩
    · rw [startNewInterrogationCycle_con]
    · rw [startNewInterrogationCycle_con]
      exact id
    · rw [startNewInterrogationCycle_client]
      split_ifs <;> simp
  · exact fun q hq => hq.trans ⟨rfl, id, rfl⟩
  · intro _ _ _ _
    exact ⟨rfl, id, by simp [failGiRequest_client]⟩
  · intro ca _ _ _ _ _
    refine ⟨?_, ?_, ?_⟩
    · rw [sendGiToCa_con]
    · rw [sendGiToCa_con]
      exact id
    · rw [sendGiToCa_client]
      split_ifs <;> simp
  · exact fun _ _ _ _ => ⟨rfl, id, rfl⟩

theorem beforeGi_keepsDelay : KeepsDelay p (p.beforeGi cfg env) := by
  have hsync : connectCalls (p.timeSyncEvents cfg env) = [] := by
    unfold timeSyncEvents
    split_ifs <;> rfl
  obtain ⟨_, _, heq⟩ := p.beforeGi_eq cfg env
  rw [heq]
  refine ⟨rfl, id, ?_⟩
  simp only [emit, beforeGiEvents, connectCalls_append,
    connectCalls_of_reports (p.reports_auditEvents _)]
  split_ifs
  · rw [hsync, List.append_nil, List.append_nil]
  · exact List.append_nil _

/-! ## The connection thread -/

/-- What a case of `_conThread` does to the timer. -/
inductive DelayRound (env : Env) (p q : Plugin) : Prop where
  | keeps (h : KeepsDelay p q)
  /-- a connection is attempted, from IDLE -/
  | attempts (con : Handle) (hidle : p.con.connectionState = .idle)
      (hstate : q.con.connectionState = .connecting)
      (hdelay : q.con.delayExpirationTime = (env.delayTime + 10000) % 2 ^ 64)
      (hconnects : connectCalls q.client.out = connectCalls p.client.out ++ [con])
  /-- the connection is lost -/
  | waits (hstate : q.con.connectionState = .waitForReconnect)
      (hdelay : q.con.delayExpirationTime = (env.delayTime + 10000) % 2 ^ 64)
      (hconnects : connectCalls q.client.out = connectCalls p.client.out)
  /-- the timer has expired -/
  | expires (hexpired : p.con.delayExpirationTime ≤ env.delayTime)
      (hdelay : q.con.delayExpirationTime = p.con.delayExpirationTime)
      (hconnects : connectCalls q.client.out = connectCalls p.client.out)

theorem conThread_delayRound : DelayRound env p (p.conThread cfg env) := by
  cases hstate : p.con.connectionState with
  | idle =>
    simp only [conThread, hstate]
    split_ifs
    · cases env.created with
      | none => exact .keeps ⟨rfl, by simp, by simp [emit]⟩
      | some con =>
        refine .attempts con hstate rfl rfl ?_
        simp [emit]
        rfl
    · exact .keeps (.refl p)
  | connecting =>
    simp only [conThread, hstate]
    split_ifs with hexpired
    · exact .expires hexpired.le rfl rfl
    · exact .keeps (.refl p)
  | waitForReconnect =>
    simp only [conThread, hstate]
    split_ifs with hexpired
    · exact .expires hexpired rfl rfl
    · exact .keeps (.refl p)
  | connectedInactive =>
    simp only [conThread, hstate]
    exact .keeps (p.sendConnectionStatusAudit_keepsDelay .passive)
  | connectedActive =>
    have hbefore := p.beforeGi_keepsDelay cfg env
    rw [conThread_connectedActive cfg env p hstate]
    split_ifs
    · exact .keeps (hbefore.trans (giTasks_keepsDelay cfg env _))
    · exact .keeps hbefore
  | closed =>
    simp only [conThread, hstate]
    exact .waits rfl rfl (p.sendConnectionStatusAudit_keepsDelay .disconnected).connects
  | fatalError =>
    simp only [conThread, hstate]
    exact .keeps (.refl p)

/-! ## Events, ASDUs and calls -/

theorem asduReceivedHandler_keepsDelay (now : Nat) (a : ASDU) :
    KeepsDelay p (p.asduReceivedHandler cfg now a).2 := by
  have hreceived : KeepsDelay p (p.received cfg now a) := by
    refine ⟨?_, ?_, ?_⟩
    · rw [received_con]
    · rw [received_con]
      exact id
    · rw [received_client, handleASDU_out, connectCalls_append, connectCalls_append,
        connectCalls_of_reports (Client.reports_giStatusEvents _ _ _),
        connectCalls_map fun _ => rfl]
      simp
  cases hreply : isGiReply a with
  | true =>
    rw [asduReceivedHandler_giReply cfg p now hreply]
    refine hreceived.trans ?_
    unfold giReply giConfirmed giTerminated giRejected
    dsimp only
    split_ifs <;> first
      | exact .refl _
      | exact ⟨rfl, id, by simp⟩
  | false =>
    obtain ⟨con', heq, hcon'⟩ := asduReceivedHandler_other cfg p now hreply
    rw [heq]
    refine hreceived.trans ?_
    rcases hcon' with rfl | rfl | ⟨-, -, rfl⟩
    · exact ⟨rfl, id, rfl⟩
    · exact ⟨rfl, id, rfl⟩
    · unfold Connection.timeSyncReply
      split_ifs <;> exact ⟨rfl, id, rfl⟩

/-- Only the connection thread attempts a connection, rewrites the timer or enters IDLE. -/
theorem handle_keepsDelay {i : Input} (hi : ∀ env, i ≠ .conThread env) :
    KeepsDelay p (p.handle cfg i) := by
  cases i with
  | conThread env => exact absurd rfl (hi env)
  | connectionEvent event now =>
    cases event with
    | other => exact .refl p
    | closed | opened | startdtConReceived | stopdtConReceived =>
      exact ⟨rfl, by simp [handle, Connection.connectionHandler], rfl⟩
  | asdu a now => exact p.asduReceivedHandler_keepsDelay cfg now a
  | conThreadDisconnect =>
    simp only [handle, conThreadDisconnect]
    split_ifs
    · rw [sendConnectionStatusAudit_eq]
      exact ⟨rfl, id, by simp [emit]⟩
    · exact .refl p
  | activate =>
    refine ⟨?_, ?_, by simp [handle, emit]⟩
    · simp only [handle, Connection.activate]
      split_ifs <;> rfl
    · simp only [handle, Connection.activate]
      split_ifs
      · simp
      · exact id
  | connect | disonnect | setActiveConnection => exact ⟨rfl, id, rfl⟩
  | updateConnectionStatus newState =>
    exact ⟨rfl, id, by simp [handle, Client.updateConnectionStatus_eq]⟩
  | updateQualityForAllDataObjects qd =>
    exact ⟨rfl, id, by
      simp [handle, Client.updateQualityForAllDataObjects, Client.sendQualityUpdates_eq]⟩
  | sendInterrogationCommand ca accepted =>
    simp only [handle, northInterrogation]
    split_ifs
    · exact ⟨rfl, id, by simp [emit]⟩
    · exact .refl p
  | scheduleGI =>
    simp only [handle, scheduleGI, requestGi]
    split <;> exact ⟨rfl, id, rfl⟩
  | sendConnectionStatus =>
    simp only [handle, Client.sendConnectionStatus, Client.sendSouthMonitoringEvent]
    split_ifs
    · exact .refl p
    · exact .refl p
    · refine ⟨rfl, id, ?_⟩
      simp [Client.emit]
      rfl

end Plugin

/-! ## Runs -/

/-- The clock of the connection thread, and the readings at which it attempted a connection, the
latest first. -/
structure PaceWatch where
  clock : Nat := 0
  connectTimes : List Nat := []
deriving DecidableEq, Repr

def notePace (w : PaceWatch) (_ : Plugin) (i : Input) (out : List Effect) : PaceWatch :=
  let clock := match i with
    | .conThread env => env.delayTime
    | _ => w.clock
  { clock := clock, connectTimes := (connectCalls out).map (fun _ => clock) ++ w.connectTimes }

/-- The readings of the connection thread do not go back, and are far from the end of a
`uint64_t`. -/
def PaceClock (s : Plugin × PaceWatch) : Input → Prop
  | .conThread env => s.2.clock ≤ env.delayTime ∧ env.delayTime < 2 ^ 63
  | _ => True

instance (s : Plugin × PaceWatch) : ∀ i, Decidable (PaceClock s i) := by
  unfold PaceClock
  exact Input.decidable

/-- The attempts are 10 seconds apart. After an attempt the timer does not lie before the end of
its 10 seconds, and these are over in IDLE. -/
structure PaceInv (s : Plugin × PaceWatch) : Prop where
  spaced : s.2.connectTimes.IsChain fun later earlier => earlier + 10000 ≤ later
  past : ∀ t ∈ s.2.connectTimes.head?, t ≤ s.2.clock
  delay : ∀ t ∈ s.2.connectTimes.head?, t + 10000 ≤ s.1.con.delayExpirationTime
  idle : s.1.con.connectionState = .idle →
    ∀ t ∈ s.2.connectTimes.head?, t + 10000 ≤ s.2.clock

namespace PaceInv

variable {cfg : IEC104ClientConfig} {p q : Plugin} {w : PaceWatch}

theorem keeps (hs : PaceInv (p, w)) (hq : KeepsDelay p.clear q) {clock : Nat}
    (hclock : w.clock ≤ clock) : PaceInv (q, { w with clock := clock }) := by
  refine ⟨hs.spaced, fun t ht => (hs.past t ht).trans hclock, fun t ht => ?_, fun hidle t ht => ?_⟩
  · show t + 10000 ≤ q.con.delayExpirationTime
    rw [hq.delay]
    exact hs.delay t ht
  · exact (hs.idle (hq.idle hidle) t ht).trans hclock

theorem conThread (hs : PaceInv (p, w)) {env : Env} (hclock : PaceClock (p, w) (.conThread env)) :
    PaceInv (watch (step cfg) notePace (p, w) (.conThread env)).1 := by
  obtain ⟨hpast, hbound⟩ := hclock
  have harmed : (env.delayTime + 10000) % 2 ^ 64 = env.delayTime + 10000 :=
    Nat.mod_eq_of_lt (by omega)
  show PaceInv (p.clear.conThread cfg env,
    notePace w p (.conThread env) (p.clear.conThread cfg env).client.out)
  have hnote {out : List Effect} (hout : connectCalls out = []) :
      notePace w p (.conThread env) out = { w with clock := env.delayTime } := by
    simp [notePace, hout]
  have hnow (t : Nat) (ht : t ∈ w.connectTimes.head?) : t ≤ env.delayTime :=
    (hs.past t ht).trans hpast
  cases p.clear.conThread_delayRound cfg env with
  | keeps hkeeps =>
    rw [hnote hkeeps.connects]
    exact hs.keeps hkeeps hpast
  | attempts con hidle hstate hdelay hconnects =>
    have hattempt : notePace w p (.conThread env) (p.clear.conThread cfg env).client.out =
        { clock := env.delayTime, connectTimes := env.delayTime :: w.connectTimes } := by
      simp only [notePace, hconnects]
      rfl
    rw [hattempt]
    refine ⟨?_, ?_, ?_, ?_⟩
    · -- the switch found the state IDLE
      refine List.isChain_cons.mpr ⟨fun t ht => ?_, hs.spaced⟩
      exact (hs.idle hidle t ht).trans hpast
    · simp
    · intro t ht
      rw [← Option.some.inj ht, hdelay, harmed]
    · simp [hstate]
  | waits hstate hdelay hconnects =>
    rw [hnote hconnects]
    refine ⟨hs.spaced, hnow, fun t ht => ?_, fun hidle => ?_⟩
    · have hle := hnow t ht
      simp only [hdelay, harmed]
      omega
    · cases hstate.symm.trans hidle
  | expires hexpired hdelay hconnects =>
    rw [hnote hconnects]
    refine ⟨hs.spaced, hnow, fun t ht => ?_, fun _ t ht => ?_⟩
    · exact (hs.delay t ht).trans hdelay.ge
    · exact (hs.delay t ht).trans hexpired

theorem step {s : Plugin × PaceWatch} (hs : PaceInv s) {i : Input} (hi : PaceClock s i) :
    PaceInv (watch (Iec104South.step cfg) notePace s i).1 := by
  obtain ⟨p, w⟩ := s
  by_cases hround : ∃ env, i = .conThread env
  · obtain ⟨env, rfl⟩ := hround
    exact hs.conThread hi
  · have hkeeps := p.clear.handle_keepsDelay cfg fun env h => hround ⟨env, h⟩
    have hnote : notePace w p i (p.clear.handle cfg i).client.out = w := by
      have hnone : connectCalls (p.clear.handle cfg i).client.out = [] := hkeeps.connects
      unfold notePace
      split
      · exact absurd ⟨_, rfl⟩ hround
      · simp [hnone]
    show PaceInv (p.clear.handle cfg i, notePace w p i (p.clear.handle cfg i).client.out)
    rw [hnote]
    exact hs.keeps hkeeps le_rfl

end PaceInv

/-- In every run in which the clock does not go back: two calls of
`CS104_Connection_connectAsync` with none between them are at least 10 seconds apart. -/
theorem connects_spaced (cfg : IEC104ClientConfig) (t : ExchangeTable) (self : ConId)
    (is : List Input)
    (hclock : Along (watch (step cfg) notePace) PaceClock (Plugin.init t self, {}) is) :
    (run (watch (step cfg) notePace) (Plugin.init t self, {}) is).2.connectTimes.IsChain
      fun later earlier => earlier + 10000 ≤ later := by
  have hinit : PaceInv (Plugin.init t self, {}) := ⟨.nil, by simp, by simp, by simp⟩
  have hinv : Always (watch (step cfg) notePace) PaceInv (Plugin.init t self, {}) is :=
    always_of_along (fun _ _ hs hi => hs.step hi) (fun _ => id) hinit hclock
  exact (run_of_always hinv).spaced

/-- The first attempt runs into its timeout, the session of the second one is lost at once. -/
theorem connects_spaced_after_loss :
    let is : List Input := [.connect, .conThread { delayTime := 1, created := some 1 },
      .conThread { delayTime := 10002 }, .conThread { delayTime := 10003, created := some 2 },
      .connectionEvent .opened 0, .connectionEvent .closed 0, .conThread { delayTime := 10004 },
      .conThread { delayTime := 20004 }, .conThread { delayTime := 20004, created := some 3 }]
    (run (watch (step {}) notePace) (Plugin.init .empty 0, {}) is).2.connectTimes =
        [20004, 10003, 1] ∧
      (run (watch (step {}) notePace) (Plugin.init .empty 0, {}) is).2.connectTimes.IsChain
        fun later earlier => earlier + 10000 ≤ later :=
  ⟨by decide, connects_spaced {} .empty 0 _ (by decide)⟩

end Iec104South
