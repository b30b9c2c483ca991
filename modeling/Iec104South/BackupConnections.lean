import Iec104South.NonTopicalBurst

/-!
# Backup connections

`backups_asked`: the monitoring thread asks the disconnected connections to connect exactly in the
rounds that find none, more than 5 seconds after the last round that found one, had an active one,
or asked. Nothing else makes a connection connect. The variable of the thread is
`backupConnectionStartTime`; every round that finds a connection, or asks, puts it 5 seconds ahead.
-/

namespace Iec104South

open Reactive

/-- The round asks the disconnected connections to connect; `since` is the last round that found a
connection, or asked. -/
def System.asksBackups (since : Nat) (s : System) : ClientInput → Bool
  | .monitoringThread timeInMs _ => s.findsNone && decide (since + 5000 < timeInMs)
  | _ => false

def noteBackups (since : Nat) (s : System) (i : ClientInput) (_ : List Effect) : Nat :=
  match i with
  | .monitoringThread timeInMs _ =>
    if s.findsNone ∧ s.asksBackups since i = false then since else timeInMs
  | _ => since

/-- All connections without a session are asked to connect, or none is that was not. -/
def BackupsRight (cfg : IEC104ClientConfig) (redGroup : ConId → RedGroupCon)
    (s : System × Nat) (i : ClientInput) : Prop :=
  let s' := (clientStep cfg redGroup s.1 i).1
  if s.1.asksBackups s.2 i then
    ∀ con ∈ s.1.connections, s'.cons con =
      if (s.1.cons con).isDisconnected then (s.1.cons con).requestConnect else s.1.cons con
  else ∀ con, (s'.cons con).connect → (s.1.cons con).connect

/-- The readings of the clock are far from the end of a `uint64_t`. -/
def BackupClock : ClientInput → Prop
  | .monitoringThread timeInMs _ => timeInMs + 5000 < 2 ^ 64
  | _ => True

instance : ∀ i, Decidable (BackupClock i) := by
  unfold BackupClock
  exact ClientInput.decidable

namespace System

variable (cfg : IEC104ClientConfig) (redGroup : ConId → RedGroupCon) {s : System}

/-! ## The steps that ask nobody -/

/-- A step of a connection. -/
theorem connectionStep_connect (con : ConId) {i : Input}
    (hi : ∀ p : Plugin, (p.handle cfg i).con.connect → p.con.connect) (other : ConId) :
    ((s.connectionStep cfg con i).cons other).connect → (s.cons other).connect := by
  unfold connectionStep
  split_ifs
  · simp only [onConnection]
    rcases eq_or_ne other con with rfl | hne
    · rw [Function.update_self]
      exact hi _
    · rw [Function.update_of_ne hne]
      exact id
  · exact id

/-- Only the monitoring thread makes a connection connect. -/
theorem handle_connect {i : ClientInput} (hi : ∀ timeInMs now, i ≠ .monitoringThread timeInMs now)
    (con : ConId) : ((s.handle cfg redGroup i).cons con).connect → (s.cons con).connect := by
  cases i with
  | monitoringThread timeInMs now => exact absurd rfl (hi timeInMs now)
  | connectionEvent other event now =>
    refine connectionStep_connect cfg other (fun p => ?_) con
    cases event <;> exact id
  | asdu other a now =>
    refine connectionStep_connect cfg other (fun p => ?_) con
    have hconnect := congrArg Link.connect (p.asduReceivedHandler_link cfg now a).1
    split_ifs at hconnect
    · exact fun h => absurd (hconnect.symm.trans h) Bool.false_ne_true
    · exact hconnect.symm.trans
  | conThread other env =>
    refine connectionStep_connect cfg other (fun p => ?_) con
    have hconnect := congrArg Link.connect (p.conThread_link cfg env).1
    have hkept : (Plugin.conThreadLink env p.con).connect = p.con.connect := by
      unfold Plugin.conThreadLink
      split <;> (try split_ifs) <;> rfl
    exact (hconnect.trans hkept).symm.trans
  | conThreadDisconnect other =>
    refine connectionStep_connect cfg other (fun p => ?_) con
    have hconnect := congrArg Link.connect p.conThreadDisconnect_link.1
    split_ifs at hconnect
    · exact hconnect.symm.trans
    · exact hconnect.symm.trans
  | checkOutstandingCommandTimeouts _ | sendCommand _ _ _ | sendInterrogationCommand _ _
  | scheduleGI | sendConnectionStatus =>
    rw [(handle_north cfg redGroup s rfl).1]
    exact id

/-! ## The rounds of the monitoring thread -/

/-- A round that asks, or finds a connection, counts 5 seconds from its reading of the clock. -/
structure BackupRound (since timeInMs now : Nat) (s s' : System) : Prop where
  startTime : s'.monitor.backupConnectionStartTime =
    if s.findsNone ∧ s.asksBackups since (.monitoringThread timeInMs now) = false then
      s.monitor.backupConnectionStartTime
    else timeInMs + 5000
  asked : s.asksBackups since (.monitoringThread timeInMs now) → ∀ con ∈ s.connections,
    s'.cons con =
      if (s.cons con).isDisconnected then (s.cons con).requestConnect else s.cons con
  unasked : s.asksBackups since (.monitoringThread timeInMs now) = false →
    ∀ con, (s'.cons con).connect → (s.cons con).connect

/-- A round with an active connection, or with one to activate. -/
theorem backupRound_of_found {since timeInMs now : Nat} (hfound : s.findsNone = false)
    {s' : System} (hstart : s'.monitor.backupConnectionStartTime = timeInMs + 5000)
    (hcons : ∀ con, (s'.cons con).connect → (s.cons con).connect) :
    BackupRound since timeInMs now s s' := by
  have hasks : s.asksBackups since (.monitoringThread timeInMs now) = false := by
    simp [asksBackups, hfound]
  refine ⟨?_, fun h => absurd h (Bool.eq_false_iff.mp hasks), fun _ => hcons⟩
  rw [hstart, if_neg fun h => absurd h.1 (Bool.eq_false_iff.mp hfound)]

theorem markNonTopical_startTime (now : Nat) (s : System) :
    (s.markNonTopical now).monitor.backupConnectionStartTime =
      s.monitor.backupConnectionStartTime := by
  unfold markNonTopical
  split_ifs <;> rfl

theorem backupRound {since timeInMs now : Nat}
    (hstart : s.monitor.backupConnectionStartTime = since + 5000)
    (hclock : timeInMs + 5000 < 2 ^ 64) :
    BackupRound since timeInMs now s (s.monitoringThread cfg redGroup timeInMs now) := by
  have hbegun : backupTime timeInMs = timeInMs + 5000 := Nat.mod_eq_of_lt hclock
  cases hactive : s.client.activeConnection with
  | some active =>
    have hfound : s.findsNone = false := by simp [findsNone, hactive]
    refine backupRound_of_found hfound ?_ ?_
    · simp only [monitoringThread, hactive]
      split_ifs <;> exact hbegun
    · simp only [monitoringThread, hactive]
      split_ifs
      · exact fun _ => id
      · intro con
        simp only [disconnectUnnecessary]
        split_ifs
        · exact fun h => absurd h Bool.false_ne_true
        · exact id
  | none =>
    cases hopen : s.connections.find? fun con => (s.cons con).isConnected with
    | some con =>
      have hfound : s.findsNone = false := by
        have hactivates : s.activates = some con := by simp [activates, hactive, hopen]
        exact Bool.eq_false_iff.mpr fun h => by
          cases (findsNone_iff.mp h).2.symm.trans hactivates
      refine backupRound_of_found hfound ?_ fun other => ?_
      · simp only [monitoringThread, hactive, hopen]
        exact hbegun
      · simp only [monitoringThread, hactive, hopen, activateConnection, onConnection, plugin,
          Plugin.handle]
        rcases eq_or_ne other con with rfl | hne
        · rw [Function.update_self]
          unfold Connection.activate
          split_ifs <;> exact id
        · rw [Function.update_of_ne hne]
          exact id
    | none =>
      have hnone : s.findsNone := findsNone_iff.mpr ⟨hactive, by simp [activates, hactive, hopen]⟩
      have hcons := markNonTopical_cons s now
      have htime := s.markNonTopical_startTime now
      simp only [monitoringThread, hactive, hopen, connectBackups, hcons, htime, hstart]
      by_cases hover : since + 5000 < timeInMs
      · have hasks : s.asksBackups since (.monitoringThread timeInMs now) := by
          simp [asksBackups, hnone, hover]
        refine ⟨?_, fun _ con hcon => ?_, fun h => absurd hasks (Bool.eq_false_iff.mp h)⟩
        · rw [if_pos hover, if_neg fun h => absurd hasks (Bool.eq_false_iff.mp h.2)]
          exact hbegun
        · rw [if_pos hover]
          simp [hcon]
      · have hasks : s.asksBackups since (.monitoringThread timeInMs now) = false := by
          simp [asksBackups, hover]
        refine ⟨?_, fun h => absurd h (Bool.eq_false_iff.mp hasks), fun _ con => ?_⟩
        · rw [if_neg hover, if_pos ⟨hnone, hasks⟩]
          exact htime
        · rw [if_neg hover]
          exact id

end System

/-- One step of the client. -/
theorem backupStep (cfg : IEC104ClientConfig) (redGroup : ConId → RedGroupCon) {s : System}
    {since : Nat} (hs : s.monitor.backupConnectionStartTime = since + 5000) {i : ClientInput}
    (hi : BackupClock i) :
    let s' := (watch (clientStep cfg redGroup) noteBackups (s, since) i).1
    s'.1.monitor.backupConnectionStartTime = s'.2 + 5000 ∧
      BackupsRight cfg redGroup (s, since) i := by
  by_cases hround : ∃ timeInMs now, i = .monitoringThread timeInMs now
  · obtain ⟨timeInMs, now, rfl⟩ := hround
    obtain ⟨hstart, hasked, hunasked⟩ : System.BackupRound since timeInMs now s.clear
        (clientStep cfg redGroup s (.monitoringThread timeInMs now)).1 :=
      s.clear.backupRound cfg redGroup hs hi
    have hnote :
        (if s.findsNone ∧ s.asksBackups since (.monitoringThread timeInMs now) = false then
          since + 5000 else timeInMs + 5000) =
          noteBackups since s (.monitoringThread timeInMs now) [] + 5000 := by
      unfold noteBackups
      split_ifs <;> rfl
    have hbefore : s.clear.monitor.backupConnectionStartTime = since + 5000 := hs
    rw [hbefore] at hstart
    refine ⟨hstart.trans hnote, ?_⟩
    unfold BackupsRight
    dsimp only
    split_ifs with hasks
    · exact hasked hasks
    · exact hunasked (Bool.eq_false_iff.mpr hasks)
  · have hother : ∀ timeInMs now, i ≠ .monitoringThread timeInMs now :=
      fun timeInMs now h => hround ⟨timeInMs, now, h⟩
    have hnote : noteBackups since s i [] = since := by
      unfold noteBackups
      split
      · exact absurd rfl (hother _ _)
      · rfl
    have hasks : s.asksBackups since i = false := by
      unfold System.asksBackups
      split
      · exact absurd rfl (hother _ _)
      · rfl
    refine ⟨?_, ?_⟩
    · show (s.clear.handle cfg redGroup i).monitor.backupConnectionStartTime =
        noteBackups since s i [] + 5000
      rw [(handle_monitor cfg redGroup s.clear hother).1, hnote]
      exact hs
    · unfold BackupsRight
      dsimp only
      rw [if_neg (Bool.eq_false_iff.mp hasks)]
      exact System.handle_connect cfg redGroup hother

/-- In every run of the monitoring thread beside the other threads, whatever the connections do:
the disconnected connections are asked to connect exactly in the rounds that find none, more than
5 seconds after the last round that found one, or asked. Nothing else makes a connection connect.
The readings of the clock stay so far below 2^64 that 5 seconds can be added to them. -/
theorem backups_asked (cfg : IEC104ClientConfig) (redGroup : ConId → RedGroupCon) (s : System)
    (timeInMs : Nat) (is : List ClientInput) (hstart : timeInMs + 5000 < 2 ^ 64)
    (hclock : Along (watch (clientStep cfg redGroup) noteBackups) (fun _ => BackupClock)
      (s.monitoringThreadStart cfg redGroup timeInMs, timeInMs) is) :
    Along (watch (clientStep cfg redGroup) noteBackups) (BackupsRight cfg redGroup)
      (s.monitoringThreadStart cfg redGroup timeInMs, timeInMs) is :=
  along_of_invariant (I := fun s => s.1.monitor.backupConnectionStartTime = s.2 + 5000)
    (fun _ _ hs hi => (backupStep cfg redGroup hs hi).1)
    (fun _ _ hs hi => (backupStep cfg redGroup hs hi).2) (Nat.mod_eq_of_lt hstart) hclock

/-- The first connection is lost, and after 5 seconds the second one is asked to connect. -/
theorem backups_asked_secondPath :
    let redGroup : ConId → RedGroupCon := fun con => { conn := con = 0 }
    let m := watch (clientStep {} redGroup) noteBackups
    let start := (System.init .empty [0, 1]).monitoringThreadStart {} redGroup 0
    let is : List ClientInput := [.conThread 0 { created := some 1 }, .connectionEvent 0 .opened 0,
      .monitoringThread 100 0, .connectionEvent 0 .closed 200, .monitoringThread 200 0,
      .monitoringThread 5200 0, .monitoringThread 5201 0]
    (start.cons 1).connect = false ∧ ((run m (start, 0) is).1.cons 1).connect ∧
      Along m (BackupsRight {} redGroup) (start, 0) is :=
  ⟨by decide, by decide, backups_asked {} _ (.init .empty [0, 1]) 0 _ (by decide) (by decide)⟩

end Iec104South
