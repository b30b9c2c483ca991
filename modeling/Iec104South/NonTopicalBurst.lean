import Iec104South.ClientMachine

/-!
# The non topical burst

`nonTopical_burst`: the monitoring thread marks all datapoints non topical once after a loss, in
the first round that finds no open connection more than 500 ms after the round that armed the
timer, if all rounds between found none either. It never does so before the first activation,
nor when another connection takes over.

The variables of the thread are `qualityUpdateTimer`, with 0 for a timer that is not armed,
`qualityUpdated` and `firstConnected` (`Monitor.loss`). `LossRound` is what a round does to them,
and `BurstInv` says what they tell of the rounds before: the timer is armed 500 ms after the first
of the rounds that found no connection, and `qualityUpdated` is the number of bursts since the
last activation. Connections come and go between the rounds, in any step of the client.
-/

namespace Iec104South

open Reactive

/-- The readings of datapoints among the effects. -/
def dataObjects (out : List Effect) : List Effect :=
  out.filter fun
    | .ingest _ (.dataObject _) => true
    | _ => false

@[simp] theorem dataObjects_append (a b : List Effect) :
    dataObjects (a ++ b) = dataObjects a ++ dataObjects b := List.filter_append ..

@[simp] theorem dataObjects_connectionStatusEvents (cfg : IEC104ClientConfig)
    (old new : ConnectionStatus) :
    dataObjects (Client.connectionStatusEvents cfg old new) = [] := by
  unfold Client.connectionStatusEvents
  split_ifs <;> rfl

@[simp] theorem dataObjects_qualityUpdates (dps : List DataExchangeDefinition) (qd : BitVec 8) :
    dataObjects (dps.map (Client.qualityUpdate qd)) = dps.map (Client.qualityUpdate qd) := by
  refine List.filter_eq_self.mpr fun e he => ?_
  obtain ⟨dp, -, rfl⟩ := List.mem_map.mp he
  rfl

@[simp] theorem dataObjects_activate (con : Connection) : dataObjects con.activate.1 = [] := by
  unfold Connection.activate
  split_ifs
  · refine List.filter_eq_nil_iff.mpr fun e he => ?_
    obtain ⟨handle, -, rfl⟩ := List.mem_map.mp he
    simp
  · rfl

/-- The variables of `_monitoringThread` that serve the burst. -/
structure Loss where
  qualityUpdateTimer : Nat := 0
  qualityUpdated : Bool := false
  firstConnected : Bool := false
deriving DecidableEq, Repr

def Monitor.loss (m : Monitor) : Loss where
  qualityUpdateTimer := m.qualityUpdateTimer
  qualityUpdated := m.qualityUpdated
  firstConnected := m.firstConnected

theorem Monitor.loss_withStartTime (m : Monitor) (t : Nat) :
    loss { m with backupConnectionStartTime := t } = m.loss := rfl

namespace System

/-- The round finds no connection: none is active, and none of them is connected. -/
def findsNone (s : System) : Bool :=
  s.client.activeConnection.isNone && s.connections.all fun con => !(s.cons con).isConnected

theorem findsNone_iff {s : System} :
    s.findsNone ↔ s.client.activeConnection = none ∧ s.activates = none := by
  unfold findsNone activates
  cases s.client.activeConnection with
  | none => simp [List.find?_eq_none]
  | some con => simp

/-- What `updateQualityForAllDataObjects(NON_TOPICAL)` publishes. -/
def nonTopicalUpdates (s : System) : List Effect :=
  (s.client.exchangeDefinitions.definitions.filter isDataPointInMonitoringDirection).map
    (Client.qualityUpdate IEC60870_QUALITY_NON_TOPICAL)

/-- The round calls `updateQualityForAllDataObjects(NON_TOPICAL)`: it sets `qualityUpdated`. -/
def marksNonTopical (cfg : IEC104ClientConfig) (redGroup : ConId → RedGroupCon)
    (timeInMs now : Nat) (s : System) : Bool :=
  !s.monitor.qualityUpdated &&
    (clientStep cfg redGroup s (.monitoringThread timeInMs now)).1.monitor.qualityUpdated

end System

/-- What a round of the monitoring thread does to the variables of the burst, and what it
publishes about datapoints. -/
inductive LossRound (now : Nat) (s s' : System) (published : List Effect) : Prop where
  | activates (con : ConId) (hactivates : s.activates = some con)
      (hloss : s'.monitor.loss = { firstConnected := true }) (hpublished : published = [])
  /-- the first round without a connection arms the timer -/
  | arms (hnone : s.findsNone) (hfirst : s.monitor.loss.firstConnected)
      (hupdated : s.monitor.loss.qualityUpdated = false)
      (hunarmed : s.monitor.loss.qualityUpdateTimer = 0)
      (hloss : s'.monitor.loss =
        { s.monitor.loss with qualityUpdateTimer := (now + 500) % 2 ^ 64 })
      (hpublished : published = [])
  | marks (hnone : s.findsNone) (hfirst : s.monitor.loss.firstConnected)
      (hupdated : s.monitor.loss.qualityUpdated = false)
      (harmed : s.monitor.loss.qualityUpdateTimer ≠ 0)
      (hexpired : s.monitor.loss.qualityUpdateTimer < now)
      (hloss : s'.monitor.loss = { s.monitor.loss with qualityUpdated := true })
      (hpublished : published = s.nonTopicalUpdates)
  | keeps (hactivates : s.activates = none)
      (hkeeps : s.findsNone → s.monitor.loss.firstConnected →
        s.monitor.loss.qualityUpdated = false →
        s.monitor.loss.qualityUpdateTimer ≠ 0 ∧ now ≤ s.monitor.loss.qualityUpdateTimer)
      (hloss : s'.monitor.loss = s.monitor.loss) (hpublished : published = [])

section Round

variable (cfg : IEC104ClientConfig) (redGroup : ConId → RedGroupCon) (s : System)

@[simp] theorem connectBackups_loss (timeInMs : Nat) :
    (s.connectBackups timeInMs).monitor.loss = s.monitor.loss := by
  unfold System.connectBackups
  split_ifs
  · exact s.monitor.loss_withStartTime _
  · rfl

theorem monitoringThread_of_findsNone (hnone : s.findsNone) (timeInMs now : Nat) :
    (s.monitoringThread cfg redGroup timeInMs now).client.activeConnection = none ∧
      (s.monitoringThread cfg redGroup timeInMs now).monitor.loss =
        (s.markNonTopical now).monitor.loss ∧
      dataObjects (s.monitoringThread cfg redGroup timeInMs now).client.out =
        dataObjects (s.markNonTopical now).client.out := by
  obtain ⟨hactive, hactivates⟩ := System.findsNone_iff.mp hnone
  have hopen : (s.connections.find? fun con => (s.cons con).isConnected) = none := by
    simpa [System.activates, hactive] using hactivates
  simp [System.monitoringThread, hactive, hopen, Client.updateConnectionStatus_eq]

theorem clientStep_lossRound (timeInMs now : Nat) :
    LossRound now s (clientStep cfg redGroup s (.monitoringThread timeInMs now)).1
      (dataObjects (clientStep cfg redGroup s (.monitoringThread timeInMs now)).2) := by
  show LossRound now s (s.clear.monitoringThread cfg redGroup timeInMs now)
    (dataObjects (s.clear.monitoringThread cfg redGroup timeInMs now).client.out)
  cases hactive : s.clear.client.activeConnection with
  | some con =>
    have hactivates : s.clear.activates = none := by simp [System.activates, hactive]
    refine .keeps hactivates (fun hnone => ?_) ?_ ?_
    · cases (System.findsNone_iff.mp hnone).1.symm.trans hactive
    · simp only [System.monitoringThread, hactive]
      split_ifs <;> exact s.monitor.loss_withStartTime _
    · simp only [System.monitoringThread, hactive]
      split_ifs <;> rfl
  | none =>
    cases hopen : s.clear.connections.find? fun con => (s.clear.cons con).isConnected with
    | some con =>
      have hactivates : s.clear.activates = some con := by simp [System.activates, hactive, hopen]
      refine .activates con hactivates ?_ ?_
      · simp [System.monitoringThread, hactive, hopen, System.activateConnection, Monitor.loss]
      · have hout : s.clear.client.out = [] := rfl
        simp [System.monitoringThread, hactive, hopen, System.activateConnection,
          System.onConnection, System.plugin, Plugin.handle, Plugin.emit,
          Client.updateConnectionStatus_eq, hout]
    | none =>
      have hactivates : s.clear.activates = none := by simp [System.activates, hactive, hopen]
      have hnone : s.clear.findsNone := System.findsNone_iff.mpr ⟨hactive, hactivates⟩
      obtain ⟨-, hloss, hpublished⟩ :=
        monitoringThread_of_findsNone cfg redGroup s.clear hnone timeInMs now
      unfold System.markNonTopical at hloss hpublished
      split_ifs at hloss hpublished with hwatched harmed hexpired
      · obtain ⟨hfirst, hupdated⟩ := hwatched
        refine .marks hnone hfirst (Bool.not_eq_true' _ ▸ hupdated) harmed hexpired hloss ?_
        rw [hpublished, Client.updateQualityForAllDataObjects, Client.sendQualityUpdates_eq]
        exact dataObjects_qualityUpdates _ _
      · exact .keeps hactivates (fun _ _ _ => ⟨harmed, not_lt.mp hexpired⟩) hloss hpublished
      · obtain ⟨hfirst, hupdated⟩ := hwatched
        exact .arms hnone hfirst (Bool.not_eq_true' _ ▸ hupdated) (not_not.mp harmed) hloss
          hpublished
      · refine .keeps hactivates (fun _ hfirst hupdated => ?_) hloss hpublished
        exact absurd ⟨hfirst, Bool.not_eq_true' _ ▸ hupdated⟩ hwatched

theorem marksNonTopical_eq (timeInMs now : Nat) :
    let s' := (clientStep cfg redGroup s (.monitoringThread timeInMs now)).1
    s.marksNonTopical cfg redGroup timeInMs now =
      (!s.monitor.loss.qualityUpdated && s'.monitor.loss.qualityUpdated) :=
  rfl

theorem marksNonTopical_iff (timeInMs now : Nat) :
    s.marksNonTopical cfg redGroup timeInMs now ↔
      s.findsNone ∧ s.monitor.loss.firstConnected ∧ s.monitor.loss.qualityUpdated = false ∧
        s.monitor.loss.qualityUpdateTimer ≠ 0 ∧ s.monitor.loss.qualityUpdateTimer < now := by
  rw [marksNonTopical_eq]
  cases clientStep_lossRound cfg redGroup s timeInMs now with
  | activates con hactivates hloss =>
    simp [hloss, System.findsNone_iff, hactivates]
  | arms hnone hfirst hupdated hunarmed hloss => simp [hloss, hunarmed]
  | marks hnone hfirst hupdated harmed hexpired hloss =>
    simp [hloss, hnone, hfirst, hupdated, harmed, hexpired]
  | keeps hactivates hkeeps hloss =>
    rw [hloss]
    refine iff_of_false (by simp) ?_
    rintro ⟨hnone, hfirst, hupdated, -, hexpired⟩
    exact (hkeeps hnone hfirst hupdated).2.not_gt hexpired

/-- The quality updates of a burst are the only readings of datapoints a round publishes. -/
theorem clientStep_published (timeInMs now : Nat) :
    dataObjects (clientStep cfg redGroup s (.monitoringThread timeInMs now)).2 =
      if s.marksNonTopical cfg redGroup timeInMs now then s.nonTopicalUpdates else [] := by
  rw [marksNonTopical_eq]
  cases clientStep_lossRound cfg redGroup s timeInMs now with
  | activates con hactivates hloss hpublished => simp [hloss, hpublished]
  | arms hnone hfirst hupdated hunarmed hloss hpublished => simp [hloss, hpublished]
  | marks hnone hfirst hupdated harmed hexpired hloss hpublished =>
    simp [hloss, hpublished, hupdated]
  | keeps hactivates hkeeps hloss hpublished => simp [hloss, hpublished]

theorem connectionStep_activeConnection (con : ConId) {i : Input}
    (hi : ∀ p : Plugin, (p.handle cfg i).client.activeConnection = p.client.activeConnection) :
    (s.connectionStep cfg con i).monitor = s.monitor ∧
      (s.connectionStep cfg con i).client.activeConnection = s.client.activeConnection := by
  unfold System.connectionStep
  split_ifs
  · exact ⟨rfl, hi _⟩
  · exact ⟨rfl, rfl⟩

/-- Only the monitoring thread changes its variables and the active connection. -/
theorem handle_monitor {i : ClientInput} (hi : ∀ timeInMs now, i ≠ .monitoringThread timeInMs now) :
    (s.handle cfg redGroup i).monitor = s.monitor ∧
      (s.handle cfg redGroup i).client.activeConnection = s.client.activeConnection := by
  cases i with
  | monitoringThread timeInMs now => exact absurd rfl (hi timeInMs now)
  | connectionEvent con event now =>
    exact connectionStep_activeConnection cfg s con fun _ => rfl
  | asdu con a now =>
    exact connectionStep_activeConnection cfg s con fun p =>
      (p.asduReceivedHandler_link cfg now a).2
  | conThread con env =>
    exact connectionStep_activeConnection cfg s con fun p => (p.conThread_link cfg env).2
  | conThreadDisconnect con =>
    exact connectionStep_activeConnection cfg s con fun p => p.conThreadDisconnect_link.2
  | sendInterrogationCommand ca accepted =>
    refine ⟨?_, (handle_north cfg redGroup s rfl).2.2⟩
    simp only [System.handle, System.sendInterrogationCommand]
    split <;> rfl
  | _ => exact ⟨rfl, (handle_north cfg redGroup s rfl).2.2⟩

end Round

/-! ## Runs -/

/-- What the rounds of the monitoring thread have seen: whether a connection has been activated,
the reading of the clock in the first of the rounds that have found none up to now, and the bursts
since the last activation. -/
structure BurstWatch where
  activated : Bool := false
  emptySince : Option Nat := none
  bursts : Nat := 0
deriving DecidableEq, Repr

def noteBurst (cfg : IEC104ClientConfig) (redGroup : ConId → RedGroupCon) (w : BurstWatch)
    (s : System) (i : ClientInput) (_ : List Effect) : BurstWatch :=
  match i with
  | .monitoringThread timeInMs now =>
    { activated := w.activated || s.activates.isSome
      emptySince := if s.findsNone then some (w.emptySince.getD now) else none
      bursts := (if s.activates.isSome then 0 else w.bursts) +
        if s.marksNonTopical cfg redGroup timeInMs now then 1 else 0 }
  | _ => w

/-- The readings of the clock are far from the end of a `uint64_t`. -/
def MonitorClock : ClientInput → Prop
  | .monitoringThread _ now => now + 500 < 2 ^ 64
  | _ => True

instance : ∀ i, Decidable (MonitorClock i) := by
  unfold MonitorClock
  exact ClientInput.decidable

/-- The round marks the datapoints if and only if a connection was activated before, the round
finds none, more than 500 ms after the first of the rounds that have found none, and no burst
happened since the last activation. -/
structure BurstRight (cfg : IEC104ClientConfig) (redGroup : ConId → RedGroupCon)
    (s : System × BurstWatch) (timeInMs now : Nat) : Prop where
  called : s.1.marksNonTopical cfg redGroup timeInMs now ↔
    s.2.activated ∧ s.1.findsNone ∧ s.2.bursts = 0 ∧ ∃ t ∈ s.2.emptySince, t + 500 < now
  /-- the round publishes nothing else about the datapoints -/
  published : dataObjects (clientStep cfg redGroup s.1 (.monitoringThread timeInMs now)).2 =
    if s.1.marksNonTopical cfg redGroup timeInMs now then s.1.nonTopicalUpdates else []
  switched : s.1.activates.isSome → s.1.marksNonTopical cfg redGroup timeInMs now = false

/-- The rounds of the monitoring thread do it right. -/
def RoundRight (cfg : IEC104ClientConfig) (redGroup : ConId → RedGroupCon)
    (s : System × BurstWatch) : ClientInput → Prop
  | .monitoringThread timeInMs now => BurstRight cfg redGroup s timeInMs now
  | _ => True

/-- What the variables of the thread tell of its rounds: `active` tells that a connection is
active. The timer counts only after an activation. -/
structure BurstInv (active : Bool) (l : Loss) (w : BurstWatch) : Prop where
  firstConnected : l.firstConnected = w.activated
  bursts : w.bursts = if l.qualityUpdated then 1 else 0
  updated : l.qualityUpdated → w.emptySince.isSome
  timer : w.activated → l.qualityUpdateTimer = (w.emptySince.map (· + 500)).getD 0
  active : active → w.emptySince = none

namespace BurstInv

variable {active : Bool} {l : Loss} {w : BurstWatch}

/-- The armed timer of the thread tells when the connection was lost. -/
theorem armed (hl : BurstInv active l w) (hfirst : l.firstConnected)
    (harmed : l.qualityUpdateTimer ≠ 0) :
    ∃ t, w.emptySince = some t ∧ l.qualityUpdateTimer = t + 500 := by
  have htimer := hl.timer (hl.firstConnected.symm.trans hfirst)
  cases hempty : w.emptySince with
  | none =>
    rw [hempty] at htimer
    exact absurd htimer harmed
  | some t => exact ⟨t, rfl, by rw [htimer, hempty]; rfl⟩

theorem bursts_eq_zero (hl : BurstInv active l w) : w.bursts = 0 ↔ l.qualityUpdated = false := by
  rw [hl.bursts]
  cases l.qualityUpdated <;> simp

theorem not_since (hl : BurstInv active l w) (hfirst : l.firstConnected)
    (hunarmed : l.qualityUpdateTimer = 0) : w.emptySince = none := by
  have htimer := hl.timer (hl.firstConnected.symm.trans hfirst)
  rw [hunarmed] at htimer
  cases h : w.emptySince with
  | none => rfl
  | some t =>
    rw [h] at htimer
    cases htimer

/-- A round that finds none arms the timer. -/
theorem arms (hl : BurstInv active l w) (now : Nat) :
    BurstInv false { l with qualityUpdateTimer := now + 500 } { w with emptySince := some now } :=
  ⟨hl.firstConnected, hl.bursts, fun _ => rfl, fun _ => rfl, fun h => (Bool.false_ne_true h).elim⟩

/-- A round that finds none marks the datapoints. -/
theorem marks (hl : BurstInv active l w) (hsince : w.emptySince.isSome) :
    BurstInv false { l with qualityUpdated := true } { w with bursts := 1 } :=
  ⟨hl.firstConnected, rfl, fun _ => hsince, hl.timer, fun h => (Bool.false_ne_true h).elim⟩

/-- A round that finds none does nothing: there was no activation, or the timer is armed. -/
theorem waits (hl : BurstInv active l w) (now : Nat)
    (harmed : l.firstConnected → l.qualityUpdated = false → l.qualityUpdateTimer ≠ 0) :
    BurstInv false l { w with emptySince := some (w.emptySince.getD now) } := by
  refine ⟨hl.firstConnected, hl.bursts, fun _ => rfl, fun hactivated => ?_,
    fun h => (Bool.false_ne_true h).elim⟩
  have hfirst := hl.firstConnected.trans hactivated
  have hsome : w.emptySince.isSome := by
    cases hupdated : l.qualityUpdated with
    | true => exact hl.updated hupdated
    | false =>
      obtain ⟨t, hsince, -⟩ := hl.armed hfirst (harmed hfirst hupdated)
      simp [hsince]
  obtain ⟨t, hsince⟩ := Option.isSome_iff_exists.mp hsome
  rw [hl.timer hactivated, hsince]
  rfl

variable {cfg : IEC104ClientConfig} {redGroup : ConId → RedGroupCon} {s : System}
  {timeInMs now : Nat}

theorem burstRight (hs : BurstInv active s.monitor.loss w) :
    BurstRight cfg redGroup (s, w) timeInMs now := by
  refine ⟨?_, clientStep_published cfg redGroup s timeInMs now, fun hactivates => ?_⟩
  · rw [marksNonTopical_iff, hs.bursts_eq_zero]
    constructor
    · rintro ⟨hnone, hfirst, hupdated, harmed, hexpired⟩
      obtain ⟨t, hsince, htimer⟩ := hs.armed hfirst harmed
      exact ⟨hs.firstConnected.symm.trans hfirst, hnone, hupdated, t, hsince, htimer ▸ hexpired⟩
    · rintro ⟨hactivated, hnone, hupdated, t, hsince, hexpired⟩
      have htimer : s.monitor.loss.qualityUpdateTimer = t + 500 := by
        rw [hs.timer hactivated, Option.mem_def.mp hsince]
        rfl
      refine ⟨hnone, hs.firstConnected.trans hactivated, hupdated, ?_, htimer ▸ hexpired⟩
      rw [htimer]
      exact Nat.succ_ne_zero _
  · by_contra hmarks
    have hnone := ((marksNonTopical_iff cfg redGroup s timeInMs now).mp (by simpa using hmarks)).1
    rw [(System.findsNone_iff.mp hnone).2] at hactivates
    cases hactivates

/-- A round of the monitoring thread. -/
theorem monitoringThread (hs : BurstInv s.client.activeConnection.isSome s.monitor.loss w)
    (hclock : now + 500 < 2 ^ 64) :
    let s' := (clientStep cfg redGroup s (.monitoringThread timeInMs now)).1
    BurstInv s'.client.activeConnection.isSome s'.monitor.loss
      (noteBurst cfg redGroup w s (.monitoringThread timeInMs now) []) := by
  intro s'
  have hidle (hnone : s.findsNone) : s'.client.activeConnection.isSome = false := by
    have hactive : s'.client.activeConnection = none :=
      (monitoringThread_of_findsNone cfg redGroup s.clear hnone timeInMs now).1
    rw [hactive]
    rfl
  have hmarks := marksNonTopical_eq cfg redGroup s timeInMs now
  cases clientStep_lossRound cfg redGroup s timeInMs now with
  | activates con hactivates hloss =>
    have hnone : s.findsNone = false := by
      by_contra h
      cases (System.findsNone_iff.mp (by simpa using h)).2.symm.trans hactivates
    have hnote : noteBurst cfg redGroup w s (.monitoringThread timeInMs now) [] =
        { activated := true } := by
      simp [noteBurst, hactivates, hnone, hmarks, hloss]
    rw [hloss, hnote]
    exact ⟨rfl, rfl, by simp, fun _ => rfl, fun _ => rfl⟩
  | arms hnone hfirst hupdated hunarmed hloss =>
    have hnote : noteBurst cfg redGroup w s (.monitoringThread timeInMs now) [] =
        { w with emptySince := some now } := by
      simp [noteBurst, (System.findsNone_iff.mp hnone).2, hnone, hmarks, hloss,
        hs.not_since hfirst hunarmed]
    rw [hidle hnone, hloss, hnote, Nat.mod_eq_of_lt hclock]
    exact hs.arms now
  | marks hnone hfirst hupdated harmed hexpired hloss =>
    obtain ⟨t, hsince, htimer⟩ := hs.armed hfirst harmed
    have hnote : noteBurst cfg redGroup w s (.monitoringThread timeInMs now) [] =
        { w with bursts := 1 } := by
      simp [noteBurst, (System.findsNone_iff.mp hnone).2, hnone, hmarks, hloss, hsince, hupdated,
        hs.bursts_eq_zero.mpr hupdated]
    rw [hidle hnone, hloss, hnote]
    exact hs.marks (by simp [hsince])
  | keeps hactivates hkeeps hloss =>
    have hnote : noteBurst cfg redGroup w s (.monitoringThread timeInMs now) [] =
        { w with emptySince := if s.findsNone then some (w.emptySince.getD now) else none } := by
      simp [noteBurst, hactivates, hmarks, hloss]
    rw [hloss, hnote]
    by_cases hnone : s.findsNone
    · rw [if_pos hnone, hidle hnone]
      exact hs.waits now fun hfirst hupdated => (hkeeps hnone hfirst hupdated).1
    · have hactive : s.client.activeConnection.isSome := by
        by_contra h
        exact hnone (System.findsNone_iff.mpr ⟨by simpa using h, hactivates⟩)
      rw [if_neg hnone, ← hs.active hactive]
      exact ⟨hs.firstConnected, hs.bursts, hs.updated, hs.timer, fun _ => hs.active hactive⟩

/-- One step of the client. -/
theorem step (hs : BurstInv s.client.activeConnection.isSome s.monitor.loss w) {i : ClientInput}
    (hclock : MonitorClock i) :
    let s' := (watch (clientStep cfg redGroup) (noteBurst cfg redGroup) (s, w) i).1
    BurstInv s'.1.client.activeConnection.isSome s'.1.monitor.loss s'.2 := by
  by_cases hround : ∃ timeInMs now, i = .monitoringThread timeInMs now
  · obtain ⟨timeInMs, now, rfl⟩ := hround
    exact hs.monitoringThread hclock
  · have hi : ∀ timeInMs now, i ≠ .monitoringThread timeInMs now :=
      fun timeInMs now h => hround ⟨timeInMs, now, h⟩
    obtain ⟨hmonitor, hactive⟩ := handle_monitor cfg redGroup s.clear hi
    have hnote (out : List Effect) : noteBurst cfg redGroup w s i out = w := by
      unfold noteBurst
      split
      · exact absurd rfl (hi _ _)
      · rfl
    show BurstInv (s.clear.handle cfg redGroup i).client.activeConnection.isSome
      (s.clear.handle cfg redGroup i).monitor.loss
      (noteBurst cfg redGroup w s i (s.clear.handle cfg redGroup i).client.out)
    rw [hmonitor, hactive, hnote]
    exact hs

end BurstInv

/-- In every run of the monitoring thread beside the other threads, whatever the connections do:
the datapoints are marked non topical exactly in the rounds that have to, and at most once between
two activations. -/
theorem nonTopical_burst (cfg : IEC104ClientConfig) (redGroup : ConId → RedGroupCon) (s : System)
    (timeInMs : Nat) (is : List ClientInput)
    (hclock : Along (watch (clientStep cfg redGroup) (noteBurst cfg redGroup))
      (fun _ => MonitorClock) (s.monitoringThreadStart cfg redGroup timeInMs, {}) is) :
    Along (watch (clientStep cfg redGroup) (noteBurst cfg redGroup)) (RoundRight cfg redGroup)
        (s.monitoringThreadStart cfg redGroup timeInMs, {}) is ∧
      Always (watch (clientStep cfg redGroup) (noteBurst cfg redGroup)) (fun s => s.2.bursts ≤ 1)
        (s.monitoringThreadStart cfg redGroup timeInMs, {}) is := by
  let Inv (s : System × BurstWatch) : Prop :=
    BurstInv s.1.client.activeConnection.isSome s.1.monitor.loss s.2
  have hinit : Inv (s.monitoringThreadStart cfg redGroup timeInMs, {}) :=
    ⟨rfl, rfl, fun h => (Bool.false_ne_true h).elim, fun _ => rfl, fun _ => rfl⟩
  refine ⟨along_of_invariant (I := Inv) (fun _ _ hs hi => hs.step hi) (fun s i hs _ => ?_) hinit
    hclock, always_of_along (I := Inv) (fun _ _ hs hi => hs.step hi) (fun s hs => ?_) hinit hclock⟩
  · cases i with
    | monitoringThread => exact hs.burstRight
    | _ => trivial
  · rw [hs.bursts]
    split_ifs <;> decide

/-- The connection is lost for a second, comes back, and is lost again: each loss brings one
burst. -/
def lostTwice : List ClientInput :=
  [.conThread 0 { created := some 1 }, .connectionEvent 0 .opened 0, .monitoringThread 0 0,
    .connectionEvent 0 .closed 100, .monitoringThread 100 100, .monitoringThread 200 200,
    .monitoringThread 700 700, .monitoringThread 701 701, .monitoringThread 1000 1000,
    .connectionEvent 0 .opened 0, .monitoringThread 1100 1100,
    .connectionEvent 0 .closed 1200, .monitoringThread 1200 1200, .monitoringThread 1300 1300,
    .monitoringThread 1900 1900]

/-- The second loss has brought the second burst. -/
theorem nonTopical_burst_lostTwice :
    let m := watch (clientStep {} fun _ => {}) (noteBurst {} fun _ => {})
    let start := (System.init .empty [0]).monitoringThreadStart {} (fun _ => {}) 0
    (run m (start, {}) lostTwice).2 =
        { activated := true, emptySince := some 1300, bursts := 1 } ∧
      Along m (RoundRight {} fun _ => {}) (start, {}) lostTwice ∧
      Always m (fun s => s.2.bursts ≤ 1) (start, {}) lostTwice :=
  ⟨by decide, nonTopical_burst {} (fun _ => {}) (.init .empty [0]) 0 lostTwice (by decide)⟩

end Iec104South
