import Iec104South.Deadlines
import Iec104South.SyncGate
import Iec104South.ThreadSections

/-!
# The pace of the clock synchronisation

`syncs_spaced`: a clock synchronisation command is sent only when the one before it was
confirmed, and, as long as no new session starts, a `time_sync` period after the confirmation at
the earliest. A refused command, or one that is never answered, is the last one of its session.
`m_timeSyncCommandSent` tells that an answer is awaited, and only a positive ACT_CON clears it; what
the confirmation leaves in `m_timeSynchronized` and `m_nextTimeSync` is undone by STARTDT_CON only.
-/

namespace Iec104South

open Reactive

/-- The variables that decide when a command is sent. -/
structure TimeSync where
  timeSyncCommandSent : Bool
  timeSynchronized : Bool
  nextTimeSync : Nat
deriving DecidableEq, Repr

def Connection.timeSync (con : Connection) : TimeSync where
  timeSyncCommandSent := con.timeSyncCommandSent
  timeSynchronized := con.timeSynchronized
  nextTimeSync := con.nextTimeSync

/-- What a command leaves behind, whether it is accepted or refused. -/
def TimeSync.command (cfg : IEC104ClientConfig) (env : Env) (t : TimeSync) : TimeSync :=
  { t with
    timeSyncCommandSent := t.timeSyncCommandSent || env.syncAccepted
    nextTimeSync :=
      if t.timeSynchronized then addSeconds env.syncTime cfg.timeSyncPeriod else t.nextTimeSync }

/-- An answer to a command. -/
def TimeSync.reply (cfg : IEC104ClientConfig) (now : Nat) (a : ASDU) (t : TimeSync) : TimeSync :=
  if t.timeSyncCommandSent then
    if a.cot = CS101_COT_ACTIVATION_CON then
      if !a.isNegative then
        { timeSyncCommandSent := false
          timeSynchronized := true
          nextTimeSync := addSeconds now cfg.timeSyncPeriod }
      else t
    else if a.cot = CS101_COT_UNKNOWN_TYPE_ID then { t with timeSynchronized := true }
    else t
  else t

theorem Connection.of_timeSyncDue {syncTime : Nat} {con : Connection}
    (h : con.timeSyncDue syncTime) :
    con.timeSync.timeSyncCommandSent = false ∧
      (con.timeSync.timeSynchronized → con.timeSync.nextTimeSync ≤ syncTime) := by
  simp only [timeSyncDue, Bool.or_eq_true, Bool.and_eq_true, Bool.not_eq_true',
    decide_eq_true_eq] at h
  rcases h with ⟨⟨hfirst, -⟩, hsent⟩ | ⟨⟨-, hsent⟩, hnext⟩
  · exact ⟨hsent, fun hsynchronized => absurd hsynchronized (Bool.eq_false_iff.mp hfirst)⟩
  · exact ⟨hsent, fun _ => hnext⟩

namespace TimeSync

variable (cfg : IEC104ClientConfig) (now : Nat) {a : ASDU} (t : TimeSync)

theorem reply_confirmed
    (h : t.timeSyncCommandSent ∧ a.cot = CS101_COT_ACTIVATION_CON ∧ !a.isNegative) :
    t.reply cfg now a =
      { timeSyncCommandSent := false
        timeSynchronized := true
        nextTimeSync := addSeconds now cfg.timeSyncPeriod } := by
  rw [reply, if_pos h.1, if_pos h.2.1, if_pos h.2.2]

/-- Any other answer may end the wait for the first synchronisation, and no more. -/
theorem reply_unconfirmed
    (h : ¬ (t.timeSyncCommandSent ∧ a.cot = CS101_COT_ACTIVATION_CON ∧ !a.isNegative)) :
    ∃ unsupported : Bool, t.reply cfg now a =
      { t with timeSynchronized := t.timeSynchronized || unsupported } := by
  unfold reply
  split_ifs with hsent hcot hpositive
  · exact absurd ⟨hsent, hcot, hpositive⟩ h
  · exact ⟨false, by simp⟩
  · exact ⟨true, by simp⟩
  · exact ⟨false, by simp⟩
  · exact ⟨false, by simp⟩

end TimeSync

theorem timeSyncReply_timeSync (cfg : IEC104ClientConfig) (now : Nat) (a : ASDU)
    (con : Connection) : (con.timeSyncReply cfg now a).timeSync = con.timeSync.reply cfg now a := by
  have hsent : con.timeSync.timeSyncCommandSent = con.timeSyncCommandSent := rfl
  unfold Connection.timeSyncReply TimeSync.reply
  rw [hsent]
  split_ifs
  · simp [Connection.timeSync]
  · rfl
  · rfl
  · rfl
  · rfl

@[simp] theorem sentClockSync_append (a b : List Effect) :
    sentClockSync (a ++ b) = (sentClockSync a || sentClockSync b) := List.any_append

@[simp] theorem sentClockSync_of_reports {out : List Effect} (h : Reports out) :
    sentClockSync out = false :=
  h.any_eq_false fun e he => by cases e <;> first | rfl | cases he

@[simp] theorem sentClockSync_close (con : Option Handle) :
    sentClockSync (con.toList.map .close) = false := by
  cases con <;> rfl

@[simp] theorem sentClockSync_destroy (con : Option Handle) :
    sentClockSync (con.toList.map .destroy) = false := by
  cases con <;> rfl

@[simp] theorem sentClockSync_activate (con : Connection) :
    sentClockSync con.activate.1 = false := by
  unfold Connection.activate
  split_ifs
  · cases con.connection <;> rfl
  · rfl

@[simp] theorem sentClockSync_sendInterrogationCommand (con : Connection) (ca : Int)
    (accepted : Bool) : sentClockSync (con.sendInterrogationCommand ca accepted).2 = false := by
  unfold Connection.sendInterrogationCommand
  split
  · split_ifs <;> rfl
  · rfl

/-- A positive confirmation of a clock synchronisation command. -/
def confirmsClockSync (a : ASDU) : Bool :=
  isClockSync a && a.cot == CS101_COT_ACTIVATION_CON && !a.isNegative

/-- From `p` to `q` the synchronisation is left alone. -/
structure KeepsSync (p q : Plugin) : Prop where
  timeSync : q.con.timeSync = p.con.timeSync
  unsent : sentClockSync q.client.out = sentClockSync p.client.out

namespace KeepsSync

variable {p q r : Plugin}

theorem refl (p : Plugin) : KeepsSync p p := ⟨rfl, rfl⟩

theorem trans (hp : KeepsSync p q) (hq : KeepsSync q r) : KeepsSync p r :=
  ⟨hq.timeSync.trans hp.timeSync, hq.unsent.trans hp.unsent⟩

end KeepsSync

namespace Plugin

variable (cfg : IEC104ClientConfig) (env : Env) (p : Plugin)

theorem sendConnectionStatusAudit_keepsSync (auditType : AuditType) :
    KeepsSync p (p.sendConnectionStatusAudit auditType) := by
  rw [sendConnectionStatusAudit_eq]
  exact ⟨rfl, by simp [emit]⟩

theorem giTasks_keepsSync : KeepsSync p (p.giTasks cfg env) := by
  refine giTasks_rule cfg env p (P := KeepsSync p) (.refl p) ?_ ?_ ?_ ?_ ?_
  · intro q hq _
    refine hq.trans ⟨?_, ?_⟩
    · rw [startNewInterrogationCycle_con]
      rfl
    · rw [startNewInterrogationCycle_client]
      split_ifs <;> simp
  · exact fun q hq => hq.trans ⟨rfl, rfl⟩
  · intro _ _ _ _
    exact ⟨rfl, by simp [failGiRequest_client]⟩
  · intro ca _ _ _ _ _
    refine ⟨?_, ?_⟩
    · rw [sendGiToCa_con]
      rfl
    · rw [sendGiToCa_client]
      split_ifs <;> simp
  · exact fun _ _ _ _ => ⟨rfl, rfl⟩

theorem giSection_keepsSync : KeepsSync p (p.giSection cfg env) := by
  unfold giSection
  split_ifs
  · exact p.giTasks_keepsSync cfg env
  · exact .refl p
  · exact .refl p

theorem timeSyncTasks_timeSync :
    sentClockSync (p.timeSyncTasks cfg env).client.out =
        (sentClockSync p.client.out ||
          (p.con.timeSyncDue env.syncTime && env.syncAccepted)) ∧
      (p.timeSyncTasks cfg env).con.timeSync =
        if p.con.timeSyncDue env.syncTime then p.con.timeSync.command cfg env
        else p.con.timeSync := by
  unfold timeSyncTasks
  cases p.con.timeSyncDue env.syncTime with
  | false => simp
  | true =>
    refine ⟨?_, rfl⟩
    show sentClockSync (p.client.out ++ [.sendClockSyncCommand _ _ env.syncAccepted]) = _
    simp [sentClockSync]

/-- The section of the time synchronisation sends a command when one is due. -/
theorem syncSection_timeSync :
    sentClockSync (p.syncSection cfg env).client.out =
        (sentClockSync p.client.out ||
          (cfg.isTimeSyncEnabled && p.con.timeSyncDue env.syncTime && env.syncAccepted)) ∧
      (p.syncSection cfg env).con.timeSync =
        if cfg.isTimeSyncEnabled && p.con.timeSyncDue env.syncTime then
          p.con.timeSync.command cfg env
        else p.con.timeSync := by
  have haudit := p.sendConnectionStatusAudit_keepsSync .active
  unfold syncSection
  dsimp only
  cases cfg.isTimeSyncEnabled with
  | false => simp [haudit.unsent, haudit.timeSync]
  | true =>
    obtain ⟨hsent, htimeSync⟩ :=
      (p.sendConnectionStatusAudit .active).timeSyncTasks_timeSync cfg env
    rw [if_pos rfl, hsent, htimeSync, haudit.unsent, haudit.timeSync,
      sendConnectionStatusAudit_eq]
    exact ⟨rfl, rfl⟩

/-! ## The other threads -/

theorem received_keepsSync (now : Nat) (a : ASDU) : KeepsSync p (p.received cfg now a) := by
  refine ⟨?_, ?_⟩
  · rw [received_con]
    rfl
  · rw [received_client, handleASDU_out, sentClockSync_append, sentClockSync_append,
      sentClockSync_of_reports (Client.reports_giStatusEvents _ _ _)]
    simp [sentClockSync]

theorem giReply_keepsSync (a : ASDU) : KeepsSync p (p.giReply cfg a) := by
  unfold giReply giConfirmed giTerminated giRejected
  dsimp only
  split_ifs <;> first
    | exact .refl _
    | exact ⟨rfl, by simp⟩

/-- The client leaves every clock synchronisation to the connection. -/
theorem isClockSync_iff (now : Nat) (a : ASDU) :
    isClockSync a ↔ a.typeId = C_CS_NA_1 ∧ (handleASDU cfg now p.self a p.client).1 = false := by
  have hnone : asduHandler C_CS_NA_1 = none := rfl
  rw [isClockSync, Bool.and_eq_true, beq_iff_eq, handleASDU_handled]
  refine and_congr_right fun htype => ?_
  rw [htype, hnone]
  simp [Option.isSome_iff_ne_none]

theorem unhandledASDU_keepsSync (now : Nat) {a : ASDU} (htype : a.typeId ≠ C_CS_NA_1) :
    KeepsSync p (p.unhandledASDU cfg now a).2 := by
  unfold unhandledASDU
  split
  · exact ⟨rfl, rfl⟩
  · next hsync => exact absurd hsync htype
  · exact p.giReply_keepsSync cfg a
  · exact .refl p
  · exact .refl p

/-- An ASDU changes the synchronisation only as an answer. -/
theorem asduReceivedHandler_timeSync (now : Nat) (a : ASDU) :
    sentClockSync (p.asduReceivedHandler cfg now a).2.client.out = sentClockSync p.client.out ∧
      (p.asduReceivedHandler cfg now a).2.con.timeSync =
        if isClockSync a then p.con.timeSync.reply cfg now a else p.con.timeSync := by
  have hreceived := p.received_keepsSync cfg now a
  rw [asduReceivedHandler_eq]
  by_cases hsync : isClockSync a
  · obtain ⟨htype, hunhandled⟩ := (p.isClockSync_iff cfg now a).mp hsync
    rw [if_pos hsync, hunhandled, ← hreceived.timeSync, ← timeSyncReply_timeSync]
    simp only [unhandledASDU, htype]
    exact ⟨hreceived.unsent, rfl⟩
  · rw [if_neg hsync]
    split_ifs with hhandled
    · exact ⟨hreceived.unsent, hreceived.timeSync⟩
    · have hforeign : a.typeId ≠ C_CS_NA_1 := fun htype =>
        hsync ((p.isClockSync_iff cfg now a).mpr ⟨htype, Bool.eq_false_iff.mpr hhandled⟩)
      have hkeeps := hreceived.trans (unhandledASDU_keepsSync cfg _ now hforeign)
      exact ⟨hkeeps.unsent, hkeeps.timeSync⟩

theorem handle_keepsSync {i : Input} (hi : i.isCall) : KeepsSync p (p.handle cfg i) := by
  have htouch : i.touchesGi = false := by cases i <;> first | rfl | cases hi
  have htimeSync := congrArg Connection.timeSync (handle_frame cfg p htouch).1
  refine ⟨htimeSync, ?_⟩
  cases i with
  | connectionEvent _ _ | asdu _ _ | conThread _ | conThreadDisconnect => cases hi
  | activate => simp [handle, emit]
  | connect | disonnect | setActiveConnection => rfl
  | updateConnectionStatus newState => simp [handle, Client.updateConnectionStatus_eq]
  | updateQualityForAllDataObjects qd =>
    simp [handle, Client.updateQualityForAllDataObjects, Client.sendQualityUpdates_eq]
  | sendInterrogationCommand ca accepted =>
    simp only [handle, northInterrogation]
    split_ifs
    · simp [emit]
    · rfl
  | scheduleGI =>
    simp only [handle, scheduleGI, requestGi]
    split <;> rfl
  | sendConnectionStatus =>
    simp only [handle, Client.sendConnectionStatus, Client.sendSouthMonitoringEvent]
    split_ifs
    · rfl
    · rfl
    · simp [Client.emit, sentClockSync]

end Plugin

namespace ConThread

variable (cfg : IEC104ClientConfig)

/-- Of the sections of the thread one sends clock synchronisation commands. -/
theorem thread_keepsSync {env : Env} {s s' : ConThread} (h : ThreadEffect cfg env s s')
    (hactive : s.pc ≠ .active) : KeepsSync s.plugin s'.plugin := by
  cases h with
  | stays | decides | destroyed => exact .refl _
  | @takes purpose | @destroys purpose =>
    refine ⟨?_, by simp [Plugin.takeHandle, Plugin.emit]⟩
    cases purpose <;> rfl
  | works hpc h =>
    cases h with
    | active => exact absurd hpc hactive
    | disconnected | finished | inactive => exact s.plugin.sendConnectionStatusAudit_keepsSync _
    | gi => exact s.plugin.giSection_keepsSync cfg env
  | creates _ hnone hcreated =>
    refine ⟨?_, ?_⟩ <;>
    simp [Plugin.prepare, hnone, hcreated, Plugin.emit, sentClockSync, Connection.timeSync]
  | fails | expires => exact ⟨rfl, rfl⟩
  | loses =>
    have haudit := s.plugin.sendConnectionStatusAudit_keepsSync .disconnected
    exact ⟨haudit.timeSync, haudit.unsent⟩

theorem sentClockSync_send (op : CommandOperation) (accepted : Bool) (con : Connection) :
    sentClockSync (op.send accepted con).2 = false := by
  have hsend (ca : Int) (cmdObj : CommandObject) :
      sentClockSync (con.sendCommand ca cmdObj accepted).2 = false := by
    unfold Connection.sendCommand
    split
    · split_ifs <;> rfl
    · rfl
  cases op with
  | _ => exact hsend _ _

/-- The inputs that may reach the synchronisation. -/
def reachesSync (s : ConThread) : ConThreadInput → Prop
  | .conThread _ => s.pc = .active
  | .connectionEvent _ .startdtConReceived _ => True
  | .asdu .. => True
  | _ => False

theorem handle_keepsSync (s : ConThread) {i : ConThreadInput} (hi : ¬ s.reachesSync i) :
    KeepsSync s.plugin (s.handle cfg i).plugin := by
  cases i with
  | start conn =>
    simp only [handle, start]
    split_ifs <;> exact ⟨rfl, rfl⟩
  | stop => exact .refl _
  | conThread env => exact thread_keepsSync cfg (s.nextSection_effect cfg env) hi
  | connectionEvent con event now =>
    simp only [handle, connectionEvent]
    split_ifs
    · cases event with
      | startdtConReceived => exact absurd trivial hi
      | opened | closed | stopdtConReceived | other => exact ⟨rfl, rfl⟩
    · exact .refl _
  | asdu con a now => exact absurd trivial hi
  | sendCommand op accepted =>
    refine ⟨rfl, ?_⟩
    simp [handle, Plugin.emit, sentClockSync_send]
  | call i =>
    simp only [handle]
    split_ifs with hcall
    · exact s.plugin.handle_keepsSync cfg hcall
    · exact .refl _

end ConThread

/-! ## Runs -/

/-- The commands of a connection: one was accepted and not confirmed, and when the last one was
confirmed, if no session has started since. -/
structure SyncPace where
  unanswered : Bool := false
  confirmed : Option Nat := none
deriving DecidableEq, Repr

def noteSyncPace (w : SyncPace) (s : ConThread) (i : ConThreadInput) (out : List Effect) :
    SyncPace :=
  match i with
  | .conThread _ => { w with unanswered := w.unanswered || sentClockSync out }
  | .connectionEvent con .startdtConReceived _ =>
    if con ∈ s.undestroyed then { w with confirmed := none } else w
  | .asdu con a now =>
    if con ∈ s.undestroyed ∧ w.unanswered ∧ confirmsClockSync a then
      { unanswered := false, confirmed := some now }
    else w
  | _ => w

/-- A command is sent by the thread only, after the one before it was confirmed, and a period
after the confirmation. -/
def SyncSpaced (cfg : IEC104ClientConfig) (s : ConThread × SyncPace) (i : ConThreadInput) : Prop :=
  sentClockSync (conThreadStep cfg s.1 i).2 →
    match i with
    | .conThread env =>
      s.2.unanswered = false ∧
        ∀ confirmed ∈ s.2.confirmed, confirmed + cfg.timeSyncPeriod * 1000 ≤ env.syncTime
    | _ => False

/-- The clock is far from the end of a `uint64_t`. -/
def SyncClock : ConThreadInput → Prop
  | .conThread env => env.syncTime < 2 ^ 63
  | .asdu _ _ now => now < 2 ^ 63
  | _ => True

instance : DecidablePred SyncClock
  | .conThread env => inferInstanceAs (Decidable (env.syncTime < 2 ^ 63))
  | .asdu _ _ now => inferInstanceAs (Decidable (now < 2 ^ 63))
  | .start _ | .stop | .connectionEvent .. | .sendCommand .. | .call _ =>
    inferInstanceAs (Decidable True)

/-- What the variables of the synchronisation say about the commands. -/
structure SyncPaceInv (cfg : IEC104ClientConfig) (t : TimeSync) (w : SyncPace) : Prop where
  unanswered : w.unanswered = t.timeSyncCommandSent
  confirmed : ∀ confirmed ∈ w.confirmed,
    t.timeSynchronized ∧ confirmed + cfg.timeSyncPeriod * 1000 ≤ t.nextTimeSync

theorem addSeconds_timeSyncPeriod {cfg : IEC104ClientConfig}
    (hperiod : cfg.timeSyncPeriod ≤ maxSeconds) {now : Nat} (hclock : now < 2 ^ 63) :
    addSeconds now cfg.timeSyncPeriod = now + cfg.timeSyncPeriod * 1000 := by
  unfold maxSeconds at hperiod
  exact addSeconds_of_lt (by omega) (by omega)

namespace SyncPaceInv

variable {cfg : IEC104ClientConfig} {t : TimeSync} {w : SyncPace}

/-- The command before was confirmed, so the next time is a period after the confirmation. -/
theorem command (hs : SyncPaceInv cfg t w) (hperiod : cfg.timeSyncPeriod ≤ maxSeconds) {env : Env}
    (hclock : env.syncTime < 2 ^ 63)
    (hdue : t.timeSynchronized → t.nextTimeSync ≤ env.syncTime) :
    (∀ confirmed ∈ w.confirmed, confirmed + cfg.timeSyncPeriod * 1000 ≤ env.syncTime) ∧
      SyncPaceInv cfg (t.command cfg env)
        { w with unanswered := w.unanswered || env.syncAccepted } := by
  have hpassed (confirmed : Nat) (h : confirmed ∈ w.confirmed) :
      confirmed + cfg.timeSyncPeriod * 1000 ≤ env.syncTime := by
    obtain ⟨hsynchronized, hnext⟩ := hs.confirmed confirmed h
    exact hnext.trans (hdue hsynchronized)
  refine ⟨hpassed, by simp [TimeSync.command, hs.unanswered], fun confirmed h => ?_⟩
  obtain ⟨hsynchronized, -⟩ := hs.confirmed confirmed h
  refine ⟨hsynchronized, ?_⟩
  have hbefore := hpassed confirmed h
  simp only [TimeSync.command, hsynchronized, if_true, addSeconds_timeSyncPeriod hperiod hclock]
  omega

/-- An ASDU confirms the command, or leaves it unconfirmed. -/
theorem reply (hs : SyncPaceInv cfg t w) (hperiod : cfg.timeSyncPeriod ≤ maxSeconds) {now : Nat}
    (hclock : now < 2 ^ 63) (a : ASDU) :
    SyncPaceInv cfg (if isClockSync a then t.reply cfg now a else t)
      (if w.unanswered ∧ confirmsClockSync a then { unanswered := false, confirmed := some now }
      else w) := by
  by_cases hsync : isClockSync a
  · have hconfirms : w.unanswered ∧ confirmsClockSync a ↔
        t.timeSyncCommandSent ∧ a.cot = CS101_COT_ACTIVATION_CON ∧ !a.isNegative := by
      simp [confirmsClockSync, hsync, hs.unanswered]
    rw [if_pos hsync]
    by_cases h : w.unanswered ∧ confirmsClockSync a
    · rw [if_pos h, t.reply_confirmed cfg now (hconfirms.mp h)]
      refine ⟨rfl, fun confirmed hconfirmed => ⟨rfl, ?_⟩⟩
      rw [← Option.some.inj hconfirmed, addSeconds_timeSyncPeriod hperiod hclock]
    · obtain ⟨unsupported, hreply⟩ := t.reply_unconfirmed cfg now fun h' => h (hconfirms.mpr h')
      rw [if_neg h, hreply]
      exact ⟨hs.unanswered, fun confirmed h => by simp [hs.confirmed confirmed h]⟩
  · rw [if_neg hsync, if_neg fun h => hsync (by simp_all [confirmsClockSync])]
    exact hs

/-- STARTDT_CON. -/
theorem restart (hs : SyncPaceInv cfg t w) (now : Nat) :
    SyncPaceInv cfg { t with timeSynchronized := false, nextTimeSync := now }
      { w with confirmed := none } :=
  ⟨hs.unanswered, by simp⟩

variable {s : ConThread}

/-- An input that does not reach the synchronisation. -/
theorem keeps (hs : SyncPaceInv cfg s.plugin.con.timeSync w) {i : ConThreadInput}
    (hi : ¬ s.reachesSync i) :
    SyncPaceInv cfg (conThreadStep cfg s i).1.plugin.con.timeSync
        (noteSyncPace w s i (conThreadStep cfg s i).2) ∧
      sentClockSync (conThreadStep cfg s i).2 = false := by
  have hkeeps : KeepsSync s.clear.plugin (conThreadStep cfg s i).1.plugin :=
    s.clear.handle_keepsSync cfg hi
  have hunsent : sentClockSync (conThreadStep cfg s i).2 = false := hkeeps.unsent
  have hnote : noteSyncPace w s i (conThreadStep cfg s i).2 = w := by
    cases i with
    | conThread env => simp [noteSyncPace, hunsent]
    | connectionEvent con event now =>
      cases event with
      | startdtConReceived => exact absurd trivial hi
      | opened | closed | stopdtConReceived | other => rfl
    | asdu con a now => exact absurd trivial hi
    | start _ | stop | sendCommand _ _ | call _ => rfl
  rw [hnote, hkeeps.timeSync]
  exact ⟨hs, hunsent⟩

theorem active (hs : SyncPaceInv cfg s.plugin.con.timeSync w)
    (hperiod : cfg.timeSyncPeriod ≤ maxSeconds) {env : Env} (hclock : env.syncTime < 2 ^ 63)
    (hpc : s.pc = .active) :
    SyncPaceInv cfg (conThreadStep cfg s (.conThread env)).1.plugin.con.timeSync
        (noteSyncPace w s (.conThread env) (conThreadStep cfg s (.conThread env)).2) ∧
      SyncSpaced cfg (s, w) (.conThread env) := by
  have hsection : (conThreadStep cfg s (.conThread env)).1.plugin =
      s.clear.plugin.syncSection cfg env := by
    simp [conThreadStep, ConThread.handle, ConThread.nextSection, ConThread.clear, hpc]
  have hout : (conThreadStep cfg s (.conThread env)).2 =
      (s.clear.plugin.syncSection cfg env).client.out := congrArg (·.client.out) hsection
  obtain ⟨hsent, htimeSync⟩ := s.clear.plugin.syncSection_timeSync cfg env
  have hcleared : sentClockSync s.clear.plugin.client.out = false := rfl
  rw [← hout, hcleared, Bool.false_or] at hsent
  rw [← hsection] at htimeSync
  simp only [noteSyncPace, SyncSpaced, htimeSync, hsent]
  cases hdue : cfg.isTimeSyncEnabled && s.clear.plugin.con.timeSyncDue env.syncTime with
  | false =>
    simp only [Bool.false_and, Bool.or_false, Bool.false_eq_true, if_false]
    exact ⟨hs, False.elim⟩
  | true =>
    obtain ⟨hunsent, hpassed⟩ :=
      Connection.of_timeSyncDue (Bool.and_eq_true_iff.mp hdue).2
    obtain ⟨hspaced, hinv⟩ := hs.command hperiod hclock hpassed
    simp only [Bool.true_and, if_true]
    exact ⟨hinv, fun _ => ⟨hs.unanswered.trans hunsent, hspaced⟩⟩

theorem asdu (hs : SyncPaceInv cfg s.plugin.con.timeSync w)
    (hperiod : cfg.timeSyncPeriod ≤ maxSeconds) {now : Nat} (hclock : now < 2 ^ 63) (con : Handle)
    (a : ASDU) :
    SyncPaceInv cfg (conThreadStep cfg s (.asdu con a now)).1.plugin.con.timeSync
        (noteSyncPace w s (.asdu con a now) (conThreadStep cfg s (.asdu con a now)).2) ∧
      sentClockSync (conThreadStep cfg s (.asdu con a now)).2 = false := by
  obtain ⟨hsent, htimeSync⟩ := s.clear.plugin.asduReceivedHandler_timeSync cfg now a
  by_cases hcon : con ∈ s.undestroyed
  · have hplugin : (conThreadStep cfg s (.asdu con a now)).1.plugin =
        (s.clear.plugin.asduReceivedHandler cfg now a).2 := by
      simp [conThreadStep, ConThread.handle, ConThread.clear, hcon]
    have hout : (conThreadStep cfg s (.asdu con a now)).2 =
        (s.clear.plugin.asduReceivedHandler cfg now a).2.client.out :=
      congrArg (·.client.out) hplugin
    rw [← hout] at hsent
    rw [← hplugin] at htimeSync
    refine ⟨?_, hsent⟩
    simp only [noteSyncPace, hcon, htimeSync, true_and]
    exact hs.reply hperiod hclock a
  · have hsame : (conThreadStep cfg s (.asdu con a now)).1 = s.clear := by
      simp [conThreadStep, ConThread.handle, ConThread.clear, hcon]
    refine ⟨?_, ?_⟩
    · simp only [noteSyncPace, hcon, hsame, false_and, if_false]
      exact hs
    · exact congrArg (sentClockSync ·.plugin.client.out) hsame

/-- The start of a session, if lib60870 reports it for a handle that is not destroyed. -/
theorem startdt (hs : SyncPaceInv cfg s.plugin.con.timeSync w) (con : Handle) (now : Nat) :
    let i : ConThreadInput := .connectionEvent con .startdtConReceived now
    SyncPaceInv cfg (conThreadStep cfg s i).1.plugin.con.timeSync
        (noteSyncPace w s i (conThreadStep cfg s i).2) ∧
      sentClockSync (conThreadStep cfg s i).2 = false := by
  intro i
  by_cases hcon : con ∈ s.undestroyed
  · have hstep : (conThreadStep cfg s i).1.plugin = { s.clear.plugin with
        con := s.plugin.con.connectionHandler .startdtConReceived now } := by
      simp [i, conThreadStep, ConThread.handle, ConThread.connectionEvent, ConThread.clear, hcon]
    refine ⟨?_, congrArg (sentClockSync ·.client.out) hstep⟩
    simp only [i, noteSyncPace, hcon, hstep, if_true]
    exact hs.restart now
  · have hsame : (conThreadStep cfg s i).1 = s.clear := by
      simp [i, conThreadStep, ConThread.handle, ConThread.connectionEvent, ConThread.clear, hcon]
    refine ⟨?_, congrArg (sentClockSync ·.plugin.client.out) hsame⟩
    simp only [i, noteSyncPace, hcon, hsame, if_false]
    exact hs

theorem step (hs : SyncPaceInv cfg s.plugin.con.timeSync w)
    (hperiod : cfg.timeSyncPeriod ≤ maxSeconds) {i : ConThreadInput} (hi : SyncClock i) :
    SyncPaceInv cfg (conThreadStep cfg s i).1.plugin.con.timeSync
        (noteSyncPace w s i (conThreadStep cfg s i).2) ∧
      SyncSpaced cfg (s, w) i := by
  have hsilent {i : ConThreadInput} (h : sentClockSync (conThreadStep cfg s i).2 = false) :
      SyncSpaced cfg (s, w) i := fun hsent => absurd hsent (Bool.eq_false_iff.mp h)
  by_cases hreach : s.reachesSync i
  · cases i with
    | conThread env => exact hs.active hperiod hi hreach
    | connectionEvent con event now =>
      cases event with
      | startdtConReceived => exact (hs.startdt con now).imp_right hsilent
      | opened | closed | stopdtConReceived | other => exact hreach.elim
    | asdu con a now => exact (hs.asdu hperiod hi con a).imp_right hsilent
    | start _ | stop | sendCommand _ _ | call _ => exact hreach.elim
  · exact (hs.keeps hreach).imp_right hsilent

end SyncPaceInv

/-- In every run of a connection, whatever its threads and the station do: a clock synchronisation
command is accepted only when the one before it was confirmed and, if no session has started since,
a `time_sync` period after its confirmation at the earliest. -/
theorem syncs_spaced (cfg : IEC104ClientConfig) (t : ExchangeTable) (self : ConId)
    (is : List ConThreadInput) (hperiod : cfg.timeSyncPeriod ≤ maxSeconds)
    (hclock : Along (watch (conThreadStep cfg) noteSyncPace) (fun _ => SyncClock)
      (ConThread.init t self, {}) is) :
    Along (watch (conThreadStep cfg) noteSyncPace) (SyncSpaced cfg) (ConThread.init t self, {})
      is :=
  along_of_invariant (I := fun s => SyncPaceInv cfg s.1.plugin.con.timeSync s.2)
    (fun _ _ hs hi => (hs.step hperiod hi).1) (fun _ _ hs hi => (hs.step hperiod hi).2)
    ⟨rfl, by simp⟩ hclock

/-- The second command is accepted one period after the confirmation of the first. -/
theorem syncs_spaced_oneMinute :
    let is : List ConThreadInput := [.start true, .conThread {}, .conThread {},
      .conThread { created := some 1 }, .connectionEvent 1 .opened 0, .call .activate,
      .connectionEvent 1 .startdtConReceived 0, .conThread {}, .conThread {},
      .conThread { syncTime := 100, syncAccepted := true }, .asdu 1 clockSyncConfirmation 200,
      .conThread {}, .conThread {}, .conThread {},
      .conThread { syncTime := 60200, syncAccepted := true }]
    (trace (conThreadStep { timeSyncPeriod := 60 }) (ConThread.init .empty 0) is).countP
        (fun e => sentClockSync [e]) = 2 ∧
      Along (watch (conThreadStep { timeSyncPeriod := 60 }) noteSyncPace)
        (SyncSpaced { timeSyncPeriod := 60 }) (ConThread.init .empty 0, {}) is :=
  ⟨by decide, syncs_spaced { timeSyncPeriod := 60 } .empty 0 _ (by decide) (by decide)⟩

end Iec104South
