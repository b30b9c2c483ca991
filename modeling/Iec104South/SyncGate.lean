import Iec104South.GiAttempts
import Iec104South.TimeSync

/-!
# The GI waits for the time synchronisation

`gate_waits_of_along`: with time synchronisation, a round sends an interrogation command on a
session only after a clock synchronisation command of that session was answered, in every run
in which no round between `Activate` and STARTDT_CON finds
`m_firstTimeSyncOperationCompleted` set by an earlier session, and no other `C_CS_NA_1` than the
answer comes first after STARTDT_CON. The flag is reset at STARTDT_CON only and set by every
`C_CS_NA_1`, so both conditions are needed: `spontaneous_clock_opens_gate`,
`earlier_session_opens_gate`.
-/

namespace Iec104South

open Reactive

/-- A `C_CS_NA_1` that the client leaves to the connection. -/
def isClockSync (a : ASDU) : Bool := a.typeId == C_CS_NA_1 && a.elements.any (·.isSome)

/-- The ASDU answers a clock synchronisation command: an ACT_CON, or one of the causes 44 to 47
with which a station refuses a command. -/
def answersClockSync (a : ASDU) : Bool :=
  a.typeId == C_CS_NA_1 && (a.cot == CS101_COT_ACTIVATION_CON || (44 ≤ a.cot && a.cot ≤ 47))

/-- The state of the session: a clock synchronisation command was sent on it, its answer was
received, and STARTDT_CON was received. -/
structure GateWatch where
  syncSent : Bool := false
  answered : Bool := false
  started : Bool := false
deriving DecidableEq, Repr

def noteGate (w : GateWatch) (_ : Plugin) (i : Input) (out : List Effect) : GateWatch :=
  match i with
  | .connectionEvent .opened _ => {}
  | .connectionEvent .startdtConReceived _ => { w with started := true }
  | .conThread _ => { w with syncSent := w.syncSent || sentClockSync out }
  | .asdu a _ => { w with answered := w.answered || (w.syncSent && answersClockSync a) }
  | _ => w

/-- The round sends an interrogation command only after the answer. -/
def GateWaits (cfg : IEC104ClientConfig) (s : Plugin × GateWatch) : Input → Prop
  | .conThread env =>
    interrogationCommands (step cfg s.1 (.conThread env)).2 ≠ [] → s.2.answered
  | _ => True

instance (cfg : IEC104ClientConfig) (s : Plugin × GateWatch) :
    ∀ i, Decidable (GateWaits cfg s i) := by
  unfold GateWaits
  exact Input.decidable

/-- Before STARTDT_CON no active round finds the flag of an earlier session, and after it the
first `C_CS_NA_1` is the answer to a command of the session. -/
def GateKept (s : Plugin × GateWatch) : Input → Prop
  | .conThread _ =>
    s.2.started = false → s.1.con.connectionState = .connectedActive →
      s.1.con.firstTimeSyncOperationCompleted → s.2.answered
  | .asdu a _ =>
    s.2.started → s.2.answered = false → isClockSync a → s.2.syncSent ∧ answersClockSync a
  | _ => True

instance (s : Plugin × GateWatch) : ∀ i, Decidable (GateKept s i) := by
  unfold GateKept
  exact Input.decidable

/-- After STARTDT_CON the flag tells that the answer was received. -/
def GateInv (s : Plugin × GateWatch) : Prop :=
  s.2.started → s.1.con.firstTimeSyncOperationCompleted → s.2.answered

namespace Plugin

variable (cfg : IEC104ClientConfig) (env : Env) (p : Plugin)

/-- A round leaves the flag to library events and received ASDUs. -/
theorem conThread_firstTimeSyncOperationCompleted :
    (p.conThread cfg env).con.firstTimeSyncOperationCompleted =
      p.con.firstTimeSyncOperationCompleted := by
  by_cases hactive : p.con.connectionState = .connectedActive
  · obtain ⟨_, _, heq⟩ := p.beforeGi_eq cfg env
    have hbefore : (p.beforeGi cfg env).con.firstTimeSyncOperationCompleted =
        p.con.firstTimeSyncOperationCompleted := by
      rw [heq]
    rw [conThread_connectedActive cfg env p hactive]
    split_ifs
    · refine giTasks_rule cfg env _ (P := fun q => q.con.firstTimeSyncOperationCompleted =
        p.con.firstTimeSyncOperationCompleted) hbefore ?_ (fun _ hq => hq)
        (fun _ _ _ _ => hbefore) ?_
        (fun _ _ _ _ => hbefore)
      · intro q hq _
        rw [startNewInterrogationCycle_con]
        exact hq
      · intro ca _ _ _ _ _
        rw [sendGiToCa_con]
        exact hbefore
    · exact hbefore
  · have h := conThread_syncFlags cfg env p hactive
    simp only [Connection.syncFlags, Prod.mk.injEq] at h
    exact h.2.2

end Plugin

namespace GateInv

variable {cfg : IEC104ClientConfig} {s : Plugin × GateWatch} {i : Input}

theorem step (hs : GateInv s) (hi : GateKept s i) :
    GateInv (watch (Iec104South.step cfg) noteGate s i).1 := by
  obtain ⟨p, w⟩ := s
  show GateInv (p.clear.handle cfg i, noteGate w p i (p.clear.handle cfg i).client.out)
  cases htouch : i.touchesGi with
  | false =>
    have hflags := Plugin.handle_syncFlags cfg p.clear htouch
    simp only [Connection.syncFlags, Prod.mk.injEq] at hflags
    have hkeep : GateInv (p.clear.handle cfg i, w) :=
      fun hstarted hflag => hs hstarted (hflags.2.2.symm.trans hflag)
    cases i with
    | connectionEvent _ _ | asdu _ _ | conThread _ => cases htouch
    | _ => exact hkeep
  | true =>
    cases i with
    | connectionEvent event now =>
      cases event with
      | opened => exact fun hstarted => (Bool.false_ne_true hstarted).elim
      | startdtConReceived => exact fun _ hflag => (Bool.false_ne_true hflag).elim
      | closed | stopdtConReceived | other => exact hs
    | asdu a now =>
      intro hstarted hflag
      show w.answered || (w.syncSent && answersClockSync a)
      rcases p.clear.asduReceivedHandler_syncFlags cfg now a with
        hkeep | ⟨⟨htype, e, he, hsome⟩, -⟩
      · simp only [Connection.syncFlags, Prod.mk.injEq] at hkeep
        have hanswered : w.answered := hs hstarted (hkeep.2.2.symm.trans hflag)
        simp [hanswered]
      -- a `C_CS_NA_1` sets the flag whatever it is, so it has to be the answer
      · cases hanswered : w.answered with
        | true => rfl
        | false =>
          have hsync : isClockSync a := by
            simp only [isClockSync, htype, beq_self_eq_true, Bool.true_and, List.any_eq_true]
            exact ⟨e, he, Option.isSome_iff_ne_none.mpr hsome⟩
          obtain ⟨hsent, hanswers⟩ := hi hstarted hanswered hsync
          rw [hsent, hanswers]
          rfl
    | conThread env =>
      intro hstarted hflag
      exact hs hstarted
        ((p.clear.conThread_firstTimeSyncOperationCompleted cfg env).symm.trans hflag)
    | _ => cases htouch

/-- A round that reaches the GI finds the flag set. -/
theorem waits (henabled : cfg.isTimeSyncEnabled) (hs : GateInv s) (hi : GateKept s i) :
    GateWaits cfg s i := by
  obtain ⟨p, w⟩ := s
  cases i with
  | conThread env =>
    intro hsends
    have hrun := p.runsGiTasks_of_attemptedCas cfg env (Plugin.attemptedCas_of_sends hsends)
    have hflag : p.con.firstTimeSyncOperationCompleted := by
      simpa [Plugin.runsGiTasks, henabled] using (Bool.and_eq_true_iff.mp hrun).2
    cases hstarted : w.started with
    | true => exact hs hstarted hflag
    | false => exact hi hstarted (p.active_of_runsGiTasks hrun) hflag
  | _ => trivial

end GateInv

/-- With time synchronisation, in every run in which no round before STARTDT_CON finds the flag
of an earlier session and no `C_CS_NA_1` comes before the answer, the GI of every session waits
for the answer to a clock synchronisation command of the session. -/
theorem gate_waits_of_along (cfg : IEC104ClientConfig) (t : ExchangeTable) (self : ConId)
    (is : List Input) (henabled : cfg.isTimeSyncEnabled)
    (h : Along (watch (step cfg) noteGate) GateKept (Plugin.init t self, {}) is) :
    Along (watch (step cfg) noteGate) (GateWaits cfg) (Plugin.init t self, {}) is :=
  along_of_invariant (fun _ _ hs hi => GateInv.step hs hi)
    (fun _ _ hs hi => hs.waits henabled hi) (fun hstarted => (Bool.false_ne_true hstarted).elim) h

/-- Two sessions, each with an answered command before its GI. -/
theorem gate_waits_two_sessions :
    Along (watch (step { timeSyncPeriod := 60 }) noteGate) (GateWaits { timeSyncPeriod := 60 })
      (Plugin.init .empty 0, {})
      (firstRequest ++ [.asdu clockSyncConfirmation 100, .conThread {}] ++ reconnect ++
        [.connectionEvent .startdtConReceived 10000, .conThread { syncTime := 10000 },
          .asdu clockSyncConfirmation 10100, .conThread { currentTime := 10100 }]) :=
  gate_waits_of_along { timeSyncPeriod := 60 } .empty 0 _ (by decide) (by decide)

/-- The station reports its clock right after STARTDT_CON: the GI is sent, and no clock
synchronisation command at all. -/
theorem spontaneous_clock_opens_gate :
    ¬ Along (watch (step { timeSyncPeriod := 60 }) noteGate) (GateWaits { timeSyncPeriod := 60 })
      (Plugin.init .empty 0, {})
      [.connect, .conThread { created := some 1 }, .connectionEvent .opened 0, .activate,
        .connectionEvent .startdtConReceived 0,
        .asdu { clockSyncConfirmation with cot := CS101_COT_SPONTANEOUS } 0, .conThread {}] := by
  decide

/-- The second session is active, and its GI starts before STARTDT_CON resets the flag. -/
theorem earlier_session_opens_gate :
    ¬ Along (watch (step { timeSyncPeriod := 60 }) noteGate) (GateWaits { timeSyncPeriod := 60 })
      (Plugin.init .empty 0, {})
      (firstRequest ++ [.asdu clockSyncConfirmation 100] ++ reconnect ++ [.conThread {}]) := by
  decide

end Iec104South
