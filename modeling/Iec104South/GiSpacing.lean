import Iec104South.GiSchedule

/-!
# The spacing of cyclic GIs

A cycle that starts on time starts more than `gi_cycle` after every interrogation command of the
cycles before it, however these ended: `cycle_spaced_of_clock`. `m_nextGIStartTime` is left alone
by most ends of a cycle, but it never lies before the last command plus `gi_cycle`; with
`gi_all_ca` that holds from the end of the list on.
-/

namespace Iec104South

open Reactive

/-- What the rounds have read and sent, and what happened between two cycles. -/
structure SpacingWatch where
  /-- the last reading of the clock -/
  clock : Nat := 0
  /-- the reading after the last interrogation command of a cycle -/
  lastSent : Option Nat := none
  /-- since the latest start of a cycle: no STARTDT_CON, no end of initialisation, no trigger -/
  quiet : Bool := false
  /-- the latest cycle has sent nothing yet -/
  fresh : Bool := false
  /-- `quiet` when the latest cycle started -/
  quietBefore : Bool := false
  /-- a GI request was pending when the latest cycle started -/
  requestedBefore : Bool := false
deriving DecidableEq, Repr

/-- The input is a STARTDT_CON, an end of initialisation or a GI trigger. -/
def Plugin.disturbs (cfg : IEC104ClientConfig) (p : Plugin) : Input → Bool
  | .connectionEvent .startdtConReceived _ => true
  | .asdu a now => isEndOfInit a || p.triggersGi cfg (.asdu a now)
  | i => p.triggersGi cfg i

namespace SpacingWatch

/-- The round may start a cycle. -/
def enter (cfg : IEC104ClientConfig) (env : Env) (p : Plugin) (w : SpacingWatch) : SpacingWatch :=
  if p.startsCycle cfg env then
    { w with
      quiet := true
      fresh := true
      quietBefore := w.quiet
      requestedBefore := p.giSchedule.giRequested }
  else w

/-- The round may send a command of the cycle. -/
def send (env : Env) (out : List Effect) (w : SpacingWatch) : SpacingWatch :=
  { w with
    clock := env.sentTime
    lastSent := if sentRequest out then some env.sentTime else w.lastSent
    fresh := w.fresh && !sentRequest out }

end SpacingWatch

def noteSpacing (cfg : IEC104ClientConfig) (w : SpacingWatch) (p : Plugin) (i : Input)
    (out : List Effect) : SpacingWatch :=
  match i with
  | .conThread env => (w.enter cfg env p).send env out
  | i => { w with quiet := w.quiet && !p.disturbs cfg i }

/-- The commands of the cycles before were sent more than `gi_cycle` before the round. -/
def SpacingWatch.spaced (cfg : IEC104ClientConfig) (env : Env) (w : SpacingWatch) : Prop :=
  ∀ sent ∈ w.lastSent, sent + cfg.giCycle * 1000 < env.currentTime

instance (cfg : IEC104ClientConfig) (env : Env) (w : SpacingWatch) :
    Decidable (w.spaced cfg env) :=
  inferInstanceAs (Decidable (∀ sent ∈ w.lastSent, _))

/-- The first command of a cycle with none of these inputs since the cycle before. -/
def QuietCycleSpaced (cfg : IEC104ClientConfig) (s : Plugin × SpacingWatch) : Input → Prop
  | .conThread env =>
    let w := s.2.enter cfg env s.1
    sentRequest (step cfg s.1 (.conThread env)).2 ∧ w.fresh ∧ w.quietBefore → w.spaced cfg env
  | _ => True

/-- The first command of such a cycle, if it started with no GI request pending. -/
def TimedCycleSpaced (cfg : IEC104ClientConfig) (s : Plugin × SpacingWatch) : Input → Prop
  | .conThread env =>
    let w := s.2.enter cfg env s.1
    sentRequest (step cfg s.1 (.conThread env)).2 ∧ w.fresh ∧ w.quietBefore ∧
      w.requestedBefore = false → w.spaced cfg env
  | _ => True

/-- The readings of the rounds do not go back, and are far from the end of a `uint64_t`. -/
def ClockRuns (s : Plugin × SpacingWatch) : Input → Prop
  | .conThread env =>
    s.2.clock ≤ env.currentTime ∧ env.currentTime ≤ env.sentTime ∧ env.sentTime < 2 ^ 63
  | _ => True

instance (cfg : IEC104ClientConfig) (s : Plugin × SpacingWatch) :
    ∀ i, Decidable (QuietCycleSpaced cfg s i) := by
  unfold QuietCycleSpaced
  exact Input.decidable

instance (cfg : IEC104ClientConfig) (s : Plugin × SpacingWatch) :
    ∀ i, Decidable (TimedCycleSpaced cfg s i) := by
  unfold TimedCycleSpaced
  exact Input.decidable

instance (s : Plugin × SpacingWatch) : ∀ i, Decidable (ClockRuns s i) := by
  unfold ClockRuns
  exact Input.decidable

/-! ## One round -/

/-- What a round from `p` to `q` does to the start time of the next cycle, and to what else a
start depends on. -/
structure SchedulesNext (cfg : IEC104ClientConfig) (env : Env) (p q : Plugin) : Prop where
  sent : sentRequest q.client.out →
    cfg.giAllCa ∧ q.con.interrogationInProgress ∨
      q.con.nextGIStartTime = addSeconds env.sentTime cfg.giCycle
  unsent : sentRequest q.client.out = false →
    q.con.nextGIStartTime = addSeconds env.currentTime cfg.giCycle ∨
      q.con.nextGIStartTime = p.con.nextGIStartTime ∧
        (cfg.giAllCa → q.con.interrogationInProgress = false →
          p.con.interrogationInProgress = false)
  starts : p.startsCycle cfg env → q.con.firstGISent ∧ q.con.endOfInitReceived = false
  continues : p.startsCycle cfg env = false →
    q.con.firstGISent = p.con.firstGISent ∧ q.con.endOfInitReceived = p.con.endOfInitReceived

namespace Plugin

variable {cfg : IEC104ClientConfig} {env : Env} {p : Plugin}

theorem sentRequest_eq_false {out : List Effect} (h : interrogationCommands out = []) :
    sentRequest out = false :=
  Bool.eq_false_iff.mpr fun hsent => interrogationCommands_of_sentRequest hsent h

theorem giTasks_schedulesNext_of_startsCycle (hquiet : sentRequest p.client.out = false)
    (h : p.startsCycle cfg env) : SchedulesNext cfg env p (p.giTasks cfg env) := by
  obtain ⟨q, requested, hfrom, heq⟩ := p.giTasks_of_startsCycle cfg env h
  have hview : q.con.nextGIStartTime = p.con.nextGIStartTime ∧
      q.con.interrogationInProgress = p.con.interrogationInProgress ∧
      sentRequest q.client.out = false := by
    rcases hfrom with rfl | ⟨hall, hnone, rfl⟩
    · exact ⟨rfl, rfl, hquiet⟩
    · have hbroadcast : p.broadcastSent cfg env = false := by simp [broadcastSent, hall]
      rw [sentRequest_start, startNewInterrogationCycle_con]
      simp [hbroadcast, hall, hnone, hquiet]
  obtain ⟨hnext, hprogress, hunsent⟩ := hview
  have hsent : sentRequest (p.giTasks cfg env).client.out = q.broadcastSent cfg env := by
    rw [heq, sentRequest_start, hunsent, Bool.false_or]
    rfl
  refine ⟨fun hsome => .inr ?_, fun hnone => .inr ⟨?_, fun hall hidle => ?_⟩, fun _ => ?_,
    fun hno => ?_⟩
  · rw [hsent] at hsome
    rw [heq, startNewInterrogationCycle_con]
    exact if_pos hsome
  · rw [hsent] at hnone
    rw [heq, startNewInterrogationCycle_con]
    exact (if_neg (Bool.eq_false_iff.mp hnone)).trans hnext
  · rw [heq, startNewInterrogationCycle_con] at hidle
    exact hprogress.symm.trans (Bool.or_eq_false_iff.mp hidle).1
  · rw [heq, startNewInterrogationCycle_con]
    exact ⟨rfl, rfl⟩
  · simp [h] at hno

theorem giTasks_schedulesNext_of_not_startsCycle (hquiet : sentRequest p.client.out = false)
    (hrun : p.runsGiTasks cfg) (h : p.startsCycle cfg env = false) :
    SchedulesNext cfg env p (p.giTasks cfg env) := by
  have hunsent {q : Plugin} (hq : sentRequest q.client.out = sentRequest p.client.out)
      (hnext : q.con.nextGIStartTime = addSeconds env.currentTime cfg.giCycle ∨
        q.con.nextGIStartTime = p.con.nextGIStartTime ∧
          (cfg.giAllCa → q.con.interrogationInProgress = false →
            p.con.interrogationInProgress = false))
      (hflags : q.con.firstGISent = p.con.firstGISent ∧
        q.con.endOfInitReceived = p.con.endOfInitReceived) : SchedulesNext cfg env p q := by
    refine ⟨fun hsent => ?_, fun _ => hnext, fun hstarts => ?_, fun _ => hflags⟩
    · simp [hq, hquiet] at hsent
    · simp [h] at hstarts
  rw [giTasks_of_not_startsCycle cfg env p hrun h]
  split_ifs with hprogress hstate
  · unfold checkGiTimeout
    split_ifs
    · refine hunsent ?_ (.inl ?_) ⟨rfl, rfl⟩
      · rw [failGiRequest_client, List.append_assoc, List.append_assoc, sentRequest_append, hquiet]
        exact sentRequest_eq_false (by simp)
      · rw [failGiRequest_con]
    · exact hunsent rfl (.inr ⟨rfl, fun _ => id⟩) ⟨rfl, rfl⟩
  · unfold continueCycle
    split_ifs with hall
    · split
      · next ca _ =>
        refine ⟨fun _ => .inl ⟨hall, ?_⟩, fun _ => .inr ⟨?_, fun _ hidle => ?_⟩, fun hstarts => ?_,
          fun _ => ?_⟩
        · rw [sendGiToCa_con]
          exact hprogress
        · rw [sendGiToCa_con]
        · rw [sendGiToCa_con] at hidle
          exact hidle
        · simp [h] at hstarts
        · rw [sendGiToCa_con]
          exact ⟨rfl, rfl⟩
      · refine hunsent rfl (.inl ?_) ⟨rfl, rfl⟩
        dsimp only
    · exact hunsent rfl (.inr ⟨rfl, fun hyes => absurd hyes hall⟩) ⟨rfl, rfl⟩
  · exact hunsent rfl (.inr ⟨rfl, fun _ => id⟩) ⟨rfl, rfl⟩

/-- Every round, with what it was emitted before forgotten. -/
theorem conThread_schedulesNext (hquiet : p.client.out = []) :
    SchedulesNext cfg env p (p.conThread cfg env) := by
  cases hrun : p.runsGiTasks cfg with
  | false =>
    have hnone : sentRequest (p.conThread cfg env).client.out = false := by
      refine sentRequest_eq_false ?_
      have hattempts : p.attemptedCas cfg env = [] := by
        simp [attemptedCas, startsCycle, hrun]
      rw [conThread_interrogationCommands, hattempts, hquiet]
      rfl
    obtain ⟨hschedule, -⟩ := conThread_giSchedule cfg env p hrun
    have hview := (conThread_cases cfg env p).resolve_right (by simp [hrun])
    obtain ⟨hfirst, hprogress, -⟩ := giView_eq_iff.mp hview.2.1
    refine ⟨fun hsent => ?_, fun _ => .inr ⟨congrArg GiSchedule.nextGIStartTime hschedule, ?_⟩,
      fun hstarts => ?_, fun _ => ⟨hfirst, congrArg GiSchedule.endOfInitReceived hschedule⟩⟩
    · simp [hnone] at hsent
    · exact fun _ hidle => hprogress.symm.trans hidle
    · simp [startsCycle, hrun] at hstarts
  | true =>
    have hbefore := beforeGi_startsCycle cfg env p
    have hunsent : sentRequest (p.beforeGi cfg env).client.out = false := by
      rw [beforeGi_out, hquiet]
      exact p.sentRequest_beforeGiEvents cfg env
    have hnext : (p.beforeGi cfg env).con.nextGIStartTime = p.con.nextGIStartTime :=
      congrArg GiSchedule.nextGIStartTime (beforeGi_giSchedule cfg env p).1
    have hend : (p.beforeGi cfg env).con.endOfInitReceived = p.con.endOfInitReceived :=
      congrArg GiSchedule.endOfInitReceived (beforeGi_giSchedule cfg env p).1
    obtain ⟨hfirst, hprogress, -⟩ := giView_eq_iff.mp (beforeGi_giView cfg env p)
    have htasks : SchedulesNext cfg env (p.beforeGi cfg env)
        ((p.beforeGi cfg env).giTasks cfg env) := by
      cases hstarts : p.startsCycle cfg env with
      | true => exact giTasks_schedulesNext_of_startsCycle hunsent (hbefore.trans hstarts)
      | false =>
        refine giTasks_schedulesNext_of_not_startsCycle hunsent ?_ (hbefore.trans hstarts)
        obtain ⟨_, _, heq⟩ := p.beforeGi_eq cfg env
        rw [heq]
        exact hrun
    rw [conThread_connectedActive cfg env p (p.active_of_runsGiTasks hrun), if_pos hrun]
    refine ⟨htasks.sent, fun hnone => ?_, fun hstarts => htasks.starts (hbefore.trans hstarts),
      fun hno => ?_⟩
    · rw [← hnext, ← hprogress]
      exact htasks.unsent hnone
    · rw [← hfirst, ← hend]
      exact htasks.continues (hbefore.trans hno)

end Plugin

/-! ## Runs -/

/-- Where the next start lies, and what the latest one has established. -/
structure SpacingInv (cfg : IEC104ClientConfig) (s : Plugin × SpacingWatch) : Prop where
  sent : ∀ t ∈ s.2.lastSent, t ≤ s.2.clock
  /-- with `gi_all_ca` the end of the list schedules the next cycle -/
  next : (cfg.giAllCa → s.1.con.interrogationInProgress = false) →
    ∀ t ∈ s.2.lastSent, t + cfg.giCycle * 1000 ≤ s.1.con.nextGIStartTime
  quiet : s.2.quiet → s.1.con.firstGISent ∧ s.1.con.endOfInitReceived = false
  fresh : s.2.fresh ∧ s.2.quietBefore ∧ s.2.requestedBefore = false →
    ∀ t ∈ s.2.lastSent, t + cfg.giCycle * 1000 < s.2.clock

namespace SpacingInv

variable {cfg : IEC104ClientConfig} {p : Plugin} {w : SpacingWatch}

/-- A start with none of the disturbances before it is one on time. -/
theorem on_time (hs : SpacingInv cfg (p, w)) {env : Env} (hstarts : p.startsCycle cfg env)
    (hquiet : w.quiet) (hrequested : p.giSchedule.giRequested = false) : w.spaced cfg env := by
  obtain ⟨hfirst, hend⟩ : p.con.firstGISent ∧ p.con.endOfInitReceived = false := hs.quiet hquiet
  have hunrequested : p.client.giRequested p.self = false := hrequested
  obtain ⟨-, hidle, -, hdue⟩ : p.runsGiTasks cfg ∧ p.con.interrogationInProgress = false ∧
      0 < cfg.giCycle ∧ p.con.nextGIStartTime < env.currentTime := by
    simpa [Plugin.startsCycle, hfirst, hend, hunrequested] using hstarts
  intro t ht
  exact (hs.next (fun _ => hidle) t ht).trans_lt hdue

/-- When the round may send the first command of a cycle that started on time. -/
theorem spaced_of_fresh (hs : SpacingInv cfg (p, w)) {env : Env}
    (hclock : w.clock ≤ env.currentTime)
    (hfresh : (w.enter cfg env p).fresh ∧ (w.enter cfg env p).quietBefore ∧
      (w.enter cfg env p).requestedBefore = false) : w.spaced cfg env := by
  unfold SpacingWatch.enter at hfresh
  split_ifs at hfresh with hstarts
  · exact hs.on_time hstarts hfresh.2.1 hfresh.2.2
  · exact fun t ht => (hs.fresh hfresh t ht).trans_le hclock

theorem enter_lastSent (env : Env) : (w.enter cfg env p).lastSent = w.lastSent := by
  unfold SpacingWatch.enter
  split_ifs <;> rfl

theorem conThread (hs : SpacingInv cfg (p, w)) {env : Env}
    (hclock : ClockRuns (p, w) (.conThread env)) (hcycle : cfg.giCycle * 1000 < 2 ^ 31) :
    SpacingInv cfg (watch (step cfg) (noteSpacing cfg) (p, w) (.conThread env)).1 := by
  obtain ⟨hcurrent, hread, hbound⟩ := hclock
  have hround : SchedulesNext cfg env p.clear (p.clear.conThread cfg env) :=
    Plugin.conThread_schedulesNext rfl
  have hlast : ∀ t ∈ w.lastSent, t ≤ env.currentTime := fun t ht => (hs.sent t ht).trans hcurrent
  show SpacingInv cfg (p.clear.conThread cfg env,
    (w.enter cfg env p).send env (p.clear.conThread cfg env).client.out)
  have hquiet : (w.enter cfg env p).quiet →
      (p.clear.conThread cfg env).con.firstGISent ∧
        (p.clear.conThread cfg env).con.endOfInitReceived = false := by
    unfold SpacingWatch.enter
    split_ifs with hstarts
    · exact fun _ => hround.starts hstarts
    · obtain ⟨hfirst, hend⟩ := hround.continues (Bool.eq_false_iff.mpr hstarts)
      rw [hfirst, hend]
      exact hs.quiet
  cases hsent : sentRequest (p.clear.conThread cfg env).client.out with
  | true =>
    have hnow : ((w.enter cfg env p).send env (p.clear.conThread cfg env).client.out).lastSent =
        some env.sentTime := if_pos hsent
    refine ⟨fun t ht => ?_, fun hidle t ht => ?_, hquiet, fun hfresh => ?_⟩
    · rw [hnow] at ht
      exact (Option.some.inj ht).ge
    · rw [hnow] at ht
      rcases hround.sent hsent with ⟨hall, hprogress⟩ | hnext
      · exact absurd (hidle hall) (by simp [hprogress])
      · rw [← Option.some.inj ht]
        exact ((addSeconds_of_lt hcycle (by omega)).symm.trans hnext.symm).le
    · simp [SpacingWatch.send, hsent] at hfresh
  | false =>
    have hnow : ((w.enter cfg env p).send env (p.clear.conThread cfg env).client.out).lastSent =
        w.lastSent := by
      rw [SpacingWatch.send, hsent]
      exact enter_lastSent env
    refine ⟨fun t ht => ?_, fun hidle t ht => ?_, hquiet, fun hfresh t ht => ?_⟩
    · rw [hnow] at ht
      exact (hlast t ht).trans hread
    · rw [hnow] at ht
      rcases hround.unsent hsent with hnext | ⟨hnext, hkept⟩
      · have hsum : addSeconds env.currentTime cfg.giCycle =
            env.currentTime + cfg.giCycle * 1000 := addSeconds_of_lt hcycle (by omega)
        exact (Nat.add_le_add_right (hlast t ht) _).trans (hsum.symm.trans hnext.symm).le
      · exact (hs.next (fun hall => hkept hall (hidle hall)) t ht).trans hnext.ge
    · rw [hnow] at ht
      have hfresh' : (w.enter cfg env p).fresh ∧ (w.enter cfg env p).quietBefore ∧
          (w.enter cfg env p).requestedBefore = false := by
        simpa [SpacingWatch.send, hsent] using hfresh
      exact (hs.spaced_of_fresh hcurrent hfresh' t ht).trans_le hread

/-- Between rounds nothing is sent or scheduled. -/
theorem keep (hs : SpacingInv cfg (p, w)) {q : Plugin} (disturbed : Bool)
    (hnext : q.con.nextGIStartTime = p.con.nextGIStartTime)
    (hprogress : q.con.interrogationInProgress = p.con.interrogationInProgress)
    (hflags : disturbed = false → q.con.firstGISent = p.con.firstGISent ∧
      q.con.endOfInitReceived = p.con.endOfInitReceived) :
    SpacingInv cfg (q, { w with quiet := w.quiet && !disturbed }) := by
  refine ⟨hs.sent, fun hidle => ?_, fun hquiet => ?_, hs.fresh⟩
  · show ∀ t ∈ w.lastSent, t + cfg.giCycle * 1000 ≤ q.con.nextGIStartTime
    rw [hnext]
    exact hs.next fun hall => hprogress.symm.trans (hidle hall)
  · obtain ⟨hquiet, hcalm⟩ : w.quiet ∧ disturbed = false := by simpa using hquiet
    obtain ⟨hfirst, hend⟩ := hflags hcalm
    rw [hfirst, hend]
    exact hs.quiet hquiet

theorem asdu (hs : SpacingInv cfg (p, w)) (a : ASDU) (now : Nat) :
    SpacingInv cfg (watch (step cfg) (noteSpacing cfg) (p, w) (.asdu a now)).1 := by
  obtain ⟨-, hprogress, hfirst, -⟩ := Plugin.asduReceivedHandler_con cfg p.clear now a
  obtain ⟨_, hschedule, hend, -⟩ := p.clear.asduReceivedHandler_giSchedule cfg now a
  rw [Plugin.received_giSchedule] at hschedule
  refine hs.keep _ (congrArg GiSchedule.nextGIStartTime hschedule) hprogress
    fun hcalm => ⟨hfirst, ?_⟩
  exact (congrArg GiSchedule.endOfInitReceived hschedule).trans
    (hend (Bool.or_eq_false_iff.mp hcalm).1)

theorem step {s : Plugin × SpacingWatch} (hs : SpacingInv cfg s) {i : Input}
    (hclock : ClockRuns s i) (hcycle : cfg.giCycle * 1000 < 2 ^ 31) :
    SpacingInv cfg (watch (Iec104South.step cfg) (noteSpacing cfg) s i).1 := by
  obtain ⟨p, w⟩ := s
  have hother (htouch : i.touchesGi = false) (hnote : ∀ out, noteSpacing cfg w p i out =
      { w with quiet := w.quiet && !p.disturbs cfg i }) :
      SpacingInv cfg (watch (Iec104South.step cfg) (noteSpacing cfg) (p, w) i).1 := by
    show SpacingInv cfg (p.clear.handle cfg i, noteSpacing cfg w p i _)
    have hasdu : ∀ a now, i ≠ .asdu a now := fun _ _ h => by simp [h, Input.touchesGi] at htouch
    have hround : ∀ env, i ≠ .conThread env := fun _ h => by simp [h, Input.touchesGi] at htouch
    obtain ⟨hschedule, -⟩ := p.clear.handle_giSchedule cfg hasdu hround
    obtain ⟨hfirst, hprogress, -⟩ := Plugin.giView_eq_iff.mp (p.clear.handle_giView cfg htouch)
    rw [hnote]
    exact hs.keep _ (congrArg GiSchedule.nextGIStartTime hschedule) hprogress
      fun _ => ⟨hfirst, congrArg GiSchedule.endOfInitReceived hschedule⟩
  cases i with
  | conThread env => exact hs.conThread hclock hcycle
  | asdu a now => exact hs.asdu a now
  | connectionEvent event now =>
    cases event with
    | startdtConReceived => exact hs.keep true rfl rfl nofun
    | _ => exact hs.keep false rfl rfl fun _ => ⟨rfl, rfl⟩
  | _ => exact hother rfl fun _ => rfl

end SpacingInv

/-- In every run in which the clock does not go back: a cycle that starts with no GI request
pending, and since the start of the cycle before it with no STARTDT_CON, end of initialisation or
GI trigger, sends its first command more than `gi_cycle` after every command of the cycles
before. -/
theorem cycle_spaced_of_clock (cfg : IEC104ClientConfig) (t : ExchangeTable) (self : ConId)
    (is : List Input) (hcycle : cfg.giCycle * 1000 < 2 ^ 31)
    (hclock : Along (watch (step cfg) (noteSpacing cfg)) ClockRuns (Plugin.init t self, {}) is) :
    Along (watch (step cfg) (noteSpacing cfg)) (TimedCycleSpaced cfg)
      (Plugin.init t self, {}) is := by
  refine along_of_invariant (I := SpacingInv cfg) (fun s i hs hi => hs.step hi hcycle)
    (fun s i hs hi => ?_) ⟨nofun, nofun, nofun, nofun⟩ hclock
  cases i with
  | conThread env =>
    rintro ⟨-, hfresh⟩ sent hsent
    rw [SpacingInv.enter_lastSent] at hsent
    exact hs.spaced_of_fresh hi.1 hfresh sent hsent
  | _ => trivial

/-- A GI every second: the first one is not answered, and the next one starts on time. -/
theorem cycle_spaced_after_timeout :
    Along (watch (step { giCycle := 1, giTime := 5 }) (noteSpacing { giCycle := 1, giTime := 5 }))
      (TimedCycleSpaced { giCycle := 1, giTime := 5 }) (Plugin.init .empty 0, {})
      (firstRequest ++ [.conThread { currentTime := 5001, sentTime := 5001 },
        .conThread { currentTime := 5002, sentTime := 5002 },
        .conThread { currentTime := 6002, sentTime := 6003 }]) :=
  cycle_spaced_of_clock { giCycle := 1, giTime := 5 } .empty 0 _ (by decide) (by decide)

/-- Two GIs on one session, the second on a request from before the first. -/
def requestBeforeFirstGi : List Input :=
  [.connect, .conThread { created := some 1 }, .connectionEvent .opened 0, .activate,
    .connectionEvent .startdtConReceived 0, .setActiveConnection true, .scheduleGI, .conThread {},
    .asdu (interrogationReply CS101_COT_ACTIVATION_CON 1 false) 0,
    .asdu (interrogationReply CS101_COT_ACTIVATION_TERMINATION 1 false) 0, .conThread {},
    .conThread {}]

/-- The second one starts as soon as the first one is over. -/
theorem pending_request_starts_early :
    Along (watch (step { giCycle := 10 }) (noteSpacing { giCycle := 10 })) ClockRuns
        (Plugin.init .empty 0, {}) requestBeforeFirstGi ∧
      ¬ Along (watch (step { giCycle := 10 }) (noteSpacing { giCycle := 10 }))
        (QuietCycleSpaced { giCycle := 10 }) (Plugin.init .empty 0, {}) requestBeforeFirstGi := by
  decide

end Iec104South
