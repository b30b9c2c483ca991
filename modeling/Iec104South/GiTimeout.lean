import Iec104South.GiSchedule

/-!
# The timeout of the GI

`gi_time` is meant for each step of the GI: a GI that waits for ACT_TERM fails when for that
long neither its ACT_CON nor an interrogation response has come. The connection measures from
`m_interrogationRequestSent`, which is set with the request and with the responses, but not with
the ACT_CON. So a GI with a confirmation and no response yet is measured from its request:
`timeout_per_step_iff`.

A step keeps beside the state when the last request was sent, and when the last ACT_CON or
response came (`noteReceipt`).
-/

namespace Iec104South

open Reactive

/-- When the last request of the GI was sent; when the last ACT_CON or interrogation response
was received, and whether it was a response. -/
structure ReceiptWatch where
  requested : Nat := 0
  received : Nat := 0
  responded : Bool := false
deriving DecidableEq, Repr

/-- The ASDU is the ACT_CON that the connection waits for. -/
def Plugin.awaitsActCon (a : ASDU) (p : Plugin) : Bool :=
  isGiReply a && a.cot == CS101_COT_ACTIVATION_CON &&
    p.con.interrogationRequestState == .waitActCon

def noteReceipt (w : ReceiptWatch) (p : Plugin) (i : Input) (out : List Effect) : ReceiptWatch :=
  match i with
  | .conThread env => { w with requested := if sentRequest out then env.sentTime else w.requested }
  | .asdu a now =>
    if isInterrogationResponse a then { w with received := now, responded := true }
    else if p.awaitsActCon a then { w with received := now, responded := false }
    else w
  | _ => w

/-- The round fails a GI that waits for ACT_TERM. -/
def Plugin.failsActTerm (cfg : IEC104ClientConfig) (env : Env) (p : Plugin) : Prop :=
  p.con.interrogationRequestState = .waitActTerm ∧
    (step cfg p (.conThread env)).1.con.interrogationRequestState = .idle

instance (cfg : IEC104ClientConfig) (env : Env) (p : Plugin) : Decidable (p.failsActTerm cfg env) :=
  inferInstanceAs (Decidable (_ ∧ _))

/-- A GI that waits for ACT_TERM is failed only more than `gi_time` after its ACT_CON and every
response. -/
def TimeoutPerStep (cfg : IEC104ClientConfig) (s : Plugin × ReceiptWatch) : Input → Prop
  | .conThread env =>
    s.1.failsActTerm cfg env → s.2.received + cfg.giTime * 1000 < env.currentTime
  | _ => True

/-- From when the connection measures: the last response, or the request if none has come since
the ACT_CON. -/
def ReceiptWatch.measuredFrom (w : ReceiptWatch) : Nat :=
  if w.responded then w.received else w.requested

/-- The round looks at the timeout of a GI that waits for ACT_TERM. -/
def Plugin.looksAtActTerm (cfg : IEC104ClientConfig) (p : Plugin) : Bool :=
  p.runsGiTasks cfg && p.con.firstGISent && p.con.interrogationInProgress &&
    p.con.interrogationRequestState == .waitActTerm && cfg.giTime != 0

/-- No round looks at the timeout when the time is up as the connection measures it, and not yet
since the last receipt. -/
def NoEarlyLook (cfg : IEC104ClientConfig) (s : Plugin × ReceiptWatch) : Input → Prop
  | .conThread env => s.1.looksAtActTerm cfg →
    ¬(addSeconds s.2.measuredFrom cfg.giTime < env.currentTime ∧
      env.currentTime ≤ s.2.received + cfg.giTime * 1000)
  | _ => True

instance (cfg : IEC104ClientConfig) (s : Plugin × ReceiptWatch) :
    ∀ i, Decidable (TimeoutPerStep cfg s i) := by
  unfold TimeoutPerStep
  exact Input.decidable

instance (cfg : IEC104ClientConfig) (s : Plugin × ReceiptWatch) :
    ∀ i, Decidable (NoEarlyLook cfg s i) := by
  unfold NoEarlyLook
  exact Input.decidable

namespace Plugin

variable (cfg : IEC104ClientConfig) (env : Env) (p : Plugin)

/-! ## What fails a pending request -/

/-- Only the timeout ends the wait of a pending request in a round. -/
theorem conThread_pending (hpending : p.con.interrogationRequestState ≠ .idle)
    (htimeout : p.timesOutGi cfg env = false) :
    (p.conThread cfg env).con.interrogationRequestState ≠ .idle := by
  rcases conThread_cases cfg env p with ⟨-, hview, -⟩ | ⟨hrun, hview, heq⟩
  · rwa [(giView_eq_iff.mp hview).2.2.1]
  · obtain ⟨_, _, hbefore⟩ := p.beforeGi_eq cfg env
    rw [heq]
    refine giTasks_rule cfg env _ (P := fun q => q.con.interrogationRequestState ≠ .idle) ?_ ?_
      (fun _ hq => hq) ?_ ?_ ?_
    · rwa [(giView_eq_iff.mp hview).2.2.1]
    · intro q hq _
      rw [startNewInterrogationCycle_con]
      dsimp only
      split_ifs
      · exact RequestState.noConfusion
      · exact hq
    · intro hfirst hprogress _ htimed
      rw [hbefore] at hfirst hprogress htimed
      have htrue : p.timesOutGi cfg env := by
        simp only [timesOutGi, Bool.and_eq_true, bne_iff_ne]
        exact ⟨⟨⟨⟨hrun, hfirst⟩, hprogress⟩, hpending⟩, htimed⟩
      exact absurd htrue (Bool.eq_false_iff.mp htimeout)
    · intro ca _ _ _ hidle _
      rw [(giView_eq_iff.mp hview).2.2.1] at hidle
      exact absurd hidle hpending
    · intro _ hidle _ _
      rw [(giView_eq_iff.mp hview).2.2.1] at hidle
      exact absurd hidle hpending

theorem conThread_timesOut (htimeout : p.timesOutGi cfg env) :
    (p.conThread cfg env).con.interrogationRequestState = .idle := by
  simp only [timesOutGi, Bool.and_eq_true, bne_iff_ne] at htimeout
  obtain ⟨⟨⟨⟨hrun, hfirst⟩, hprogress⟩, hpending⟩, htimed⟩ := htimeout
  obtain ⟨_, _, hbefore⟩ := p.beforeGi_eq cfg env
  have htasks : (p.beforeGi cfg env).giTasks cfg env =
      (p.beforeGi cfg env).failGiRequest cfg env := by
    have htimed' : (p.beforeGi cfg env).giTimedOut cfg env := by
      rw [hbefore]
      exact htimed
    obtain ⟨hfirst', hprogress', hstate', -⟩ :=
      giView_eq_iff.mp (beforeGi_giView cfg env p)
    simp [giTasks, checkGiTimeout, hfirst', hfirst, hprogress', hprogress, hstate', hpending,
      htimed']
  rw [conThread_connectedActive cfg env p (p.active_of_runsGiTasks hrun), if_pos hrun, htasks,
    failGiRequest_con]

theorem failsActTerm_iff :
    p.failsActTerm cfg env ↔
      p.con.interrogationRequestState = .waitActTerm ∧ p.timesOutGi cfg env := by
  refine and_congr_right fun hstate => ?_
  constructor
  · intro hidle
    by_contra htimeout
    have hpending : p.clear.con.interrogationRequestState ≠ .idle := by
      rw [show p.clear.con.interrogationRequestState = .waitActTerm from hstate]
      exact RequestState.noConfusion
    exact conThread_pending cfg env p.clear hpending (Bool.eq_false_iff.mpr htimeout) hidle
  · exact conThread_timesOut cfg env p.clear

/-! ## The time the connection measures from -/

/-- What holds of `m_interrogationRequestSent` inside a round, where a request may just have
been sent. -/
structure TimerInv (w : ReceiptWatch) (env : Env) (p : Plugin) : Prop where
  actCon : p.con.interrogationRequestState = .waitActCon →
    p.con.interrogationRequestSent = if sentRequest p.client.out then env.sentTime else w.requested
  actTerm : p.con.interrogationRequestState = .waitActTerm →
    sentRequest p.client.out = false ∧ p.con.interrogationRequestSent = w.measuredFrom

variable {cfg env p} {w : ReceiptWatch}

theorem giTasks_timerInv (hp : TimerInv w env p) : TimerInv w env (p.giTasks cfg env) := by
  refine giTasks_rule cfg env p hp ?_ (fun q hq => ⟨hq.actCon, hq.actTerm⟩) ?_ ?_ ?_
  · intro q hq _
    cases hsent : q.broadcastSent cfg env with
    | true =>
      refine ⟨fun _ => ?_, fun hstate => ?_⟩
      · rw [sentRequest_start, startNewInterrogationCycle_con, hsent, Bool.or_true]
        rfl
      · rw [startNewInterrogationCycle_con, hsent] at hstate
        cases hstate
    | false =>
      refine ⟨fun hstate => ?_, fun hstate => ?_⟩
      · rw [startNewInterrogationCycle_con, hsent] at hstate ⊢
        rw [sentRequest_start, hsent, Bool.or_false]
        exact hq.actCon hstate
      · rw [startNewInterrogationCycle_con, hsent] at hstate ⊢
        rw [sentRequest_start, hsent, Bool.or_false]
        exact hq.actTerm hstate
  · intro _ _ _ _
    exact ⟨nofun, nofun⟩
  · intro ca _ _ _ hidle _
    cases hsent : (p.con.sendInterrogationCommand ca env.giAccepted).1 with
    | true =>
      refine ⟨fun _ => ?_, fun hstate => ?_⟩
      · simp [sendGiToCa_con, sendGiToCa_client, hsent, sentRequest_sendInterrogationCommand]
      · simp [sendGiToCa_con, hsent] at hstate
    | false =>
      refine ⟨fun hstate => ?_, fun hstate => ?_⟩
      · simp [sendGiToCa_con, hsent, hidle] at hstate
      · simp [sendGiToCa_con, hsent, hidle] at hstate
  · intro _ hidle _ _
    refine ⟨fun hstate => ?_, fun hstate => ?_⟩
    · cases hidle.symm.trans hstate
    · cases hidle.symm.trans hstate

/-- An ASDU confirms the request, ends its wait, or leaves its state alone. -/
theorem asduReceivedHandler_requestState_cases (now : Nat) (a : ASDU) :
    (p.awaitsActCon a ∧
        (p.asduReceivedHandler cfg now a).2.con.interrogationRequestState = .waitActTerm) ∨
      p.awaitsActCon a = false ∧
        ((p.asduReceivedHandler cfg now a).2.con.interrogationRequestState = .idle ∨
          (p.asduReceivedHandler cfg now a).2.con.interrogationRequestState =
            p.con.interrogationRequestState) := by
  cases hreply : isGiReply a with
  | false =>
    obtain ⟨con', heq, hstate⟩ := asduReceivedHandler_requestState cfg p now hreply
    refine .inr ⟨by simp [awaitsActCon, hreply], .inr ?_⟩
    rw [heq]
    exact hstate
  | true =>
    have hpending : (p.received cfg now a).con.interrogationRequestState =
        p.con.interrogationRequestState := by
      rw [received_con]
    rw [asduReceivedHandler_giReply cfg p now hreply]
    unfold giReply
    split_ifs with hcon hterm
    · unfold giConfirmed
      rw [hpending]
      dsimp only
      split_ifs with hwait
      · exact .inl ⟨by simp [awaitsActCon, hreply, hcon, hwait], rfl⟩
      · exact .inl ⟨by simp [awaitsActCon, hreply, hcon, hwait], rfl⟩
      · exact .inr ⟨by simp [awaitsActCon, hwait], .inr hpending⟩
    · refine .inr ⟨by simp [awaitsActCon, hcon], ?_⟩
      unfold giTerminated
      dsimp only
      split_ifs
      · exact .inl rfl
      · exact .inl rfl
      · exact .inr hpending
    · refine .inr ⟨by simp [awaitsActCon, hcon], .inr ?_⟩
      unfold giRejected
      split_ifs
      · exact hpending
      · exact hpending

end Plugin

/-- The time the connection measures from: that of the request while ACT_CON is awaited, and
`measuredFrom` while ACT_TERM is. -/
structure ReceiptInv (s : Plugin × ReceiptWatch) : Prop where
  actCon : s.1.con.interrogationRequestState = .waitActCon →
    s.1.con.interrogationRequestSent = s.2.requested
  actTerm : s.1.con.interrogationRequestState = .waitActTerm →
    s.1.con.interrogationRequestSent = s.2.measuredFrom

namespace ReceiptInv

variable {cfg : IEC104ClientConfig} {p q : Plugin} {w : ReceiptWatch} {s : Plugin × ReceiptWatch}

theorem congr (hp : ReceiptInv (p, w))
    (hstate : q.con.interrogationRequestState = p.con.interrogationRequestState)
    (hsent : q.con.interrogationRequestSent = p.con.interrogationRequestSent) :
    ReceiptInv (q, w) := by
  refine ⟨fun h => ?_, fun h => ?_⟩
  · exact hsent.trans (hp.actCon (hstate.symm.trans h))
  · exact hsent.trans (hp.actTerm (hstate.symm.trans h))

theorem conThread (hp : ReceiptInv (p, w)) (env : Env) :
    ReceiptInv (watch (step cfg) noteReceipt (p, w) (.conThread env)).1 := by
  show ReceiptInv (p.clear.conThread cfg env,
    noteReceipt w p (.conThread env) (p.clear.conThread cfg env).client.out)
  cases hrun : p.clear.runsGiTasks cfg with
  | false =>
    have hquiet : sentRequest (p.clear.conThread cfg env).client.out = false :=
      Plugin.sentRequest_of_quiet (p := p) hrun
    have hview := (Plugin.conThread_cases cfg env p.clear).resolve_right (by simp [hrun])
    have hschedule := (Plugin.conThread_giSchedule cfg env p.clear hrun).1
    rw [noteReceipt, hquiet]
    exact hp.congr (Plugin.giView_eq_iff.mp hview.2.1).2.2.1
      (congrArg GiSchedule.interrogationRequestSent hschedule)
  | true =>
    have hunsent : sentRequest (p.clear.beforeGi cfg env).client.out = false := by
      rw [Plugin.beforeGi_out]
      exact p.clear.sentRequest_beforeGiEvents cfg env
    obtain ⟨_, _, hbefore⟩ := p.clear.beforeGi_eq cfg env
    have hinv : (p.clear.beforeGi cfg env).TimerInv w env := by
      refine ⟨fun hstate => ?_, fun hstate => ⟨hunsent, ?_⟩⟩
      · rw [hunsent]
        rw [hbefore] at hstate ⊢
        exact hp.actCon hstate
      · rw [hbefore] at hstate ⊢
        exact hp.actTerm hstate
    have htasks : ((p.clear.beforeGi cfg env).giTasks cfg env).TimerInv w env :=
      Plugin.giTasks_timerInv hinv
    rw [Plugin.conThread_connectedActive cfg env p.clear (p.clear.active_of_runsGiTasks hrun),
      if_pos hrun, noteReceipt]
    refine ⟨htasks.actCon, fun hstate => ?_⟩
    obtain ⟨hnone, hsent⟩ := htasks.actTerm hstate
    rw [hnone]
    exact hsent

theorem asdu (hp : ReceiptInv (p, w)) (a : ASDU) (now : Nat) :
    ReceiptInv (watch (step cfg) noteReceipt (p, w) (.asdu a now)).1 := by
  show ReceiptInv ((p.clear.asduReceivedHandler cfg now a).2, noteReceipt w p (.asdu a now) _)
  have hsent : (p.clear.asduReceivedHandler cfg now a).2.con.interrogationRequestSent =
      if isInterrogationResponse a ∧ p.con.interrogationRequestState = .waitActTerm then now
      else p.con.interrogationRequestSent := by
    obtain ⟨_, hschedule, -⟩ := p.clear.asduReceivedHandler_giSchedule cfg now a
    rw [Plugin.received_giSchedule] at hschedule
    exact congrArg GiSchedule.interrogationRequestSent hschedule
  unfold noteReceipt
  dsimp only
  rcases p.clear.asduReceivedHandler_requestState_cases now a with
    ⟨hawaits, hstate⟩ | ⟨hawaits, hidle | hsame⟩
  · -- the ACT_CON: from here on the time of the request counts, as before
    have hawaits' : p.awaitsActCon a := hawaits
    obtain ⟨⟨-, hcon⟩, hwait⟩ : (isGiReply a ∧ a.cot = CS101_COT_ACTIVATION_CON) ∧
        p.con.interrogationRequestState = .waitActCon := by
      simpa [Plugin.awaitsActCon] using hawaits'
    have hresponse : isInterrogationResponse a = false := by simp [isInterrogationResponse, hcon]
    rw [hresponse, if_neg Bool.false_ne_true, if_pos hawaits']
    refine ⟨fun h => ?_, fun _ => ?_⟩
    · cases hstate.symm.trans h
    · rw [hsent, hresponse, if_neg (by simp)]
      exact hp.actCon hwait
  · refine ⟨fun h => ?_, fun h => ?_⟩
    · cases hidle.symm.trans h
    · cases hidle.symm.trans h
  · have hawaits' : p.awaitsActCon a = false := hawaits
    rw [hawaits']
    refine ⟨fun h => ?_, fun h => ?_⟩
    · have hwait : p.con.interrogationRequestState = .waitActCon := hsame.symm.trans h
      rw [hsent, if_neg (by simp [hwait])]
      split_ifs <;> exact hp.actCon hwait
    · have hwait : p.con.interrogationRequestState = .waitActTerm := hsame.symm.trans h
      rw [hsent]
      cases hresponse : isInterrogationResponse a with
      | true => simp [ReceiptWatch.measuredFrom, hwait]
      | false => simpa using hp.actTerm hwait

theorem step (hs : ReceiptInv s) (i : Input) :
    ReceiptInv (watch (Iec104South.step cfg) noteReceipt s i).1 := by
  obtain ⟨p, w⟩ := s
  have hother (hasdu : ∀ a now, i ≠ .asdu a now) (hround : ∀ env, i ≠ .conThread env)
      (hnote : ∀ out, noteReceipt w p i out = w) :
      ReceiptInv (watch (Iec104South.step cfg) noteReceipt (p, w) i).1 := by
    show ReceiptInv (p.clear.handle cfg i, noteReceipt w p i _)
    rw [hnote]
    obtain ⟨hschedule, -⟩ := p.clear.handle_giSchedule cfg hasdu hround
    exact hs.congr (p.clear.handle_requestState cfg hasdu hround)
      (congrArg GiSchedule.interrogationRequestSent hschedule)
  cases i with
  | conThread env => exact hs.conThread env
  | asdu a now => exact hs.asdu a now
  | _ => exact hother nofun nofun fun _ => rfl

end ReceiptInv

/-- In every run: a GI that waits for ACT_TERM is failed only when `gi_time` has passed since its
ACT_CON and every response, if and only if no round looks at the timeout earlier, when the time
is up for the connection alone. -/
theorem timeout_per_step_iff (cfg : IEC104ClientConfig) (t : ExchangeTable) (self : ConId)
    (is : List Input) :
    Along (watch (step cfg) noteReceipt) (TimeoutPerStep cfg) (Plugin.init t self, {}) is ↔
      Along (watch (step cfg) noteReceipt) (NoEarlyLook cfg) (Plugin.init t self, {}) is := by
  refine along_congr_of_invariant (I := ReceiptInv) (fun s i hs => hs.step i) (fun s i hs => ?_)
    ⟨nofun, nofun⟩
  cases i with
  | conThread env =>
    have hfails : s.1.failsActTerm cfg env ↔ s.1.looksAtActTerm cfg ∧
        addSeconds s.2.measuredFrom cfg.giTime < env.currentTime := by
      rw [Plugin.failsActTerm_iff]
      simp only [Plugin.timesOutGi, Plugin.giTimedOut, Plugin.looksAtActTerm, Bool.and_eq_true,
        bne_iff_ne, beq_iff_eq, decide_eq_true_eq]
      constructor
      · rintro ⟨hstate, ⟨⟨⟨hrun, hfirst⟩, hprogress⟩, -⟩, htime, hup⟩
        rw [hs.actTerm hstate] at hup
        exact ⟨⟨⟨⟨⟨hrun, hfirst⟩, hprogress⟩, hstate⟩, htime⟩, hup⟩
      · rintro ⟨⟨⟨⟨⟨hrun, hfirst⟩, hprogress⟩, hstate⟩, htime⟩, hup⟩
        rw [← hs.actTerm hstate] at hup
        have hpending : s.1.con.interrogationRequestState ≠ .idle := by
          rw [hstate]
          exact RequestState.noConfusion
        exact ⟨hstate, ⟨⟨⟨hrun, hfirst⟩, hprogress⟩, hpending⟩, htime, hup⟩
    simp only [TimeoutPerStep, NoEarlyLook, hfails, and_imp, not_and, not_le]
  | _ => exact Iff.rfl

/-- After a response the connection measures from the last receipt: no look is too early, as long
as the sums do not wrap around. -/
theorem not_early_of_responded {cfg : IEC104ClientConfig} {w : ReceiptWatch} (env : Env)
    (h : w.responded) (htime : cfg.giTime * 1000 < 2 ^ 31)
    (hclock : w.received + cfg.giTime * 1000 < 2 ^ 64) :
    ¬(addSeconds w.measuredFrom cfg.giTime < env.currentTime ∧
      env.currentTime ≤ w.received + cfg.giTime * 1000) := by
  rw [ReceiptWatch.measuredFrom, if_pos h, addSeconds_of_lt htime hclock]
  exact fun hearly => absurd hearly.1 (Nat.not_lt.mpr hearly.2)

/-- A GI confirmed after four of its five seconds is failed one second later. -/
theorem confirmed_gi_times_out :
    ¬ Along (watch (step { giTime := 5 }) noteReceipt) (TimeoutPerStep { giTime := 5 })
      (Plugin.init .empty 0, {})
      (firstRequest ++ [.asdu (interrogationReply CS101_COT_ACTIVATION_CON 1 false) 4000,
        .conThread { currentTime := 5001 }]) := by
  decide

end Iec104South
