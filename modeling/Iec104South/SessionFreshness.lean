import Iec104South.GiAttempts
import Iec104South.GiStatus

/-!
# Sessions and the pending GI request

A session begins with the OPENED event. `session_fresh_of_along` says that the periodic tasks
and the ASDU handler act on a pending request only if it was sent on the current session, and
that with `gi_all_ca` a new cycle begins with no request pending, in every run in which no
session begins while a request is pending. The connection does not reset the request state
when a session is lost, so the condition is needed: `stale_request_times_out`.
-/

namespace Iec104South

open Reactive

/-! ## What the runs are watched for -/

/-- The library accepted an interrogation command. -/
def sentRequest (out : List Effect) : Bool :=
  out.any fun
    | .sendInterrogationCommand _ _ accepted => accepted
    | _ => false

@[simp] theorem sentRequest_append (a b : List Effect) :
    sentRequest (a ++ b) = (sentRequest a || sentRequest b) := List.any_append

@[simp] theorem sentRequest_of_reports {out : List Effect} (h : Reports out) :
    sentRequest out = false :=
  h.any_eq_false fun e he => by cases e <;> first | rfl | cases he

namespace Plugin

/-- The ASDU is the ACT_CON or the ACT_TERM the connection waits for. -/
def repliesToPending (a : ASDU) (p : Plugin) : Bool :=
  isGiReply a &&
    ((a.cot == CS101_COT_ACTIVATION_CON && p.con.interrogationRequestState == .waitActCon) ||
      (a.cot == CS101_COT_ACTIVATION_TERMINATION &&
        p.con.interrogationRequestState == .waitActTerm))

end Plugin

/-- The number of sessions so far, the session of the last request, and whether the last round
that reached the GI started a cycle over all CAs. -/
structure SessionWatch where
  session : Nat := 0
  requestSession : Option Nat := none
  cycleStarted : Bool := false
deriving DecidableEq, Repr

def noteSession (cfg : IEC104ClientConfig) (w : SessionWatch) (p : Plugin) (i : Input)
    (out : List Effect) : SessionWatch :=
  match i with
  | .connectionEvent .opened _ => { w with session := w.session + 1 }
  | .conThread env =>
    { w with
      requestSession := if sentRequest out then some w.session else w.requestSession
      cycleStarted :=
        if p.runsGiTasks cfg then cfg.giAllCa && p.startsCycle cfg env else w.cycleStarted }
  | _ => w

/-- The connection acts on a pending request only if it was sent on the current session; a
cycle over all CAs starts with no request pending, and the next round requests its first CA. -/
def Fresh (cfg : IEC104ClientConfig) (s : Plugin × SessionWatch) (i : Input) : Prop :=
  match i with
  | .conThread env =>
    (s.1.timesOutGi cfg env → s.2.requestSession = some s.2.session) ∧
      (cfg.giAllCa → s.1.startsCycle cfg env →
        (step cfg s.1 i).1.con.interrogationRequestState = .idle) ∧
      (s.2.cycleStarted → s.1.runsGiTasks cfg → s.1.con.firstGISent →
        match cfg.listOfCAs.head?, s.1.con.connection with
        | some ca, some handle =>
          .sendInterrogationCommand handle ca env.giAccepted ∈ (step cfg s.1 i).2
        | _, _ => True)
  | .asdu a _ => s.1.repliesToPending a → s.2.requestSession = some s.2.session
  | _ => True

instance (cfg : IEC104ClientConfig) (s : Plugin × SessionWatch) :
    ∀ i, Decidable (Fresh cfg s i) := by
  have (oca : Option Int) (ohandle : Option Handle) (accepted : Bool) (out : List Effect) :
      Decidable (match oca, ohandle with
        | some ca, some handle => Effect.sendInterrogationCommand handle ca accepted ∈ out
        | _, _ => True) :=
    match oca, ohandle with
    | some ca, some handle =>
      inferInstanceAs (Decidable (Effect.sendInterrogationCommand handle ca accepted ∈ out))
    | some _, none | none, some _ | none, none => inferInstanceAs (Decidable True)
  unfold Fresh
  exact Input.decidable

/-- No session begins while a request is pending: no OPENED event, and with `gi_all_ca` no
STARTDT_CON event either. -/
def NoPendingAtSessionStart (cfg : IEC104ClientConfig) (s : Plugin × SessionWatch) : Input → Prop
  | .connectionEvent .opened _ => s.1.con.interrogationRequestState = .idle
  | .connectionEvent .startdtConReceived _ =>
    cfg.giAllCa → s.1.con.interrogationRequestState = .idle
  | _ => True

instance (cfg : IEC104ClientConfig) (s : Plugin × SessionWatch) :
    ∀ i, Decidable (NoPendingAtSessionStart cfg s i) := by
  unfold NoPendingAtSessionStart
  exact Input.decidable

/-! ## The invariant -/

/-- What holds between steps as long as no session begins while a request is pending. -/
structure SessionInv (cfg : IEC104ClientConfig) (s : Plugin × SessionWatch) : Prop where
  /-- a pending request was sent on the current session -/
  fresh : s.1.con.interrogationRequestState ≠ .idle → s.2.requestSession = some s.2.session
  inProgress : s.1.con.interrogationInProgress = false → s.1.con.interrogationRequestState = .idle
  firstGi : cfg.giAllCa → s.1.con.firstGISent = false → s.1.con.interrogationRequestState = .idle
  /-- a cycle over all CAs that has just started waits for its first CA -/
  started : s.2.cycleStarted → s.1.con.firstGISent → cfg.listOfCAs ≠ [] →
    cfg.giAllCa ∧ s.1.con.interrogationInProgress ∧ s.1.con.interrogationRequestState = .idle ∧
      s.1.con.listOfCA_it = 0

namespace Plugin

variable (cfg : IEC104ClientConfig) (env : Env) (p : Plugin)

/-- A new cycle over all CAs leaves the request state alone and points to the first CA. -/
def AtFirstCa (r : RequestState) (p : Plugin) : Prop :=
  p.con.interrogationRequestState = r ∧
    (cfg.listOfCAs ≠ [] → p.con.interrogationInProgress ∧ p.con.listOfCA_it = 0)

theorem startNewInterrogationCycle_atFirstCa (hall : cfg.giAllCa) :
    (p.startNewInterrogationCycle cfg env).AtFirstCa cfg p.con.interrogationRequestState := by
  constructor
  · simp [startNewInterrogationCycle_con, broadcastSent, hall]
  · intro hsome
    simp [startNewInterrogationCycle_con, hall, hsome]

theorem giTasks_atFirstCa (hall : cfg.giAllCa) (hstarts : p.startsCycle cfg env) :
    (p.giTasks cfg env).AtFirstCa cfg p.con.interrogationRequestState := by
  obtain ⟨q, requested, hfrom, heq⟩ := p.giTasks_of_startsCycle cfg env hstarts
  have hstate : q.con.interrogationRequestState = p.con.interrogationRequestState := by
    rcases hfrom with rfl | ⟨-, -, rfl⟩
    · rfl
    · simp [startNewInterrogationCycle_con, broadcastSent, hall]
  rw [heq, ← hstate]
  exact startNewInterrogationCycle_atFirstCa cfg env
    { q with client := { q.client with giRequested := requested } } hall

/-- In a cycle over all CAs that waits for its first CA, the round requests it. -/
theorem giTasks_requestsFirstCa (hall : cfg.giAllCa) (hfirst : p.con.firstGISent)
    (hprogress : p.con.interrogationInProgress)
    (hidle : p.con.interrogationRequestState = .idle) (hit : p.con.listOfCA_it = 0)
    (hactive : p.con.connectionState = .connectedActive) {ca : Int} {handle : Handle}
    (hca : cfg.listOfCAs.head? = some ca) (hhandle : p.con.connection = some handle) :
    .sendInterrogationCommand handle ca env.giAccepted ∈ (p.giTasks cfg env).client.out := by
  have hcas : cfg.listOfCAs[p.con.listOfCA_it]? = some ca := by
    rw [hit, ← List.head?_eq_getElem?, hca]
  have htasks : p.giTasks cfg env = p.sendGiToCa cfg env ca := by
    simp [giTasks, hfirst, hprogress, hidle, continueCycle, hall, hcas]
  simp [htasks, sendGiToCa_client, Connection.sendInterrogationCommand, hhandle, hactive]

theorem sentRequest_sendInterrogationCommand (con : Connection) (ca : Int) (accepted : Bool) :
    sentRequest (con.sendInterrogationCommand ca accepted).2 =
      (con.sendInterrogationCommand ca accepted).1 := by
  unfold Connection.sendInterrogationCommand
  split
  · split_ifs <;> simp [sentRequest]
  · rfl

/-- A request that is pending after the GI part was sent in it, or was pending before: then what
was known of it still holds. -/
theorem giTasks_pending {Q : Prop}
    (hp : p.con.interrogationRequestState ≠ .idle → sentRequest p.client.out ∨ Q) :
    (p.giTasks cfg env).con.interrogationRequestState ≠ .idle →
      sentRequest (p.giTasks cfg env).client.out ∨ Q := by
  apply giTasks_rule cfg env p
    (P := fun q => q.con.interrogationRequestState ≠ .idle → sentRequest q.client.out ∨ Q) hp
  -- the start of a cycle sends a request in broadcast mode only
  · intro q hq _ hpending
    cases hsent : q.broadcastSent cfg env with
    | false =>
      rw [startNewInterrogationCycle_con, hsent] at hpending
      rw [startNewInterrogationCycle_client]
      exact (hq hpending).imp_left fun h => by simp [h]
    | true =>
      obtain ⟨hsingle, hcommand⟩ : cfg.giAllCa = false ∧
          (q.con.sendInterrogationCommand cfg.broadcastCA env.giAccepted).1 := by
        simpa [broadcastSent] using hsent
      refine .inl ?_
      simp [startNewInterrogationCycle_client, hsingle, sentRequest_sendInterrogationCommand,
        hcommand]
  · exact fun q hq => hq
  · exact fun _ _ _ _ h => absurd rfl h
  · intro ca _ _ _ hidle _ hpending
    have hcommand : (p.con.sendInterrogationCommand ca env.giAccepted).1 := by
      by_contra hfailed
      simp [sendGiToCa_con, hfailed, hidle] at hpending
    refine .inl ?_
    simp [sendGiToCa_client, sentRequest_sendInterrogationCommand, hcommand]
  · exact fun _ hidle _ _ h => absurd hidle h

/-- The first three fields of the invariant inside a step, where the request may just have
been sent. -/
structure RequestInv (w : SessionWatch) (p : Plugin) : Prop where
  fresh : p.con.interrogationRequestState ≠ .idle →
    sentRequest p.client.out ∨ w.requestSession = some w.session
  inProgress : p.con.interrogationInProgress = false → p.con.interrogationRequestState = .idle
  firstGi : cfg.giAllCa → p.con.firstGISent = false → p.con.interrogationRequestState = .idle

variable {cfg p} in
/-- A cycle starts before the first GI of a session, or while no cycle is in progress. -/
theorem RequestInv.idle_of_startsCycle {w : SessionWatch} (hp : RequestInv cfg w p)
    (hall : cfg.giAllCa) {env : Env} (hstarts : p.startsCycle cfg env) :
    p.con.interrogationRequestState = .idle := by
  simp only [startsCycle, Bool.and_eq_true, Bool.or_eq_true, Bool.not_eq_true'] at hstarts
  rcases hstarts.2 with hunsent | ⟨hstop, -⟩
  · exact hp.firstGi hall hunsent
  · exact hp.inProgress hstop

theorem giTasks_requestInv {w : SessionWatch} (hp : RequestInv cfg w p) :
    RequestInv cfg w (p.giTasks cfg env) where
  fresh := giTasks_pending cfg env p hp.fresh
  inProgress := giTasks_stoppedIdle cfg env p hp.inProgress
  firstGi := by
    refine giTasks_rule cfg env p (P := fun q => cfg.giAllCa → q.con.firstGISent = false →
      q.con.interrogationRequestState = .idle) hp.firstGi ?_ ?_ ?_ ?_ ?_
    · intro q _ _ _ hfirst
      simp [startNewInterrogationCycle_con] at hfirst
    · exact fun q hq => hq
    · exact fun _ _ _ _ _ _ => rfl
    · intro ca _ hfirst _ _ _ _ hunsent
      simp [sendGiToCa_con, hfirst] at hunsent
    · exact fun _ hidle _ _ _ _ => hidle

end Plugin

namespace SessionInv

variable {cfg : IEC104ClientConfig} {w : SessionWatch} {p q : Plugin}

theorem requestInv (hp : SessionInv cfg (p, w)) (h : q.giView = p.giView) :
    q.RequestInv cfg w := by
  obtain ⟨hfirst, hprogress, hstate, -⟩ := Plugin.giView_eq_iff.mp h
  refine ⟨?_, ?_, ?_⟩
  · rw [hstate]
    exact fun hpending => .inr (hp.fresh hpending)
  · rw [hstate, hprogress]
    exact hp.inProgress
  · rw [hstate, hfirst]
    exact hp.firstGi

/-- A request pending after the round was sent in it or before it, both in this session. -/
theorem of_requestInv {requestSession : Option Nat} {cycleStarted : Bool}
    (hq : q.RequestInv cfg w)
    (hsession : requestSession =
      if sentRequest q.client.out then some w.session else w.requestSession)
    (hstarted : cycleStarted → q.con.firstGISent → cfg.listOfCAs ≠ [] →
      cfg.giAllCa ∧ q.con.interrogationInProgress ∧ q.con.interrogationRequestState = .idle ∧
        q.con.listOfCA_it = 0) :
    SessionInv cfg
      (q, { w with requestSession := requestSession, cycleStarted := cycleStarted }) where
  fresh := by
    intro hpending
    dsimp only at hpending ⊢
    rw [hsession]
    split_ifs with hsent
    · rfl
    · exact (hq.fresh hpending).resolve_left hsent
  inProgress := hq.inProgress
  firstGi := hq.firstGi
  started := hstarted

theorem started_congr (hp : SessionInv cfg (p, w)) (h : q.giView = p.giView) :
    w.cycleStarted → q.con.firstGISent → cfg.listOfCAs ≠ [] →
      cfg.giAllCa ∧ q.con.interrogationInProgress ∧ q.con.interrogationRequestState = .idle ∧
        q.con.listOfCA_it = 0 := by
  obtain ⟨hfirst, hprogress, hstate, hit, -⟩ := Plugin.giView_eq_iff.mp h
  rw [hfirst, hprogress, hstate, hit]
  exact hp.started

/-- A round of the connection thread keeps the invariant. -/
theorem conThread (hp : SessionInv cfg (p, w)) (env : Env) :
    SessionInv cfg (p.conThread cfg env,
      noteSession cfg w p (.conThread env) (p.conThread cfg env).client.out) := by
  rcases Plugin.conThread_cases cfg env p with ⟨hrun, hview, -⟩ | ⟨hrun, hview, heq⟩
  · simp only [noteSession, hrun, Bool.false_eq_true, if_false]
    exact of_requestInv (hp.requestInv hview) rfl (hp.started_congr hview)
  · have hbefore := hp.requestInv hview
    simp only [noteSession, hrun, if_true, heq]
    refine of_requestInv (Plugin.giTasks_requestInv cfg env _ hbefore) rfl ?_
    intro hstarted hfirst hcas
    obtain ⟨hall, hstarts⟩ : cfg.giAllCa ∧ p.startsCycle cfg env := by
      simpa using hstarted
    rw [← Plugin.beforeGi_startsCycle] at hstarts
    obtain ⟨hstate, hat⟩ := Plugin.giTasks_atFirstCa cfg env _ hall hstarts
    obtain ⟨hprogress, hit⟩ := hat hcas
    exact ⟨hall, hprogress, hstate.trans (hbefore.idle_of_startsCycle hall hstarts), hit⟩

variable {s : Plugin × SessionWatch} {i : Input}

theorem congr (hp : SessionInv cfg (p, w)) (h : q.giView = p.giView) : SessionInv cfg (q, w) where
  fresh := fun hpending => ((Plugin.giView_eq_iff.mp h).2.2.1 ▸ hp.fresh) hpending
  inProgress := (hp.requestInv h).inProgress
  firstGi := (hp.requestInv h).firstGi
  started := hp.started_congr h

theorem step (hs : SessionInv cfg s) (hi : NoPendingAtSessionStart cfg s i) :
    SessionInv cfg (watch (step cfg) (noteSession cfg) s i).1 := by
  obtain ⟨p, w⟩ := s
  have hclear : SessionInv cfg (p.clear, w) := ⟨hs.fresh, hs.inProgress, hs.firstGi, hs.started⟩
  show SessionInv cfg (p.clear.handle cfg i,
    noteSession cfg w p i (p.clear.handle cfg i).client.out)
  cases htouch : i.touchesGi with
  | false =>
    have hkeep := hclear.congr (Plugin.handle_giView cfg p.clear htouch)
    cases i with
    | connectionEvent _ _ | asdu _ _ | conThread _ => cases htouch
    | _ => exact hkeep
  | true =>
    cases i with
    | connectionEvent event now =>
      cases event with
      | opened =>
        -- the session number moves on, so nothing may be pending here
        exact ⟨fun hpending => absurd hi hpending, hs.inProgress, hs.firstGi, hs.started⟩
      | startdtConReceived =>
        refine ⟨hs.fresh, hs.inProgress, fun hall _ => hi hall, fun _ hfirst => ?_⟩
        simp [Plugin.handle, Connection.connectionHandler] at hfirst
      | closed | stopdtConReceived | other =>
        exact ⟨hs.fresh, hs.inProgress, hs.firstGi, hs.started⟩
    | asdu a now =>
      -- an ASDU can only end what is pending
      obtain ⟨hstate, hprogress, hfirst, hit⟩ :=
        Plugin.asduReceivedHandler_con cfg p.clear now a
      have hidle (h : p.con.interrogationRequestState = .idle) :
          (p.clear.asduReceivedHandler cfg now a).2.con.interrogationRequestState = .idle :=
        by_contra fun hpending => hstate hpending h
      refine ⟨fun hpending => hs.fresh (hstate hpending), fun hstop => ?_, fun hall hunsent => ?_,
        fun hstarted hsent hcas => ?_⟩
      · exact hidle (hs.inProgress (hprogress.symm.trans hstop))
      · exact hidle (hs.firstGi hall (hfirst.symm.trans hunsent))
      · obtain ⟨hall, hprogress', hidle', hit'⟩ :=
          hs.started hstarted (hfirst.symm.trans hsent) hcas
        exact ⟨hall, hprogress.trans hprogress', hidle hidle', hit.trans hit'⟩
    | conThread env => exact hclear.conThread env
    | _ => cases htouch

/-- Between steps the invariant gives what the connection may do in the next one. -/
theorem fresh_next (hs : SessionInv cfg s) : Fresh cfg s i := by
  obtain ⟨p, w⟩ := s
  cases i with
  | conThread env =>
    have hbefore : (p.clear.beforeGi cfg env).RequestInv cfg w :=
      hs.requestInv (Plugin.beforeGi_giView cfg env p.clear)
    refine ⟨fun htimeout => ?_, fun hall hstarts => ?_, fun hstarted hrun hfirst => ?_⟩
    · apply hs.fresh
      simp only [Plugin.timesOutGi, Bool.and_eq_true, bne_iff_ne] at htimeout
      exact htimeout.1.2
    · have hrun : p.clear.runsGiTasks cfg := (Bool.and_eq_true _ _ ▸ hstarts).1
      have hstarts' : (p.clear.beforeGi cfg env).startsCycle cfg env :=
        (Plugin.beforeGi_startsCycle cfg env p.clear).trans hstarts
      show (p.clear.conThread cfg env).con.interrogationRequestState = .idle
      rw [Plugin.conThread_connectedActive cfg env p.clear (p.clear.active_of_runsGiTasks hrun),
        if_pos hrun, (Plugin.giTasks_atFirstCa cfg env _ hall hstarts').1]
      exact hbefore.idle_of_startsCycle hall hstarts'
    · split
      · next ca handle hca hhandle =>
        have hcas : cfg.listOfCAs ≠ [] := fun hnil => by simp [hnil] at hca
        obtain ⟨hall, hprogress, hidle, hit⟩ := hs.started hstarted hfirst hcas
        have hactive := p.clear.active_of_runsGiTasks hrun
        show _ ∈ (p.clear.conThread cfg env).client.out
        rw [Plugin.conThread_connectedActive cfg env p.clear hactive,
          if_pos (show p.clear.runsGiTasks cfg from hrun)]
        obtain ⟨hfirst', hprogress', hidle', hit', -⟩ :=
          Plugin.giView_eq_iff.mp (Plugin.beforeGi_giView cfg env p.clear)
        obtain ⟨hhandle', hactive'⟩ := p.clear.beforeGi_connection cfg env
        exact Plugin.giTasks_requestsFirstCa cfg env _ hall (hfirst'.trans hfirst)
          (hprogress'.trans hprogress) (hidle'.trans hidle) (hit'.trans hit)
          (hactive'.trans hactive) hca (hhandle'.trans hhandle)
      · trivial
  | asdu a now =>
    intro hreplies
    apply hs.fresh
    intro (hidle : p.con.interrogationRequestState = .idle)
    simp [Plugin.repliesToPending, hidle] at hreplies
  | _ => trivial

end SessionInv

/-- In every run in which no session begins while a request is pending, the connection acts on
pending requests of the current session only, and every cycle over all CAs begins with the
request of its first CA. -/
theorem session_fresh_of_along (cfg : IEC104ClientConfig) (t : ExchangeTable) (self : ConId)
    (is : List Input)
    (h : Along (watch (step cfg) (noteSession cfg)) (NoPendingAtSessionStart cfg)
      (Plugin.init t self, {}) is) :
    Along (watch (step cfg) (noteSession cfg)) (Fresh cfg) (Plugin.init t self, {}) is := by
  refine along_of_invariant (fun s i hs hi => SessionInv.step hs hi)
    (fun s i hs _ => hs.fresh_next) ?_ h
  exact ⟨fun hpending => absurd rfl hpending, fun _ => rfl, fun _ _ => rfl,
    fun hstarted => by cases hstarted⟩

/-- Two sessions with a GI each; the first GI ends before its session does. -/
theorem session_fresh_two_sessions :
    Along (watch (step {}) (noteSession {})) (Fresh {}) (Plugin.init .empty 0, {})
      (firstRequest ++ [.asdu (interrogationReply CS101_COT_ACTIVATION_CON 1 false) 0,
        .asdu (interrogationReply CS101_COT_ACTIVATION_TERMINATION 1 false) 0] ++ reconnect ++
        [.connectionEvent .startdtConReceived 10000, .conThread { sentTime := 10000 }]) :=
  session_fresh_of_along {} .empty 0 _ (by decide)

/-- A request of the first session times out in the second one and closes its connection. -/
theorem stale_request_times_out :
    ¬ Along (watch (step { giTime := 5 }) (noteSession { giTime := 5 })) (Fresh { giTime := 5 })
      (Plugin.init .empty 0, {})
      (firstRequest ++ reconnect ++ [.conThread { currentTime := 10000 }]) := by
  decide

end Iec104South
