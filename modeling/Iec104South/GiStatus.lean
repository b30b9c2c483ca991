import Iec104South.Lib.Chain
import Iec104South.Machine

/-!
# The GI status

Two results about the status `updateGiStatus` keeps and publishes, over every run of one
connection.

* `failed_idle_iff`: a failed GI leaves no request pending, exactly as long as no request is
  refused while it is pending. A negative ACT_CON leaves the connection waiting for an
  ACT_TERM, a rejection leaves it in the state it was in, and with `gi_time` 0 nothing ends
  the wait.
* `cycleOrder_iff`: the published statuses follow the order of a cycle, exactly as long as no
  positive ACT_CON arrives for a request whose GI has already failed.
-/

namespace Iec104South

open Reactive

/-! ## A failed GI and the pending request -/

namespace Plugin

/-- No request is pending when the GI has failed. -/
def FailedIdle (p : Plugin) : Prop :=
  p.client.giStatus = .failed → p.con.interrogationRequestState = .idle

instance (p : Plugin) : Decidable p.FailedIdle := by
  unfold FailedIdle
  infer_instance

/-- The ASDU refuses the pending request: a negative ACT_CON while ACT_CON is awaited, or a
`C_IC_NA_1` with another cause while the GI is running with a request pending. -/
def refusesPending (a : ASDU) (p : Plugin) : Bool :=
  isGiReply a &&
    if a.cot = CS101_COT_ACTIVATION_CON then
      a.isNegative && p.con.interrogationRequestState == .waitActCon
    else if a.cot = CS101_COT_ACTIVATION_TERMINATION then false
    else p.giRunning && p.con.interrogationRequestState != .idle

end Plugin

/-- The input does not refuse a pending request. -/
def NoRefusal (p : Plugin) : Input → Prop
  | .asdu a _ => p.refusesPending a = false
  | _ => True

instance (p : Plugin) : ∀ i, Decidable (NoRefusal p i) := by
  unfold NoRefusal
  exact Input.decidable

namespace Plugin

variable (cfg : IEC104ClientConfig) (env : Env) (p : Plugin)

theorem failedIdle_congr {p q : Plugin} (h : q.giView = p.giView) :
    q.FailedIdle ↔ p.FailedIdle := by
  obtain ⟨-, -, hstate, -, hstatus, -, -⟩ := giView_eq_iff.mp h
  simp only [FailedIdle, hstatus, hstate]

/-- `handleASDU` turns STARTED into IN_PROGRESS and leaves the other statuses alone. -/
theorem receivedGiStatus_eq_failed {a : ASDU} {s : GiStatus} :
    receivedGiStatus a s = .failed ↔ s = .failed := by
  unfold receivedGiStatus
  split_ifs with h
  · have hs : s = .started := by
      rw [Bool.and_eq_true, beq_iff_eq] at h
      exact h.2
    simp [hs]
  · rfl

/-- A GI reply keeps `FailedIdle` exactly when it refuses no pending request. -/
theorem giReply_failedIdle (a : ASDU) (hreply : isGiReply a) (hp : p.FailedIdle) :
    (p.giReply cfg a).FailedIdle ↔ p.refusesPending a = false := by
  simp only [giReply, refusesPending, hreply, Bool.true_and]
  split_ifs with hcon hterm
  · simp only [giConfirmed]
    split_ifs with hstate hneg
    · simp [FailedIdle, hneg, hstate]
    · simp [FailedIdle, hneg]
    · simp [hp, hstate]
  · simp only [giTerminated]
    split_ifs with hstate hrunning
    · simp [FailedIdle]
    · simp [FailedIdle]
    · simp [hp]
  · simp only [giRejected]
    split_ifs with hrunning
    · simp [FailedIdle, hrunning, Connection.disonnect]
    · simp [hp, hrunning]

theorem asduReceivedHandler_failedIdle (now : Nat) (a : ASDU) (hp : p.FailedIdle) :
    (p.asduReceivedHandler cfg now a).2.FailedIdle ↔ p.refusesPending a = false := by
  have hreceived : (p.received cfg now a).FailedIdle := by
    simpa [FailedIdle, received_con, receivedGiStatus_eq_failed] using hp
  cases hreply : isGiReply a with
  | true =>
    rw [asduReceivedHandler_giReply cfg p now hreply,
      giReply_failedIdle cfg (p.received cfg now a) a hreply hreceived]
    simp [refusesPending, received_giRunning, received_con]
  | false =>
    obtain ⟨con', heq, hstate⟩ := asduReceivedHandler_requestState cfg p now hreply
    simpa [heq, FailedIdle, hstate, received_con, refusesPending, hreply] using hreceived

/-- The periodic tasks keep `FailedIdle`: a timeout ends the wait, and a failed send happens
only when no request is pending. -/
theorem giTasks_failedIdle (hp : p.FailedIdle) : (p.giTasks cfg env).FailedIdle := by
  apply giTasks_rule cfg env p hp
  · intro q hq _ hfailed
    -- the status is kept only with `gi_all_ca` and no CA, and then nothing is sent
    have hnone : cfg.giAllCa ∧ cfg.listOfCAs = [] := by
      by_contra hsome
      simp [startNewInterrogationCycle_client, startedStatus, hsome] at hfailed
    have hidle : q.con.interrogationRequestState = .idle := by
      apply hq
      simpa [startNewInterrogationCycle_client, startedStatus, hnone] using hfailed
    simp [startNewInterrogationCycle_con, broadcastSent, hnone.1, hidle]
  · intro q hq
    exact hq
  · intro _ _ _ _
    simp [FailedIdle, failGiRequest_con]
  · intro ca _ _ _ hidle _
    simp only [FailedIdle, sendGiToCa_client, sendGiToCa_con]
    split_ifs
    · intro h
      cases h
    · exact fun _ => hidle
  · intro _ hidle _ _
    exact fun _ => hidle

theorem conThread_failedIdle (hp : p.FailedIdle) : (p.conThread cfg env).FailedIdle := by
  rcases conThread_cases cfg env p with ⟨-, hview, -⟩ | ⟨-, hview, heq⟩
  · exact (failedIdle_congr hview).mpr hp
  · rw [heq]
    exact giTasks_failedIdle cfg env _ ((failedIdle_congr hview).mpr hp)

theorem handle_failedIdle (i : Input) (hp : p.FailedIdle) :
    (p.handle cfg i).FailedIdle ↔ NoRefusal p i := by
  cases hi : i.touchesGi with
  | false =>
    have hkeep := (failedIdle_congr (handle_giView cfg p hi)).mpr hp
    cases i with
    | connectionEvent _ _ | asdu _ _ | conThread _ => cases hi
    | _ => exact iff_of_true hkeep trivial
  | true =>
    cases i with
    | connectionEvent event now =>
      exact iff_of_true (by simpa [handle, FailedIdle] using hp) trivial
    | asdu a now => exact asduReceivedHandler_failedIdle cfg p now a hp
    | conThread env => exact iff_of_true (conThread_failedIdle cfg env p hp) trivial
    | _ => cases hi

end Plugin

/-- In every run: no state between steps has a failed GI and a request still pending, if and
only if no input refuses a pending request. -/
theorem failed_idle_iff (cfg : IEC104ClientConfig) (t : ExchangeTable) (self : ConId)
    (is : List Input) :
    Always (step cfg) Plugin.FailedIdle (Plugin.init t self) is ↔
      Along (step cfg) NoRefusal (Plugin.init t self) is :=
  always_iff_along (fun p i hp => Plugin.handle_failedIdle cfg p.clear i hp)
    (fun h => by cases h)

/-- After a negative ACT_CON the GI has failed and the connection waits for an ACT_TERM. -/
theorem negative_actCon_keeps_waiting :
    ¬ Always (step {}) Plugin.FailedIdle (Plugin.init .empty 0)
      (firstRequest ++ [.asdu (interrogationReply CS101_COT_ACTIVATION_CON 1 true) 0]) := by
  decide

/-! ## The order of the published statuses -/

/-- The published statuses follow the order of a cycle: after a FAILED nothing but a new
STARTED leads to IN_PROGRESS or FINISHED, and a FINISHED has a STARTED before it with no
FAILED in between. -/
structure CycleOrder (statuses : List GiStatus) : Prop where
  afterFailed : ∀ before between after s, statuses = before ++ .failed :: between ++ s :: after →
    s = .inProgress ∨ s = .finished → .started ∈ between
  beforeFinished : ∀ before after, statuses = before ++ .finished :: after →
    ∃ earlier between, before = earlier ++ .started :: between ∧ .failed ∉ between

/-- The statuses that may be published next. A status may be published again, on request. -/
def Follows (s s' : GiStatus) : Prop :=
  match s' with
  | .idle => s = .idle
  | .started | .failed => True
  | .inProgress => s = .started ∨ s = .inProgress
  | .finished => s = .started ∨ s = .inProgress ∨ s = .finished

theorem Follows.refl (s : GiStatus) : Follows s s := by
  cases s <;> simp [Follows]

theorem CycleOrder.of_isChain {statuses : List GiStatus}
    (h : (GiStatus.idle :: statuses).IsChain Follows) : CycleOrder statuses := by
  have hback : ∀ x y, Follows x y → y ≠ .idle ∧ y ≠ .failed → ¬ y = .started →
      x ≠ .idle ∧ x ≠ .failed := by
    intro x y hxy hy hstarted
    cases y with
    | idle => exact absurd rfl hy.1
    | started => exact absurd rfl hstarted
    | failed => exact absurd rfl hy.2
    | inProgress => rcases hxy with rfl | rfl <;> simp
    | finished => rcases hxy with rfl | rfl | rfl <;> simp
  have hstart : ∀ before s after, statuses = before ++ s :: after →
      s = .inProgress ∨ s = .finished →
      ∃ earlier between, before = earlier ++ .started :: between ∧ .failed ∉ between := by
    rintro before s after rfl hs
    obtain ⟨earlier, _, between, hsplit, rfl, hgood⟩ :=
      EventChain.exists_start hback h (by simp) (by rcases hs with rfl | rfl <;> simp)
        (by rcases hs with rfl | rfl <;> simp)
    exact ⟨earlier, between, hsplit, fun hmem => (hgood _ hmem).2 rfl⟩
  refine ⟨fun before between after s heq hs => ?_, fun before after heq => ?_⟩
  · obtain ⟨earlier, between', hsplit, hfailed⟩ :=
      hstart (before ++ .failed :: between) s after heq hs
    -- the FAILED is not behind the STARTED, so the STARTED is behind the FAILED
    rcases List.append_eq_append_iff.mp hsplit with ⟨tail, rfl, htail⟩ | ⟨tail, rfl, htail⟩
    · cases tail with
      | nil => simp at htail
      | cons x tail =>
        rw [(List.cons.inj htail).2]
        exact List.mem_append_right tail List.mem_cons_self
    · have hmem : GiStatus.failed ∈ .started :: between' := by
        rw [htail]
        exact List.mem_append_right tail List.mem_cons_self
      simp [hfailed] at hmem
  · exact hstart before .finished after heq (.inr rfl)

namespace Plugin

/-- A pending request belongs to a GI that has started and has not finished. -/
def PendingStatus (p : Plugin) : Prop :=
  p.con.interrogationRequestState ≠ .idle →
    p.client.giStatus ≠ .idle ∧ p.client.giStatus ≠ .finished

/-- The statuses a step has passed through since the status was `s`, each following its
predecessor. They are published if there is an asset to publish them under. -/
def PublishedFrom (cfg : IEC104ClientConfig) (s : GiStatus) (p : Plugin) : Prop :=
  ∃ path, (s :: path).IsChain Follows ∧
    (s :: path).getLast (List.cons_ne_nil s path) = p.client.giStatus ∧
    giEvents p.client.out = if cfg.connxStatus.isEmpty then [] else path

/-- A positive ACT_CON for a pending request whose GI has already failed. -/
def confirmsFailed (a : ASDU) (p : Plugin) : Bool :=
  isGiReply a && a.cot == CS101_COT_ACTIVATION_CON && !a.isNegative &&
    p.con.interrogationRequestState == .waitActCon && p.client.giStatus == .failed

variable {cfg : IEC104ClientConfig} {env : Env} {s : GiStatus} {p q : Plugin}

theorem PendingStatus.congr (h : q.giView = p.giView) (hp : p.PendingStatus) :
    q.PendingStatus := by
  obtain ⟨-, -, hstate, -, hstatus, -, -⟩ := giView_eq_iff.mp h
  simpa only [PendingStatus, hstatus, hstate] using hp

theorem PublishedFrom.start (h : giEvents p.client.out = []) :
    PublishedFrom cfg p.client.giStatus p :=
  ⟨[], List.isChain_singleton _, rfl, by simp [h]⟩

/-- The path grows by the statuses published next, none or one. -/
theorem PublishedFrom.extend (hp : PublishedFrom cfg s p) (next : List GiStatus)
    (hchain : (p.client.giStatus :: next).IsChain Follows)
    (hlast : (p.client.giStatus :: next).getLast (List.cons_ne_nil _ _) = q.client.giStatus)
    (hout : giEvents q.client.out =
      giEvents p.client.out ++ if cfg.connxStatus.isEmpty then [] else next) :
    PublishedFrom cfg s q := by
  obtain ⟨path, hpath, hpathLast, hpathOut⟩ := hp
  refine ⟨path ++ next, (EventChain.isChain_cons_append hpathLast).mpr ⟨hpath, hchain⟩, ?_, ?_⟩
  · rw [← hlast]
    cases next with
    | nil => simpa using hpathLast
    | cons x next => simp
  · rw [hout, hpathOut]
    split_ifs <;> rfl

/-- A status update that may follow. -/
theorem PublishedFrom.update (hp : PublishedFrom cfg s p)
    (hfollows : Follows p.client.giStatus q.client.giStatus)
    (hout : giEvents q.client.out = giEvents p.client.out ++
      giEvents (Client.giStatusEvents cfg p.client.giStatus q.client.giStatus)) :
    PublishedFrom cfg s q := by
  by_cases hsame : p.client.giStatus = q.client.giStatus
  · refine hp.extend [] (List.isChain_singleton _) (by simpa using hsame) ?_
    simp [hout, hsame, Client.giStatusEvents]
  · refine hp.extend [q.client.giStatus] ?_ rfl ?_
    · exact List.isChain_cons_cons.mpr ⟨hfollows, List.isChain_singleton _⟩
    · rw [hout, Client.giEvents_giStatusEvents]
      simp [hsame]

theorem PublishedFrom.keep (hp : PublishedFrom cfg s p)
    (hstatus : q.client.giStatus = p.client.giStatus)
    (hout : giEvents q.client.out = giEvents p.client.out) : PublishedFrom cfg s q :=
  hp.update (hstatus ▸ Follows.refl _) (by simp [hout, hstatus, Client.giStatusEvents])

/-- What the steps keep: the pending request has a status, and the statuses form a path. -/
def OnCycle (cfg : IEC104ClientConfig) (s : GiStatus) (p : Plugin) : Prop :=
  p.PendingStatus ∧ PublishedFrom cfg s p

theorem OnCycle.startNewInterrogationCycle (hp : OnCycle cfg s p) :
    OnCycle cfg s (p.startNewInterrogationCycle cfg env) := by
  by_cases hnone : cfg.giAllCa ∧ cfg.listOfCAs = []
  · have hstatus : (p.startNewInterrogationCycle cfg env).client.giStatus = p.client.giStatus := by
      simp [startNewInterrogationCycle_client, startedStatus, hnone]
    constructor
    · simpa [PendingStatus, hstatus, startNewInterrogationCycle_con, broadcastSent, hnone.1]
        using hp.1
    · exact hp.2.keep hstatus
        (by simp [startNewInterrogationCycle_client, startedStatus, hnone, Client.giStatusEvents])
  · have hstatus : (p.startNewInterrogationCycle cfg env).client.giStatus = .started := by
      simp only [startNewInterrogationCycle_client, startedStatus, if_neg hnone]
    constructor
    · simp [PendingStatus, hstatus]
    · refine hp.2.update (hstatus ▸ trivial) ?_
      rw [hstatus]
      simp only [startNewInterrogationCycle_client, startedStatus, if_neg hnone, giEvents_append]
      split_ifs <;> simp

theorem OnCycle.failGiRequest (hp : OnCycle cfg s p) : OnCycle cfg s (p.failGiRequest cfg env) := by
  constructor
  · simp [PendingStatus, failGiRequest_con]
  · exact hp.2.update (by simp [failGiRequest_client, Follows])
      (by simp [failGiRequest_client])

theorem OnCycle.sendGiToCa (hp : OnCycle cfg s p) (ca : Int)
    (hidle : p.con.interrogationRequestState = .idle) :
    OnCycle cfg s (p.sendGiToCa cfg env ca) := by
  cases hsent : (p.con.sendInterrogationCommand ca env.giAccepted).1 with
  | false =>
    constructor
    · simp [PendingStatus, sendGiToCa_con, hsent, hidle]
    · exact hp.2.update (by simp [sendGiToCa_client, hsent, Follows])
        (by simp [sendGiToCa_client, hsent])
  | true =>
    constructor
    · simp [PendingStatus, sendGiToCa_client, hsent]
    · exact hp.2.update (by simp [sendGiToCa_client, hsent, Follows])
        (by simp [sendGiToCa_client, hsent])

theorem OnCycle.giTasks (hp : OnCycle cfg s p) : OnCycle cfg s (p.giTasks cfg env) := by
  apply giTasks_rule cfg env p hp
  · exact fun q hq _ => hq.startNewInterrogationCycle
  · exact fun q hq => ⟨hq.1, hq.2.keep rfl rfl⟩
  · exact fun _ _ _ _ => hp.failGiRequest
  · exact fun ca _ _ _ hidle _ => hp.sendGiToCa ca hidle
  · exact fun _ _ _ _ => ⟨hp.1, hp.2.keep rfl rfl⟩

theorem OnCycle.conThread (hp : OnCycle cfg s p) : OnCycle cfg s (p.conThread cfg env) := by
  rcases conThread_cases cfg env p with ⟨-, hview, hout⟩ | ⟨-, hview, heq⟩
  · exact ⟨hp.1.congr hview, hp.2.keep (congrArg GiView.giStatus hview) hout⟩
  · have hbefore : OnCycle cfg s (p.beforeGi cfg env) :=
      ⟨hp.1.congr hview, hp.2.keep (congrArg GiView.giStatus hview) (by simp [beforeGi_out])⟩
    rw [heq]
    exact hbefore.giTasks

theorem OnCycle.received (hp : OnCycle cfg s p) (now : Nat) (a : ASDU) :
    OnCycle cfg s (p.received cfg now a) := by
  constructor
  · simp only [PendingStatus, received_con, received_giStatus, receivedGiStatus]
    intro hpending
    split_ifs with hstarted
    · simp
    · exact hp.1 hpending
  · refine hp.2.update ?_ (by simp [received_client, giEvents_handleASDU])
    simp only [received_giStatus, receivedGiStatus]
    split_ifs with hstarted
    · rw [Bool.and_eq_true, beq_iff_eq] at hstarted
      exact .inl hstarted.2
    · exact Follows.refl _

theorem OnCycle.giReply (hp : OnCycle cfg s p) {a : ASDU} (hreply : isGiReply a)
    (hconfirms : p.confirmsFailed a = false) : OnCycle cfg s (p.giReply cfg a) := by
  unfold Plugin.giReply
  split_ifs with hcon hterm
  · simp only [giConfirmed]
    split_ifs with hstate hneg
    · exact ⟨by simp [PendingStatus], hp.2.update (by simp [Follows]) (by simp)⟩
    -- the status is not FAILED by `hconfirms`, so it is one that IN_PROGRESS may follow
    · refine ⟨by simp [PendingStatus], hp.2.update ?_ (by simp)⟩
      have hpending := hp.1 (by simp [hstate])
      have hnotFailed : p.client.giStatus ≠ .failed := by
        simpa [confirmsFailed, hreply, hcon, hneg, hstate] using hconfirms
      cases hstatus : p.client.giStatus <;> simp_all [Follows]
    · exact hp
  · simp only [giTerminated]
    split_ifs with hstate hrunning
    · refine ⟨by simp [PendingStatus], hp.2.update ?_ (by simp)⟩
      simp only [giRunning, Bool.or_eq_true, beq_iff_eq] at hrunning
      rcases hrunning with hstatus | hstatus <;> simp [Follows, hstatus]
    · exact ⟨by simp [PendingStatus], hp.2.keep rfl rfl⟩
    · exact hp
  · simp only [giRejected]
    split_ifs with hrunning
    · exact ⟨by simp [PendingStatus], hp.2.update (by simp [Follows]) (by simp)⟩
    · exact hp

theorem OnCycle.asduReceivedHandler (hp : OnCycle cfg s p) (now : Nat) {a : ASDU}
    (hconfirms : p.confirmsFailed a = false) :
    OnCycle cfg s (p.asduReceivedHandler cfg now a).2 := by
  have hreceived := hp.received now a
  cases hreply : isGiReply a with
  | true =>
    rw [asduReceivedHandler_giReply cfg p now hreply]
    refine hreceived.giReply hreply ?_
    simpa [confirmsFailed, received_con, receivedGiStatus_eq_failed] using hconfirms
  | false =>
    obtain ⟨con', heq, hstate⟩ := asduReceivedHandler_requestState cfg p now hreply
    rw [heq]
    exact ⟨by simpa [PendingStatus, hstate, received_con] using hreceived.1,
      hreceived.2.keep rfl rfl⟩

end Plugin

/-- The input confirms no request whose GI has failed. -/
def NoLateConfirmation (p : Plugin) : Input → Prop
  | .asdu a _ => p.confirmsFailed a = false
  | _ => True

instance (p : Plugin) : ∀ i, Decidable (NoLateConfirmation p i) := by
  unfold NoLateConfirmation
  exact Input.decidable

variable {cfg : IEC104ClientConfig} {p : Plugin} {i : Input}

variable (cfg) in
theorem Plugin.OnCycle.step (hp : p.PendingStatus) (hi : NoLateConfirmation p i) :
    OnCycle cfg p.client.giStatus (step cfg p i).1 := by
  show OnCycle cfg p.client.giStatus (p.clear.handle cfg i)
  have hclear : OnCycle cfg p.client.giStatus p.clear :=
    ⟨hp, PublishedFrom.start (show giEvents p.clear.client.out = [] from rfl)⟩
  cases htouch : i.touchesGi with
  | false =>
    have hview := handle_giView cfg p.clear htouch
    have hstatus : (p.clear.handle cfg i).client.giStatus = p.client.giStatus :=
      congrArg GiView.giStatus hview
    have hevents := giEvents_handle cfg p.clear htouch
    refine ⟨hclear.1.congr hview, ?_⟩
    cases i with
    | sendConnectionStatus =>
      -- the one input beside the GI that publishes the status: it repeats it
      refine hclear.2.extend [p.client.giStatus] ?_ hstatus.symm hevents
      exact List.isChain_cons_cons.mpr ⟨Follows.refl _, List.isChain_singleton _⟩
    | connectionEvent _ _ | asdu _ _ | conThread _ => cases htouch
    | _ => exact hclear.2.keep hstatus (by simpa [Input.requestedStatus] using hevents)
  | true =>
    cases i with
    | connectionEvent event now =>
      exact ⟨by simpa [Iec104South.step, handle, PendingStatus] using hclear.1,
        hclear.2.keep rfl rfl⟩
    | asdu a now => exact hclear.asduReceivedHandler now hi
    | conThread env => exact hclear.conThread
    | _ => cases htouch

variable (cfg) in
/-- A late confirmation publishes IN_PROGRESS directly after FAILED. -/
theorem step_lateConfirmation (hi : ¬ NoLateConfirmation p i) :
    p.client.giStatus = .failed ∧ (step cfg p i).1.client.giStatus = .inProgress ∧
      giEvents (step cfg p i).2 = if cfg.connxStatus.isEmpty then [] else [.inProgress] := by
  cases i with
  | asdu a now =>
    have hconfirms : p.confirmsFailed a := by simpa [NoLateConfirmation] using hi
    simp only [Plugin.confirmsFailed, Bool.and_eq_true, beq_iff_eq, Bool.not_eq_true'] at hconfirms
    obtain ⟨⟨⟨⟨hreply, hcon⟩, hneg⟩, hstate⟩, hstatus⟩ := hconfirms
    have hreceived : receivedGiStatus a .failed = .failed :=
      Plugin.receivedGiStatus_eq_failed.mpr rfl
    have hstep : p.clear.handle cfg (.asdu a now) =
        { p.clear.received cfg now a with
          con := { (p.clear.received cfg now a).con with
            interrogationRequestState := .waitActTerm } }.updateGiStatus cfg .inProgress := by
      simp [Plugin.handle, Plugin.asduReceivedHandler_giReply cfg p.clear now hreply,
        Plugin.giReply, hcon, Plugin.giConfirmed, Plugin.received_con, hstate, hneg]
    refine ⟨hstatus, by simp [step, hstep], ?_⟩
    simp [step, hstep, Plugin.received_client, giEvents_handleASDU, hreceived, hstatus,
      Client.giEvents_giStatusEvents]
  | _ => exact absurd trivial hi

theorem step_pendingStatus (hp : p.PendingStatus) : (step cfg p i).1.PendingStatus := by
  by_cases hi : NoLateConfirmation p i
  · exact (Plugin.OnCycle.step cfg hp hi).1
  · exact fun _ => by simp [(step_lateConfirmation cfg hi).2.1]

/-- Without a late confirmation the statuses of a run form a path. -/
theorem isChain_of_along {is : List Input} (hsignal : cfg.connxStatus.isEmpty = false)
    (hp : p.PendingStatus) (h : Along (step cfg) NoLateConfirmation p is) :
    (p.client.giStatus :: giEvents (trace (step cfg) p is)).IsChain Follows := by
  induction is generalizing p with
  | nil => exact List.isChain_singleton _
  | cons i is ih =>
    obtain ⟨hnext, path, hpath, hlast, hout⟩ := Plugin.OnCycle.step cfg hp h.1
    have hevents : giEvents (step cfg p i).2 = path := by
      rw [hsignal] at hout
      exact hout
    rw [trace, giEvents_append, hevents, EventChain.isChain_cons_append hlast]
    exact ⟨hpath, ih hnext h.2⟩

/-- A late confirmation shows in the published statuses. -/
theorem failed_inProgress_of_not_along {is : List Input} (hsignal : cfg.connxStatus.isEmpty = false)
    (hp : p.PendingStatus) (h : ¬ Along (step cfg) NoLateConfirmation p is) :
    ∃ before after, p.client.giStatus :: giEvents (trace (step cfg) p is) =
      before ++ .failed :: .inProgress :: after := by
  induction is generalizing p with
  | nil => exact absurd trivial h
  | cons i is ih =>
    by_cases hi : NoLateConfirmation p i
    · obtain ⟨hnext, path, -, hlast, hout⟩ := Plugin.OnCycle.step cfg hp hi
      have hevents : giEvents (step cfg p i).2 = path := by
        rw [hsignal] at hout
        exact hout
      obtain ⟨before, after, hsplit⟩ := ih hnext (fun hrest => h ⟨hi, hrest⟩)
      obtain ⟨front, hjoin⟩ : ∃ front, p.client.giStatus :: path =
          front ++ [(step cfg p i).1.client.giStatus] :=
        ⟨_, by rw [← hlast, List.dropLast_append_getLast]⟩
      refine ⟨front ++ before, after, ?_⟩
      rw [trace, giEvents_append, hevents, ← List.cons_append, hjoin, List.append_assoc,
        List.append_assoc, List.singleton_append, hsplit]
    · obtain ⟨hfailed, -, hout⟩ := step_lateConfirmation cfg hi
      refine ⟨[], giEvents (trace (step cfg) (step cfg p i).1 is), ?_⟩
      rw [hsignal] at hout
      simp [trace, hout, hfailed]

/-- Without an asset for the south events nothing is published. -/
theorem giEvents_trace_of_isEmpty {is : List Input} (hempty : cfg.connxStatus.isEmpty)
    (hp : p.PendingStatus) : giEvents (trace (step cfg) p is) = [] := by
  induction is generalizing p with
  | nil => rfl
  | cons i is ih =>
    rw [trace, giEvents_append, ih (step_pendingStatus hp), List.append_nil]
    by_cases hi : NoLateConfirmation p i
    · obtain ⟨-, path, -, -, hout⟩ := Plugin.OnCycle.step cfg hp hi
      rw [hempty] at hout
      exact hout
    · obtain ⟨-, -, hout⟩ := step_lateConfirmation cfg hi
      rw [hempty] at hout
      exact hout

/-- In every run: the published statuses follow the order of a cycle, if and only if they are
not published at all or no positive ACT_CON confirms a request whose GI has failed. -/
theorem cycleOrder_iff (cfg : IEC104ClientConfig) (t : ExchangeTable) (self : ConId)
    (is : List Input) :
    CycleOrder (giEvents (trace (step cfg) (Plugin.init t self) is)) ↔
      cfg.connxStatus.isEmpty ∨ Along (step cfg) NoLateConfirmation (Plugin.init t self) is := by
  have hinit : (Plugin.init t self).PendingStatus := fun h => absurd rfl h
  cases hsignal : cfg.connxStatus.isEmpty with
  | true =>
    rw [giEvents_trace_of_isEmpty hsignal hinit]
    exact iff_of_true (.of_isChain (List.isChain_singleton _)) (.inl rfl)
  | false =>
    simp only [Bool.false_eq_true, false_or]
    constructor
    · intro horder
      by_contra hlate
      obtain ⟨before, after, hsplit⟩ := failed_inProgress_of_not_along hsignal hinit hlate
      cases before with
      | nil => cases hsplit
      | cons s before =>
        have hstarted := horder.afterFailed before [] after .inProgress
          (by simpa using (List.cons.inj hsplit).2) (.inl rfl)
        cases hstarted
    · exact fun h => .of_isChain (isChain_of_along hsignal hinit h)

/-- A request rejected before its ACT_CON, and confirmed afterwards. -/
def rejectedThenConfirmed : List Input :=
  firstRequest ++ [.asdu (interrogationReply CS101_COT_UNKNOWN_TYPE_ID 1 false) 0,
    .asdu (interrogationReply CS101_COT_ACTIVATION_CON 1 false) 0]

/-- After the rejection has published FAILED, the ACT_CON publishes IN_PROGRESS. -/
theorem inProgress_after_failed :
    ¬ CycleOrder (giEvents (trace (step { connxStatus := "connx" }) (Plugin.init .empty 0)
      rejectedThenConfirmed)) := by
  have hevents : giEvents (trace (step { connxStatus := "connx" }) (Plugin.init .empty 0)
      rejectedThenConfirmed) = [.started, .failed, .inProgress] := by
    decide
  intro horder
  have hstarted := horder.afterFailed [.started] [] [] .inProgress hevents (.inl rfl)
  cases hstarted

end Iec104South
