import Iec104South.GiExclusive
import Iec104South.GiTrigger

/-!
# What the rounds decide from

Beside the variables of `GiView`, the rounds of the connection thread decide from two times, the
flag of an end of initialisation and the GI request.

* `handle_giSchedule`: between rounds, ASDUs and triggers change them, and nothing else does.
* `startsOnRequest`: a round clears the request if and only if it starts a GI on request.
-/

namespace Iec104South

open Reactive

structure GiSchedule where
  interrogationRequestSent : Nat
  nextGIStartTime : Nat
  endOfInitReceived : Bool
  giRequested : Bool
deriving DecidableEq, Repr

def Plugin.giSchedule (p : Plugin) : GiSchedule where
  interrogationRequestSent := p.con.interrogationRequestSent
  nextGIStartTime := p.con.nextGIStartTime
  endOfInitReceived := p.con.endOfInitReceived
  giRequested := p.client.giRequested p.self

/-- The input triggers a GI of this connection. -/
def Plugin.triggersGi (cfg : IEC104ClientConfig) (p : Plugin) : Input → Bool
  | .scheduleGI => p.client.activeConnection == some p.self
  | .asdu a _ =>
    p.client.activeConnection == some p.self &&
      decide (TriggersGi cfg p.client.exchangeDefinitions a)
  | _ => false

/-- The ASDU is an end of initialisation. -/
def isEndOfInit (a : ASDU) : Bool := a.typeId == M_EI_NA_1

namespace Plugin

variable (cfg : IEC104ClientConfig) (env : Env) (p : Plugin)

@[simp] theorem giSchedule_clear : p.clear.giSchedule = p.giSchedule := rfl

variable {p} in
/-- The link of the connection does not belong to the schedule. -/
theorem giSchedule_of_withoutLink {q : Plugin} (hcon : q.con.withoutLink = p.con.withoutLink)
    (hself : q.self = p.self) :
    q.giSchedule = { p.giSchedule with giRequested := q.client.giRequested p.self } := by
  simp only [giSchedule, GiSchedule.mk.injEq, hself]
  exact ⟨congrArg (·.interrogationRequestSent) hcon, congrArg (·.nextGIStartTime) hcon,
    congrArg (·.endOfInitReceived) hcon, trivial⟩

variable {p cfg} in
theorem triggersGi_eq_false {i : Input} (hi : i.touchesGi = false) (hschedule : i ≠ .scheduleGI) :
    p.triggersGi cfg i = false := by
  cases i with
  | scheduleGI => exact absurd rfl hschedule
  | asdu _ _ => cases hi
  | _ => rfl

/-- What a round does before the GI part leaves the schedule alone. -/
theorem beforeGi_giSchedule :
    (p.beforeGi cfg env).giSchedule = p.giSchedule ∧ (p.beforeGi cfg env).self = p.self := by
  obtain ⟨_, _, heq⟩ := p.beforeGi_eq cfg env
  rw [heq]
  exact ⟨rfl, rfl⟩

/-- A round without the GI part leaves the schedule alone. -/
theorem conThread_giSchedule (hrun : p.runsGiTasks cfg = false) :
    (p.conThread cfg env).giSchedule = p.giSchedule ∧ (p.conThread cfg env).self = p.self := by
  by_cases hactive : p.con.connectionState = .connectedActive
  · rw [conThread_connectedActive cfg env p hactive, hrun]
    exact beforeGi_giSchedule cfg env p
  · obtain ⟨hcon, hself, _, -, hclient⟩ := p.conThread_inactive cfg env hactive
    rw [giSchedule_of_withoutLink hcon hself, hclient]
    exact ⟨rfl, hself⟩

/-! ## Received ASDUs -/

theorem received_giRequested (now : Nat) (a : ASDU) :
    (p.received cfg now a).client.giRequested =
      askActive p.client.activeConnection
        (decide (TriggersGi cfg p.client.exchangeDefinitions a)) p.client.giRequested := by
  rw [received_client]
  show (handleASDU cfg now p.self a p.client).2.giRequested = _
  rw [handleASDU_withGiRequested]
  rfl

/-- The schedule after `handleASDU`. -/
theorem received_giSchedule (now : Nat) (a : ASDU) :
    (p.received cfg now a).giSchedule =
      { p.giSchedule with
        interrogationRequestSent :=
          if isInterrogationResponse a ∧ p.con.interrogationRequestState = .waitActTerm then now
          else p.con.interrogationRequestSent
        giRequested := p.client.giRequested p.self || p.triggersGi cfg (.asdu a now) } := by
  have hself : (p.received cfg now a).self = p.self := p.interrogationResponse_self now a
  have hrequested : (p.received cfg now a).client.giRequested p.self =
      (p.client.giRequested p.self || p.triggersGi cfg (.asdu a now)) := by
    rw [received_giRequested]
    cases hactive : p.client.activeConnection with
    | none => simp [askActive, triggersGi, hactive]
    | some con =>
      rcases eq_or_ne con p.self with rfl | hne
      · simp [askActive, triggersGi, hactive]
      · simp [askActive, triggersGi, hactive, hne, Function.update_of_ne hne.symm]
  rw [giSchedule, hself, hrequested, received_con]
  rfl

/-- A reply to an interrogation command leaves the schedule alone. -/
theorem giReply_giSchedule (a : ASDU) :
    (p.giReply cfg a).giSchedule = p.giSchedule ∧ (p.giReply cfg a).self = p.self := by
  have hconclude (q : Plugin) (s : GiStatus) : (q.concludeGi cfg s).giSchedule = q.giSchedule ∧
      (q.concludeGi cfg s).self = q.self := by
    unfold giSchedule
    rw [concludeGi_con, concludeGi_client]
    exact ⟨rfl, rfl⟩
  unfold giReply giConfirmed giTerminated giRejected
  dsimp only
  split_ifs
  · exact hconclude { p with con := { p.con with interrogationRequestState := .waitActTerm } } _
  · unfold giSchedule
    rw [updateGiStatus_con, updateGiStatus_client]
    exact ⟨rfl, rfl⟩
  · exact ⟨rfl, rfl⟩
  · exact hconclude { p with con := { p.con with interrogationRequestState := .idle } } _
  · exact ⟨rfl, rfl⟩
  · exact ⟨rfl, rfl⟩
  · exact hconclude p .failed
  · exact ⟨rfl, rfl⟩

/-- What an ASDU does to the schedule; only an end of initialisation sets its flag. -/
theorem asduReceivedHandler_giSchedule (now : Nat) (a : ASDU) :
    ∃ endOfInitReceived,
      (p.asduReceivedHandler cfg now a).2.giSchedule =
        { (p.received cfg now a).giSchedule with endOfInitReceived := endOfInitReceived } ∧
      (isEndOfInit a = false → endOfInitReceived = p.con.endOfInitReceived) ∧
      (p.asduReceivedHandler cfg now a).2.self = p.self := by
  have hself : (p.received cfg now a).self = p.self := p.interrogationResponse_self now a
  have hsame : (p.received cfg now a).con.endOfInitReceived = p.con.endOfInitReceived := by
    rw [received_con]
  cases hreply : isGiReply a with
  | true =>
    obtain ⟨hschedule, hkept⟩ := (p.received cfg now a).giReply_giSchedule cfg a
    rw [asduReceivedHandler_giReply cfg p now hreply]
    exact ⟨_, hschedule, fun _ => hsame, hkept.trans hself⟩
  | false =>
    rw [asduReceivedHandler_eq]
    split_ifs
    · exact ⟨_, rfl, fun _ => hsame, hself⟩
    · unfold unhandledASDU
      split
      · next htype => exact ⟨true, rfl, fun h => by simp [isEndOfInit, htype] at h, hself⟩
      · refine ⟨_, ?_, fun _ => hsame, hself⟩
        simp only [giSchedule, Connection.timeSyncReply]
        split_ifs <;> rfl
      · obtain ⟨hschedule, hkept⟩ := (p.received cfg now a).giReply_giSchedule cfg a
        exact ⟨_, hschedule, fun _ => hsame, hkept.trans hself⟩
      · exact ⟨_, rfl, fun _ => hsame, hself⟩
      · exact ⟨_, rfl, fun _ => hsame, hself⟩

/-- Between rounds, ASDUs and triggers change the schedule, and nothing else does. -/
theorem handle_giSchedule {i : Input} (hi : ∀ a now, i ≠ .asdu a now)
    (hround : ∀ env, i ≠ .conThread env) :
    (p.handle cfg i).giSchedule =
        { p.giSchedule with giRequested := p.client.giRequested p.self || p.triggersGi cfg i } ∧
      (p.handle cfg i).self = p.self := by
  cases htouch : i.touchesGi with
  | true =>
    cases i with
    | asdu a now => exact absurd rfl (hi a now)
    | conThread env => exact absurd rfl (hround env)
    | connectionEvent event now =>
      have hno : p.triggersGi cfg (.connectionEvent event now) = false := rfl
      rw [hno, Bool.or_false]
      cases event <;> exact ⟨rfl, rfl⟩
    | _ => cases htouch
  | false =>
    obtain ⟨hcon, hself, hclient⟩ := handle_frame cfg p htouch
    have hrequested : (p.handle cfg i).client.giRequested p.self =
        (p.client.giRequested p.self || p.triggersGi cfg i) := by
      rcases hclient with ⟨rfl, hclient⟩ | ⟨hschedule, _, _, _, hclient⟩
      · simp only [hclient, requestGi, triggersGi]
        cases hactive : p.client.activeConnection with
        | none => simp
        | some con =>
          rcases eq_or_ne con p.self with rfl | hne
          · simp [Client.setGiRequested]
          · simp [Client.setGiRequested, hne, Function.update_of_ne hne.symm]
      · rw [hclient, triggersGi_eq_false htouch hschedule, Bool.or_false]
    rw [giSchedule_of_withoutLink hcon hself, hrequested]
    exact ⟨rfl, hself⟩

/-- Neither do they change the request state. -/
theorem handle_requestState {i : Input} (hi : ∀ a now, i ≠ .asdu a now)
    (hround : ∀ env, i ≠ .conThread env) :
    (p.handle cfg i).con.interrogationRequestState = p.con.interrogationRequestState := by
  cases htouch : i.touchesGi with
  | false => exact (giView_eq_iff.mp (handle_giView cfg p htouch)).2.2.1
  | true =>
    cases i with
    | asdu a now => exact absurd rfl (hi a now)
    | conThread env => exact absurd rfl (hround env)
    | connectionEvent event now => exact p.con.connectionHandler_requestState event now
    | _ => cases htouch

/-! ## Starts on request -/

/-- A cycle is due on time, or after an end of initialisation. -/
def cycleDue (cfg : IEC104ClientConfig) (env : Env) (p : Plugin) : Bool :=
  (0 < cfg.giCycle && p.con.nextGIStartTime < env.currentTime) || p.con.endOfInitReceived

/-- The round starts a GI on request. A cycle that is due comes first, and unless there is no CA
it leaves the status STARTED. -/
def startsOnRequest (cfg : IEC104ClientConfig) (env : Env) (p : Plugin) : Bool :=
  p.runsGiTasks cfg && p.con.firstGISent && !p.con.interrogationInProgress &&
    p.client.giRequested p.self &&
    (p.client.giStatus == .failed || p.client.giStatus == .finished) &&
    (!p.cycleDue cfg env || (cfg.giAllCa && cfg.listOfCAs.isEmpty))

theorem beforeGi_startsOnRequest :
    (p.beforeGi cfg env).startsOnRequest cfg env = p.startsOnRequest cfg env := by
  obtain ⟨_, _, heq⟩ := p.beforeGi_eq cfg env
  rw [heq]
  rfl

theorem startCycleWhenDue_eq :
    p.startCycleWhenDue cfg env =
      if p.cycleDue cfg env then p.startNewInterrogationCycle cfg env else p := by
  unfold startCycleWhenDue cycleDue
  by_cases hcycle : 0 < cfg.giCycle ∧ p.con.nextGIStartTime < env.currentTime
  · rw [if_pos hcycle, if_pos (by simp [hcycle])]
  · rw [if_neg hcycle]
    have hnot : (0 < cfg.giCycle && p.con.nextGIStartTime < env.currentTime : Bool) = false := by
      simpa using hcycle
    rw [hnot, Bool.false_or]

variable {cfg env p} in
theorem startsCycle_of_startsOnRequest (h : p.startsOnRequest cfg env) :
    p.startsCycle cfg env := by
  simp only [startsOnRequest, Bool.and_eq_true, Bool.not_eq_true'] at h
  obtain ⟨⟨⟨⟨⟨hrun, -⟩, hstop⟩, hrequested⟩, hstatus⟩, -⟩ := h
  simp [startsCycle, hrun, hstop, hrequested, hstatus]

theorem sentRequest_beforeGiEvents : sentRequest (p.beforeGiEvents cfg env) = false := by
  unfold beforeGiEvents timeSyncEvents
  rw [sentRequest_append, sentRequest_of_reports (p.reports_auditEvents _)]
  split_ifs <;> rfl

/-- The start of a cycle sends a request without `gi_all_ca` only, if it can be sent. -/
theorem sentRequest_start :
    sentRequest (p.startNewInterrogationCycle cfg env).client.out =
      (sentRequest p.client.out || p.broadcastSent cfg env) := by
  rw [startNewInterrogationCycle_client]
  cases hall : cfg.giAllCa with
  | true => simp [broadcastSent, hall]
  | false => simp [broadcastSent, hall, sentRequest_sendInterrogationCommand]

theorem startNewInterrogationCycle_giRequested :
    (p.startNewInterrogationCycle cfg env).client.giRequested = p.client.giRequested ∧
      (p.startNewInterrogationCycle cfg env).self = p.self := by
  constructor
  · rw [startNewInterrogationCycle_client]
  · simp only [startNewInterrogationCycle, sendBroadcastGi]
    split_ifs <;> rfl

theorem checkGiTimeout_giRequested :
    (p.checkGiTimeout cfg env).client.giRequested = p.client.giRequested ∧
      (p.checkGiTimeout cfg env).self = p.self := by
  unfold checkGiTimeout
  split_ifs
  · rw [failGiRequest_client]
    exact ⟨rfl, rfl⟩
  · exact ⟨rfl, rfl⟩

theorem continueCycle_giRequested :
    (p.continueCycle cfg env).client.giRequested = p.client.giRequested ∧
      (p.continueCycle cfg env).self = p.self := by
  unfold continueCycle
  split_ifs
  · split
    · rw [sendGiToCa_client]
      simp only [sendGiToCa]
      split_ifs <;> exact ⟨trivial, rfl⟩
    · exact ⟨rfl, rfl⟩
  · exact ⟨rfl, rfl⟩

/-- The GI part when it starts no cycle on request, or when it does. -/
theorem giTasks_request_cases (hrun : p.runsGiTasks cfg) :
    (p.startsOnRequest cfg env = false ∧
        (p.giTasks cfg env).client.giRequested = p.client.giRequested ∧
        (p.giTasks cfg env).self = p.self) ∨
      p.startsOnRequest cfg env ∧ ∃ q : Plugin,
        p.giTasks cfg env = { q with
          client := q.client.setGiRequested q.self false }.startNewInterrogationCycle cfg env ∧
        q.self = p.self ∧ q.client.out = p.client.out ∧ q.con.connection = p.con.connection ∧
        q.con.connectionState = p.con.connectionState ∧
        q.con.interrogationInProgress = p.con.interrogationInProgress := by
  unfold giTasks
  split_ifs with hfirst hprogress hstate
  · refine .inl ⟨?_, startNewInterrogationCycle_giRequested cfg env p⟩
    have hunsent : p.con.firstGISent = false := by simpa using hfirst
    simp [startsOnRequest, hunsent]
  · exact .inl ⟨by simp [startsOnRequest, hprogress], checkGiTimeout_giRequested cfg env p⟩
  · exact .inl ⟨by simp [startsOnRequest, hprogress], continueCycle_giRequested cfg env p⟩
  · -- the request is looked at after a cycle that is due
    have hsent : p.con.firstGISent := by simpa using hfirst
    rw [startCycleWhenDue_eq]
    split_ifs with hdue
    · obtain ⟨hrequested, hself⟩ := startNewInterrogationCycle_giRequested cfg env p
      have hstatus : (p.startNewInterrogationCycle cfg env).client.giStatus =
          startedStatus cfg p.client.giStatus := by
        rw [startNewInterrogationCycle_client]
      unfold startCycleOnRequest
      rw [hrequested, hself, hstatus]
      unfold startedStatus
      by_cases hnone : cfg.giAllCa ∧ cfg.listOfCAs = []
      · -- without a CA the first start has done nothing
        rw [if_pos hnone]
        split_ifs with hrequest
        · refine .inr ⟨?_, _, by rw [hself], hself, ?_, ?_, ?_, ?_⟩
          · simp [startsOnRequest, hrun, hsent, hprogress, hrequest, hnone]
          · simp [startNewInterrogationCycle_client, startedStatus, hnone, Client.giStatusEvents]
          · rw [startNewInterrogationCycle_con]
          · rw [startNewInterrogationCycle_con]
          · simp [startNewInterrogationCycle_con, hnone]
        · refine .inl ⟨?_, hrequested, hself⟩
          simpa [startsOnRequest, hrun, hsent, hprogress, hnone] using hrequest
      · rw [if_neg hnone, if_neg (by simp)]
        refine .inl ⟨?_, hrequested, hself⟩
        have hcas : (cfg.giAllCa && cfg.listOfCAs.isEmpty) = false := by simpa using hnone
        simp [startsOnRequest, hdue, hcas]
    · unfold startCycleOnRequest
      split_ifs with hrequest
      · refine .inr ⟨?_, p, rfl, rfl, rfl, rfl, rfl, rfl⟩
        simp [startsOnRequest, hrun, hsent, hprogress, hrequest, hdue]
      · refine .inl ⟨?_, rfl, rfl⟩
        simpa [startsOnRequest, hrun, hsent, hprogress, hdue] using hrequest

/-- A round keeps the request, or it ends with a start on request. -/
theorem conThread_request_cases :
    (p.startsOnRequest cfg env = false ∧
        (p.conThread cfg env).client.giRequested p.self = p.client.giRequested p.self ∧
        (p.conThread cfg env).self = p.self) ∨
      p.startsOnRequest cfg env ∧ ∃ q : Plugin,
        p.conThread cfg env = { q with
          client := q.client.setGiRequested q.self false }.startNewInterrogationCycle cfg env ∧
        q.self = p.self ∧ q.client.out = p.client.out ++ p.beforeGiEvents cfg env ∧
        q.con.connection = p.con.connection ∧
        q.con.connectionState = p.con.connectionState ∧
        q.con.interrogationInProgress = p.con.interrogationInProgress := by
  cases hrun : p.runsGiTasks cfg with
  | false =>
    obtain ⟨hschedule, hself⟩ := conThread_giSchedule cfg env p hrun
    refine .inl ⟨by simp [startsOnRequest, hrun], ?_, hself⟩
    have hrequested := congrArg GiSchedule.giRequested hschedule
    simpa [giSchedule, hself] using hrequested
  | true =>
    obtain ⟨_, _, hbefore⟩ := p.beforeGi_eq cfg env
    have hrun' : (p.beforeGi cfg env).runsGiTasks cfg := by
      rw [hbefore]
      exact hrun
    rw [conThread_connectedActive cfg env p (p.active_of_runsGiTasks hrun), if_pos hrun]
    rcases giTasks_request_cases cfg env _ hrun' with
      ⟨hnot, hrequested, hself⟩ | ⟨hstarts, q, heq, hself, hout, hconnection, hstate, hprogress⟩
    · refine .inl ⟨(beforeGi_startsOnRequest cfg env p).symm.trans hnot, ?_, ?_⟩
      · rw [hrequested, hbefore]
        rfl
      · rw [hself, (p.beforeGi_giSchedule cfg env).2]
    · refine .inr
        ⟨(beforeGi_startsOnRequest cfg env p).symm.trans hstarts, q, heq, ?_, ?_, ?_, ?_, ?_⟩
      · rw [hself, (p.beforeGi_giSchedule cfg env).2]
      · rw [hout, beforeGi_out]
      · rw [hconnection, (p.beforeGi_connection cfg env).1]
      · rw [hstate, (p.beforeGi_connection cfg env).2]
      · rw [hprogress, hbefore]

end Plugin

end Iec104South
