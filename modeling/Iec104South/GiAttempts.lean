import Iec104South.Machine

/-!
# The interrogation commands of a round

* `attemptedCas`: the CAs for which a round of the connection thread calls
  `sendInterrogationCommand`; there is at most one.
* `conThread_interrogationCommands`: the interrogation commands a round passes to the library
  are those of these calls.
* `StoppedIdle`: a cycle that is not in progress has no request pending.
-/

namespace Iec104South

open Reactive

def Effect.isInterrogationCommand : Effect → Bool
  | .sendInterrogationCommand .. => true
  | _ => false

/-- The interrogation commands in a list of effects, accepted by the library or not. -/
def interrogationCommands (out : List Effect) : List Effect :=
  out.filter (·.isInterrogationCommand)

@[simp] theorem interrogationCommands_nil : interrogationCommands [] = [] := rfl

@[simp] theorem interrogationCommands_append (a b : List Effect) :
    interrogationCommands (a ++ b) = interrogationCommands a ++ interrogationCommands b :=
  List.filter_append ..

@[simp] theorem interrogationCommands_of_reports {out : List Effect} (h : Reports out) :
    interrogationCommands out = [] :=
  h.filter_eq_nil fun e he => by cases e <;> first | rfl | cases he

@[simp] theorem interrogationCommands_map_close (handles : List Handle) :
    interrogationCommands (handles.map .close) = [] := by
  simp [interrogationCommands, Effect.isInterrogationCommand]

@[simp] theorem interrogationCommands_sendInterrogationCommand (con : Connection) (ca : Int)
    (accepted : Bool) :
    interrogationCommands (con.sendInterrogationCommand ca accepted).2 =
      (con.sendInterrogationCommand ca accepted).2 := by
  unfold Connection.sendInterrogationCommand
  split
  · split_ifs <;> rfl
  · rfl

namespace Plugin

variable (cfg : IEC104ClientConfig) (env : Env) (p : Plugin)

/-- The CAs for which the round calls `sendInterrogationCommand`: the broadcast address when it
starts a cycle without `gi_all_ca`, and the CA of the iterator when it continues a cycle. -/
def attemptedCas (cfg : IEC104ClientConfig) (env : Env) (p : Plugin) : List Int :=
  if p.startsCycle cfg env then if cfg.giAllCa then [] else [cfg.broadcastCA]
  else if p.runsGiTasks cfg && p.con.interrogationInProgress &&
      p.con.interrogationRequestState == .idle && cfg.giAllCa then
    cfg.listOfCAs[p.con.listOfCA_it]?.toList
  else []

theorem length_attemptedCas : (p.attemptedCas cfg env).length ≤ 1 := by
  unfold attemptedCas
  split_ifs
  · simp
  · simp
  · exact Option.length_toList_le
  · simp

theorem runsGiTasks_of_attemptedCas (h : p.attemptedCas cfg env ≠ []) : p.runsGiTasks cfg := by
  by_contra hrun
  simp [attemptedCas, startsCycle, hrun] at h

theorem interrogationCommands_beforeGi :
    interrogationCommands (p.beforeGi cfg env).client.out =
      interrogationCommands p.client.out := by
  have hnone : interrogationCommands (p.beforeGiEvents cfg env) = [] := by
    unfold beforeGiEvents timeSyncEvents
    rw [interrogationCommands_append, interrogationCommands_of_reports (p.reports_auditEvents _)]
    split_ifs <;> rfl
  rw [beforeGi_out, interrogationCommands_append, hnone, List.append_nil]

/-- What the calls for the CAs of the list pass to the library. -/
def sentTo (cas : List Int) (accepted : Bool) (con : Connection) : List Effect :=
  cas.flatMap fun ca => (con.sendInterrogationCommand ca accepted).2

/-- The start of a cycle calls `sendInterrogationCommand` without `gi_all_ca` only. -/
theorem interrogationCommands_start :
    interrogationCommands (p.startNewInterrogationCycle cfg env).client.out =
      interrogationCommands p.client.out ++
        sentTo (if cfg.giAllCa then [] else [cfg.broadcastCA]) env.giAccepted p.con := by
  rw [startNewInterrogationCycle_client]
  cases hall : cfg.giAllCa with
  | false => simp [sentTo]
  | true => simp [sentTo]

/-- Without `gi_all_ca`, a round that starts a cycle does nothing else that sends. -/
theorem giTasks_of_broadcast (hsingle : cfg.giAllCa = false) (h : p.startsCycle cfg env) :
    ∃ c : Client, p.giTasks cfg env = { p with client := c }.startNewInterrogationCycle cfg env ∧
      c.out = p.client.out := by
  obtain ⟨q, requested, rfl | ⟨hall, -⟩, heq⟩ := p.giTasks_of_startsCycle cfg env h
  · exact ⟨_, heq, rfl⟩
  · simp [hsingle] at hall

/-- A round that starts no cycle works on the cycle in progress. -/
theorem giTasks_of_not_startsCycle (hrun : p.runsGiTasks cfg)
    (h : p.startsCycle cfg env = false) :
    p.giTasks cfg env =
      if p.con.interrogationInProgress then
        if p.con.interrogationRequestState ≠ .idle then p.checkGiTimeout cfg env
        else p.continueCycle cfg env
      else p := by
  simp only [startsCycle, hrun, Bool.true_and, Bool.or_eq_false_iff, Bool.not_eq_false',
    Bool.and_eq_false_iff] at h
  obtain ⟨hfirst, hprogress | ⟨⟨hcycle, hend⟩, hrequest⟩⟩ := h
  · have hin : p.con.interrogationInProgress := by simpa using hprogress
    simp [giTasks, hfirst, hin]
  · have hnotdue : ¬ (0 < cfg.giCycle ∧ p.con.nextGIStartTime < env.currentTime) := by
      rintro ⟨hpos, hdue⟩
      simp [hpos, hdue] at hcycle
    have hunrequested : ¬ (p.client.giRequested p.self ∧
        (p.client.giStatus = .failed ∨ p.client.giStatus = .finished)) := by
      rintro ⟨hreq, hstatus | hstatus⟩
      · simp [hreq, hstatus] at hrequest
      · simp [hreq, hstatus] at hrequest
    simp [giTasks, hfirst, startCycleWhenDue, startCycleOnRequest, hnotdue, hend, hunrequested]

theorem giTasks_interrogationCommands (hrun : p.runsGiTasks cfg) :
    interrogationCommands (p.giTasks cfg env).client.out =
      interrogationCommands p.client.out ++
        sentTo (p.attemptedCas cfg env) env.giAccepted p.con := by
  cases hstarts : p.startsCycle cfg env with
  | true =>
    cases hall : cfg.giAllCa with
    | false =>
      obtain ⟨c, heq, hout⟩ := p.giTasks_of_broadcast cfg env hall hstarts
      rw [heq, interrogationCommands_start]
      simp [attemptedCas, hstarts, hall, hout]
    | true =>
      -- over all CAs a start sends nothing, and nothing but starts runs in this round
      have hnone : sentTo (p.attemptedCas cfg env) env.giAccepted p.con = [] := by
        simp [attemptedCas, hstarts, hall, sentTo]
      rw [hnone, List.append_nil]
      simp only [startsCycle, Bool.and_eq_true, Bool.or_eq_true, Bool.not_eq_true'] at hstarts
      have hstop : ¬ (p.con.firstGISent ∧ p.con.interrogationInProgress) := by
        rcases hstarts.2 with hfirst | ⟨hstop, -⟩
        · simp [hfirst]
        · simp [hstop]
      refine giTasks_rule cfg env p (P := fun q => interrogationCommands q.client.out =
        interrogationCommands p.client.out) rfl ?_ (fun _ hq => hq) ?_ ?_
        (fun _ _ _ _ => rfl)
      · intro q hq _
        rw [interrogationCommands_start, hq]
        simp [hall, sentTo]
      · exact fun hfirst hprogress => absurd ⟨hfirst, hprogress⟩ hstop
      · exact fun _ _ hfirst hprogress => absurd ⟨hfirst, hprogress⟩ hstop
  | false =>
    rw [giTasks_of_not_startsCycle cfg env p hrun hstarts]
    split_ifs with hprogress hstate
    · have hnone : p.attemptedCas cfg env = [] := by
        simp [attemptedCas, hstarts, hstate]
      unfold checkGiTimeout
      split_ifs
      · simp [failGiRequest_client, hnone, sentTo]
      · simp [hnone, sentTo]
    · have hidle : p.con.interrogationRequestState = .idle := not_not.mp hstate
      unfold continueCycle
      split_ifs with hall
      · have hnext : p.attemptedCas cfg env = cfg.listOfCAs[p.con.listOfCA_it]?.toList := by
          simp [attemptedCas, hstarts, hrun, hprogress, hidle, hall]
        rw [hnext]
        split
        · next ca hca =>
          rw [sendGiToCa_client, hca]
          split_ifs <;> simp [sentTo]
        · next hca => simp [hca, sentTo]
      · simp [attemptedCas, hstarts, hall, sentTo]
    · simp [attemptedCas, hstarts, hprogress, sentTo]

/-- Outside the active state a round sends no interrogation command. -/
theorem conThread_interrogationCommands_of_inactive
    (h : p.con.connectionState ≠ .connectedActive) :
    interrogationCommands (p.conThread cfg env).client.out =
      interrogationCommands p.client.out := by
  obtain ⟨-, -, events, hevents, hclient⟩ := p.conThread_inactive cfg env h
  have hnone : interrogationCommands events = [] := by
    refine List.filter_eq_nil_iff.mpr fun e he hcommand => ?_
    have hlink := hevents e he
    cases e with
    | sendInterrogationCommand => cases hlink
    | _ => cases hcommand
  rw [hclient, interrogationCommands_append, hnone, List.append_nil]

/-- The interrogation commands a round passes to the library are those of the calls
`attemptedCas` lists. -/
theorem conThread_interrogationCommands :
    interrogationCommands (p.conThread cfg env).client.out =
      interrogationCommands p.client.out ++
        sentTo (p.attemptedCas cfg env) env.giAccepted p.con := by
  cases hrun : p.runsGiTasks cfg with
  | true =>
    obtain ⟨_, _, hbefore⟩ := p.beforeGi_eq cfg env
    have hattempts : (p.beforeGi cfg env).attemptedCas cfg env = p.attemptedCas cfg env := by
      rw [hbefore]
      rfl
    have hsent (cas : List Int) :
        sentTo cas env.giAccepted (p.beforeGi cfg env).con = sentTo cas env.giAccepted p.con := by
      rw [hbefore]
      rfl
    have hrun' : (p.beforeGi cfg env).runsGiTasks cfg := by
      rw [hbefore]
      exact hrun
    rw [conThread_connectedActive cfg env p (p.active_of_runsGiTasks hrun), if_pos hrun,
      giTasks_interrogationCommands cfg env _ hrun', hattempts, hsent,
      interrogationCommands_beforeGi]
  | false =>
    have hnone : p.attemptedCas cfg env = [] := by
      by_contra hsome
      exact Bool.eq_false_iff.mp hrun (p.runsGiTasks_of_attemptedCas cfg env hsome)
    rw [hnone, sentTo, List.flatMap_nil, List.append_nil]
    by_cases hactive : p.con.connectionState = .connectedActive
    · rw [conThread_connectedActive cfg env p hactive, hrun]
      exact interrogationCommands_beforeGi cfg env p
    · exact conThread_interrogationCommands_of_inactive cfg env p hactive

theorem step_interrogationCommands :
    interrogationCommands (step cfg p (.conThread env)).2 =
      sentTo (p.attemptedCas cfg env) env.giAccepted p.con := by
  have h := conThread_interrogationCommands cfg env p.clear
  rw [clear_client, interrogationCommands_nil, List.nil_append] at h
  exact h

variable {cfg env p} in
/-- A round that attempts a CA is one in the active state. -/
theorem active_of_attemptedCas (h : p.attemptedCas cfg env ≠ []) :
    p.con.connectionState = .connectedActive :=
  p.active_of_runsGiTasks (p.runsGiTasks_of_attemptedCas cfg env h)

variable {cfg env p} in
/-- A round sends nothing that it has not attempted. -/
theorem attemptedCas_of_sends
    (h : interrogationCommands (step cfg p (.conThread env)).2 ≠ []) :
    p.attemptedCas cfg env ≠ [] := by
  intro hnil
  rw [step_interrogationCommands, hnil] at h
  exact h rfl

/-- A cycle that is not in progress has no request pending. -/
def StoppedIdle (p : Plugin) : Prop :=
  p.con.interrogationInProgress = false → p.con.interrogationRequestState = .idle

theorem giTasks_stoppedIdle (hp : p.StoppedIdle) : (p.giTasks cfg env).StoppedIdle := by
  apply giTasks_rule cfg env p hp
  · intro q hq _ hstop
    simp only [startNewInterrogationCycle_con, Bool.or_eq_false_iff] at hstop ⊢
    obtain ⟨hbefore, hnew⟩ := hstop
    have hunsent : q.broadcastSent cfg env = false := by
      cases hall : cfg.giAllCa with
      | true => simp [broadcastSent, hall]
      | false => simpa [hall] using hnew
    rw [hunsent]
    exact hq hbefore
  · exact fun q hq => hq
  · exact fun _ _ _ _ _ => rfl
  · intro ca _ _ hprogress _ _ hstop
    simp [sendGiToCa_con, hprogress] at hstop
  · exact fun _ hidle _ _ _ => hidle

variable {cfg env p} in
theorem StoppedIdle.congr {q : Plugin} (hp : p.StoppedIdle) (h : q.giView = p.giView) :
    q.StoppedIdle := by
  obtain ⟨-, hprogress, hstate, -⟩ := giView_eq_iff.mp h
  unfold StoppedIdle
  rw [hprogress, hstate]
  exact hp

variable {p} in
theorem StoppedIdle.handle (hp : p.StoppedIdle) (i : Input) : (p.handle cfg i).StoppedIdle := by
  cases htouch : i.touchesGi with
  | false => exact hp.congr (handle_giView cfg p htouch)
  | true =>
    cases i with
    | connectionEvent event now =>
      cases event with
      | _ => exact hp
    | asdu a now =>
      obtain ⟨hstate, hprogress, -⟩ := asduReceivedHandler_con cfg p now a
      intro hstop
      by_contra hpending
      exact hstate hpending (hp (hprogress.symm.trans hstop))
    | conThread env =>
      rcases conThread_cases cfg env p with ⟨-, hview, -⟩ | ⟨-, hview, heq⟩
      · exact hp.congr hview
      · show (p.conThread cfg env).StoppedIdle
        rw [heq]
        exact giTasks_stoppedIdle cfg env _ (hp.congr hview)
    | _ => cases htouch

end Plugin

end Iec104South
