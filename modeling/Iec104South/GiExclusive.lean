import Iec104South.GiAttempts
import Iec104South.SessionFreshness

/-!
# One interrogation command at a time

`one_request_of_along`: a round of the connection thread sends at most one interrogation
command, and none while the answer to an earlier one of the same session is awaited, in every
run in which no STARTDT_CON finds a request of its session pending, or with `gi_all_ca`.
STARTDT_CON resets `m_firstGISent` without looking at the request state, and the periodic tasks
run from `Activate` on, so the condition is needed: `startdt_con_overtakes_request`.
-/

namespace Iec104South

open Reactive

/-- The connection awaits the answer to a request that was sent on the current session. -/
def RequestPending (s : Plugin × SessionWatch) : Prop :=
  s.2.requestSession = some s.2.session ∧ s.1.con.interrogationRequestState ≠ .idle

instance (s : Plugin × SessionWatch) : Decidable (RequestPending s) := by
  unfold RequestPending
  infer_instance

/-- The round sends at most one interrogation command, and none while one is pending. -/
def OneRequest (cfg : IEC104ClientConfig) (s : Plugin × SessionWatch) : Input → Prop
  | .conThread env =>
    (interrogationCommands (step cfg s.1 (.conThread env)).2).length ≤ 1 ∧
      (interrogationCommands (step cfg s.1 (.conThread env)).2 ≠ [] → ¬ RequestPending s)
  | _ => True

instance (cfg : IEC104ClientConfig) (s : Plugin × SessionWatch) :
    ∀ i, Decidable (OneRequest cfg s i) := by
  unfold OneRequest
  exact Input.decidable

/-- Without `gi_all_ca`, STARTDT_CON does not find a request of its session pending. -/
def NoStartdtConWhilePending (cfg : IEC104ClientConfig) (s : Plugin × SessionWatch) :
    Input → Prop
  | .connectionEvent .startdtConReceived _ => cfg.giAllCa = false → ¬ RequestPending s
  | _ => True

instance (cfg : IEC104ClientConfig) (s : Plugin × SessionWatch) :
    ∀ i, Decidable (NoStartdtConWhilePending cfg s i) := by
  unfold NoStartdtConWhilePending
  exact Input.decidable

/-- What holds between steps as long as no STARTDT_CON overtakes a request. -/
structure ExclusiveInv (cfg : IEC104ClientConfig) (s : Plugin × SessionWatch) : Prop where
  stopped : s.1.StoppedIdle
  /-- before the first GI of a session nothing of the session is pending -/
  firstGi : cfg.giAllCa = false → s.1.con.firstGISent = false → ¬ RequestPending s
  /-- no request was sent on a session to come -/
  session : ∀ n, s.2.requestSession = some n → n ≤ s.2.session

namespace Plugin

variable (cfg : IEC104ClientConfig) (env : Env) (p : Plugin)

theorem length_sentTo {cas : List Int} (h : cas.length ≤ 1) (accepted : Bool)
    (con : Connection) : (sentTo cas accepted con).length ≤ 1 := by
  match cas, h with
  | [], _ => simp [sentTo]
  | [ca], _ =>
    simp only [sentTo, List.flatMap_cons, List.flatMap_nil, List.append_nil,
      Connection.sendInterrogationCommand]
    split
    · split_ifs <;> simp
    · simp

/-- A request that was sent is an interrogation command. -/
theorem interrogationCommands_of_sentRequest {out : List Effect} (h : sentRequest out) :
    interrogationCommands out ≠ [] := by
  simp only [sentRequest, List.any_eq_true] at h
  obtain ⟨e, he, hsent⟩ := h
  have hcommand : e.isInterrogationCommand := by
    cases e with
    | sendInterrogationCommand => rfl
    | _ => cases hsent
  exact List.ne_nil_of_mem (List.mem_filter.mpr ⟨he, hcommand⟩)

/-- The GI part ends with the first GI of the session sent, or refused. -/
theorem giTasks_firstGISent :
    (p.giTasks cfg env).con.firstGISent := by
  cases hfirst : p.con.firstGISent with
  | false => simp [giTasks, hfirst, startNewInterrogationCycle_con]
  | true =>
    refine giTasks_rule cfg env p (P := fun q => q.con.firstGISent = true) hfirst ?_
      (fun _ hq => hq) (fun _ _ _ _ => hfirst) ?_ (fun _ _ _ _ => hfirst)
    · intro q _ _
      simp [startNewInterrogationCycle_con]
    · intro ca _ _ _ _ _
      simpa [sendGiToCa_con] using hfirst

variable {cfg env p} in
/-- A round without the GI part sends no request. -/
theorem sentRequest_of_quiet (hrun : p.runsGiTasks cfg = false) :
    sentRequest (step cfg p (.conThread env)).2 = false := by
  refine Bool.eq_false_iff.mpr fun hsent => Bool.eq_false_iff.mp hrun ?_
  exact p.runsGiTasks_of_attemptedCas cfg env
    (attemptedCas_of_sends (interrogationCommands_of_sentRequest hsent))

end Plugin

namespace ExclusiveInv

variable {cfg : IEC104ClientConfig} {s : Plugin × SessionWatch} {i : Input}

/-- A round sends only when nothing of the session is pending. -/
theorem oneRequest (hs : ExclusiveInv cfg s) : OneRequest cfg s i := by
  obtain ⟨p, w⟩ := s
  cases i with
  | conThread env =>
    show (interrogationCommands (Iec104South.step cfg p (.conThread env)).2).length ≤ 1 ∧
      (interrogationCommands (Iec104South.step cfg p (.conThread env)).2 ≠ [] →
        ¬ RequestPending (p, w))
    refine ⟨?_, fun hsends => ?_⟩
    · rw [Plugin.step_interrogationCommands]
      exact Plugin.length_sentTo (p.length_attemptedCas cfg env) _ _
    have hattempts := Plugin.attemptedCas_of_sends hsends
    unfold Plugin.attemptedCas at hattempts
    split_ifs at hattempts with hstarts hall hnext
    · exact absurd rfl hattempts
    -- a start without `gi_all_ca`: the first GI of the session, or no cycle in progress
    · simp only [Plugin.startsCycle, Bool.and_eq_true, Bool.or_eq_true,
        Bool.not_eq_true'] at hstarts
      rcases hstarts.2 with hfirst | ⟨hstop, -⟩
      · exact hs.firstGi (Bool.eq_false_iff.mpr hall) hfirst
      · exact fun hpending => hpending.2 (hs.stopped hstop)
    · simp only [Bool.and_eq_true, beq_iff_eq] at hnext
      exact fun hpending => hpending.2 hnext.1.2
    · exact absurd rfl hattempts
  | _ => trivial

/-- A round with the GI part has sent the first GI; one without it sends nothing. -/
theorem conThread (hs : ExclusiveInv cfg s) (env : Env) :
    ExclusiveInv cfg (watch (Iec104South.step cfg) (noteSession cfg) s (.conThread env)).1 := by
  obtain ⟨p, w⟩ := s
  refine ⟨Plugin.StoppedIdle.handle (p := p.clear) cfg hs.stopped _,
    fun hsingle hunsent hpending => ?_, fun n hn => ?_⟩
  · rcases Plugin.conThread_cases cfg env p.clear with ⟨hrun, hview, -⟩ | ⟨-, -, heq⟩
    · obtain ⟨hfirst, -, hstate, -⟩ := Plugin.giView_eq_iff.mp hview
      refine hs.firstGi hsingle (hfirst.symm.trans hunsent) ⟨?_, hstate ▸ hpending.2⟩
      have hnone : sentRequest (Iec104South.step cfg p (.conThread env)).2 = false :=
        Plugin.sentRequest_of_quiet hrun
      have hrequest := hpending.1
      simp only [watch, noteSession, hnone] at hrequest
      exact hrequest
    · have hunsent' : (p.clear.conThread cfg env).con.firstGISent = false := hunsent
      rw [heq, Plugin.giTasks_firstGISent] at hunsent'
      cases hunsent'
  · simp only [watch, noteSession] at hn
    split_ifs at hn
    · exact (Option.some.inj hn).ge
    · exact hs.session n hn

theorem step (hs : ExclusiveInv cfg s) (hi : NoStartdtConWhilePending cfg s i) :
    ExclusiveInv cfg (watch (Iec104South.step cfg) (noteSession cfg) s i).1 := by
  obtain ⟨p, w⟩ := s
  have hstopped : (p.clear.handle cfg i).StoppedIdle :=
    Plugin.StoppedIdle.handle (p := p.clear) cfg hs.stopped i
  show ExclusiveInv cfg (p.clear.handle cfg i,
    noteSession cfg w p i (p.clear.handle cfg i).client.out)
  cases htouch : i.touchesGi with
  | false =>
    obtain ⟨hfirst, -, hstate, -⟩ :=
      Plugin.giView_eq_iff.mp (Plugin.handle_giView cfg p.clear htouch)
    have hkeep : ExclusiveInv cfg (p.clear.handle cfg i, w) := by
      refine ⟨hstopped, fun hsingle hunsent hpending => ?_, hs.session⟩
      exact hs.firstGi hsingle (hfirst.symm.trans hunsent) ⟨hpending.1, hstate ▸ hpending.2⟩
    cases i with
    | connectionEvent _ _ | asdu _ _ | conThread _ => cases htouch
    | _ => exact hkeep
  | true =>
    cases i with
    | connectionEvent event now =>
      cases event with
      | opened =>
        -- what was sent before belongs to an earlier session
        refine ⟨hstopped, fun _ _ hpending => ?_, fun n hn => ?_⟩
        · exact absurd (hs.session _ hpending.1) (Nat.not_succ_le_self _)
        · exact Nat.le_succ_of_le (hs.session n hn)
      | startdtConReceived => exact ⟨hstopped, fun hsingle _ => hi hsingle, hs.session⟩
      | closed | stopdtConReceived | other => exact ⟨hstopped, hs.firstGi, hs.session⟩
    | asdu a now =>
      obtain ⟨hstate, -, hfirst, -⟩ := Plugin.asduReceivedHandler_con cfg p.clear now a
      refine ⟨hstopped, fun hsingle hunsent hpending => ?_, hs.session⟩
      exact hs.firstGi hsingle (hfirst.symm.trans hunsent) ⟨hpending.1, hstate hpending.2⟩
    | conThread env => exact hs.conThread env
    | _ => cases htouch

end ExclusiveInv

/-- In every run in which, without `gi_all_ca`, no STARTDT_CON finds a request of its session
pending, each round sends at most one interrogation command, and none while the answer to an
earlier one of the session is awaited. -/
theorem one_request_of_along (cfg : IEC104ClientConfig) (t : ExchangeTable) (self : ConId)
    (is : List Input)
    (h : Along (watch (step cfg) (noteSession cfg)) (NoStartdtConWhilePending cfg)
      (Plugin.init t self, {}) is) :
    Along (watch (step cfg) (noteSession cfg)) (OneRequest cfg) (Plugin.init t self, {}) is :=
  along_of_invariant (fun _ _ hs hi => ExclusiveInv.step hs hi) (fun _ _ hs _ => hs.oneRequest)
    ⟨fun _ => rfl, fun _ _ hpending => hpending.2 rfl, fun _ hn => by cases hn⟩ h

/-- Two GI on one session; each begins after the answer to the one before. -/
theorem one_request_two_cycles :
    Along (watch (step {}) (noteSession {})) (OneRequest {}) (Plugin.init .empty 0, {})
      (firstRequest ++ [.asdu (interrogationReply CS101_COT_ACTIVATION_CON 1 false) 0,
        .asdu (interrogationReply CS101_COT_ACTIVATION_TERMINATION 1 false) 0, .conThread {},
        .scheduleGI, .setActiveConnection true, .scheduleGI, .conThread {}]) :=
  one_request_of_along {} .empty 0 _ (by decide)

/-- After STARTDT_CON the next GI round starts a cycle whether or not a request is pending. -/
theorem attemptedCas_startdtConReceived (cfg : IEC104ClientConfig) (env : Env) (now : Nat)
    (p : Plugin) (hsingle : cfg.giAllCa = false) (hgi : cfg.giEnabled)
    (hsync : cfg.isTimeSyncEnabled = false) :
    (step cfg p (.connectionEvent .startdtConReceived now)).1.attemptedCas cfg env =
      [cfg.broadcastCA] := by
  simp [step, Plugin.handle, Connection.connectionHandler, Plugin.attemptedCas,
    Plugin.startsCycle, Plugin.runsGiTasks, hsingle, hgi, hsync]

/-- A round between `Activate` and STARTDT_CON sends the first request of the session; the
round after STARTDT_CON sends the second one while the answer to the first is awaited. -/
theorem startdt_con_overtakes_request :
    ¬ Along (watch (step {}) (noteSession {})) (OneRequest {}) (Plugin.init .empty 0, {})
      [.connect, .conThread { created := some 1 }, .connectionEvent .opened 0, .activate,
        .conThread {}, .connectionEvent .startdtConReceived 0, .conThread {}] := by
  decide

end Iec104South
