import Iec104South.GiSchedule

/-!
# GI requests

A trigger sets `m_giRequested`, and a round that is free for it starts the GI. The flag is
cleared before the start is tried, and a start that fails does not set it again: the request
is kept until its command is sent if and only if no such start fails (`request_kept_iff`).
Several triggers before a start are one request, and a start on request finds no GI in progress.
-/

namespace Iec104South

open Reactive

/-- Whether a trigger came since the last start on request, and whether since a trigger no
interrogation command was sent and, with `gi_all_ca`, no cycle was put in progress. -/
structure TriggerWatch where
  triggered : Bool := false
  unsent : Bool := false
deriving DecidableEq, Repr

/-- The round sends a request of the GI, or puts a cycle over the CAs in progress. -/
def Plugin.servesRequest (cfg : IEC104ClientConfig) (env : Env) (p : Plugin)
    (out : List Effect) : Bool :=
  sentRequest out ||
    (cfg.giAllCa && !p.con.interrogationInProgress &&
      (step cfg p (.conThread env)).1.con.interrogationInProgress)

/-- The step clears the flag. -/
def Plugin.clearsRequest (cfg : IEC104ClientConfig) (p : Plugin) (i : Input) : Bool :=
  p.giSchedule.giRequested && !(step cfg p i).1.giSchedule.giRequested

def noteTrigger (cfg : IEC104ClientConfig) (w : TriggerWatch) (p : Plugin) (i : Input)
    (out : List Effect) : TriggerWatch :=
  match i with
  | .conThread env =>
    { triggered := w.triggered && !p.clearsRequest cfg i
      unsent := w.unsent && !p.servesRequest cfg env out }
  | i => { triggered := w.triggered || p.triggersGi cfg i
           unsent := w.unsent || p.triggersGi cfg i }

/-- After the step the flag is set as long as the request is not served. A step that clears it
is the one start for the triggers before it, with no GI in progress. -/
def RequestKept (cfg : IEC104ClientConfig) (s : Plugin × TriggerWatch) (i : Input) : Prop :=
  ((watch (step cfg) (noteTrigger cfg) s i).1.2.unsent →
      (step cfg s.1 i).1.giSchedule.giRequested) ∧
    (s.1.clearsRequest cfg i →
      s.2.triggered ∧ s.1.con.interrogationInProgress = false ∧
        s.1.con.interrogationRequestState = .idle ∧ s.1.giRunning = false)

instance (cfg : IEC104ClientConfig) (s : Plugin × TriggerWatch) (i : Input) :
    Decidable (RequestKept cfg s i) :=
  inferInstanceAs (Decidable (_ ∧ _))

/-- A start on request that serves an unsent one can be carried out: there is a handle and the
library accepts the command, or with `gi_all_ca` there is a CA. -/
def RequestStartable (cfg : IEC104ClientConfig) (s : Plugin × TriggerWatch) : Input → Prop
  | .conThread env =>
    s.1.startsOnRequest cfg env → s.2.unsent →
      if cfg.giAllCa then cfg.listOfCAs ≠ [] else s.1.con.connection.isSome ∧ env.giAccepted
  | _ => True

instance (cfg : IEC104ClientConfig) (s : Plugin × TriggerWatch) :
    ∀ i, Decidable (RequestStartable cfg s i) := by
  unfold RequestStartable
  exact Input.decidable

/-! ## One step -/

namespace Plugin

variable (cfg : IEC104ClientConfig) (env : Env) (p : Plugin)

variable {cfg env p} in
theorem giRequested_of_startsOnRequest (h : p.startsOnRequest cfg env) :
    p.giSchedule.giRequested := by
  simp only [startsOnRequest, Bool.and_eq_true] at h
  exact h.1.1.2

/-- A round clears the flag exactly when it starts a GI on request. -/
theorem giRequested_conThread :
    (step cfg p (.conThread env)).1.giSchedule.giRequested =
      (p.giSchedule.giRequested && !p.startsOnRequest cfg env) := by
  show (p.clear.conThread cfg env).giSchedule.giRequested =
    (p.clear.client.giRequested p.clear.self && !p.clear.startsOnRequest cfg env)
  rcases p.clear.conThread_request_cases cfg env with
    ⟨hnot, hkept, hself⟩ | ⟨hstarts, q, heq, hself, -⟩
  · rw [hnot, giSchedule, hself, hkept, Bool.not_false, Bool.and_true]
  · obtain ⟨hclient, hsame⟩ := startNewInterrogationCycle_giRequested cfg env
      { q with client := q.client.setGiRequested q.self false }
    rw [heq, giSchedule, hclient, hsame, hstarts, Bool.not_true, Bool.and_false]
    exact Function.update_self ..

theorem clearsRequest_conThread :
    p.clearsRequest cfg (.conThread env) = p.startsOnRequest cfg env := by
  unfold clearsRequest
  rw [giRequested_conThread]
  cases hstarts : p.startsOnRequest cfg env with
  | true => rw [giRequested_of_startsOnRequest hstarts]; rfl
  | false => simp

/-- No other step clears it. -/
theorem giRequested_step {i : Input} (hround : ∀ env, i ≠ .conThread env) :
    (step cfg p i).1.giSchedule.giRequested =
      (p.giSchedule.giRequested || p.triggersGi cfg i) := by
  by_cases hasdu : ∃ a now, i = .asdu a now
  · obtain ⟨a, now, rfl⟩ := hasdu
    obtain ⟨_, hschedule, -⟩ := p.clear.asduReceivedHandler_giSchedule cfg now a
    show (p.clear.asduReceivedHandler cfg now a).2.giSchedule.giRequested = _
    rw [hschedule, received_giSchedule]
    rfl
  · have hno : ∀ a now, i ≠ .asdu a now := fun a now h => hasdu ⟨a, now, h⟩
    show (p.clear.handle cfg i).giSchedule.giRequested = _
    rw [(p.clear.handle_giSchedule cfg hno hround).1]
    cases i <;> rfl

theorem clearsRequest_eq_false {i : Input} (hround : ∀ env, i ≠ .conThread env) :
    p.clearsRequest cfg i = false := by
  unfold clearsRequest
  rw [giRequested_step cfg p hround]
  cases p.giSchedule.giRequested <;> rfl

/-- A start on request finds no GI in progress. -/
theorem not_running_of_startsOnRequest (hstop : p.StoppedIdle) (h : p.startsOnRequest cfg env) :
    p.con.interrogationInProgress = false ∧ p.con.interrogationRequestState = .idle ∧
      p.giRunning = false := by
  simp only [startsOnRequest, Bool.and_eq_true, Bool.or_eq_true, beq_iff_eq,
    Bool.not_eq_true'] at h
  obtain ⟨⟨⟨⟨-, hprogress⟩, -⟩, hstatus⟩, -⟩ := h
  refine ⟨hprogress, hstop hprogress, ?_⟩
  rcases hstatus with hstatus | hstatus
  · simp [giRunning, hstatus]
  · simp [giRunning, hstatus]

/-- A start on request is served if it can be carried out. -/
theorem servesRequest_of_startsOnRequest (h : p.startsOnRequest cfg env) :
    p.servesRequest cfg env (step cfg p (.conThread env)).2 ↔
      if cfg.giAllCa then cfg.listOfCAs ≠ [] else p.con.connection.isSome ∧ env.giAccepted := by
  obtain ⟨hactive, hstopped⟩ : p.con.connectionState = .connectedActive ∧
      p.con.interrogationInProgress = false := by
    simp only [startsOnRequest, Bool.and_eq_true, Bool.not_eq_true'] at h
    exact ⟨p.active_of_runsGiTasks h.1.1.1.1.1, h.1.1.1.2⟩
  obtain ⟨hsent, hprogress⟩ : sentRequest (step cfg p (.conThread env)).2 =
        (!cfg.giAllCa && (p.con.connection.isSome && env.giAccepted)) ∧
      (cfg.giAllCa → (step cfg p (.conThread env)).1.con.interrogationInProgress =
        !cfg.listOfCAs.isEmpty) := by
    show sentRequest (p.clear.conThread cfg env).client.out = _ ∧
      (cfg.giAllCa → (p.clear.conThread cfg env).con.interrogationInProgress = _)
    rcases p.clear.conThread_request_cases cfg env with
      ⟨hnot, -⟩ | ⟨-, q, heq, -, hout, hconnection, hstate, hprogress⟩
    · exact absurd h (Bool.eq_false_iff.mp hnot)
    · have hquiet : sentRequest q.client.out = false := by
        rw [hout]
        exact p.clear.sentRequest_beforeGiEvents cfg env
      have hstate' : q.con.connectionState = .connectedActive := hstate.trans hactive
      have hconnection' : q.con.connection = p.con.connection := hconnection
      have hstopped' : q.con.interrogationInProgress = false := hprogress.trans hstopped
      rw [heq, sentRequest_start, startNewInterrogationCycle_con]
      refine ⟨?_, fun hall => ?_⟩
      · simp [broadcastSent, sendInterrogationCommand_fst, Client.setGiRequested, hquiet, hstate',
          hconnection']
      · simp [hall, hstopped']
  rw [servesRequest, hsent, hstopped]
  cases hall : cfg.giAllCa with
  | true => simp [hprogress hall]
  | false => simp

end Plugin

/-! ## Runs -/

/-- The flag is set while the request is not served, and then a trigger came. -/
structure RequestKeptInv (s : Plugin × TriggerWatch) : Prop where
  kept : s.2.unsent → s.1.giSchedule.giRequested
  triggered : s.1.giSchedule.giRequested → s.2.triggered
  stopped : s.1.StoppedIdle

theorem RequestKeptInv.step {cfg : IEC104ClientConfig} {s : Plugin × TriggerWatch}
    (hs : RequestKeptInv s) {i : Input} (hkept : RequestKept cfg s i) :
    RequestKeptInv (watch (step cfg) (noteTrigger cfg) s i).1 := by
  obtain ⟨p, w⟩ := s
  refine ⟨hkept.1, fun hrequested => ?_, Plugin.StoppedIdle.handle cfg (p := p.clear) hs.stopped i⟩
  by_cases hround : ∃ env, i = .conThread env
  · obtain ⟨env, rfl⟩ := hround
    have hflag : (p.giSchedule.giRequested && !p.startsOnRequest cfg env) = true := by
      rw [← p.giRequested_conThread cfg env]
      exact hrequested
    rw [Bool.and_eq_true] at hflag
    show (w.triggered && !p.clearsRequest cfg (.conThread env)) = true
    rw [p.clearsRequest_conThread cfg env, hflag.2, hs.triggered hflag.1]
    rfl
  · have hno : ∀ env, i ≠ .conThread env := fun env h => hround ⟨env, h⟩
    have hflag : (p.giSchedule.giRequested || p.triggersGi cfg i) = true := by
      rw [← p.giRequested_step cfg hno]
      exact hrequested
    have hnote : (watch (Iec104South.step cfg) (noteTrigger cfg) (p, w) i).1.2.triggered =
        (w.triggered || p.triggersGi cfg i) := by
      cases i <;> first | rfl | exact absurd rfl (hno _)
    rw [hnote]
    rcases (Bool.or_eq_true ..).mp hflag with h | h
    · rw [hs.triggered h, Bool.true_or]
    · rw [h, Bool.or_true]

/-- A round keeps an unserved request if and only if it can carry out a start on request. -/
theorem requestKept_conThread {cfg : IEC104ClientConfig} {p : Plugin} {w : TriggerWatch}
    (hs : RequestKeptInv (p, w)) (env : Env) :
    RequestKept cfg (p, w) (.conThread env) ↔ RequestStartable cfg (p, w) (.conThread env) := by
  have hunsent : (watch (step cfg) (noteTrigger cfg) (p, w) (.conThread env)).1.2.unsent =
      (w.unsent && !p.servesRequest cfg env (step cfg p (.conThread env)).2) := rfl
  unfold RequestKept RequestStartable
  dsimp only
  rw [hunsent, p.clearsRequest_conThread cfg env, p.giRequested_conThread cfg env]
  cases hstarts : p.startsOnRequest cfg env with
  | false =>
    refine iff_of_true ⟨fun h => ?_, nofun⟩ nofun
    rw [Bool.and_eq_true] at h
    rw [hs.kept h.1]
    rfl
  | true =>
    have hrunning := p.not_running_of_startsOnRequest cfg env hs.stopped hstarts
    have htriggered : w.triggered :=
      hs.triggered (Plugin.giRequested_of_startsOnRequest hstarts)
    rw [and_iff_left fun _ => ⟨htriggered, hrunning⟩,
      ← p.servesRequest_of_startsOnRequest cfg env hstarts]
    cases w.unsent <;> simp

/-- Every other step keeps it. -/
theorem requestKept_of_ne_conThread {cfg : IEC104ClientConfig} {p : Plugin} {w : TriggerWatch}
    (hs : RequestKeptInv (p, w)) {i : Input} (hround : ∀ env, i ≠ .conThread env) :
    RequestKept cfg (p, w) i := by
  refine ⟨fun h => ?_, fun h => ?_⟩
  · have hnote : (watch (step cfg) (noteTrigger cfg) (p, w) i).1.2.unsent =
        (w.unsent || p.triggersGi cfg i) := by
      cases i <;> first | rfl | exact absurd rfl (hround _)
    rw [hnote] at h
    rw [p.giRequested_step cfg hround]
    rcases (Bool.or_eq_true ..).mp h with h | h
    · rw [hs.kept h, Bool.true_or]
    · rw [h, Bool.or_true]
  · exact absurd (p.clearsRequest_eq_false cfg hround) (by simp [h])

/-- In every run: a GI request is kept until it is served, triggers before a start are one
request, and a start on request finds no GI in progress, if and only if every start on request
for an unsent one can be carried out. -/
theorem request_kept_iff (cfg : IEC104ClientConfig) (t : ExchangeTable) (self : ConId)
    (is : List Input) :
    Along (watch (step cfg) (noteTrigger cfg)) (RequestKept cfg) (Plugin.init t self, {}) is ↔
      Along (watch (step cfg) (noteTrigger cfg)) (RequestStartable cfg)
        (Plugin.init t self, {}) is := by
  refine along_congr_of_guarded (I := RequestKeptInv) (fun s i hs => hs.step) (fun s i hs => ?_)
    ⟨nofun, nofun, fun _ => rfl⟩
  by_cases hround : ∃ env, i = .conThread env
  · obtain ⟨env, rfl⟩ := hround
    exact requestKept_conThread hs env
  · have hno : ∀ env, i ≠ .conThread env := fun env h => hround ⟨env, h⟩
    refine iff_of_true (requestKept_of_ne_conThread hs hno) ?_
    cases i with
    | conThread env => exact absurd rfl (hno env)
    | _ => trivial

/-- A request whose command the library refuses is lost. -/
theorem refused_start_loses_request :
    ¬ Along (watch (step {}) (noteTrigger {})) (RequestKept {}) (Plugin.init .empty 0, {})
      (firstRequest ++ [.asdu (interrogationReply CS101_COT_ACTIVATION_CON 1 false) 0,
        .asdu (interrogationReply CS101_COT_ACTIVATION_TERMINATION 1 false) 0, .conThread {},
        .setActiveConnection true, .scheduleGI, .conThread { giAccepted := false }]) := by
  decide

end Iec104South
