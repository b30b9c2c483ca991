import Iec104South.ConfigImport
import Iec104South.GiSchedule

/-!
# The deadlines of a connection

The connection adds a configured number of seconds to a reading of the clock at eight places: the
two timeouts of a pending GI request, the four assignments of `m_nextGIStartTime` and the two of
`m_nextTimeSync`. The number is multiplied by 1000 as an `int`, and the import accepts any that is
not negative. `deadlines_exact_iff`: in a run the deadlines are the sums they are meant to be if
and only if none of the numbers is above 2147483. `handle_nextGIStartTime` and
`handle_nextTimeSync` say that no deadline is stored but these.
-/

namespace Iec104South

open Reactive

/-- A deadline so many seconds after `time`, with the value that the connection computes. -/
structure Deadline where
  time : Nat
  seconds : Nat
  value : Nat
deriving DecidableEq, Repr

/-- The value is the sum, and the product before it fits in an `int`. -/
def Deadline.Exact (d : Deadline) : Prop :=
  d.value = d.time + d.seconds * 1000 ∧ d.seconds * 1000 < 2 ^ 31

instance (d : Deadline) : Decidable d.Exact :=
  inferInstanceAs (Decidable (d.value = d.time + d.seconds * 1000 ∧ d.seconds * 1000 < 2 ^ 31))

/-- The value is what `time + seconds * 1000` computes. -/
def Deadline.Computed (d : Deadline) : Prop := d.value = addSeconds d.time d.seconds

/-- The most seconds whose product by 1000 is an `int`. -/
def maxSeconds : Nat := 2147483

theorem Deadline.Computed.exact_iff {d : Deadline} (h : d.Computed) (htime : d.time < 2 ^ 62) :
    d.Exact ↔ d.seconds ≤ maxSeconds := by
  unfold Exact maxSeconds
  rw [h]
  constructor
  · rintro ⟨-, hproduct⟩
    omega
  · intro hseconds
    have hproduct : d.seconds * 1000 < 2 ^ 31 := by omega
    exact ⟨addSeconds_of_lt hproduct (by omega), hproduct⟩

/-! ## The places -/

namespace Plugin

section

variable (cfg : IEC104ClientConfig) (env : Env) (p : Plugin)

/-- `m_nextTimeSync` in `executePeriodicTasks` -/
def timeSyncDeadlines : List Deadline :=
  if p.con.timeSyncDue env.syncTime && p.con.timeSynchronized then
    [⟨env.syncTime, cfg.timeSyncPeriod, (p.timeSyncTasks cfg env).con.nextTimeSync⟩]
  else []

/-- `m_nextGIStartTime` in `startNewInterrogationCycle` -/
def startDeadlines : List Deadline :=
  if p.broadcastSent cfg env then
    [⟨env.sentTime, cfg.giCycle, (p.startNewInterrogationCycle cfg env).con.nextGIStartTime⟩]
  else []

/-- The timeout of a pending request, and `m_nextGIStartTime` when it has passed. -/
def timeoutDeadlines : List Deadline :=
  (if cfg.giTime ≠ 0 then
    [⟨p.con.interrogationRequestSent, cfg.giTime,
      addSeconds p.con.interrogationRequestSent cfg.giTime⟩]
  else []) ++
    if p.giTimedOut cfg env then
      [⟨env.currentTime, cfg.giCycle, (p.failGiRequest cfg env).con.nextGIStartTime⟩]
    else []

/-- `m_nextGIStartTime` at the end of the list of common addresses. -/
def continueDeadlines : List Deadline :=
  if cfg.giAllCa && cfg.listOfCAs.length ≤ p.con.listOfCA_it then
    [⟨env.currentTime, cfg.giCycle, (p.continueCycle cfg env).con.nextGIStartTime⟩]
  else []

def whenDueDeadlines : List Deadline :=
  if (0 < cfg.giCycle && p.con.nextGIStartTime < env.currentTime) || p.con.endOfInitReceived then
    p.startDeadlines cfg env
  else []

def onRequestDeadlines : List Deadline :=
  if p.client.giRequested p.self &&
      (p.client.giStatus == .failed || p.client.giStatus == .finished) then
    { p with client := p.client.setGiRequested p.self false }.startDeadlines cfg env
  else []

/-- The deadlines of the GI part. -/
def giDeadlines : List Deadline :=
  if !p.con.firstGISent then p.startDeadlines cfg env
  else if p.con.interrogationInProgress then
    if p.con.interrogationRequestState ≠ .idle then p.timeoutDeadlines cfg env
    else p.continueDeadlines cfg env
  else p.whenDueDeadlines cfg env ++ (p.startCycleWhenDue cfg env).onRequestDeadlines cfg env

/-- The deadlines of a round of the connection thread. -/
def roundDeadlines : List Deadline :=
  if p.con.connectionState = .connectedActive then
    (if cfg.isTimeSyncEnabled then
      (p.sendConnectionStatusAudit .active).timeSyncDeadlines cfg env
    else []) ++
      if p.runsGiTasks cfg then (p.beforeGi cfg env).giDeadlines cfg env else []
  else []

/-- `m_nextTimeSync` in `m_asduReceivedHandler` -/
def replyDeadlines (now : Nat) (a : ASDU) : List Deadline :=
  if (handleASDU cfg now p.self a p.client).1 then []
  else if a.typeId = C_CS_NA_1 ∧ p.con.timeSyncCommandSent ∧ a.cot = CS101_COT_ACTIVATION_CON ∧
      !a.isNegative then
    [⟨now, cfg.timeSyncPeriod, (p.con.timeSyncReply cfg now a).nextTimeSync⟩]
  else []

end

/-- The deadlines that a step computes. -/
def deadlines (cfg : IEC104ClientConfig) (p : Plugin) : Input → List Deadline
  | .conThread env => p.roundDeadlines cfg env
  | .asdu a now => p.replyDeadlines cfg now a
  | _ => []

end Plugin

/-! ## What a step computes -/

/-- The readings of the clock are below `2 ^ 62`. -/
def Input.ClockBelow : Input → Prop
  | .conThread env =>
    env.syncTime < 2 ^ 62 ∧ env.currentTime < 2 ^ 62 ∧ env.sentTime < 2 ^ 62
  | .asdu _ now => now < 2 ^ 62
  | _ => True

instance : ∀ i : Input, Decidable i.ClockBelow := by
  unfold Input.ClockBelow
  exact Input.decidable

/-- A deadline of the step: computed from a reading below `2 ^ 62`. -/
def Deadline.Proper (d : Deadline) : Prop := d.Computed ∧ d.time < 2 ^ 62

theorem Deadline.proper {time seconds value : Nat} (hvalue : value = addSeconds time seconds)
    (htime : time < 2 ^ 62) : Deadline.Proper ⟨time, seconds, value⟩ := ⟨hvalue, htime⟩

theorem forall_mem_ite {α : Type*} {P : α → Prop} {c : Prop} [Decidable c] {l : List α}
    (h : c → ∀ a ∈ l, P a) : ∀ a ∈ if c then l else [], P a := by
  split_ifs with hc
  · exact h hc
  · exact fun a ha => absurd ha List.not_mem_nil

namespace Plugin

variable {cfg : IEC104ClientConfig} {env : Env} {p : Plugin}

theorem startNewInterrogationCycle_nextGIStartTime :
    (p.startNewInterrogationCycle cfg env).con.nextGIStartTime =
      if p.broadcastSent cfg env then addSeconds env.sentTime cfg.giCycle
      else p.con.nextGIStartTime :=
  congrArg Connection.nextGIStartTime (startNewInterrogationCycle_con cfg env p)

theorem failGiRequest_nextGIStartTime :
    (p.failGiRequest cfg env).con.nextGIStartTime = addSeconds env.currentTime cfg.giCycle := by
  rw [failGiRequest_con]

theorem continueCycle_nextGIStartTime :
    (p.continueCycle cfg env).con.nextGIStartTime =
      if cfg.giAllCa && cfg.listOfCAs.length ≤ p.con.listOfCA_it then
        addSeconds env.currentTime cfg.giCycle
      else p.con.nextGIStartTime := by
  unfold continueCycle
  cases cfg.giAllCa with
  | false => rfl
  | true =>
    rcases Nat.lt_or_ge p.con.listOfCA_it cfg.listOfCAs.length with hlt | hge
    · simp [hlt, sendGiToCa_con]
    · simp [hge]

theorem timeSyncTasks_nextTimeSync :
    (p.timeSyncTasks cfg env).con.nextTimeSync =
      if p.con.timeSyncDue env.syncTime && p.con.timeSynchronized then
        addSeconds env.syncTime cfg.timeSyncPeriod
      else p.con.nextTimeSync := by
  unfold timeSyncTasks
  cases hdue : p.con.timeSyncDue env.syncTime <;> simp

theorem timeSyncDeadlines_proper (hsync : env.syncTime < 2 ^ 62) :
    ∀ d ∈ p.timeSyncDeadlines cfg env, d.Proper :=
  forall_mem_ite fun hdue => List.forall_mem_singleton.mpr
    (Deadline.proper (timeSyncTasks_nextTimeSync.trans (if_pos hdue)) hsync)

theorem startDeadlines_proper (hsent : env.sentTime < 2 ^ 62) :
    ∀ d ∈ p.startDeadlines cfg env, d.Proper :=
  forall_mem_ite fun hbroadcast => List.forall_mem_singleton.mpr
    (Deadline.proper (startNewInterrogationCycle_nextGIStartTime.trans (if_pos hbroadcast)) hsent)

theorem giDeadlines_proper (hcurrent : env.currentTime < 2 ^ 62) (hsent : env.sentTime < 2 ^ 62)
    (hrequest : p.con.interrogationRequestSent < 2 ^ 62) :
    ∀ d ∈ p.giDeadlines cfg env, d.Proper := by
  unfold giDeadlines
  split_ifs
  · exact startDeadlines_proper hsent
  · refine List.forall_mem_append.mpr ⟨?_, ?_⟩
    · exact forall_mem_ite fun _ => List.forall_mem_singleton.mpr (Deadline.proper rfl hrequest)
    · exact forall_mem_ite fun _ => List.forall_mem_singleton.mpr
        (Deadline.proper failGiRequest_nextGIStartTime hcurrent)
  · exact forall_mem_ite fun hend => List.forall_mem_singleton.mpr
      (Deadline.proper (continueCycle_nextGIStartTime.trans (if_pos hend)) hcurrent)
  · refine List.forall_mem_append.mpr ⟨?_, ?_⟩
    · exact forall_mem_ite fun _ => startDeadlines_proper hsent
    · exact forall_mem_ite fun _ => startDeadlines_proper hsent

theorem deadlines_proper {i : Input} (hclock : i.ClockBelow)
    (hrequest : p.con.interrogationRequestSent < 2 ^ 62) :
    ∀ d ∈ p.deadlines cfg i, d.Proper := by
  cases i with
  | conThread env =>
    obtain ⟨hsync, hcurrent, hsent⟩ := hclock
    have hbefore : (p.beforeGi cfg env).con.interrogationRequestSent < 2 ^ 62 := by
      obtain ⟨_, _, heq⟩ := p.beforeGi_eq cfg env
      rw [heq]
      exact hrequest
    refine forall_mem_ite fun _ => List.forall_mem_append.mpr ⟨?_, ?_⟩
    · exact forall_mem_ite fun _ => timeSyncDeadlines_proper hsync
    · exact forall_mem_ite fun _ => giDeadlines_proper hcurrent hsent hbefore
  | asdu a now =>
    show ∀ d ∈ p.replyDeadlines cfg now a, d.Proper
    unfold replyDeadlines
    split_ifs with hhandled hreply
    · exact fun d hd => absurd hd List.not_mem_nil
    · obtain ⟨-, hsent, hcot, hpositive⟩ := hreply
      refine List.forall_mem_singleton.mpr (Deadline.proper ?_ hclock)
      simp [Connection.timeSyncReply, hsent, hcot, hpositive]
    · exact fun d hd => absurd hd List.not_mem_nil
  | _ => exact fun d hd => absurd hd List.not_mem_nil

/-! ## What a step stores -/

/-- A variable keeps its value or gets that of one of the deadlines. -/
def Stores (deadlines : List Deadline) (old new : Nat) : Prop :=
  new = old ∨ ∃ d ∈ deadlines, new = d.value

theorem startNewInterrogationCycle_stores :
    Stores (p.startDeadlines cfg env) p.con.nextGIStartTime
      (p.startNewInterrogationCycle cfg env).con.nextGIStartTime := by
  unfold startDeadlines
  split_ifs with hbroadcast
  · exact .inr ⟨_, List.mem_singleton_self _, rfl⟩
  · exact .inl (startNewInterrogationCycle_nextGIStartTime.trans (if_neg hbroadcast))

/-- What is stored in two steps. -/
theorem Stores.append {l l' : List Deadline} {a b c : Nat} (h : Stores l a b)
    (h' : Stores l' b c) : Stores (l ++ l') a c := by
  rcases h' with rfl | ⟨d, hd, rfl⟩
  · rcases h with rfl | ⟨d, hd, rfl⟩
    · exact .inl rfl
    · exact .inr ⟨d, List.mem_append_left _ hd, rfl⟩
  · exact .inr ⟨d, List.mem_append_right _ hd, rfl⟩

theorem startCycleWhenDue_stores :
    Stores (p.whenDueDeadlines cfg env) p.con.nextGIStartTime
      (p.startCycleWhenDue cfg env).con.nextGIStartTime := by
  unfold startCycleWhenDue whenDueDeadlines
  by_cases hdue : 0 < cfg.giCycle ∧ p.con.nextGIStartTime < env.currentTime
  · rw [if_pos hdue, if_pos (by simp [hdue])]
    exact startNewInterrogationCycle_stores
  · rw [if_neg hdue]
    cases hend : p.con.endOfInitReceived with
    | false => exact .inl rfl
    | true =>
      rw [if_pos rfl, if_pos (Bool.or_true _)]
      exact startNewInterrogationCycle_stores

theorem startCycleOnRequest_stores :
    Stores (p.onRequestDeadlines cfg env) p.con.nextGIStartTime
      (p.startCycleOnRequest cfg env).con.nextGIStartTime := by
  unfold startCycleOnRequest onRequestDeadlines
  by_cases hrequest : p.client.giRequested p.self ∧
      (p.client.giStatus = .failed ∨ p.client.giStatus = .finished)
  · rw [if_pos hrequest, if_pos (by simpa using hrequest)]
    exact startNewInterrogationCycle_stores
  · rw [if_neg hrequest]
    exact .inl rfl

theorem giTasks_stores :
    Stores (p.giDeadlines cfg env) p.con.nextGIStartTime
      (p.giTasks cfg env).con.nextGIStartTime := by
  unfold giTasks giDeadlines
  split_ifs with hfirst hprogress hstate
  · exact startNewInterrogationCycle_stores
  · unfold checkGiTimeout timeoutDeadlines
    by_cases htimeout : p.giTimedOut cfg env
    · simp only [if_pos htimeout]
      generalize (p.failGiRequest cfg env).con.nextGIStartTime = value
      exact .inr ⟨_, List.mem_append_right _ (List.mem_singleton_self _), rfl⟩
    · simp only [if_neg htimeout]
      exact .inl rfl
  · unfold continueDeadlines
    split_ifs with hend
    · exact .inr ⟨_, List.mem_singleton_self _, rfl⟩
    · exact .inl (continueCycle_nextGIStartTime.trans (if_neg hend))
  · exact startCycleWhenDue_stores.append startCycleOnRequest_stores

/-- Every start time of a GI that a step stores is one of its deadlines. -/
theorem handle_nextGIStartTime (i : Input) :
    Stores (p.deadlines cfg i) p.con.nextGIStartTime (p.handle cfg i).con.nextGIStartTime := by
  have hother (hasdu : ∀ a now, i ≠ .asdu a now) (hround : ∀ env, i ≠ .conThread env) :
      (p.handle cfg i).con.nextGIStartTime = p.con.nextGIStartTime :=
    congrArg GiSchedule.nextGIStartTime (p.handle_giSchedule cfg hasdu hround).1
  cases i with
  | conThread env =>
    cases hrun : p.runsGiTasks cfg with
    | false =>
      exact .inl (congrArg GiSchedule.nextGIStartTime (conThread_giSchedule cfg env p hrun).1)
    | true =>
      have hactive := p.active_of_runsGiTasks hrun
      have hbefore : (p.beforeGi cfg env).con.nextGIStartTime = p.con.nextGIStartTime :=
        congrArg GiSchedule.nextGIStartTime (beforeGi_giSchedule cfg env p).1
      simp only [deadlines, roundDeadlines, handle, conThread_connectedActive cfg env p hactive,
        hrun, if_pos hactive, if_true]
      refine Stores.append (.inl rfl) ?_
      rw [← hbefore]
      exact giTasks_stores
  | asdu a now =>
    obtain ⟨_, hschedule, -⟩ := p.asduReceivedHandler_giSchedule cfg now a
    rw [received_giSchedule] at hschedule
    exact .inl (congrArg GiSchedule.nextGIStartTime hschedule)
  | _ => exact .inl (hother (by simp) (by simp))

theorem giTasks_nextTimeSync : (p.giTasks cfg env).con.nextTimeSync = p.con.nextTimeSync := by
  refine giTasks_rule cfg env p (P := fun q => q.con.nextTimeSync = p.con.nextTimeSync) rfl
    ?_ ?_ ?_ ?_ ?_
  · intro q hq _
    rw [startNewInterrogationCycle_con]
    exact hq
  · exact fun q hq => hq
  · exact fun _ _ _ _ => rfl
  · intro ca _ _ _ _ _
    rw [sendGiToCa_con]
  · exact fun _ _ _ _ => rfl

theorem timeSyncReply_nextTimeSync (now : Nat) (a : ASDU) (con : Connection) :
    (con.timeSyncReply cfg now a).nextTimeSync =
      if con.timeSyncCommandSent ∧ a.cot = CS101_COT_ACTIVATION_CON ∧ !a.isNegative then
        addSeconds now cfg.timeSyncPeriod
      else con.nextTimeSync := by
  unfold Connection.timeSyncReply
  by_cases hsent : con.timeSyncCommandSent
  · by_cases hcot : a.cot = CS101_COT_ACTIVATION_CON
    · cases a.isNegative <;> simp [hsent, hcot]
    · simp only [hsent, hcot, if_true, if_false, false_and, and_false]
      split_ifs <;> rfl
  · simp [hsent]

/-- Of the ASDUs a client does not handle, only an answer to a synchronisation stores a time. -/
theorem unhandledASDU_nextTimeSync (now : Nat) (a : ASDU) :
    (p.unhandledASDU cfg now a).2.con.nextTimeSync =
      if a.typeId = C_CS_NA_1 ∧ p.con.timeSyncCommandSent ∧ a.cot = CS101_COT_ACTIVATION_CON ∧
          !a.isNegative then
        addSeconds now cfg.timeSyncPeriod
      else p.con.nextTimeSync := by
  by_cases htype : a.typeId = C_CS_NA_1
  · simp only [unhandledASDU, htype, true_and]
    exact timeSyncReply_nextTimeSync now a p.con
  · rw [if_neg fun h => htype h.1]
    unfold unhandledASDU
    split
    · rfl
    · next hsync => exact absurd hsync htype
    · simp only [giReply, giConfirmed, giTerminated, giRejected]
      split_ifs <;> simp [Connection.disonnect]
    · rfl
    · rfl

theorem conThread_nextTimeSync :
    Stores (p.roundDeadlines cfg env) p.con.nextTimeSync
      (p.conThread cfg env).con.nextTimeSync := by
  by_cases hactive : p.con.connectionState = .connectedActive
  · have hround : (p.conThread cfg env).con.nextTimeSync =
        (p.beforeGi cfg env).con.nextTimeSync := by
      rw [conThread_connectedActive cfg env p hactive]
      split_ifs
      · exact giTasks_nextTimeSync
      · rfl
    have haudit : (p.sendConnectionStatusAudit .active).con.nextTimeSync =
        p.con.nextTimeSync := by
      rw [sendConnectionStatusAudit_eq]
    simp only [roundDeadlines, if_pos hactive, hround]
    rw [← haudit]
    refine Stores.append ?_ (.inl rfl)
    unfold beforeGi timeSyncDeadlines
    split_ifs with henabled hdue
    · exact .inr ⟨_, List.mem_singleton_self _, rfl⟩
    · exact .inl (timeSyncTasks_nextTimeSync.trans (if_neg hdue))
    · exact .inl rfl
  · have hlink := (p.conThread_inactive cfg env hactive).1
    exact .inl (congrArg (·.nextTimeSync) hlink)

theorem asduReceivedHandler_nextTimeSync (now : Nat) (a : ASDU) :
    Stores (p.replyDeadlines cfg now a) p.con.nextTimeSync
      (p.asduReceivedHandler cfg now a).2.con.nextTimeSync := by
  have hreceived : (p.received cfg now a).con.nextTimeSync = p.con.nextTimeSync := by
    rw [received_con]
  have hsent : (p.received cfg now a).con.timeSyncCommandSent = p.con.timeSyncCommandSent := by
    rw [received_con]
  simp only [replyDeadlines, asduReceivedHandler_eq]
  split_ifs with hhandled hreply
  · exact .inl hreceived
  · refine .inr ⟨_, List.mem_singleton_self _, ?_⟩
    dsimp only
    rw [unhandledASDU_nextTimeSync, hsent, timeSyncReply_nextTimeSync, if_pos hreply,
      if_pos hreply.2]
  · refine .inl ?_
    rw [unhandledASDU_nextTimeSync, hsent, if_neg hreply]
    exact hreceived

/-- Every time of a synchronisation that a step stores is one of its deadlines, or the time at
which the session was started. -/
theorem handle_nextTimeSync (i : Input) :
    Stores (p.deadlines cfg i) p.con.nextTimeSync (p.handle cfg i).con.nextTimeSync ∨
      ∃ now, i = .connectionEvent .startdtConReceived now := by
  have hother (htouch : i.touchesGi = false) :
      (p.handle cfg i).con.nextTimeSync = p.con.nextTimeSync := by
    have hlink := (handle_frame cfg p htouch).1
    exact congrArg (·.nextTimeSync) hlink
  cases i with
  | conThread env => exact .inl conThread_nextTimeSync
  | asdu a now => exact .inl (asduReceivedHandler_nextTimeSync now a)
  | connectionEvent event now =>
    cases event with
    | startdtConReceived => exact .inr ⟨now, rfl⟩
    | _ => exact .inl (.inl rfl)
  | _ => exact .inl (.inl (hother rfl))

/-- The time from which a timeout runs is a reading of the clock. -/
theorem handle_interrogationRequestSent {i : Input} (hclock : i.ClockBelow)
    (h : p.con.interrogationRequestSent < 2 ^ 62) :
    (p.handle cfg i).con.interrogationRequestSent < 2 ^ 62 := by
  have hother (hasdu : ∀ a now, i ≠ .asdu a now) (hround : ∀ env, i ≠ .conThread env) :
      (p.handle cfg i).con.interrogationRequestSent < 2 ^ 62 := by
    have hschedule := (p.handle_giSchedule cfg hasdu hround).1
    exact (congrArg GiSchedule.interrogationRequestSent hschedule).trans_lt h
  cases i with
  | conThread env =>
    cases hrun : p.runsGiTasks cfg with
    | false =>
      have hschedule := (conThread_giSchedule cfg env p hrun).1
      exact (congrArg GiSchedule.interrogationRequestSent hschedule).trans_lt h
    | true =>
      have hbeforeSent : (p.beforeGi cfg env).con.interrogationRequestSent < 2 ^ 62 := by
        have hbefore := (beforeGi_giSchedule cfg env p).1
        exact (congrArg GiSchedule.interrogationRequestSent hbefore).trans_lt h
      have hsent : env.sentTime < 2 ^ 62 := hclock.2.2
      simp only [handle, conThread_connectedActive cfg env p (p.active_of_runsGiTasks hrun), hrun,
        if_true]
      refine giTasks_rule cfg env _ (P := fun q => q.con.interrogationRequestSent < 2 ^ 62)
        hbeforeSent ?_ ?_ ?_ ?_ ?_
      · intro q hq _
        rw [startNewInterrogationCycle_con]
        dsimp only
        split_ifs
        · exact hsent
        · exact hq
      · exact fun q hq => hq
      · exact fun _ _ _ _ => hbeforeSent
      · intro ca _ _ _ _ _
        rw [sendGiToCa_con]
        dsimp only
        split_ifs
        · exact hsent
        · exact hbeforeSent
      · exact fun _ _ _ _ => hbeforeSent
  | asdu a now =>
    obtain ⟨_, hschedule, -⟩ := p.asduReceivedHandler_giSchedule cfg now a
    rw [received_giSchedule] at hschedule
    refine (congrArg GiSchedule.interrogationRequestSent hschedule).trans_lt ?_
    dsimp only
    split_ifs
    · exact hclock
    · exact h
  | _ => exact hother (by simp) (by simp)

end Plugin

/-! ## Runs -/

/-- In every run with readings of the clock below `2 ^ 62` the deadlines are the exact sums if and
only if none of the configured times they are computed from is above 2147483 s. -/
theorem deadlines_exact_iff (cfg : IEC104ClientConfig) (t : ExchangeTable) (self : ConId)
    (is : List Input)
    (hclock : Along (step cfg) (fun _ i => i.ClockBelow) (Plugin.init t self) is) :
    Along (step cfg) (fun p i => ∀ d ∈ p.deadlines cfg i, d.Exact) (Plugin.init t self) is ↔
      Along (step cfg) (fun p i => ∀ d ∈ p.deadlines cfg i, d.seconds ≤ maxSeconds)
        (Plugin.init t self) is := by
  -- the times that are added to stay below the bound
  have hboth : Along (step cfg)
        (fun p i => i.ClockBelow ∧ ∀ d ∈ p.deadlines cfg i, d.Exact) (Plugin.init t self) is ↔
      Along (step cfg) (fun p i => i.ClockBelow ∧ ∀ d ∈ p.deadlines cfg i, d.seconds ≤ maxSeconds)
        (Plugin.init t self) is := by
    refine along_congr_of_guarded (I := fun p => p.con.interrogationRequestSent < 2 ^ 62)
      (fun p i hp hi => Plugin.handle_interrogationRequestSent (p := p.clear) hi.1 hp)
      (fun p i hp => and_congr_right fun hi => ?_) (Nat.two_pow_pos 62)
    refine forall₂_congr fun d hd => ?_
    obtain ⟨hcomputed, htime⟩ := Plugin.deadlines_proper hi hp d hd
    exact hcomputed.exact_iff htime
  rw [along_and, along_and] at hboth
  exact ⟨fun h => (hboth.mp ⟨hclock, h⟩).2, fun h => (hboth.mpr ⟨hclock, h⟩).2⟩

/-- A GI every hour. -/
theorem deadlines_exact_hourly :
    Along (step { giCycle := 3600 })
      (fun p i => ∀ d ∈ p.deadlines { giCycle := 3600 } i, d.Exact) (Plugin.init .empty 0)
      firstRequest :=
  (deadlines_exact_iff { giCycle := 3600 } .empty 0 firstRequest (by decide)).mpr (by decide)

/-- A stack that asks for a GI every 2147484 s. -/
def longCycleStack : Json :=
  .object [("protocol_stack", .object
    [("transport_layer", .object []),
      ("application_layer", .object [("gi_cycle", .int 2147484)])])]

/-- A connection that becomes active, and sends a GI request at the given time. -/
def requestAt (sentTime : Nat) : List Input :=
  [.connect, .conThread { created := some 1 }, .connectionEvent .opened 0, .activate,
    .conThread { sentTime := sentTime }]

/-- The next GI is due 25 days before the request that was just sent. -/
theorem long_cycle_due_in_the_past :
    let c := importProtocolConfig (some longCycleStack) {}
    c.protocolConfigComplete ∧
      Along (step c.config) (fun _ i => i.ClockBelow) (Plugin.init .empty 0)
        (requestAt 3000000000) ∧
      ¬ Along (step c.config) (fun p i => ∀ d ∈ p.deadlines c.config i, d.Exact)
        (Plugin.init .empty 0) (requestAt 3000000000) := by
  decide

end Iec104South
