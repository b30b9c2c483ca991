import Iec104South.ClientMachine
import Iec104South.GiStatus

/-!
# A running GI

The GI status is kept in the client, and each connection keeps whether it has a cycle in
progress. `running_of_along`: while the status is STARTED or IN_PROGRESS some connection has a
cycle in progress, in every run of the client in which no cycle starts with a failed send to
the broadcast address while no request is pending. Such a start leaves the status STARTED and
nothing in progress: `failed_start_stays_started`.
-/

namespace Iec104South

open Reactive

/-- The connection has a request pending, or the next CA of a cycle to request. -/
def Connection.Busy (cfg : IEC104ClientConfig) (con : Connection) : Prop :=
  con.interrogationInProgress ∧
    (con.interrogationRequestState ≠ .idle ∨
      cfg.giAllCa ∧ cfg.listOfCAs[con.listOfCA_it]? ≠ none)

namespace Plugin

variable (cfg : IEC104ClientConfig) (env : Env) {p q : Plugin}

/-- On the way from `p` to `q` the connection keeps a running GI busy. -/
def KeepsRunning (p q : Plugin) : Prop :=
  q.giRunning → q.con.Busy cfg ∨ (p.giRunning ∧ ¬ p.con.Busy cfg)

theorem keepsRunning_of_busy (h : q.con.Busy cfg) : KeepsRunning cfg p q := fun _ => .inl h

theorem keepsRunning_of_status (h : q.giRunning = false) : KeepsRunning cfg p q := by
  intro hrunning
  rw [h] at hrunning
  cases hrunning

variable {cfg} in
theorem KeepsRunning.trans {r : Plugin} (h : KeepsRunning cfg p q) (h' : KeepsRunning cfg q r) :
    KeepsRunning cfg p r := by
  intro hrunning
  rcases h' hrunning with hbusy | ⟨hrunning', hidle⟩
  · exact .inl hbusy
  · exact .inr ((h hrunning').resolve_left hidle)

theorem giRunning_congr (h : q.client.giStatus = p.client.giStatus) :
    q.giRunning = p.giRunning := by
  rw [giRunning, h]
  rfl

/-- A step that keeps the status and what the connection has to do. -/
theorem keepsRunning_of_eq (hstatus : q.giRunning = p.giRunning)
    (hbusy : p.con.Busy cfg → q.con.Busy cfg) : KeepsRunning cfg p q := by
  intro hrunning
  by_cases h : q.con.Busy cfg
  · exact .inl h
  · exact .inr ⟨hstatus ▸ hrunning, fun hp => h (hbusy hp)⟩

theorem keepsRunning_of_giView (h : q.giView = p.giView) : KeepsRunning cfg p q := by
  obtain ⟨-, hprogress, hstate, hit, hstatus, -⟩ := giView_eq_iff.mp h
  refine keepsRunning_of_eq cfg (giRunning_congr hstatus) ?_
  rw [Connection.Busy, Connection.Busy, hprogress, hstate, hit]
  exact id

/-- The connection awaits the answer to a request. -/
def Pending (p : Plugin) : Prop :=
  p.con.interrogationInProgress ∧ p.con.interrogationRequestState ≠ .idle

/-- The start of a cycle that sends its request, or finds one pending, leaves one pending. -/
theorem startNewInterrogationCycle_busy (h : q.broadcastSent cfg env ∨ q.Pending) :
    (q.startNewInterrogationCycle cfg env).con.Busy cfg := by
  rcases h with hsent | ⟨hprogress, hstate⟩
  · have hsingle : cfg.giAllCa = false := by
      simp only [broadcastSent, Bool.and_eq_true, Bool.not_eq_true'] at hsent
      exact hsent.1
    refine ⟨?_, .inl ?_⟩
    · simp [startNewInterrogationCycle_con, hsingle, hsent]
    · simp [startNewInterrogationCycle_con, hsent]
  · refine ⟨?_, .inl ?_⟩
    · simp [startNewInterrogationCycle_con, hprogress]
    · rw [startNewInterrogationCycle_con]
      dsimp only
      split_ifs
      · simp
      · exact hstate

/-- With `gi_all_ca` the start of a cycle leaves a CA to request, or there is no CA. -/
theorem startNewInterrogationCycle_keepsRunning (hall : cfg.giAllCa) :
    KeepsRunning cfg q (q.startNewInterrogationCycle cfg env) := by
  cases hcas : cfg.listOfCAs with
  | nil =>
    refine keepsRunning_of_eq cfg (giRunning_congr ?_) ?_
    · simp [startNewInterrogationCycle_client, startedStatus, hall, hcas]
    · simp [Connection.Busy, startNewInterrogationCycle_con, broadcastSent, hall, hcas]
  | cons ca cas =>
    refine keepsRunning_of_busy cfg ⟨?_, .inr ⟨hall, ?_⟩⟩
    · simp [startNewInterrogationCycle_con, hall, hcas]
    · simp [startNewInterrogationCycle_con, hall, hcas]

theorem failGiRequest_keepsRunning : KeepsRunning cfg p (p.failGiRequest cfg env) :=
  keepsRunning_of_status cfg (by simp [giRunning, failGiRequest_client])

theorem sendGiToCa_keepsRunning (hprogress : p.con.interrogationInProgress) (ca : Int) :
    KeepsRunning cfg p (p.sendGiToCa cfg env ca) := by
  cases hsent : (p.con.sendInterrogationCommand ca env.giAccepted).1 with
  | true =>
    refine keepsRunning_of_busy cfg ⟨?_, .inl ?_⟩
    · simpa [sendGiToCa_con] using hprogress
    · simp [sendGiToCa_con, hsent]
  | false => exact keepsRunning_of_status cfg (by simp [giRunning, sendGiToCa_client, hsent])

/-- The end of a cycle: no request is pending and no CA is left. -/
theorem endOfCycle_keepsRunning (hidle : p.con.interrogationRequestState = .idle)
    (hnone : cfg.giAllCa → cfg.listOfCAs[p.con.listOfCA_it]? = none)
    (hq : q.client.giStatus = p.client.giStatus) : KeepsRunning cfg p q := by
  intro hrunning
  refine .inr ⟨giRunning_congr hq ▸ hrunning, ?_⟩
  rintro ⟨-, hpending | ⟨hall, hnext⟩⟩
  · exact hpending hidle
  · exact hnext (hnone hall)

/-- The GI part keeps a running GI busy when the cycle it starts, if any, can be sent. -/
theorem giTasks_keepsRunning (hrun : p.runsGiTasks cfg)
    (hsent : p.startsCycle cfg env → cfg.giAllCa ∨ p.broadcastSent cfg env ∨ p.Pending) :
    KeepsRunning cfg p (p.giTasks cfg env) := by
  cases hstarts : p.startsCycle cfg env with
  | true =>
    cases hall : cfg.giAllCa with
    | true =>
      have hrefl : KeepsRunning cfg p p := keepsRunning_of_eq cfg rfl id
      refine giTasks_rule cfg env p (P := KeepsRunning cfg p) hrefl ?_ (fun _ hq => hq) ?_ ?_ ?_
      · exact fun q hq _ => hq.trans (startNewInterrogationCycle_keepsRunning cfg env hall)
      · exact fun _ _ _ _ => failGiRequest_keepsRunning cfg env
      · exact fun ca _ _ hprogress _ _ => sendGiToCa_keepsRunning cfg env hprogress ca
      · exact fun _ hidle _ hnone => endOfCycle_keepsRunning cfg hidle hnone rfl
    | false =>
      obtain ⟨c, heq, -⟩ := p.giTasks_of_broadcast cfg env hall hstarts
      have hsent' : p.broadcastSent cfg env ∨ p.Pending := by simpa [hall] using hsent hstarts
      rw [heq]
      exact keepsRunning_of_busy cfg
        (startNewInterrogationCycle_busy cfg env (q := { p with client := c }) hsent')
  | false =>
    rw [giTasks_of_not_startsCycle cfg env p hrun hstarts]
    split_ifs with hprogress hstate
    · unfold checkGiTimeout
      split_ifs
      · exact failGiRequest_keepsRunning cfg env
      · exact keepsRunning_of_eq cfg rfl id
    · have hidle : p.con.interrogationRequestState = .idle := not_not.mp hstate
      unfold continueCycle
      split_ifs with hall
      · split
        · next ca _ => exact sendGiToCa_keepsRunning cfg env hprogress ca
        · next hnone => exact endOfCycle_keepsRunning cfg hidle (fun _ => hnone) rfl
      · exact endOfCycle_keepsRunning cfg hidle (fun h => absurd h hall) rfl
    · exact keepsRunning_of_eq cfg rfl id

theorem conThread_keepsRunning
    (hsent : p.startsCycle cfg env → cfg.giAllCa ∨ p.broadcastSent cfg env ∨ p.Pending) :
    KeepsRunning cfg p (p.conThread cfg env) := by
  rcases conThread_cases cfg env p with ⟨-, hview, -⟩ | ⟨hrun, hview, heq⟩
  · exact keepsRunning_of_giView cfg hview
  · obtain ⟨_, _, hbefore⟩ := p.beforeGi_eq cfg env
    rw [heq]
    refine (keepsRunning_of_giView cfg hview).trans (giTasks_keepsRunning cfg env ?_ ?_)
    · rw [hbefore]
      exact hrun
    · rw [hbefore]
      exact hsent

/-- A received ASDU ends a GI, or leaves its request pending. -/
theorem asduReceivedHandler_keepsRunning (hp : p.StoppedIdle) (now : Nat) (a : ASDU) :
    KeepsRunning cfg p (p.asduReceivedHandler cfg now a).2 := by
  have hreceived : KeepsRunning cfg p (p.received cfg now a) := by
    refine keepsRunning_of_eq cfg (received_giRunning cfg p now a) ?_
    simp only [Connection.Busy, received_con]
    exact id
  cases hreply : isGiReply a with
  | true =>
    rw [asduReceivedHandler_giReply cfg p now hreply]
    refine hreceived.trans ?_
    simp only [giReply, giConfirmed, giTerminated, giRejected]
    split_ifs with hcon hstate hneg hterm hstate hrunning hrunning
    · exact keepsRunning_of_status cfg (by simp [giRunning])
    · have hprogress : (p.received cfg now a).con.interrogationInProgress := by
        by_contra hstop
        have hidle := hp (by simpa [received_con] using hstop)
        simp [received_con, hidle] at hstate
      exact keepsRunning_of_busy cfg ⟨hprogress, .inl (by simp)⟩
    · exact keepsRunning_of_eq cfg rfl id
    · exact keepsRunning_of_status cfg (by simp [giRunning])
    · exact keepsRunning_of_status cfg (Bool.eq_false_iff.mpr hrunning)
    · exact keepsRunning_of_eq cfg rfl id
    · exact keepsRunning_of_status cfg (by simp [giRunning])
    · exact keepsRunning_of_eq cfg rfl id
  | false =>
    obtain ⟨con', heq, hcon⟩ := asduReceivedHandler_other cfg p now hreply
    refine hreceived.trans (keepsRunning_of_eq cfg ?_ ?_)
    · rw [heq]
      rfl
    · rw [heq]
      rcases hcon with rfl | rfl | ⟨-, -, rfl⟩
      · exact id
      · exact id
      · simp only [Connection.timeSyncReply]
        split_ifs <;> exact id

/-- A step of a connection keeps a running GI busy, except for the start of a cycle whose send
to the broadcast address fails. -/
theorem handle_keepsRunning (hp : p.StoppedIdle) (i : Input)
    (hsent : ∀ env, i = .conThread env → p.startsCycle cfg env →
      cfg.giAllCa ∨ p.broadcastSent cfg env ∨ p.Pending) :
    KeepsRunning cfg p (p.handle cfg i) := by
  cases htouch : i.touchesGi with
  | false => exact keepsRunning_of_giView cfg (handle_giView cfg p htouch)
  | true =>
    cases i with
    | connectionEvent event now =>
      cases event with
      | _ => exact keepsRunning_of_eq cfg rfl id
    | asdu a now => exact asduReceivedHandler_keepsRunning cfg hp now a
    | conThread env => exact conThread_keepsRunning cfg env (hsent env rfl)
    | _ => cases htouch

end Plugin

/-! ## The client -/

/-- While the status is STARTED or IN_PROGRESS, some connection has a cycle in progress. -/
def GiRunningReal (s : System) : Prop :=
  s.client.giStatus = .started ∨ s.client.giStatus = .inProgress →
    ∃ con ∈ s.connections, (s.cons con).interrogationInProgress

instance (s : System) : Decidable (GiRunningReal s) := by
  unfold GiRunningReal
  infer_instance

/-- A round that starts a cycle without `gi_all_ca` has its request accepted, unless this or
another connection awaits the answer to an earlier request. -/
def StartsSent (cfg : IEC104ClientConfig) (s : System) : ClientInput → Prop
  | .conThread con env =>
    con ∈ s.connections → (s.plugin con).startsCycle cfg env → cfg.giAllCa = false →
      ((s.cons con).connection.isSome ∧ env.giAccepted) ∨
        ∃ other ∈ s.connections, (s.plugin other).Pending
  | _ => True

instance (p : Plugin) : Decidable p.Pending := by
  unfold Plugin.Pending
  infer_instance

instance (cfg : IEC104ClientConfig) (s : System) : ∀ i, Decidable (StartsSent cfg s i) := by
  unfold StartsSent
  exact ClientInput.decidable

/-- What holds between the steps of the client. -/
structure RunningInv (cfg : IEC104ClientConfig) (s : System) : Prop where
  stopped : ∀ con, (s.plugin con).StoppedIdle
  busy : s.client.giStatus = .started ∨ s.client.giStatus = .inProgress →
    ∃ con ∈ s.connections, (s.cons con).Busy cfg

namespace RunningInv

variable {cfg : IEC104ClientConfig} {redGroup : ConId → RedGroupCon} {s : System}
  {i : ClientInput}

theorem giRunning_iff {p : Plugin} :
    p.giRunning ↔ p.client.giStatus = .started ∨ p.client.giStatus = .inProgress := by
  simp [Plugin.giRunning]

/-- A step that leaves the connections and the status alone. -/
theorem congr {c : Client} (hs : RunningInv cfg s) (h : c.giStatus = s.client.giStatus) :
    RunningInv cfg { s with client := c } where
  stopped := hs.stopped
  busy := by
    rw [h]
    exact hs.busy

/-- A step that changes the set-up of connections only. -/
theorem setUp {s' : System} (hs : RunningInv cfg s)
    (hstatus : s'.client.giStatus = s.client.giStatus)
    (hconnections : s'.connections = s.connections)
    (hcons : ∀ con, (s'.cons con).interrogationInProgress = (s.cons con).interrogationInProgress ∧
      (s'.cons con).interrogationRequestState = (s.cons con).interrogationRequestState ∧
      (s'.cons con).listOfCA_it = (s.cons con).listOfCA_it) : RunningInv cfg s' where
  stopped := by
    intro con hstop
    obtain ⟨hprogress, hstate, -⟩ := hcons con
    exact hstate.trans (hs.stopped con (hprogress.symm.trans hstop))
  busy := by
    rw [hstatus, hconnections]
    intro hrunning
    obtain ⟨con, hmem, hbusy⟩ := hs.busy hrunning
    obtain ⟨hprogress, hstate, hit⟩ := hcons con
    refine ⟨con, hmem, ?_⟩
    rw [Connection.Busy, hprogress, hstate, hit]
    exact hbusy

theorem monitoringThread (hs : RunningInv cfg s) (timeInMs monotonicTimeInMs : Nat) :
    RunningInv cfg (s.monitoringThread cfg redGroup timeInMs monotonicTimeInMs) := by
  refine hs.setUp (monitoringThread_giStatus cfg redGroup s _ _)
    (monitoringThread_connections cfg redGroup s _ _) fun con => ?_
  cases monitoringThread_cases cfg redGroup s timeInMs monotonicTimeInMs with
  | activates active _ hcons =>
    rw [hcons]
    rcases eq_or_ne con active with rfl | hne
    · rw [Function.update_self]
      unfold Connection.activate
      split_ifs <;> exact ⟨rfl, rfl, rfl⟩
    · rw [Function.update_of_ne hne]
      exact ⟨rfl, rfl, rfl⟩
  | waits _ _ hcons =>
    rcases hcons con with h | h <;> rw [h] <;> exact ⟨rfl, rfl, rfl⟩
  | loses _ _ _ hcons =>
    rw [hcons]
    exact ⟨rfl, rfl, rfl⟩
  | keeps _ _ _ hcons =>
    rcases hcons con with h | ⟨-, -, h⟩ <;> rw [h] <;> exact ⟨rfl, rfl, rfl⟩

/-- A step of one connection: what is busy elsewhere stays busy. -/
theorem connectionStep (hs : RunningInv cfg s) (con : ConId) (j : Input)
    (hsent : ∀ env, j = .conThread env → con ∈ s.connections →
      (s.plugin con).startsCycle cfg env →
      cfg.giAllCa ∨ (s.plugin con).broadcastSent cfg env ∨
        ∃ other ∈ s.connections, (s.plugin other).Pending) :
    RunningInv cfg (s.connectionStep cfg con j) := by
  unfold System.connectionStep
  split_ifs with hmem
  · refine ⟨fun other => ?_, fun hrunning => ?_⟩
    · rcases eq_or_ne other con with rfl | hne
      · have h := (hs.stopped other).handle cfg j
        simpa [System.onConnection, System.plugin, Plugin.StoppedIdle] using h
      · simpa [System.onConnection, System.plugin, Plugin.StoppedIdle, hne] using
          hs.stopped other
    · by_cases helsewhere : ∃ other ∈ s.connections, other ≠ con ∧ (s.cons other).Busy cfg
      · obtain ⟨other, hother, hne, hbusy⟩ := helsewhere
        exact ⟨other, hother, by simpa [System.onConnection, hne] using hbusy⟩
      · have hkeeps := Plugin.handle_keepsRunning cfg (hs.stopped con) j fun env hj hstarts => by
          refine (hsent env hj hmem hstarts).imp id (Or.imp id ?_)
          rintro ⟨other, hother, hpending⟩
          by_contra hidle
          have hne : other ≠ con := fun h => hidle (h ▸ hpending)
          exact helsewhere ⟨other, hother, hne, hpending.1, .inl hpending.2⟩
        refine ⟨con, hmem, ?_⟩
        rcases hkeeps (giRunning_iff.mpr hrunning) with hbusy | ⟨hbefore, hidle⟩
        · simpa [System.onConnection] using hbusy
        · obtain ⟨other, hother, hbusy⟩ := hs.busy (giRunning_iff.mp hbefore)
          have hsame : other = con := by
            by_contra hne
            exact helsewhere ⟨other, hother, hne, hbusy⟩
          exact absurd (hsame ▸ hbusy) hidle
  · exact hs

theorem step (hs : RunningInv cfg s) (hi : StartsSent cfg s i) :
    RunningInv cfg (clientStep cfg redGroup s i).1 := by
  have hclear : RunningInv cfg s.clear := hs.congr rfl
  show RunningInv cfg (s.clear.handle cfg redGroup i)
  cases hnorth : i.isNorth with
  | true =>
    obtain ⟨hcons, hstatus, -⟩ := handle_north cfg redGroup s.clear hnorth
    refine hclear.setUp hstatus (handle_connections cfg redGroup s.clear i) fun con => ?_
    rw [hcons]
    exact ⟨rfl, rfl, rfl⟩
  | false =>
    cases i with
    | monitoringThread => exact hclear.monitoringThread _ _
    | conThread con env =>
      refine hclear.connectionStep con _ fun env' henv hmem hstarts => ?_
      cases henv
      cases hall : cfg.giAllCa with
      | true => exact .inl rfl
      | false =>
        refine .inr ((hi hmem hstarts hall).imp (fun ⟨hhandle, haccepted⟩ => ?_) id)
        have hactive : (s.cons con).connectionState = .connectedActive :=
          Plugin.active_of_runsGiTasks _ (Plugin.runsGiTasks_of_startsCycle hstarts)
        show (!cfg.giAllCa &&
          ((s.cons con).sendInterrogationCommand cfg.broadcastCA env.giAccepted).1) = true
        rw [Plugin.sendInterrogationCommand_fst, hall, hhandle, hactive, haccepted]
        rfl
    | connectionEvent | asdu | conThreadDisconnect =>
      exact hclear.connectionStep _ _ fun _ h => by cases h
    | _ => cases hnorth

theorem started (cfg : IEC104ClientConfig) (redGroup : ConId → RedGroupCon) (t : ExchangeTable)
    (connections : List ConId) (timeInMs : Nat) :
    RunningInv cfg (System.started cfg redGroup t connections timeInMs) where
  stopped := by
    intro con _
    show Connection.interrogationRequestState (if con ∈ connections then _ else _) = .idle
    split_ifs <;> rfl
  busy := by
    intro hrunning
    simp [System.started, System.monitoringThreadStart, System.init,
      Client.updateQualityForAllDataObjects, Client.sendQualityUpdates_eq] at hrunning

end RunningInv

/-- In every run of the client in which each start of a cycle without `gi_all_ca` has its request
accepted, or finds a request pending, some connection has a cycle in progress whenever the GI
status is STARTED or IN_PROGRESS. -/
theorem running_of_along (cfg : IEC104ClientConfig) (redGroup : ConId → RedGroupCon)
    (t : ExchangeTable) (connections : List ConId) (timeInMs : Nat) (is : List ClientInput)
    (h : Along (clientStep cfg redGroup) (StartsSent cfg)
      (System.started cfg redGroup t connections timeInMs) is) :
    Always (clientStep cfg redGroup) GiRunningReal
      (System.started cfg redGroup t connections timeInMs) is := by
  refine always_of_along (fun _ _ hs hi => RunningInv.step hs hi) (fun s hs hrunning => ?_)
    (RunningInv.started cfg redGroup t connections timeInMs) h
  obtain ⟨con, hmem, hbusy⟩ := hs.busy hrunning
  exact ⟨con, hmem, hbusy.1⟩

/-- The request of the first GI is accepted and answered. -/
theorem running_first_gi :
    Always (clientStep {} fun _ => {}) GiRunningReal (System.started {} (fun _ => {}) .empty [0] 0)
      [.conThread 0 { created := some 1 }, .connectionEvent 0 .opened 0, .monitoringThread 0 0,
        .connectionEvent 0 .startdtConReceived 0, .conThread 0 {},
        .asdu 0 (interrogationReply CS101_COT_ACTIVATION_CON 1 false) 0] :=
  running_of_along {} (fun _ => {}) .empty [0] 0 _ (by decide)

/-- The send of the first GI fails, and the status stays STARTED. -/
theorem failed_start_stays_started :
    ¬ Always (clientStep {} fun _ => {}) GiRunningReal
      (System.started {} (fun _ => {}) .empty [0] 0)
      [.conThread 0 { created := some 1 }, .connectionEvent 0 .opened 0, .monitoringThread 0 0,
        .connectionEvent 0 .startdtConReceived 0, .conThread 0 { giAccepted := false }] := by
  decide

end Iec104South
