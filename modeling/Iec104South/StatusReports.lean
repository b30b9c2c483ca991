import Iec104South.NonTopicalBurst
import Iec104South.Publishing

/-!
# The reports of the statuses

* `trace_learn`: with a signal for them, the south events keep their reader up to date: one that
  starts with the statuses of the client, and one that knew nothing before a request for them.
* `reported_status_right`: so the reader knows whether a connection is active, up to the round after
  its loss, and no operation reaches lib60870 while it knows of none.
* `clientAudits_destutter`: the audits of the client are the statuses that the rounds of the
  monitoring thread set, without repetitions.
-/

namespace Iec104South

open Reactive Change

section

variable (cfg : IEC104ClientConfig) (redGroup : ConId → RedGroupCon)

/-- What a step publishes tells a reader who is up to date how the statuses change. -/
theorem clientStep_learn (hsignal : cfg.connxStatus.isEmpty = false) (s : System)
    (i : ClientInput) :
    (clientStep cfg redGroup s i).2.foldl Statuses.learn s.client.statuses =
      (clientStep cfg redGroup s i).1.client.statuses := by
  obtain ⟨-, -, events, hout, -, -, -, -, hlearn⟩ := handle_publishes cfg redGroup s.clear i
  have hemitted : (clientStep cfg redGroup s i).2 = events := hout
  rw [hemitted]
  exact hlearn hsignal

theorem run_learn (hsignal : cfg.connxStatus.isEmpty = false) (s : System)
    (is : List ClientInput) :
    (trace (clientStep cfg redGroup) s is).foldl Statuses.learn s.client.statuses =
      (run (clientStep cfg redGroup) s is).client.statuses := by
  induction is generalizing s with
  | nil => rfl
  | cons i is ih =>
    rw [trace, List.foldl_append, clientStep_learn cfg redGroup hsignal]
    exact ih _

/-- A request for the statuses tells them to any reader. -/
theorem sendConnectionStatus_learn (hsignal : cfg.connxStatus.isEmpty = false) (s : System)
    (known : Statuses) :
    (clientStep cfg redGroup s .sendConnectionStatus).2.foldl Statuses.learn known =
      (clientStep cfg redGroup s .sendConnectionStatus).1.client.statuses := by
  simp [clientStep, System.handle, System.clear, Client.sendConnectionStatus,
    Client.sendSouthMonitoringEvent, hsignal, Client.emit, Statuses.learn, Client.statuses]

/-- In every run with a signal for the statuses: who knows the first ones knows them at the end,
and so does everybody once they have been requested. South events come on the signal only. -/
theorem trace_learn (s : System) (is : List ClientInput) :
    (∀ e ∈ trace (clientStep cfg redGroup) s is, e.IsSignalled cfg) ∧
      (cfg.connxStatus.isEmpty = false →
        (trace (clientStep cfg redGroup) s is).foldl Statuses.learn s.client.statuses =
            (run (clientStep cfg redGroup) s is).client.statuses ∧
          (.sendConnectionStatus ∈ is → ∀ known : Statuses,
            (trace (clientStep cfg redGroup) s is).foldl Statuses.learn known =
              (run (clientStep cfg redGroup) s is).client.statuses)) := by
  refine ⟨?_, fun hsignal => ⟨run_learn cfg redGroup hsignal s is, fun hrequest known => ?_⟩⟩
  · induction is generalizing s with
    | nil => exact fun _ he => by cases he
    | cons i is ih =>
      obtain ⟨-, -, events, hout, -, -, hsignalled, -, -⟩ := handle_publishes cfg redGroup s.clear i
      have hemitted : (clientStep cfg redGroup s i).2 = events := hout
      exact List.forall_mem_append.mpr ⟨hemitted ▸ hsignalled, ih _⟩
  · obtain ⟨before, after, rfl⟩ := List.append_of_mem hrequest
    -- whatever was known before, the request corrects it
    rw [trace_append, trace, List.foldl_append, List.foldl_append,
      sendConnectionStatus_learn cfg redGroup hsignal, run_learn cfg redGroup hsignal, run_append]
    rfl

/-- A connection is activated before the statuses are requested. -/
theorem trace_learn_requested :
    let cfg : IEC104ClientConfig := { connxStatus := "CONSTAT" }
    let start := System.started cfg (fun _ => {}) .empty [0] 0
    let is : List ClientInput :=
      [.connectionEvent 0 .opened 0, .monitoringThread 0 0, .sendConnectionStatus]
    (trace (clientStep cfg fun _ => {}) start is).foldl Statuses.learn ⟨.notConnected, .failed⟩ =
      (run (clientStep cfg fun _ => {}) start is).client.statuses :=
  ((trace_learn _ _ _ _).2 (by decide)).2 (by decide) _

/-! ## The connection status and the active connection -/

/-- What the reader knows, and whether the last round of the monitoring thread has dropped the
active connection. -/
structure StatusWatch where
  known : Statuses
  lost : Bool := false
deriving DecidableEq, Repr

def noteStatus (w : StatusWatch) (s : System) (i : ClientInput) (out : List Effect) :
    StatusWatch where
  known := out.foldl Statuses.learn w.known
  lost :=
    match i with
    | .monitoringThread .. => s.client.activeConnection.any fun con => !(s.cons con).isConnected
    | _ => w.lost

/-- The status is kept for a connection that is active, or was before the last round. -/
def StatusRight (s : System) (lost : Bool) : Prop :=
  s.client.connStatus = .started ↔ s.client.activeConnection.isSome ∨ lost

/-- A round sets the status if no connection is active, and drops the active connection if it is
lost. -/
theorem StatusRight.monitoringThread {s : System} {lost : Bool} (h : StatusRight s lost)
    (timeInMs now : Nat) :
    StatusRight (s.monitoringThread cfg redGroup timeInMs now)
      (s.client.activeConnection.any fun con => !(s.cons con).isConnected) := by
  have hstatus := (publishes_monitoringThread cfg redGroup s timeInMs now).connStatus
  rw [getLastD_changes] at hstatus
  unfold StatusRight at h ⊢
  rw [hstatus]
  cases monitoringThread_cases cfg redGroup s timeInMs now with
  | activates con hactivates hcons hactive hout =>
    simp [System.verdict, (System.activates_eq_some s hactivates).1, hactivates, hactive]
  | waits hnone hactivates hcons hactive =>
    simp [System.verdict, hnone, hactivates, hactive]
  | loses con hbefore hlost hcons hactive =>
    rw [hbefore] at h ⊢
    simp [System.verdict, hbefore, hactive, h, Connection.isConnected, hlost]
  | keeps con hbefore hconnected hcons hactive =>
    rw [hbefore] at h ⊢
    simp [System.verdict, hbefore, hactive, h]

/-- The other steps change neither the status nor the active connection. -/
theorem StatusRight.step {s : System} {w : StatusWatch} (h : StatusRight s w.lost)
    (i : ClientInput) (out : List Effect) :
    StatusRight (clientStep cfg redGroup s i).1 (noteStatus w s i out).lost := by
  by_cases hround : ∃ timeInMs now, i = .monitoringThread timeInMs now
  · obtain ⟨timeInMs, now, rfl⟩ := hround
    exact StatusRight.monitoringThread cfg redGroup (s := s.clear) h timeInMs now
  · have hi : ∀ timeInMs now, i ≠ .monitoringThread timeInMs now :=
      fun timeInMs now heq => hround ⟨timeInMs, now, heq⟩
    have hstatuses : connectionStatuses s.clear i = [] := by
      unfold connectionStatuses
      split
      · exact absurd rfl (hi _ _)
      · rfl
    have hlost : (noteStatus w s i out).lost = w.lost := by
      unfold noteStatus
      split
      · exact absurd rfl (hi _ _)
      · rfl
    have hconn := (handle_publishes cfg redGroup s.clear i).connStatus
    rw [hstatuses, changes] at hconn
    show StatusRight (s.clear.handle cfg redGroup i) _
    rw [StatusRight, hlost, hconn, (handle_monitor cfg redGroup s.clear hi).2]
    exact h

/-- Without an active connection the operations of the north side call no function of lib60870. -/
theorem reports_of_isNorth {s : System} (hnone : s.client.activeConnection = none)
    {i : ClientInput} (hi : i.isNorth) : Reports (clientStep cfg redGroup s i).2 := by
  cases i with
  | checkOutstandingCommandTimeouts currentTime =>
    show Reports (s.clear.client.checkOutstandingCommandTimeouts cfg currentTime).out
    unfold Client.checkOutstandingCommandTimeouts
    exact List.foldlRecOn (motive := fun c : Client => Reports c.out) _ _ (fun _ he => by cases he)
      fun _ hc _ _ => hc
  | sendCommand op now accepted =>
    show Reports (s.clear.client.sendCommand cfg s.cons op now accepted).2.out
    have hnone' : ((s.clear.client.touch op.ca op.ioa).withBooked op now).activeConnection = none :=
      hnone
    rw [sendCommand_eq, Client.transmitCommand, hnone']
    split_ifs <;> exact fun _ he => by cases he
  | sendInterrogationCommand ca accepted =>
    have hnone' : s.clear.client.activeConnection = none := hnone
    show Reports (s.clear.sendInterrogationCommand cfg ca accepted).client.out
    rw [System.sendInterrogationCommand, hnone']
    exact fun _ he => by cases he
  | scheduleGI =>
    show Reports (requestGi s.clear.client).out
    rw [(Client.Frame.requestGi s.clear.client).out]
    exact fun _ he => by cases he
  | sendConnectionStatus =>
    show Reports (s.clear.client.sendConnectionStatus cfg).out
    unfold Client.sendConnectionStatus Client.sendSouthMonitoringEvent
    split_ifs <;> simp [Reports, Client.emit, Effect.isReport, System.clear]
  | _ => cases hi

/-- With a signal for the statuses, in every run of a started client, whatever the threads and the
station do: the reader knows `started` while a connection is active and until the round after the
one that has dropped it, and operations of the north side reach lib60870 only meanwhile. -/
theorem reported_status_right (hsignal : cfg.connxStatus.isEmpty = false) (t : ExchangeTable)
    (connections : List ConId) (timeInMs : Nat) (is : List ClientInput) :
    let start := System.started cfg redGroup t connections timeInMs
    let m := watch (clientStep cfg redGroup) noteStatus
    Always m (fun s => s.2.known.connStatus = .started ↔
        s.1.client.activeConnection.isSome ∨ s.2.lost) (start, { known := start.client.statuses })
        is ∧
      Along m (fun s i => i.isNorth → s.2.known.connStatus = .notConnected →
        Reports (clientStep cfg redGroup s.1 i).2) (start, { known := start.client.statuses })
        is := by
  intro start m
  let Inv (s : System × StatusWatch) : Prop :=
    s.2.known = s.1.client.statuses ∧ StatusRight s.1 s.2.lost
  have hstep (s : System × StatusWatch) (i : ClientInput) (hs : Inv s) : Inv (m s i).1 := by
    refine ⟨?_, hs.2.step cfg redGroup i _⟩
    show (clientStep cfg redGroup s.1 i).2.foldl Statuses.learn s.2.known = _
    rw [hs.1]
    exact clientStep_learn cfg redGroup hsignal s.1 i
  have hright (s : System × StatusWatch) (hs : Inv s) :
      s.2.known.connStatus = .started ↔ s.1.client.activeConnection.isSome ∨ s.2.lost := by
    rw [hs.1]
    exact hs.2
  have hinit : Inv (start, { known := start.client.statuses }) := by
    refine ⟨rfl, ?_⟩
    simp [StatusRight, start, System.started, System.monitoringThreadStart, System.init,
      Client.updateQualityForAllDataObjects, Client.sendQualityUpdates_eq,
      Client.updateConnectionStatus_eq]
  refine ⟨always_of_invariant hstep hright hinit,
    along_of_forall_step hstep (fun s i hs hi hunknown => ?_) hinit⟩
  refine reports_of_isNorth cfg redGroup ?_ hi
  by_contra hactive
  have hstarted := (hright s hs).mpr (.inl (Option.isSome_iff_ne_none.mpr hactive))
  cases hunknown.symm.trans hstarted

/-- After a loss the status is corrected by the second round. -/
theorem reported_status_right_lost :
    let cfg : IEC104ClientConfig := { connxStatus := "CONSTAT" }
    let start := System.started cfg (fun _ => {}) .empty [0] 0
    let m := watch (clientStep cfg fun _ => {}) noteStatus
    let lost : List ClientInput :=
      [.conThread 0 { created := some 1 }, .connectionEvent 0 .opened 0, .monitoringThread 0 0,
        .connectionEvent 0 .closed 100, .monitoringThread 100 100]
    (run m (start, { known := start.client.statuses }) lost).2 = ⟨⟨.started, .idle⟩, true⟩ ∧
      (run m (start, { known := start.client.statuses })
        (lost ++ [.monitoringThread 200 200])).2 = ⟨⟨.notConnected, .idle⟩, false⟩ ∧
      Always m (fun s => s.2.known.connStatus = .started ↔
          s.1.client.activeConnection.isSome ∨ s.2.lost)
        (start, { known := start.client.statuses }) (lost ++ [.monitoringThread 200 200]) :=
  ⟨by decide, by decide, (reported_status_right _ _ (by decide) .empty [0] 0 _).1⟩

/-- A round of the monitoring thread audits a status that is new. -/
theorem clientStep_serves (s : System) (i : ClientInput) :
    Serves (clientStep cfg redGroup) (·.client.connStatus) Effect.clientAudit? connectionStatuses
      s i := by
  obtain ⟨-, hconn, events, hout, -, haudits, -, -, -⟩ := handle_publishes cfg redGroup s.clear i
  have hemitted : (clientStep cfg redGroup s i).2 = events := hout
  have hstatuses : connectionStatuses s.clear i = connectionStatuses s i := by cases i <;> rfl
  refine ⟨?_, ?_⟩
  · rw [hemitted, haudits, hstatuses]
    rfl
  · refine hconn.trans ?_
    rw [getLastD_changes, hstatuses]
    rfl

/-- In every run of a started client the audits, after the first status, are the statuses that
the rounds of the monitoring thread set, without repetitions; the last of them is the status. -/
theorem clientAudits_destutter (t : ExchangeTable) (connections : List ConId) (timeInMs : Nat)
    (is : List ClientInput) :
    let start := System.started cfg redGroup t connections timeInMs
    let audits := (trace (clientStep cfg redGroup) start is).filterMap Effect.clientAudit?
    .notConnected :: audits =
        (trace (asking (clientStep cfg redGroup) connectionStatuses) start is).destutter' (· ≠ ·)
          .notConnected ∧
      (run (clientStep cfg redGroup) start is).client.connStatus =
        audits.getLastD .notConnected := by
  intro start audits
  have hstart : start.client.connStatus = .notConnected := by
    simp [start, System.started, System.monitoringThreadStart, System.init,
      Client.updateQualityForAllDataObjects, Client.sendQualityUpdates_eq,
      Client.updateConnectionStatus_eq]
  have hserves : Along (clientStep cfg redGroup) (Serves (clientStep cfg redGroup)
      (·.client.connStatus) Effect.clientAudit? connectionStatuses) start is :=
    along_of_forall_step (I := fun _ => True) (fun _ _ _ => trivial)
      (fun s i _ => clientStep_serves cfg redGroup s i) trivial
  obtain ⟨haudits, hlast⟩ := run_serves hserves
  rw [hstart] at haudits hlast
  refine ⟨?_, ?_⟩
  · rw [← cons_changes, ← haudits]
  · rw [hlast, show audits = _ from haudits, getLastD_changes]

end

end Iec104South
