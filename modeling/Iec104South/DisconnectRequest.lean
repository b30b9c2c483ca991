import Iec104South.ClientMachine

/-!
# Disconnect requests

A disconnect request is a flag that the connection thread serves later. `fresh_request_of_along`:
the connection thread serves a request for the active connection only if it was issued after the
connection became the active one, in every run in which the monitoring thread activates no
connection whose disconnection is still requested. `Activate` does not cancel a request as
`Connect` does, so the condition is needed: `old_request_drops_active_connection`.
-/

namespace Iec104South

open Reactive

/-- Whether the active connection was asked to disconnect since it became the active one. -/
abbrev RequestWatch := Bool

/-- The active connection of the client receives an ASDU that makes it disconnect. -/
def System.requestsDisonnect (s : System) (con : ConId) (a : ASDU) : Bool :=
  con ∈ s.connections && s.client.activeConnection == some con && (s.plugin con).rejectsGi a

def noteDisconnectRequest (w : RequestWatch) (s : System) (i : ClientInput) (_ : List Effect) :
    RequestWatch :=
  match i with
  | .monitoringThread _ _ => w && s.activates.isNone
  | .asdu con a _ => w || s.requestsDisonnect con a
  | _ => w

/-- The connection thread serves no disconnect request for the active connection but one that
was issued since it became the active one. -/
def FreshRequest (s : System × RequestWatch) : ClientInput → Prop
  | .conThreadDisconnect con =>
    (s.1.cons con).disconnect → s.1.client.activeConnection = some con → s.2
  | _ => True

/-- The connection that the monitoring thread activates is not asked to disconnect. -/
def NoRequestAtActivation (s : System × RequestWatch) : ClientInput → Prop
  | .monitoringThread _ _ => ∀ con, s.1.activates = some con → (s.1.cons con).disconnect = false
  | _ => True

instance (s : System × RequestWatch) : ∀ i, Decidable (FreshRequest s i) := by
  unfold FreshRequest
  exact ClientInput.decidable

instance (s : System × RequestWatch) : ∀ i, Decidable (NoRequestAtActivation s i) := by
  unfold NoRequestAtActivation
  exact ClientInput.decidable

/-- A pending request for the active connection was issued since it is the active one. -/
def RequestInv (s : System × RequestWatch) : Prop :=
  ∀ con, s.1.client.activeConnection = some con → (s.1.cons con).disconnect → s.2

namespace RequestInv

variable {cfg : IEC104ClientConfig} {redGroup : ConId → RedGroupCon} {s : System}
  {w v : RequestWatch} {i : ClientInput}

/-- A step of one connection that issues no request, or whose request is noted. -/
theorem connectionStep (hs : RequestInv (s, w)) {con : ConId} {j : Input} (hw : w → v)
    (hactive : ((s.plugin con).handle cfg j).client.activeConnection =
      s.client.activeConnection)
    (hrequest : con ∈ s.connections → s.client.activeConnection = some con →
      ((s.plugin con).handle cfg j).con.disconnect → (s.cons con).disconnect ∨ v) :
    RequestInv (s.connectionStep cfg con j, v) := by
  unfold System.connectionStep
  split_ifs with hmem
  · intro other hother hpending
    simp only [System.onConnection, hactive] at hother hpending
    rcases eq_or_ne other con with rfl | hne
    · rw [Function.update_self] at hpending
      exact (hrequest hmem hother hpending).elim (fun h => hw (hs other hother h)) id
    · rw [Function.update_of_ne hne] at hpending
      exact hw (hs other hother hpending)
  · exact fun other hother hpending => hw (hs other hother hpending)

theorem monitoringThread (hs : RequestInv (s, w)) (timeInMs monotonicTimeInMs : Nat)
    (hi : NoRequestAtActivation (s, w) (.monitoringThread timeInMs monotonicTimeInMs)) :
    RequestInv (s.monitoringThread cfg redGroup timeInMs monotonicTimeInMs,
      w && s.activates.isNone) := by
  intro con hcon hpending
  cases monitoringThread_cases cfg redGroup s timeInMs monotonicTimeInMs with
  | activates active hactivates hcons hactive =>
    have hsame : active = con := Option.some.inj (hactive.symm.trans hcon)
    subst hsame
    have hkept : (s.cons active).activate.2.disconnect = (s.cons active).disconnect := by
      unfold Connection.activate
      split_ifs <;> rfl
    have hunrequested : (s.cons active).disconnect = false := hi active hactivates
    simp [hcons, hkept, hunrequested] at hpending
  | waits _ _ _ hactive =>
    rw [hactive] at hcon
    cases hcon
  | loses _ _ _ _ hactive =>
    rw [hactive] at hcon
    cases hcon
  | keeps active hbefore _ hcons hactive =>
    have hsame : active = con := Option.some.inj (hactive.symm.trans hcon)
    subst hsame
    have hlink : (s.monitoringThread cfg redGroup timeInMs monotonicTimeInMs).cons active =
        s.cons active := by
      rcases hcons active with h | ⟨hne, -⟩
      · exact h
      · exact absurd rfl hne
    rw [hlink] at hpending
    have hnone : s.activates.isNone := by simp [System.activates, hbefore]
    rw [hnone, Bool.and_true]
    exact hs active hbefore hpending

/-- A received ASDU that makes a connection request its disconnection is noted. -/
theorem asdu (hs : RequestInv (s, w)) (con : ConId) (a : ASDU) (now : Nat) :
    RequestInv (s.connectionStep cfg con (.asdu a now), w || s.requestsDisonnect con a) := by
  obtain ⟨hlink, hactive⟩ := (s.plugin con).asduReceivedHandler_link cfg now a
  refine hs.connectionStep (fun h => by simp [h]) hactive fun hmem hcon hpending => ?_
  cases hrejects : (s.plugin con).rejectsGi a with
  | true =>
    right
    simp [System.requestsDisonnect, hmem, hcon, hrejects]
  | false =>
    rw [hrejects, if_neg Bool.false_ne_true] at hlink
    exact .inl ((congrArg Link.disconnect hlink).symm.trans hpending)

theorem conThread (hs : RequestInv (s, w)) (con : ConId) (env : Env) :
    RequestInv (s.connectionStep cfg con (.conThread env), w) := by
  obtain ⟨hlink, hactive⟩ := (s.plugin con).conThread_link cfg env
  refine hs.connectionStep id hactive fun _ _ hpending => .inl ?_
  have hkept := Plugin.conThreadLink_disconnect env (s.plugin con).con
  rw [← hlink] at hkept
  exact hkept.symm.trans hpending

/-- A request that is served is not pending any more. -/
theorem conThreadDisconnect (hs : RequestInv (s, w)) (con : ConId) :
    RequestInv (s.connectionStep cfg con .conThreadDisconnect, w) := by
  obtain ⟨hlink, hactive⟩ := (s.plugin con).conThreadDisconnect_link
  refine hs.connectionStep id hactive fun _ _ hpending => .inl ?_
  have hdone : (s.plugin con).conThreadDisconnect.con.link.disconnect = false := by
    rw [hlink]
    split_ifs with hrequest
    · rfl
    · exact Bool.eq_false_iff.mpr hrequest
  exact absurd hpending (Bool.eq_false_iff.mp hdone)

theorem step (hs : RequestInv (s, w)) (hi : NoRequestAtActivation (s, w) i) :
    RequestInv (watch (clientStep cfg redGroup) noteDisconnectRequest (s, w) i).1 := by
  have hclear : RequestInv (s.clear, w) := hs
  cases hnorth : i.isNorth with
  | true =>
    obtain ⟨hcons, -, hactive⟩ := handle_north cfg redGroup s.clear hnorth
    have hkeep : RequestInv (s.clear.handle cfg redGroup i, w) := by
      intro con hcon hpending
      rw [hactive] at hcon
      rw [hcons] at hpending
      exact hclear con hcon hpending
    cases i with
    | monitoringThread | connectionEvent | asdu | conThread | conThreadDisconnect => cases hnorth
    | _ => exact hkeep
  | false =>
    cases i with
    | monitoringThread => exact hclear.monitoringThread _ _ hi
    | connectionEvent con event now =>
      refine hclear.connectionStep (v := w) id rfl fun _ _ hpending => .inl ?_
      cases event with
      | _ => exact hpending
    | asdu con a now => exact hclear.asdu con a now
    | conThread con env => exact hclear.conThread con env
    | conThreadDisconnect con => exact hclear.conThreadDisconnect con
    | _ => cases hnorth

end RequestInv

/-- In every run of the client in which the monitoring thread activates no connection whose
disconnection is requested, no request from before the activation drops the active connection. -/
theorem fresh_request_of_along (cfg : IEC104ClientConfig) (redGroup : ConId → RedGroupCon)
    (t : ExchangeTable) (connections : List ConId) (timeInMs : Nat) (is : List ClientInput)
    (h : Along (watch (clientStep cfg redGroup) noteDisconnectRequest) NoRequestAtActivation
      (System.started cfg redGroup t connections timeInMs, false) is) :
    Along (watch (clientStep cfg redGroup) noteDisconnectRequest) FreshRequest
      (System.started cfg redGroup t connections timeInMs, false) is := by
  refine along_of_invariant (fun _ _ hs hi => RequestInv.step hs hi) (fun s i hs _ => ?_) ?_ h
  · cases i with
    | conThreadDisconnect con => exact fun hpending hcon => hs con hcon hpending
    | _ => trivial
  · intro con hcon _
    simp [System.started, System.monitoringThreadStart, System.init,
      Client.updateQualityForAllDataObjects, Client.sendQualityUpdates_eq] at hcon

/-- Both connections are opened at the start, and only the first one stays open beside the
active one. -/
def backupConnection (con : ConId) : RedGroupCon := { start := con = 0 }

/-- The connection thread disconnects the backup connection before the active one is lost. -/
theorem fresh_request_failover :
    Along (watch (clientStep {} backupConnection) noteDisconnectRequest) FreshRequest
      (System.started {} backupConnection .empty [0, 1] 0, false)
      [.conThread 0 { created := some 1 }, .conThread 1 { created := some 2 },
        .connectionEvent 0 .opened 0, .connectionEvent 1 .opened 0, .monitoringThread 0 0,
        .monitoringThread 100 100, .conThread 1 {}, .conThreadDisconnect 1,
        .connectionEvent 0 .closed 100, .monitoringThread 200 200] :=
  fresh_request_of_along {} backupConnection .empty [0, 1] 0 _ (by decide)

/-- The active connection is lost after the backup connection was asked to disconnect and before
its thread serves the request: the backup connection is activated, and then dropped. -/
theorem old_request_drops_active_connection :
    ¬ Along (watch (clientStep {} backupConnection) noteDisconnectRequest) FreshRequest
      (System.started {} backupConnection .empty [0, 1] 0, false)
      [.conThread 0 { created := some 1 }, .conThreadDisconnect 0,
        .conThread 1 { created := some 2 }, .conThreadDisconnect 1,
        .connectionEvent 0 .opened 0, .connectionEvent 1 .opened 0, .monitoringThread 0 0,
        .conThread 0 {}, .conThreadDisconnect 0, .conThread 1 {}, .conThreadDisconnect 1,
        .monitoringThread 100 100, .connectionEvent 0 .closed 150, .monitoringThread 200 200,
        .monitoringThread 300 300, .conThread 1 {}, .conThreadDisconnect 1] := by
  decide

end Iec104South
