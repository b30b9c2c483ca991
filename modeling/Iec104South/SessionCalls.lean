import Iec104South.Lib.Change
import Iec104South.ConThread

/-!
# What a connection calls and reports

The calls of lib60870 and the audits of a path, function by function: which calls each of them can
make in which state, and that all but the sections of the thread leave the audits alone.

* `Effect.Fits`: the calls that a connection can make where its thread stands.
* `KeepsSession`: the handle and the state are kept, the calls fit, and these audits are requested.
-/

namespace Iec104South

open Reactive Change

/-- The `CS104_Connection` functions that are called, without their arguments. -/
inductive HandleCall where
  | create
  | connectAsync
  | sendStartDT
  | sendInterrogationCommand
  | sendProcessCommandEx
  | sendClockSyncCommand
  | close
  | destroy
deriving DecidableEq, Repr

/-- The call that an effect is, and its handle. -/
def Effect.handleCall? : Effect → Option (Handle × HandleCall)
  | .create con => some (con, .create)
  | .connectAsync con => some (con, .connectAsync)
  | .destroy con => some (con, .destroy)
  | .close con => some (con, .close)
  | .sendStartDT con => some (con, .sendStartDT)
  | .sendInterrogationCommand con _ _ => some (con, .sendInterrogationCommand)
  | .sendClockSyncCommand con _ _ => con.map (·, .sendClockSyncCommand)
  | .sendProcessCommandEx con _ _ _ _ => some (con, .sendProcessCommandEx)
  | .ingest .. | .connectionStatusAudit _ | .clientStatusAudit _ => none

/-- The calls of `CS104_Connection` functions, each for a handle. A clock synchronisation for a null
pointer would not be among them, but there is none (`handles_disciplined`). -/
def handleCalls (out : List Effect) : List (Handle × HandleCall) :=
  out.filterMap Effect.handleCall?

/-- The status of the path that an effect audits. -/
def Effect.pathAudit? : Effect → Option AuditType
  | .connectionStatusAudit auditType => some auditType
  | _ => none

def pathAudits (out : List Effect) : List AuditType := out.filterMap Effect.pathAudit?

@[simp] theorem handleCalls_append (a b : List Effect) :
    handleCalls (a ++ b) = handleCalls a ++ handleCalls b := List.filterMap_append ..

@[simp] theorem pathAudits_append (a b : List Effect) :
    pathAudits (a ++ b) = pathAudits a ++ pathAudits b := List.filterMap_append ..

/-- A reading, or an audit of the client. -/
def Effect.isPublished : Effect → Bool
  | .ingest .. | .clientStatusAudit _ => true
  | _ => false

/-- The effects are readings and audits of the client. -/
def Published (out : List Effect) : Prop := ∀ e ∈ out, e.isPublished

@[simp] theorem published_giStatusEvents (cfg : IEC104ClientConfig) (old new : GiStatus) :
    Published (Client.giStatusEvents cfg old new) := by
  unfold Client.giStatusEvents
  split_ifs <;> simp [Published, Effect.isPublished]

@[simp] theorem published_qualityUpdates (dps : List DataExchangeDefinition) (qd : BitVec 8) :
    Published (dps.map (Client.qualityUpdate qd)) := by
  simp [Published, Client.qualityUpdate, Effect.isPublished]

@[simp] theorem published_connectionStatusEvents (cfg : IEC104ClientConfig)
    (old new : ConnectionStatus) : Published (Client.connectionStatusEvents cfg old new) := by
  unfold Client.connectionStatusEvents
  split_ifs <;> simp [Published, Effect.isPublished]

/-! ## Calls in a session -/

/-- The effects that keep the session: commands in the active state, and the calls of the periodic
tasks, each in its section. The clock synchronisation is sent without a look at the handle. -/
def Effect.Fits (pc : Section) (con : Connection) : Effect → Prop
  | .sendInterrogationCommand handle _ _ | .sendProcessCommandEx handle _ _ _ _ =>
    con.connection = some handle ∧ con.connectionState = .connectedActive
  | .sendClockSyncCommand handle _ _ => con.connection = handle ∧ pc = .active
  | .close handle => con.connection = some handle ∧ pc = .gi
  | .create _ | .connectAsync _ | .sendStartDT _ | .destroy _ => False
  | .ingest .. | .connectionStatusAudit _ | .clientStatusAudit _ => True

/-- A connection without a handle calls nothing. -/
theorem Effect.Fits.handleCall?_eq_none {pc : Section} {con : Connection} {e : Effect}
    (h : e.Fits pc con) (hnone : con.connection = none) : e.handleCall? = none := by
  cases e with
  | create | connectAsync | sendStartDT | destroy => exact h.elim
  | ingest | connectionStatusAudit | clientStatusAudit => rfl
  | sendInterrogationCommand | sendProcessCommandEx | close => cases hnone.symm.trans h.1
  | sendClockSyncCommand con' =>
    obtain rfl : none = con' := hnone.symm.trans h.1
    rfl

/-- The effects fit, and none is an audit of the path. -/
structure Unaudited (pc : Section) (con : Connection) (out : List Effect) : Prop where
  fits : ∀ e ∈ out, e.Fits pc con
  audits : pathAudits out = []

namespace Unaudited

variable {pc : Section} {con : Connection}

theorem nil : Unaudited pc con [] := ⟨fun _ he => absurd he List.not_mem_nil, rfl⟩

theorem of_published {out : List Effect} (h : Published out) : Unaudited pc con out := by
  refine ⟨fun e he => ?_, List.filterMap_eq_nil_iff.mpr fun e he => ?_⟩
  · have hpublished := h e he
    cases e <;> trivial
  · have hpublished := h e he
    cases e <;> first | rfl | cases hpublished

theorem append {a b : List Effect} (ha : Unaudited pc con a) (hb : Unaudited pc con b) :
    Unaudited pc con (a ++ b) :=
  ⟨List.forall_mem_append.mpr ⟨ha.fits, hb.fits⟩,
    by rw [pathAudits_append, ha.audits, hb.audits]; rfl⟩

/-- One effect that fits. -/
theorem single {e : Effect} (hfits : e.Fits pc con) (haudit : e.pathAudit? = none) :
    Unaudited pc con [e] :=
  ⟨fun _ he => List.mem_singleton.mp he ▸ hfits, by simp [pathAudits, haudit]⟩

theorem closeConnection (hpc : pc = .gi) : Unaudited pc con con.closeConnection := by
  unfold Connection.closeConnection
  cases hcon : con.connection with
  | none => exact nil
  | some handle => exact single ⟨hcon, hpc⟩ rfl

theorem sendInterrogationCommand (ca : Int) (accepted : Bool) :
    Unaudited pc con (con.sendInterrogationCommand ca accepted).2 := by
  unfold Connection.sendInterrogationCommand
  split
  · next handle hcon =>
    split_ifs with hactive
    · exact single ⟨hcon, hactive⟩ rfl
    · exact nil
  · exact nil

/-- All command methods send in the same way. -/
theorem send (op : CommandOperation) (accepted : Bool) :
    Unaudited pc con (op.send accepted con).2 := by
  have hsend (ca : Int) (cmdObj : CommandObject) :
      Unaudited pc con (con.sendCommand ca cmdObj accepted).2 := by
    unfold Connection.sendCommand
    split
    · next handle hcon =>
      split_ifs with hactive
      · exact single ⟨hcon, hactive⟩ rfl
      · exact nil
    · exact nil
  cases op with
  | _ => exact hsend _ _

end Unaudited

/-- What the connection knows of its session. -/
def Connection.sessionState (con : Connection) : Option Handle × ConState × Bool :=
  (con.connection, con.connectionState, con.connected)

/-- What the calls and the audits depend on. -/
def Connection.auditedState (con : Connection) : (Option Handle × ConState × Bool) × AuditType :=
  (con.sessionState, con.last_audit)

/-- From `p` to `q` the handle and the state are kept, the calls fit the section `pc`, and the
status of the path is reported to be each of `reported` in turn. -/
structure KeepsSession (pc : Section) (reported : List AuditType) (p q : Plugin) : Prop where
  state : q.con.sessionState = p.con.sessionState
  last : q.con.last_audit = reported.getLastD p.con.last_audit
  calls : ∃ out, q.client.out = p.client.out ++ out ∧ (∀ e ∈ out, e.Fits pc p.con) ∧
    pathAudits out = changes p.con.last_audit reported

namespace KeepsSession

variable {pc : Section} {reported reported' : List AuditType} {p q r : Plugin}

theorem of_unaudited {out : List Effect} (hsame : q.con.auditedState = p.con.auditedState)
    (hout : q.client.out = p.client.out ++ out) (h : Unaudited pc p.con out) :
    KeepsSession pc [] p q :=
  ⟨congrArg Prod.fst hsame, congrArg Prod.snd hsame, out, hout, h.fits, h.audits⟩

theorem of_published {out : List Effect} (hsame : q.con.auditedState = p.con.auditedState)
    (hout : q.client.out = p.client.out ++ out) (h : Published out) : KeepsSession pc [] p q :=
  of_unaudited hsame hout (.of_published h)

theorem of_out_eq (hsame : q.con.auditedState = p.con.auditedState)
    (hout : q.client.out = p.client.out) : KeepsSession pc [] p q :=
  of_unaudited hsame (hout.trans (List.append_nil _).symm) .nil

theorem refl (p : Plugin) : KeepsSession pc [] p p := of_out_eq rfl rfl

theorem connection (h : KeepsSession pc reported p q) : q.con.connection = p.con.connection :=
  congrArg Prod.fst h.state

theorem connectionState (h : KeepsSession pc reported p q) :
    q.con.connectionState = p.con.connectionState :=
  congrArg (·.2.1) h.state

theorem connected (h : KeepsSession pc reported p q) : q.con.connected = p.con.connected :=
  congrArg (·.2.2) h.state

theorem trans (hp : KeepsSession pc reported p q) (hq : KeepsSession pc reported' q r) :
    KeepsSession pc (reported ++ reported') p r := by
  have hconnection := hp.connection
  have hstate := hp.connectionState
  obtain ⟨hsame, hlast, out, hout, hfit, haudits⟩ := hp
  obtain ⟨hsame', hlast', out', hout', hfit', haudits'⟩ := hq
  refine ⟨hsame'.trans hsame, ?_, out ++ out', by rw [hout', hout, List.append_assoc],
    List.forall_mem_append.mpr ⟨hfit, fun e he => ?_⟩, ?_⟩
  · rw [hlast', hlast, getLastD_append]
  · have hfits := hfit' e he
    unfold Effect.Fits at hfits ⊢
    rwa [hconnection, hstate] at hfits
  · rw [pathAudits_append, haudits, haudits', hlast, changes_append]

/-- Steps that report nothing. -/
theorem quiet (hp : KeepsSession pc reported p q) (hq : KeepsSession pc [] q r) :
    KeepsSession pc reported p r := by
  simpa using hp.trans hq

end KeepsSession

namespace Plugin

variable {pc : Section} (cfg : IEC104ClientConfig) (env : Env) (p : Plugin)

theorem sendConnectionStatusAudit_keepsSession (auditType : AuditType) :
    KeepsSession pc [auditType] p (p.sendConnectionStatusAudit auditType) := by
  rw [sendConnectionStatusAudit_eq]
  refine ⟨rfl, rfl, _, rfl, fun e he => ?_, ?_⟩
  · unfold auditEvents at he
    split_ifs at he
    · cases he
    · rw [List.mem_singleton.mp he]
      trivial
  · simp only [auditEvents, changes, eq_comm]
    split_ifs <;> rfl

theorem updateGiStatus_keepsSession (newState : GiStatus) :
    KeepsSession pc [] p (p.updateGiStatus cfg newState) :=
  .of_published rfl (congrArg Client.out (p.updateGiStatus_client cfg newState)) (by simp)

theorem concludeGi_keepsSession (newState : GiStatus) :
    KeepsSession pc [] p (p.concludeGi cfg newState) := by
  have hout := (congrArg Client.out (p.concludeGi_client cfg newState)).trans
    (List.append_assoc ..)
  exact .of_unaudited rfl hout (.append (.of_published (by simp)) (.of_published (by simp)))

/-! ## The connection thread -/

theorem syncSection_keepsSession (hpc : pc = .active) :
    KeepsSession pc [.active] p (p.syncSection cfg env) := by
  have haudit : KeepsSession pc [.active] p (p.sendConnectionStatusAudit .active) :=
    p.sendConnectionStatusAudit_keepsSession .active
  have hsync (q : Plugin) : KeepsSession pc [] q (q.timeSyncTasks cfg env) := by
    unfold timeSyncTasks
    by_cases hdue : q.con.timeSyncDue env.syncTime
    · rw [if_pos hdue]
      exact .of_unaudited rfl rfl (.single ⟨rfl, hpc⟩ rfl)
    · rw [if_neg hdue]
      exact .refl q
  unfold syncSection
  dsimp only
  split_ifs
  · exact haudit.quiet (hsync _)
  · exact haudit

theorem startNewInterrogationCycle_keepsSession :
    KeepsSession pc [] p (p.startNewInterrogationCycle cfg env) := by
  refine .of_unaudited ?_ (congrArg Client.out (p.startNewInterrogationCycle_client cfg env)) ?_
  · rw [startNewInterrogationCycle_con]
    rfl
  · refine .append (.of_published (by simp)) ?_
    split_ifs
    · exact .nil
    · exact .sendInterrogationCommand _ _

theorem sendGiToCa_keepsSession (hpc : pc = .gi) (ca : Int) :
    KeepsSession pc [] p (p.sendGiToCa cfg env ca) := by
  have hout := (congrArg Client.out (p.sendGiToCa_client cfg env ca)).trans
    (List.append_assoc ..)
  refine .of_unaudited ?_ hout ?_
  · rw [sendGiToCa_con]
    rfl
  · refine .append (.sendInterrogationCommand _ _) ?_
    split_ifs
    · exact .of_published (by simp)
    · exact .append (.append (.of_published (by simp)) (.of_published (by simp)))
        (.closeConnection hpc)

theorem failGiRequest_keepsSession (hpc : pc = .gi) :
    KeepsSession pc [] p (p.failGiRequest cfg env) := by
  have hout := (congrArg Client.out (p.failGiRequest_client cfg env)).trans
    ((List.append_assoc ..).trans (List.append_assoc ..))
  refine .of_unaudited ?_ hout ?_
  · rw [failGiRequest_con]
    rfl
  · exact .append (.of_published (by simp)) (.append (.of_published (by simp))
      (.closeConnection hpc))

theorem giSection_keepsSession (hpc : pc = .gi) :
    KeepsSession pc [] p (p.giSection cfg env) := by
  have hgi : KeepsSession pc [] p (p.giTasks cfg env) := by
    refine giTasks_rule cfg env p (P := KeepsSession pc [] p) (.refl p) ?_ ?_ ?_ ?_ ?_
    · exact fun q hq _ => hq.quiet (q.startNewInterrogationCycle_keepsSession cfg env)
    · exact fun q hq => hq.quiet (.of_out_eq rfl rfl)
    · exact fun _ _ _ _ => p.failGiRequest_keepsSession cfg env hpc
    · exact fun ca _ _ _ _ _ => p.sendGiToCa_keepsSession cfg env hpc ca
    · exact fun _ _ _ _ => .of_out_eq rfl rfl
  unfold giSection
  split_ifs
  · exact hgi
  · exact .refl p
  · exact .refl p

/-! ## The other threads -/

theorem received_keepsSession (now : Nat) (a : ASDU) :
    KeepsSession pc [] p (p.received cfg now a) := by
  have hout := (congrArg Client.out (p.received_client cfg now a)).trans
    ((handleASDU_out cfg now p.self a p.client).trans (List.append_assoc ..))
  refine .of_unaudited ?_ hout (.append (.of_published (by simp)) (.of_published fun e he => ?_))
  · rw [received_con]
    rfl
  · obtain ⟨d, -, rfl⟩ := List.mem_map.mp he
    rfl

theorem giReply_keepsSession (a : ASDU) : KeepsSession pc [] p (p.giReply cfg a) := by
  unfold giReply giConfirmed giTerminated giRejected
  dsimp only
  split_ifs
  · refine .quiet ?_ (concludeGi_keepsSession cfg _ .failed)
    exact .of_out_eq rfl rfl
  · refine .quiet ?_ (updateGiStatus_keepsSession cfg _ .inProgress)
    exact .of_out_eq rfl rfl
  · exact .refl p
  · refine .quiet ?_ (concludeGi_keepsSession cfg _ .finished)
    exact .of_out_eq rfl rfl
  · exact .of_out_eq rfl rfl
  · exact .refl p
  · exact (p.concludeGi_keepsSession cfg .failed).quiet (.of_out_eq rfl rfl)
  · exact .refl p

theorem asduReceivedHandler_keepsSession (now : Nat) (a : ASDU) :
    KeepsSession pc [] p (p.asduReceivedHandler cfg now a).2 := by
  have hreceived : KeepsSession pc [] p (p.received cfg now a) :=
    p.received_keepsSession cfg now a
  cases hreply : isGiReply a with
  | true =>
    rw [asduReceivedHandler_giReply cfg p now hreply]
    exact hreceived.quiet (giReply_keepsSession cfg _ a)
  | false =>
    obtain ⟨con', heq, hcon'⟩ := asduReceivedHandler_other cfg p now hreply
    rw [heq]
    refine hreceived.quiet (.of_out_eq ?_ rfl)
    rcases hcon' with rfl | rfl | ⟨-, -, rfl⟩
    · rfl
    · rfl
    · unfold Connection.timeSyncReply
      split_ifs <;> rfl

/-- The calls of the other threads; only `Activate` changes the state. -/
theorem handle_keepsSession {i : Input} (hi : i.isCall) (hactivate : i ≠ .activate) :
    KeepsSession pc [] p (p.handle cfg i) := by
  cases i with
  | connectionEvent _ _ | asdu _ _ | conThread _ | conThreadDisconnect => cases hi
  | activate => exact absurd rfl hactivate
  | connect | disonnect | setActiveConnection => exact .of_out_eq rfl rfl
  | updateConnectionStatus newState =>
    exact .of_published rfl
      (congrArg Client.out (Client.updateConnectionStatus_eq cfg newState p.client)) (by simp)
  | updateQualityForAllDataObjects qd =>
    exact .of_published rfl
      (congrArg Client.out (Client.sendQualityUpdates_eq _ qd p.client)) (by simp)
  | sendInterrogationCommand ca accepted =>
    simp only [handle, northInterrogation]
    split_ifs
    · exact .of_unaudited rfl rfl (.sendInterrogationCommand ca accepted)
    · exact .refl p
  | scheduleGI =>
    simp only [handle, scheduleGI, requestGi]
    split <;> exact .of_out_eq rfl rfl
  | sendConnectionStatus =>
    simp only [handle, Client.sendConnectionStatus, Client.sendSouthMonitoringEvent]
    split_ifs
    · exact .refl p
    · exact .refl p
    · exact .of_published rfl rfl (by simp [Published, Effect.isPublished])

end Plugin

end Iec104South
