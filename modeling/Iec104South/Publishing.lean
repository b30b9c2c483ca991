import Mathlib.Data.List.Zip
import Iec104South.ClientMachine
import Iec104South.Lib.Change

/-!
# What the client publishes

Readings with a value, audits of the client, and south events with its statuses. All else that a
step emits is silent: calls of lib60870, audits of a path, and quality updates, which say that a
value is not to be used.

* `Publishes`: the values and the audits on the way from a client to the next one. The south events
  tell the statuses, if there is a signal for them.
* `handle_publishes`: what each step of the client publishes. Values come with the ASDUs, audits
  with the rounds of the monitoring thread.
-/

namespace Iec104South

open Reactive Change

/-- The statuses that the south events report. -/
structure Statuses where
  connStatus : ConnectionStatus
  giStatus : GiStatus
deriving DecidableEq, Repr

def Client.statuses (c : Client) : Statuses := ⟨c.connStatus, c.giStatus⟩

/-- What a consumer knows of the statuses after one more reading. -/
def Statuses.learn (known : Statuses) : Effect → Statuses
  | .ingest _ (.southEvent connxStatus giStatus) =>
    ⟨connxStatus.getD known.connStatus, giStatus.getD known.giStatus⟩
  | _ => known

/-- A reading that has a value, under its asset name. -/
def Effect.value? : Effect → Option (String × DataObject)
  | .ingest assetName (.dataObject object) =>
    if object.do_value.isSome then some (assetName, object) else none
  | _ => none

def Effect.clientAudit? : Effect → Option ConnectionStatus
  | .clientStatusAudit status => some status
  | _ => none

/-- Neither invalid nor non topical. -/
def QualityAttributes.isUsable (q : QualityAttributes) : Bool :=
  !q.do_quality_iv && !q.do_quality_nt

/-- What a reading tells about the quality of its label. -/
def Effect.quality? : Effect → Option (String × QualityAttributes)
  | .ingest assetName (.dataObject object) => object.quality.map (assetName, ·)
  | _ => none

/-- A reading without a value marks the one before. -/
def Effect.IsMarked (e : Effect) : Prop :=
  ∀ q ∈ e.quality?, e.value? = none → q.2.isUsable = false

/-- No value, no audit of the client, no south event, and no quality of a value to be used. -/
def Effect.isSilent : Effect → Bool
  | .ingest _ (.southEvent ..) | .clientStatusAudit _ => false
  | .ingest _ (.dataObject object) =>
    object.do_value.isNone && object.quality.all (!·.isUsable)
  | _ => true

def Silent (events : List Effect) : Prop := ∀ e ∈ events, e.isSilent

/-- A south event is ingested for the signal of the configuration, and it has a status. -/
def Effect.IsSignalled (cfg : IEC104ClientConfig) : Effect → Prop
  | .ingest assetName (.southEvent connxStatus giStatus) =>
    assetName = cfg.connxStatus ∧ cfg.connxStatus.isEmpty = false ∧
      (connxStatus.isSome ∨ giStatus.isSome)
  | _ => True

@[simp] theorem Effect.isMarked_southEvent (assetName : String)
    (connxStatus : Option ConnectionStatus) (giStatus : Option GiStatus) :
    (Effect.ingest assetName (.southEvent connxStatus giStatus)).IsMarked := fun _ hq => by cases hq

@[simp] theorem Effect.isMarked_clientStatusAudit (status : ConnectionStatus) :
    (Effect.clientStatusAudit status).IsMarked := fun _ hq => by cases hq

/-- From `c` to `c'` the client publishes `values` and `audits`, and what it publishes tells how
its statuses change. -/
structure Publishes (cfg : IEC104ClientConfig) (values : List (String × DataObject))
    (audits : List ConnectionStatus) (c c' : Client) : Prop where
  find? : ∀ ca ioa, c'.exchangeDefinitions.find? ca ioa = c.exchangeDefinitions.find? ca ioa
  connStatus : c'.connStatus = audits.getLastD c.connStatus
  events : ∃ events, c'.out = c.out ++ events ∧ events.filterMap Effect.value? = values ∧
    events.filterMap Effect.clientAudit? = audits ∧ (∀ e ∈ events, e.IsSignalled cfg) ∧
    (∀ e ∈ events, e.IsMarked) ∧
    (cfg.connxStatus.isEmpty = false → events.foldl Statuses.learn c.statuses = c'.statuses)

namespace Silent

theorem append {events events' : List Effect} (h : Silent events) (h' : Silent events') :
    Silent (events ++ events') := List.forall_mem_append.mpr ⟨h, h'⟩

/-- Silent calls of lib60870 on a handle that there may be. -/
theorem toList_map {handle : Option Handle} {f : Handle → Effect}
    (h : ∀ handle, (f handle).isSilent) : Silent (handle.toList.map f) := by
  intro e he
  obtain ⟨handle, -, rfl⟩ := List.mem_map.mp he
  exact h handle

theorem qualityUpdates (dps : List DataExchangeDefinition) {qd : BitVec 8}
    (hqd : (qualityAttributes qd).isUsable = false) :
    Silent (dps.map (Client.qualityUpdate qd)) := by
  intro e he
  obtain ⟨dp, -, rfl⟩ := List.mem_map.mp he
  simp [Client.qualityUpdate, Client.createQualityUpdateForDataObject, Effect.isSilent, hqd]

/-- Silent calls of lib60870 and audits of the path. -/
theorem of_isLinkEvent {events : List Effect} (h : ∀ e ∈ events, e.isLinkEvent) :
    Silent events := by
  intro e he
  have hlink := h e he
  cases e with
  | ingest | clientStatusAudit => cases hlink
  | _ => rfl

theorem sendInterrogationCommand (con : Connection) (ca : Int) (accepted : Bool) :
    Silent (con.sendInterrogationCommand ca accepted).2 := by
  unfold Connection.sendInterrogationCommand
  split
  · split_ifs <;> simp [Silent, Effect.isSilent]
  · simp [Silent]

theorem auditEvents (p : Plugin) (auditType : AuditType) : Silent (p.auditEvents auditType) := by
  unfold Plugin.auditEvents
  split_ifs <;> simp [Silent, Effect.isSilent]

theorem foldl_learn {events : List Effect} (h : Silent events) (known : Statuses) :
    events.foldl Statuses.learn known = known := by
  induction events with
  | nil => rfl
  | cons e events ih =>
    have hsame : known.learn e = known := by
      have he := h e List.mem_cons_self
      cases e with
      | ingest assetName reading =>
        cases reading with
        | dataObject object => rfl
        | southEvent connxStatus giStatus => cases he
      | _ => rfl
    rw [List.foldl_cons, hsame]
    exact ih fun e' he' => h e' (List.mem_cons_of_mem e he')

theorem filterMap_value? {events : List Effect} (h : Silent events) :
    events.filterMap Effect.value? = [] := by
  refine List.filterMap_eq_nil_iff.mpr fun e he => ?_
  have hsilent := h e he
  cases e with
  | ingest assetName reading =>
    cases reading with
    | dataObject object =>
      have hnone : object.do_value = none :=
        Option.isNone_iff_eq_none.mp (Bool.and_eq_true_iff.mp hsilent).1
      rw [Effect.value?, hnone]
      rfl
    | southEvent connxStatus giStatus => rfl
  | _ => rfl

theorem filterMap_clientAudit? {events : List Effect} (h : Silent events) :
    events.filterMap Effect.clientAudit? = [] := by
  refine List.filterMap_eq_nil_iff.mpr fun e he => ?_
  have hsilent := h e he
  cases e with
  | clientStatusAudit status => cases hsilent
  | _ => rfl

theorem isSignalled {events : List Effect} (h : Silent events) (cfg : IEC104ClientConfig) :
    ∀ e ∈ events, e.IsSignalled cfg := by
  intro e he
  have hsilent := h e he
  cases e with
  | ingest assetName reading =>
    cases reading with
    | dataObject object => trivial
    | southEvent connxStatus giStatus => cases hsilent
  | _ => trivial

theorem isMarked {events : List Effect} (h : Silent events) : ∀ e ∈ events, e.IsMarked := by
  intro e he q hq _
  have hsilent := h e he
  cases e with
  | ingest assetName reading =>
    cases reading with
    | dataObject object =>
      obtain ⟨quality, hquality, rfl⟩ := Option.map_eq_some_iff.mp hq
      have hall := (Bool.and_eq_true_iff.mp hsilent).2
      simpa [hquality] using hall
    | southEvent connxStatus giStatus => cases hq
  | _ => cases hq

end Silent

namespace Publishes

variable {cfg : IEC104ClientConfig} {values values' : List (String × DataObject)}
  {audits audits' : List ConnectionStatus} {c c' c'' : Client}

theorem refl (c : Client) : Publishes cfg [] [] c c :=
  ⟨fun _ _ => rfl, rfl, [], (List.append_nil _).symm, rfl, rfl, fun _ he => (by cases he),
    fun _ he => (by cases he), fun _ => rfl⟩

theorem trans (h : Publishes cfg values audits c c') (h' : Publishes cfg values' audits' c' c'') :
    Publishes cfg (values ++ values') (audits ++ audits') c c'' := by
  obtain ⟨hfind, hconn, events, hout, hvalues, haudits, hsignalled, hmarked, hlearn⟩ := h
  obtain ⟨hfind', hconn', events', hout', hvalues', haudits', hsignalled', hmarked', hlearn'⟩ := h'
  refine ⟨fun ca ioa => (hfind' ca ioa).trans (hfind ca ioa), ?_, events ++ events', ?_, ?_, ?_,
    List.forall_mem_append.mpr ⟨hsignalled, hsignalled'⟩,
    List.forall_mem_append.mpr ⟨hmarked, hmarked'⟩, fun hsignal => ?_⟩
  · rw [hconn', hconn, getLastD_append]
  · rw [hout', hout, List.append_assoc]
  · rw [List.filterMap_append, hvalues, hvalues']
  · rw [List.filterMap_append, haudits, haudits']
  · rw [List.foldl_append, hlearn hsignal, hlearn' hsignal]

/-- Nothing is published before or after. -/
theorem before (h : Publishes cfg [] [] c c') (h' : Publishes cfg values audits c' c'') :
    Publishes cfg values audits c c'' := h.trans h'

theorem after (h : Publishes cfg values audits c c') (h' : Publishes cfg [] [] c' c'') :
    Publishes cfg values audits c c'' := by
  simpa using h.trans h'

/-- Silent effects, if neither the statuses nor what is configured changes. -/
theorem silent {events : List Effect}
    (hfind : ∀ ca ioa, c'.exchangeDefinitions.find? ca ioa = c.exchangeDefinitions.find? ca ioa)
    (hstatuses : c'.statuses = c.statuses) (hout : c'.out = c.out ++ events)
    (hsilent : Silent events) : Publishes cfg [] [] c c' := by
  refine ⟨hfind, congrArg Statuses.connStatus hstatuses, events, hout, hsilent.filterMap_value?,
    hsilent.filterMap_clientAudit?, hsilent.isSignalled cfg, hsilent.isMarked, fun _ => ?_⟩
  rw [hsilent.foldl_learn, hstatuses]

/-- Nothing at all is emitted. -/
theorem unchanged
    (hfind : ∀ ca ioa, c'.exchangeDefinitions.find? ca ioa = c.exchangeDefinitions.find? ca ioa)
    (hstatuses : c'.statuses = c.statuses) (hout : c'.out = c.out) :
    Publishes cfg [] [] c c' :=
  have hnothing : c'.out = c.out ++ [] := by rw [hout, List.append_nil]
  silent hfind hstatuses hnothing fun _ he => by cases he

theorem emitted (c : Client) {events : List Effect} (h : Silent events) :
    Publishes cfg [] [] c { c with out := c.out ++ events } := silent (fun _ _ => rfl) rfl rfl h

theorem updateGiStatus (newState : GiStatus) (c : Client) :
    Publishes cfg [] [] c (c.updateGiStatus cfg newState) := by
  rw [Client.updateGiStatus_eq]
  unfold Client.giStatusEvents
  refine ⟨fun _ _ => rfl, rfl, _, rfl, ?_, ?_, ?_, ?_, fun hsignal => ?_⟩
  · split_ifs <;> rfl
  · split_ifs <;> rfl
  · split_ifs with hnone
    · simp
    · have hsignal : cfg.connxStatus.isEmpty = false := by simpa using (not_or.mp hnone).2
      simp [Effect.IsSignalled, hsignal]
  · split_ifs <;> simp
  · rw [hsignal]
    by_cases hsame : c.giStatus = newState
    · subst hsame
      simp [Client.statuses]
    · simp [hsame, Client.statuses, Statuses.learn]

/-- A change of the connection status is reported, and audited. -/
theorem updateConnectionStatus (newState : ConnectionStatus) (c : Client) :
    Publishes cfg [] (changes c.connStatus [newState]) c
      (c.updateConnectionStatus cfg newState) := by
  rw [Client.updateConnectionStatus_eq]
  unfold Client.connectionStatusEvents
  by_cases hsame : c.connStatus = newState
  · subst hsame
    simpa [changes] using refl c
  · refine ⟨fun _ _ => rfl, by simp [changes, hsame], _, rfl, ?_, ?_, ?_, ?_, fun hsignal => ?_⟩
    · simp only [hsame, if_false]
      split_ifs <;> rfl
    · simp only [hsame, if_false, changes]
      split_ifs <;> rfl
    · simp only [hsame, if_false]
      split_ifs with hsignal
      · simp [Effect.IsSignalled]
      · simp [Effect.IsSignalled, hsignal]
    · simp only [hsame, if_false]
      split_ifs <;> simp
    · simp [hsame, hsignal, Client.statuses, Statuses.learn]

/-- A request for the statuses repeats them. -/
theorem sendConnectionStatus (c : Client) :
    Publishes cfg [] [] c (c.sendConnectionStatus cfg) := by
  unfold Client.sendConnectionStatus Client.sendSouthMonitoringEvent
  simp only [Bool.not_true, Bool.and_self, Bool.false_eq_true, if_false, if_true]
  split_ifs with hsignal
  · exact refl c
  · refine ⟨fun _ _ => rfl, rfl, _, rfl, rfl, rfl, ?_, ?_, fun _ => rfl⟩
    · simp [Effect.IsSignalled, hsignal]
    · simp

theorem sendQualityUpdates (dps : List DataExchangeDefinition) {qd : BitVec 8}
    (hqd : (qualityAttributes qd).isUsable = false) (c : Client) :
    Publishes cfg [] [] c (c.sendQualityUpdates dps qd) := by
  rw [Client.sendQualityUpdates_eq]
  exact emitted c (.qualityUpdates dps hqd)

end Publishes

/-! ## One connection -/

namespace Plugin

variable (cfg : IEC104ClientConfig) (env : Env) (p : Plugin)

theorem publishes_closeConnection :
    Publishes cfg [] [] p.client p.closeConnection.client :=
  .emitted p.client (.toList_map fun _ => rfl)

theorem publishes_concludeGi (newState : GiStatus) :
    Publishes cfg [] [] p.client (p.concludeGi cfg newState).client :=
  (Publishes.updateGiStatus newState p.client).after (.sendQualityUpdates _ (by decide) _)

theorem publishes_startNewInterrogationCycle :
    Publishes cfg [] [] p.client (p.startNewInterrogationCycle cfg env).client := by
  rw [startNewInterrogationCycle_client]
  set status := startedStatus cfg p.client.giStatus
  have hstatus : Publishes cfg [] [] p.client (p.client.updateGiStatus cfg status) :=
    .updateGiStatus status p.client
  have hsent : Silent (if cfg.giAllCa then []
      else (p.con.sendInterrogationCommand cfg.broadcastCA env.giAccepted).2) := by
    split_ifs
    · exact fun _ he => by cases he
    · exact .sendInterrogationCommand _ _ _
  refine hstatus.after (.silent (fun _ _ => ?_) ?_ ?_ hsent)
  · rw [Client.updateGiStatus_eq]
  · rw [Client.updateGiStatus_eq]
    rfl
  · rw [Client.updateGiStatus_eq]
    exact (List.append_assoc ..).symm

theorem publishes_failGiRequest :
    Publishes cfg [] [] p.client (p.failGiRequest cfg env).client :=
  (publishes_concludeGi cfg { p with con := _ } .failed).after (publishes_closeConnection cfg _)

theorem publishes_sendGiToCa (ca : Int) :
    Publishes cfg [] [] p.client (p.sendGiToCa cfg env ca).client := by
  have hsent : Publishes cfg [] [] p.client
      (p.emit (p.con.sendInterrogationCommand ca env.giAccepted).2).client :=
    .emitted p.client (.sendInterrogationCommand _ _ _)
  refine hsent.before ?_
  simp only [sendGiToCa]
  split_ifs
  · exact .updateGiStatus .started _
  · exact (publishes_concludeGi cfg _ .failed).after (publishes_closeConnection cfg _)

theorem publishes_giTasks : Publishes cfg [] [] p.client (p.giTasks cfg env).client := by
  refine giTasks_rule cfg env p (P := fun q => Publishes cfg [] [] p.client q.client) (.refl _)
    (fun q hq _ => hq.after (publishes_startNewInterrogationCycle cfg env q)) ?_
    (fun _ _ _ _ => publishes_failGiRequest cfg env p)
    (fun ca _ _ _ _ _ => publishes_sendGiToCa cfg env p ca) (fun _ _ _ _ => .refl _)
  exact fun q hq => hq.after (.unchanged (fun _ _ => rfl) rfl rfl)

theorem publishes_beforeGi : Publishes cfg [] [] p.client (p.beforeGi cfg env).client := by
  obtain ⟨_, _, heq⟩ := p.beforeGi_eq cfg env
  rw [heq]
  refine .emitted p.client ?_
  refine Silent.append (.auditEvents p .active) ?_
  unfold timeSyncEvents
  split_ifs <;> simp [Silent, Effect.isSilent]

theorem publishes_conThread : Publishes cfg [] [] p.client (p.conThread cfg env).client := by
  by_cases hactive : p.con.connectionState = .connectedActive
  · rw [conThread_connectedActive cfg env p hactive]
    split_ifs
    · exact (publishes_beforeGi cfg env p).after (publishes_giTasks cfg env _)
    · exact publishes_beforeGi cfg env p
  · obtain ⟨-, -, events, hevents, hclient⟩ := p.conThread_inactive cfg env hactive
    rw [hclient]
    exact .emitted p.client (.of_isLinkEvent hevents)

theorem publishes_conThreadDisconnect :
    Publishes cfg [] [] p.client p.conThreadDisconnect.client := by
  unfold conThreadDisconnect
  split_ifs
  · rw [sendConnectionStatusAudit_eq]
    exact .silent (fun _ _ => rfl) rfl (List.append_assoc ..)
      (Silent.append (.toList_map fun _ => rfl) (.auditEvents _ .disconnected))
  · exact .refl _

theorem publishes_activate : Publishes cfg [] [] p.client (p.handle cfg .activate).client := by
  refine .emitted p.client ?_
  unfold Connection.activate
  split_ifs
  · exact .toList_map fun _ => rfl
  · exact fun _ he => by cases he

theorem publishes_northInterrogation (ca : Int) (accepted : Bool) :
    Publishes cfg [] [] p.client (p.northInterrogation ca accepted).client := by
  unfold northInterrogation
  split_ifs
  · exact .emitted p.client (.sendInterrogationCommand _ _ _)
  · exact .refl _

theorem publishes_unhandledASDU (now : Nat) (a : ASDU) :
    Publishes cfg [] [] p.client (p.unhandledASDU cfg now a).2.client := by
  unfold unhandledASDU
  split
  · exact .refl _
  · exact .refl _
  · simp only [giReply, giConfirmed, giTerminated, giRejected]
    split_ifs
    · exact publishes_concludeGi cfg { p with con := _ } .failed
    · exact .updateGiStatus .inProgress p.client
    · exact .refl _
    · exact publishes_concludeGi cfg { p with con := _ } .finished
    · exact .refl _
    · exact .refl _
    · exact publishes_concludeGi cfg p .failed
    · exact .refl _
  · exact .refl _
  · exact .refl _

end Plugin

/-! ## The client with its connections -/

/-- The status that the next round of the monitoring thread sets. -/
def System.verdict (s : System) : List ConnectionStatus :=
  match s.client.activeConnection with
  | none => [if s.activates.isSome then .started else .notConnected]
  | some _ => []

/-- The connection statuses that a step of the client sets. -/
def connectionStatuses (s : System) : ClientInput → List ConnectionStatus
  | .monitoringThread .. => s.verdict
  | _ => []

section Steps

variable (cfg : IEC104ClientConfig) (redGroup : ConId → RedGroupCon) (s : System)

theorem publishes_onConnection {con : ConId} {f : Plugin → Plugin}
    {values : List (String × DataObject)}
    (h : Publishes cfg values [] s.client (f (s.plugin con)).client) :
    Publishes cfg values [] s.client (s.onConnection con f).client := h

theorem publishes_monitoringThread (timeInMs monotonicTimeInMs : Nat) :
    Publishes cfg [] (changes s.client.connStatus s.verdict) s.client
      (s.monitoringThread cfg redGroup timeInMs monotonicTimeInMs).client := by
  unfold System.verdict
  cases hactive : s.client.activeConnection with
  | none =>
    cases hopen : s.connections.find? fun con => (s.cons con).isConnected with
    | some con =>
      have hactivates : s.activates = some con := by simp [System.activates, hactive, hopen]
      simp only [System.monitoringThread, hactive, hopen, hactivates, Option.isSome_some, if_true]
      have hactivated := publishes_onConnection cfg s
        ((s.plugin con).publishes_activate cfg)
      set c := (s.onConnection con (·.handle cfg .activate)).client
      have hset : Publishes cfg [] [] s.client { c with activeConnection := some con } :=
        hactivated.after (.unchanged (fun _ _ => rfl) rfl rfl)
      have hconn : c.connStatus = s.client.connStatus := hactivated.connStatus
      rw [← hconn]
      exact hset.before (.updateConnectionStatus .started { c with activeConnection := some con })
    | none =>
      have hactivates : s.activates = none := by simp [System.activates, hactive, hopen]
      simp only [System.monitoringThread, hactive, hopen, hactivates, Option.isSome_none,
        Bool.false_eq_true, if_false, connectBackups_client]
      have hmarked : Publishes cfg [] [] s.client (s.markNonTopical monotonicTimeInMs).client := by
        unfold System.markNonTopical
        split_ifs
        · exact .sendQualityUpdates _ (by decide) _
        · exact .refl _
        · exact .refl _
        · exact .refl _
      have hconn : (s.markNonTopical monotonicTimeInMs).client.connStatus = s.client.connStatus :=
        hmarked.connStatus
      rw [← hconn]
      exact hmarked.before (.updateConnectionStatus .notConnected _)
  | some active =>
    simp only [System.monitoringThread, hactive]
    split_ifs
    · exact .unchanged (fun _ _ => rfl) rfl rfl
    · exact .refl _

theorem Silent.send (op : CommandOperation) (accepted : Bool) (con : Connection) :
    Silent (op.send accepted con).2 := by
  have hsent (ca : Int) (cmdObj : CommandObject) :
      Silent (con.sendCommand ca cmdObj accepted).2 := by
    unfold Connection.sendCommand
    split
    · split_ifs <;> simp [Silent, Effect.isSilent]
    · simp [Silent]
  cases op <;> exact hsent _ _

theorem publishes_sendCommand (op : CommandOperation) (now : Nat) (accepted : Bool)
    (cons : ConId → Connection) (c : Client) :
    Publishes cfg [] [] c (c.sendCommand cfg cons op now accepted).2 := by
  have htouch : Publishes cfg [] [] c (c.touch op.ca op.ioa) :=
    .unchanged (c.exchangeDefinitions.find?_touch op.ca op.ioa) rfl rfl
  have hsent : Publishes cfg [] [] c
      (((c.touch op.ca op.ioa).withBooked op now).transmitCommand cons op accepted).2 := by
    have hbooked : Publishes cfg [] [] (c.touch op.ca op.ioa)
        ((c.touch op.ca op.ioa).withBooked op now) := .unchanged (fun _ _ => rfl) rfl rfl
    refine (htouch.after hbooked).after ?_
    unfold Client.transmitCommand
    split
    · exact .emitted _ (.send op accepted _)
    · exact .refl _
  rw [sendCommand_eq]
  split_ifs
  · exact htouch
  · dsimp only
    split_ifs
    · exact hsent
    · exact hsent.after (.unchanged (fun _ _ => rfl) rfl rfl)
  · exact htouch

theorem publishes_checkOutstandingCommandTimeouts (currentTime : Nat) (c : Client) :
    Publishes cfg [] [] c (c.checkOutstandingCommandTimeouts cfg currentTime) := by
  unfold Client.checkOutstandingCommandTimeouts
  exact List.foldlRecOn (motive := Publishes cfg [] [] c) _ _ (.refl c) fun c' hc' _ _ =>
    hc'.after (.unchanged (fun _ _ => rfl) rfl rfl)

/-- The data objects of an ASDU, under the labels of their definitions. -/
def asduValues (now : Nat) (connection : ConId) (a : ASDU) (c : Client) :
    List (String × DataObject) :=
  (elementLoop cfg now connection a c).labels.zip (elementLoop cfg now connection a c).datapoints

theorem publishes_handleASDU (now : Nat) (connection : ConId) (a : ASDU) (c : Client) :
    Publishes cfg (asduValues cfg now connection a c) [] c
      (handleASDU cfg now connection a c).2 := by
  have hbegin : Publishes cfg [] [] c (beginASDU cfg a c) := by
    unfold beginASDU
    split_ifs
    · exact .updateGiStatus .inProgress c
    · exact .refl c
  have hframe := elementLoop_frame cfg now connection a c
  have hloop : Publishes cfg [] [] c (elementLoop cfg now connection a c).client := by
    refine hbegin.after ?_
    rw [beginASDU_eq]
    refine .unchanged hframe.find? ?_ hframe.out
    rw [Client.statuses, hframe.connStatus, hframe.giStatus]
    rfl
  refine hloop.before ?_
  rw [handleASDU_eq]
  have hvalue := elementLoop_do_value cfg now connection a c
  set r := elementLoop cfg now connection a c
  have hswap : (r.datapoints.zip r.labels).map (fun d => Effect.ingest d.2 (.dataObject d.1)) =
      (r.labels.zip r.datapoints).map fun d => Effect.ingest d.1 (.dataObject d.2) := by
    rw [← List.zip_swap, List.map_map]
    rfl
  have hread : ∀ d ∈ r.labels.zip r.datapoints,
      (Effect.ingest d.1 (.dataObject d.2)).value? = some d := by
    intro d hd
    have hsome : d.2.do_value.isSome :=
      Option.isSome_iff_ne_none.mpr (hvalue d.2 (List.of_mem_zip hd).2)
    simp only [Effect.value?, hsome, if_true]
  refine ⟨fun _ _ => rfl, rfl, _, rfl, ?_, ?_, ?_, ?_, fun _ => ?_⟩
  · rw [hswap, List.filterMap_map]
    exact (List.filterMap_congr hread).trans List.filterMap_some
  · rw [List.filterMap_map]
    exact List.filterMap_eq_nil_iff.mpr fun _ _ => rfl
  · rw [List.forall_mem_map]
    exact fun _ _ => trivial
  · rw [hswap, List.forall_mem_map]
    intro d hd _ _ hvalueless
    cases (hread d hd).symm.trans hvalueless
  · rw [hswap, List.foldl_map]
    exact List.foldlRecOn (motive := (· = r.client.statuses)) _ _ rfl fun known hknown _ _ => hknown

/-- The values that a step of the client publishes. -/
def readValues (s : System) : ClientInput → List (String × DataObject)
  | .asdu con a now => if con ∈ s.connections then asduValues cfg now con a s.client else []
  | _ => []

theorem publishes_connectionStep {con : ConId} {i : Input} {values : List (String × DataObject)}
    (h : con ∈ s.connections →
      Publishes cfg values [] s.client ((s.plugin con).handle cfg i).client) :
    Publishes cfg (if con ∈ s.connections then values else []) [] s.client
      (s.connectionStep cfg con i).client := by
  unfold System.connectionStep
  split_ifs with hcon
  · exact h hcon
  · exact .refl _

/-- A step of a connection that publishes no values. -/
theorem publishes_silentStep {con : ConId} {i : Input}
    (h : Publishes cfg [] [] s.client ((s.plugin con).handle cfg i).client) :
    Publishes cfg [] [] s.client (s.connectionStep cfg con i).client := by
  simpa using publishes_connectionStep cfg s fun _ => h

/-- What a step of the client publishes. -/
theorem handle_publishes (i : ClientInput) :
    Publishes cfg (readValues cfg s i) (changes s.client.connStatus (connectionStatuses s i))
      s.client (s.handle cfg redGroup i).client := by
  cases i with
  | monitoringThread timeInMs monotonicTimeInMs => exact publishes_monitoringThread ..
  | checkOutstandingCommandTimeouts currentTime =>
    exact publishes_checkOutstandingCommandTimeouts ..
  | connectionEvent con event now => exact publishes_silentStep cfg s (.refl _)
  | asdu con a now =>
    refine publishes_connectionStep cfg s fun _ => ?_
    show Publishes cfg _ [] s.client ((s.plugin con).asduReceivedHandler cfg now a).2.client
    have hreceived : Publishes cfg (asduValues cfg now con a s.client) [] s.client
        ((s.plugin con).received cfg now a).client := by
      rw [Plugin.received_client]
      exact publishes_handleASDU cfg now con a s.client
    rw [Plugin.asduReceivedHandler_eq]
    split_ifs
    · exact hreceived
    · exact hreceived.after (Plugin.publishes_unhandledASDU cfg _ now a)
  | conThread con env =>
    exact publishes_silentStep cfg s (Plugin.publishes_conThread cfg env (s.plugin con))
  | conThreadDisconnect con =>
    exact publishes_silentStep cfg s (Plugin.publishes_conThreadDisconnect cfg (s.plugin con))
  | sendCommand op now accepted => exact publishes_sendCommand ..
  | sendInterrogationCommand ca accepted =>
    simp only [System.handle, System.sendInterrogationCommand]
    split
    · exact Plugin.publishes_northInterrogation cfg (s.plugin _) ca accepted
    · exact .refl _
  | scheduleGI =>
    have hframe := Client.Frame.requestGi s.client
    refine .unchanged hframe.find? ?_ hframe.out
    rw [Client.statuses, Client.statuses, ← hframe.connStatus, ← hframe.giStatus]
    rfl
  | sendConnectionStatus => exact .sendConnectionStatus s.client

end Steps

end Iec104South
