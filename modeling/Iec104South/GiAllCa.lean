import Iec104South.GiReplies
import Iec104South.GiCoverage

/-!
# A cycle over all common addresses

With `gi_all_ca` a cycle requests one CA after the other, but the list of missing datapoints
is built once for all of them, and each ACT_TERM concludes the whole GI. So in the runs in which
every request is confirmed and terminated, the GI is concluded at the last CA only if the table
has no more than one CA, or nothing can be seen of it (`concludes_at_last_iff`).
-/

namespace Iec104South

open Reactive

/-- The configuration of an import with `gi_all_ca`: the list of CAs is that of the table. -/
def allCaConfig (cfg : IEC104ClientConfig) (t : ExchangeTable) : IEC104ClientConfig :=
  { cfg with giAllCa := true, listOfCAs := collectCAs [] t }

/-! ## What the runs are watched for -/

/-- The CA of the last request, and the CAs requested in the current cycle. -/
structure CaWatch where
  requested : Option Int := none
  interrogated : List Int := []
deriving DecidableEq, Repr

/-- The CAs of the interrogation commands the library accepted, in order. -/
def requestedCas (out : List Effect) : List Int := out.filterMap Effect.requestedCa?

def noteCas (cfg : IEC104ClientConfig) (w : CaWatch) (p : Plugin) (i : Input)
    (out : List Effect) : CaWatch where
  requested := noteRequest w.requested p i out
  interrogated :=
    match i with
    | .conThread env =>
      (if p.startsCycle cfg env then [] else w.interrogated) ++ requestedCas out
    | _ => w.interrogated

namespace Effect

/-- The CA of the datapoint that an effect marks invalid. -/
def markedCa? : Effect → Option Int
  | .ingest _ (.dataObject o) =>
    if o.do_value = none ∧ o.quality = some (qualityAttributes IEC60870_QUALITY_INVALID) then
      some o.do_ca
    else none
  | _ => none

/-- The effect publishes FINISHED or marks a datapoint invalid. -/
def concludesGi (e : Effect) : Bool := e.giStatus? == some .finished || e.markedCa?.isSome

end Effect

/-- The ACT_TERM of the last CA of the list. -/
def TerminatesLastCa (cfg : IEC104ClientConfig) (a : ASDU) : Prop :=
  a.typeId = C_IC_NA_1 ∧ a.cot = CS101_COT_ACTIVATION_TERMINATION ∧
    cfg.listOfCAs.getLast? = some a.ca

instance (cfg : IEC104ClientConfig) (a : ASDU) : Decidable (TerminatesLastCa cfg a) :=
  inferInstanceAs (Decidable (_ ∧ _ ∧ _))

/-- The GI is concluded only at the ACT_TERM of the last CA, and a datapoint of another CA is
marked only if its CA has been interrogated in the cycle. The status sent on request and the
quality of a lost connection are no conclusions of a GI. -/
def ConcludesAtLastCa (cfg : IEC104ClientConfig) (s : Plugin × CaWatch) (i : Input) : Prop :=
  match i with
  | .sendConnectionStatus => True
  | .updateQualityForAllDataObjects _ => True
  | .asdu a _ => ∀ e ∈ (step cfg s.1 i).2, e.concludesGi →
      TerminatesLastCa cfg a ∧ ∀ ca ∈ e.markedCa?, ca = a.ca ∨ ca ∈ s.2.interrogated
  | _ => ∀ e ∈ (step cfg s.1 i).2, e.concludesGi = false

/-- The round requests the next CA of the cycle, without success. -/
def Plugin.failsRequest (cfg : IEC104ClientConfig) (env : Env) (p : Plugin) : Bool :=
  p.runsGiTasks cfg && p.con.firstGISent && p.con.interrogationInProgress &&
    p.con.interrogationRequestState == .idle &&
      (cfg.listOfCAs[p.con.listOfCA_it]?).any fun ca =>
        !(p.con.sendInterrogationCommand ca env.giAccepted).1

/-- Every request is positively confirmed and terminated: it is sent, it does not time out, and
what the connection acts on is the positive ACT_CON or the ACT_TERM of the requested CA. -/
def Confirmed (cfg : IEC104ClientConfig) (s : Plugin × CaWatch) : Input → Prop
  | .asdu a _ => s.1.actsOn a → s.2.requested = some a.ca ∧
      ((a.cot = CS101_COT_ACTIVATION_CON ∧ a.isNegative = false) ∨
        a.cot = CS101_COT_ACTIVATION_TERMINATION)
  | .conThread env => s.1.timesOutGi cfg env = false ∧ s.1.failsRequest cfg env = false
  | _ => True

instance (cfg : IEC104ClientConfig) (s : Plugin × CaWatch) :
    ∀ i, Decidable (ConcludesAtLastCa cfg s i) := by
  have (a : ASDU) (e : Effect) : Decidable (TerminatesLastCa cfg a ∧
      ∀ ca ∈ e.markedCa?, ca = a.ca ∨ ca ∈ s.2.interrogated) := inferInstance
  unfold ConcludesAtLastCa
  exact Input.decidable

instance (cfg : IEC104ClientConfig) (s : Plugin × CaWatch) :
    ∀ i, Decidable (Confirmed cfg s i) := by
  unfold Confirmed
  exact Input.decidable

/-! ## What concludes a GI -/

/-- Some effect of the list concludes a GI. -/
def concludes (out : List Effect) : Bool := out.any Effect.concludesGi

theorem concludes_eq_false {out : List Effect} :
    concludes out = false ↔ ∀ e ∈ out, e.concludesGi = false := by
  simp [concludes]

@[simp] theorem concludes_nil : concludes [] = false := rfl

@[simp] theorem concludes_append (a b : List Effect) :
    concludes (a ++ b) = (concludes a || concludes b) := List.any_append

/-- A change of the status concludes when it publishes FINISHED. -/
theorem concludes_giStatusEvents (cfg : IEC104ClientConfig) (old new : GiStatus) :
    concludes (Client.giStatusEvents cfg old new) ↔
      new = .finished ∧ ¬ (old = new ∨ cfg.connxStatus.isEmpty) := by
  unfold Client.giStatusEvents
  split_ifs with h
  · exact iff_of_false Bool.false_ne_true fun hevent => hevent.2 h
  · rw [and_iff_left h]
    simp [concludes, Effect.concludesGi, Effect.giStatus?, Effect.markedCa?]

@[simp] theorem markedCa?_qualityUpdate (d : DataExchangeDefinition) :
    (Client.qualityUpdate IEC60870_QUALITY_INVALID d).markedCa? = some d.ca := by
  simp [Client.qualityUpdate, Effect.markedCa?, Client.createQualityUpdateForDataObject]

/-- What the client ingests of a received ASDU has values. -/
theorem concludes_sendData {datapoints : List DataObject} {labels : List String}
    (h : ∀ o ∈ datapoints, o.do_value ≠ none) :
    concludes ((datapoints.zip labels).map fun d => .ingest d.2 (.dataObject d.1)) = false := by
  rw [concludes_eq_false]
  intro e he
  obtain ⟨d, hd, rfl⟩ := List.mem_map.mp he
  simp [Effect.concludesGi, Effect.giStatus?, Effect.markedCa?, h d.1 (List.of_mem_zip hd).1]

@[simp] theorem concludes_sendInterrogationCommand (con : Connection) (ca : Int)
    (accepted : Bool) : concludes (con.sendInterrogationCommand ca accepted).2 = false := by
  unfold Connection.sendInterrogationCommand
  split
  · split_ifs <;> rfl
  · rfl

@[simp] theorem concludes_connectionStatusEvents (cfg : IEC104ClientConfig)
    (old new : ConnectionStatus) :
    concludes (Client.connectionStatusEvents cfg old new) = false := by
  unfold Client.connectionStatusEvents
  split_ifs <;> rfl

@[simp] theorem concludes_auditEvents (p : Plugin) (auditType : AuditType) :
    concludes (p.auditEvents auditType) = false := by
  unfold Plugin.auditEvents
  split_ifs <;> rfl

theorem concludes_map {α : Type*} (l : List α) (f : α → Effect)
    (h : ∀ x, (f x).concludesGi = false) : concludes (l.map f) = false := by
  simp [concludes, h]

/-! ## What requests a CA -/

@[simp] theorem requestedCas_nil : requestedCas [] = [] := rfl

@[simp] theorem requestedCas_append (a b : List Effect) :
    requestedCas (a ++ b) = requestedCas a ++ requestedCas b := List.filterMap_append ..

@[simp] theorem requestedCas_of_reports {out : List Effect} (h : Reports out) :
    requestedCas out = [] :=
  h.filterMap_eq_nil fun e he => by cases e <;> first | rfl | cases he

theorem requestedCas_sendInterrogationCommand (con : Connection) (ca : Int) (accepted : Bool) :
    requestedCas (con.sendInterrogationCommand ca accepted).2 =
      if (con.sendInterrogationCommand ca accepted).1 then [ca] else [] := by
  unfold Connection.sendInterrogationCommand
  split
  · by_cases hactive : con.connectionState = .connectedActive
    · cases accepted <;> simp [hactive, requestedCas, Effect.requestedCa?]
    · simp [hactive]
  · simp

/-- A round that requests a CA replaces the watched request. -/
theorem noteRequest_conThread (requested : Option Int) (p : Plugin) (env : Env)
    (out : List Effect) :
    noteRequest requested p (.conThread env) out = (requestedCas out).head?.or requested := by
  rw [requestedCas, List.head?_filterMap]
  rfl

/-! ## The list of missing datapoints -/

/-- The loop takes definitions off the list of missing datapoints and adds none. -/
theorem elementLoop_missing_subset (cfg : IEC104ClientConfig) (now : Nat) (connection : ConId)
    (a : ASDU) (c : Client) :
    (elementLoop cfg now connection a c).client.listOfStationGroupDatapoints ⊆
      c.listOfStationGroupDatapoints := by
  refine elementLoop_rule (P := fun r => r.client.listOfStationGroupDatapoints ⊆
    c.listOfStationGroupDatapoints) (List.Subset.refl _) ?_
  intro r hr e _
  cases e with
  | none => exact hr
  | some io =>
    simp only [handleElement, handleFound]
    split
    · exact hr
    · rw [handleLabelled_missing]
      refine List.Subset.trans ?_ hr
      unfold receivedInGi
      split_ifs
      · split
        · split_ifs
          · exact List.filter_subset_self _
          · exact List.Subset.refl _
        · exact List.Subset.refl _
      · exact List.Subset.refl _

/-- Only an interrogation response takes definitions off the list. -/
theorem elementLoop_missing_eq (cfg : IEC104ClientConfig) (now : Nat) (connection : ConId)
    {a : ASDU} (c : Client) (h : isInterrogationResponse a = false) :
    (elementLoop cfg now connection a c).client.listOfStationGroupDatapoints =
      c.listOfStationGroupDatapoints := by
  refine elementLoop_rule (P := fun r => r.client.listOfStationGroupDatapoints =
    c.listOfStationGroupDatapoints) rfl ?_
  intro r hr e _
  cases e with
  | none => exact hr
  | some io =>
    simp only [handleElement, handleFound]
    split
    · exact hr
    · rw [handleLabelled_missing, receivedInGi, h]
      exact hr

namespace Plugin

variable (cfg : IEC104ClientConfig) (env : Env) (p : Plugin)

theorem received_missing_subset (now : Nat) (a : ASDU) :
    (p.received cfg now a).client.listOfStationGroupDatapoints ⊆
      p.client.listOfStationGroupDatapoints := by
  rw [received_client, handleASDU_eq]
  exact elementLoop_missing_subset cfg now p.self a p.client

/-- What the client does with an ASDU concludes no GI. -/
theorem concludes_received (now : Nat) (a : ASDU) (h : concludes p.client.out = false) :
    concludes (p.received cfg now a).client.out = false := by
  have hstatus : receivedGiStatus a p.client.giStatus = .finished →
      p.client.giStatus = receivedGiStatus a p.client.giStatus := by
    unfold receivedGiStatus
    split_ifs
    · exact fun hfinished => by cases hfinished
    · exact fun _ => rfl
  have hevents : concludes (Client.giStatusEvents cfg p.client.giStatus
      (receivedGiStatus a p.client.giStatus)) = false := by
    rw [Bool.eq_false_iff, Ne, concludes_giStatusEvents]
    exact fun hevent => hevent.2 (.inl (hstatus hevent.1))
  rw [received_client, handleASDU_out, concludes_append, concludes_append, h, hevents,
    concludes_sendData (elementLoop_do_value cfg now p.self a p.client)]
  rfl

/-! ## Steps of a confirmed run -/

/-- Of the received ASDUs only an ACT_TERM the connection waits for concludes the GI. -/
theorem concludes_asduReceivedHandler (now : Nat) {a : ASDU} (hout : p.client.out = [])
    (h : p.actsOn a → (a.cot = CS101_COT_ACTIVATION_CON ∧ a.isNegative = false) ∨
      a.cot = CS101_COT_ACTIVATION_TERMINATION) {e : Effect}
    (he : e ∈ (p.asduReceivedHandler cfg now a).2.client.out) (hconcludes : e.concludesGi) :
    p.actsOn a ∧ a.typeId = C_IC_NA_1 ∧ a.cot = CS101_COT_ACTIVATION_TERMINATION ∧
      ((e.giStatus? = some .finished ∧ e.markedCa? = none ∧ cfg.connxStatus.isEmpty = false) ∨
        ∃ d ∈ p.client.listOfStationGroupDatapoints, e.markedCa? = some d.ca) := by
  have hquiet : concludes (p.received cfg now a).client.out = false :=
    p.concludes_received cfg now a (by rw [hout]; rfl)
  have hreceived := concludes_eq_false.mp hquiet
  cases hreply : isGiReply a with
  | false =>
    obtain ⟨con', heq, -⟩ := asduReceivedHandler_other cfg p now hreply
    rw [heq] at he
    exact absurd hconcludes (by simp [hreceived e he])
  | true =>
    have hpending : (p.received cfg now a).con.interrogationRequestState =
        p.con.interrogationRequestState := by
      simp [received_con]
    have hrunning := p.received_giRunning cfg now a
    rw [asduReceivedHandler_giReply cfg p now hreply] at he
    simp only [giReply, giConfirmed, giTerminated, giRejected, hpending] at he
    simp only [actsOn, hreply, Bool.true_and] at h ⊢
    split_ifs at he with hcon hstate hneg hterm hstate hrun hrun
    -- a negative ACT_CON would conclude, but `h` rules it out
    · simp [hcon, hstate, hneg] at h
    · have hevents : concludes ((p.received cfg now a).client.out ++ Client.giStatusEvents cfg
          (p.received cfg now a).client.giStatus .inProgress) = false := by
        rw [concludes_append, hquiet, Bool.false_or, Bool.eq_false_iff, Ne,
          concludes_giStatusEvents]
        exact fun hevent => by cases hevent.1
      rw [updateGiStatus_client] at he
      exact absurd hconcludes (by simp [concludes_eq_false.mp hevents e he])
    · exact absurd hconcludes (by simp [hreceived e he])
    · rw [if_neg hcon, if_pos hterm]
      refine ⟨by simp [hstate], (isGiReply_iff.mp hreply).1, hterm, ?_⟩
      rw [concludeGi_client] at he
      rcases List.mem_append.mp he with he | hmark
      · rcases List.mem_append.mp he with hold | hevent
        · exact absurd hconcludes (by simp [hreceived e hold])
        · left
          dsimp only at hevent
          unfold Client.giStatusEvents at hevent
          split_ifs at hevent with hsilent
          · cases hevent
          · rw [List.mem_singleton.mp hevent]
            exact ⟨rfl, rfl, by simpa using (not_or.mp hsilent).2⟩
      · right
        obtain ⟨d, hd, rfl⟩ := List.mem_map.mp hmark
        exact ⟨d, p.received_missing_subset cfg now a hd, markedCa?_qualityUpdate d⟩
    · exact absurd hconcludes (by simp [hreceived e he])
    · exact absurd hconcludes (by simp [hreceived e he])
    -- as it does a rejection
    · rw [if_neg hcon, if_neg hterm, ← hrunning] at h
      exact absurd (h hrun) (by simp [hcon, hterm])
    · exact absurd hconcludes (by simp [hreceived e he])

/-- What a round of the connection thread emits while every request is confirmed: nothing that
concludes the GI, and requests to the CAs of the list. -/
structure QuietRound (out : List Effect) : Prop where
  quiet : concludes out = false
  requested : ∀ ca ∈ requestedCas out, cfg.giEnabled ∧ ca ∈ cfg.listOfCAs

variable {cfg} in
theorem QuietRound.append {a b : List Effect} (ha : QuietRound cfg a) (hb : QuietRound cfg b) :
    QuietRound cfg (a ++ b) where
  quiet := by rw [concludes_append, ha.quiet, hb.quiet, Bool.or_self]
  requested ca hca := by
    rw [requestedCas_append] at hca
    exact (List.mem_append.mp hca).elim (ha.requested ca) (hb.requested ca)

variable {cfg} in
theorem QuietRound.of_noRequest {out : List Effect} (h : concludes out = false)
    (h' : requestedCas out = []) : QuietRound cfg out := by
  refine ⟨h, fun ca hca => ?_⟩
  rw [h'] at hca
  cases hca

/-- What a round emits before the GI part does not conclude the GI. -/
@[simp] theorem concludes_beforeGiEvents : concludes (p.beforeGiEvents cfg env) = false := by
  unfold beforeGiEvents timeSyncEvents
  rw [concludes_append, concludes_auditEvents]
  split_ifs <;> rfl

/-- Nor does it request a CA. -/
@[simp] theorem requestedCas_beforeGiEvents : requestedCas (p.beforeGiEvents cfg env) = [] := by
  unfold beforeGiEvents timeSyncEvents
  rw [requestedCas_append, requestedCas_of_reports (p.reports_auditEvents _)]
  split_ifs <;> rfl

theorem beforeGi_quietRound (hp : QuietRound cfg p.client.out) :
    QuietRound cfg (p.beforeGi cfg env).client.out := by
  rw [beforeGi_out]
  exact hp.append (.of_noRequest (by simp) (by simp))

theorem giTasks_quietRound (hall : cfg.giAllCa) (hrun : p.runsGiTasks cfg)
    (htimeout : p.timesOutGi cfg env = false) (hfails : p.failsRequest cfg env = false)
    (hp : QuietRound cfg p.client.out) : QuietRound cfg (p.giTasks cfg env).client.out := by
  refine giTasks_rule cfg env p (P := fun q => QuietRound cfg q.client.out) hp ?_ ?_ ?_ ?_ ?_
  · intro q hq _
    rw [startNewInterrogationCycle_client, if_pos hall]
    refine hq.append (.of_noRequest ?_ (by simp))
    rw [List.append_nil, Bool.eq_false_iff, Ne, concludes_giStatusEvents]
    rintro ⟨hfinished, hchange⟩
    unfold startedStatus at hfinished hchange
    split_ifs at hfinished hchange
    exact hchange (.inl rfl)
  · exact fun q hq => hq
  · intro hfirst hprogress hstate hlate
    simp [timesOutGi, hrun, hfirst, hprogress, hstate, hlate] at htimeout
  · intro ca _ hfirst hprogress hidle hca
    have hsent : (p.con.sendInterrogationCommand ca env.giAccepted).1 = true := by
      simpa [failsRequest, hrun, hfirst, hprogress, hidle, hca] using hfails
    have hrequest : QuietRound cfg (p.con.sendInterrogationCommand ca env.giAccepted).2 := by
      refine ⟨by simp, fun ca' hca' => ?_⟩
      rw [requestedCas_sendInterrogationCommand, if_pos hsent] at hca'
      simp only [runsGiTasks, Bool.and_eq_true] at hrun
      rw [List.mem_singleton.mp hca']
      exact ⟨hrun.1.2, List.mem_of_getElem? hca⟩
    rw [sendGiToCa_client]
    dsimp only
    rw [if_pos hsent]
    refine (hp.append hrequest).append (.of_noRequest ?_ (by simp))
    rw [Bool.eq_false_iff, Ne, concludes_giStatusEvents]
    exact fun hevent => by cases hevent.1
  · exact fun _ _ _ _ => hp

theorem conThread_quietRound (hall : cfg.giAllCa) (htimeout : p.timesOutGi cfg env = false)
    (hfails : p.failsRequest cfg env = false) (hp : QuietRound cfg p.client.out) :
    QuietRound cfg (p.conThread cfg env).client.out := by
  by_cases hactive : p.con.connectionState = .connectedActive
  · rw [conThread_connectedActive cfg env p hactive]
    have hbefore := p.beforeGi_quietRound cfg env hp
    split_ifs with hrun
    · obtain ⟨_, _, heq⟩ := p.beforeGi_eq cfg env
      rw [heq] at hbefore ⊢
      exact giTasks_quietRound cfg env _ hall hrun htimeout hfails hbefore
    · exact hbefore
  · obtain ⟨-, -, events, hevents, hclient⟩ := p.conThread_inactive cfg env hactive
    rw [hclient]
    refine hp.append (.of_noRequest (concludes_eq_false.mpr fun e he => ?_)
      (List.filterMap_eq_nil_iff.mpr fun e he => ?_))
    · have hlink := hevents e he
      cases e with
      | ingest => cases hlink
      | _ => rfl
    · have hlink := hevents e he
      cases e with
      | sendInterrogationCommand => cases hlink
      | _ => rfl

/-- The inputs that do not belong to the GI conclude none, apart from what is republished. -/
theorem concludes_handle {i : Input} (hi : i.touchesGi = false) (hout : p.client.out = []) :
    concludes (p.handle cfg i).client.out = false ∨ i = .sendConnectionStatus ∨
      ∃ qd, i = .updateQualityForAllDataObjects qd := by
  cases i with
  | connectionEvent _ _ | asdu _ _ | conThread _ => cases hi
  | sendConnectionStatus => exact .inr (.inl rfl)
  | updateQualityForAllDataObjects qd => exact .inr (.inr ⟨qd, rfl⟩)
  | conThreadDisconnect =>
    left
    simp only [handle, conThreadDisconnect]
    split_ifs
    · rw [sendConnectionStatusAudit_eq]
      simp [hout, concludes_map _ Effect.destroy fun _ => rfl]
    · simp [hout]
  | activate =>
    left
    simp only [handle, Connection.activate]
    split_ifs
    · simp [hout, concludes_map _ Effect.sendStartDT fun _ => rfl]
    · simp [hout]
  | updateConnectionStatus s => simp [handle, Client.updateConnectionStatus_eq, hout]
  | sendInterrogationCommand ca accepted =>
    left
    simp only [handle, northInterrogation]
    split_ifs
    · simp [hout]
    · simp [hout]
  | scheduleGI =>
    left
    simp only [handle, scheduleGI, requestGi]
    split <;> simp [hout, Client.setGiRequested]
  | connect | disonnect | setActiveConnection => simp [handle, hout]

end Plugin

/-- Something of a GI is published: its status, or the quality of a datapoint. -/
def PublishesGi (cfg : IEC104ClientConfig) (t : ExchangeTable) : Prop :=
  cfg.connxStatus.isEmpty = false ∨ ∃ d ∈ t.definitions, isInStationGroup d

/-! ## The invariant of confirmed runs -/

/-- Where the last request and the missing datapoints come from. -/
structure CaInv (cfg : IEC104ClientConfig) (t : ExchangeTable) (s : Plugin × CaWatch) : Prop where
  requested : ∀ ca ∈ s.2.requested, cfg.giEnabled ∧ ca ∈ cfg.listOfCAs
  definitions : s.1.client.exchangeDefinitions.definitions = t.definitions
  missing : s.1.client.listOfStationGroupDatapoints ⊆ t.definitions.filter isInStationGroup

namespace CaInv

variable {cfg : IEC104ClientConfig} {t : ExchangeTable} {s : Plugin × CaWatch} {i : Input}

theorem step (hall : cfg.giAllCa) (hs : CaInv cfg t s) (hi : Confirmed cfg s i) :
    CaInv cfg t (watch (step cfg) (noteCas cfg) s i).1 := by
  obtain ⟨p, w⟩ := s
  -- a step that is no round of the connection thread keeps the request
  have hkeep {q : Plugin} (hdefs : q.client.exchangeDefinitions.definitions = t.definitions)
      (hmissing : q.client.listOfStationGroupDatapoints ⊆ t.definitions.filter isInStationGroup)
      {w' : CaWatch} (hrequested : w'.requested = w.requested) : CaInv cfg t (q, w') :=
    ⟨fun ca hca => hs.requested ca (hrequested ▸ hca), hdefs, hmissing⟩
  cases htouch : i.touchesGi with
  | false =>
    obtain ⟨-, -, -, -, -, hmissing, hdefs⟩ :=
      Plugin.giView_eq_iff.mp (Plugin.handle_giView cfg p.clear htouch)
    have hrequested : noteRequest w.requested p i (p.clear.handle cfg i).client.out =
        w.requested := by
      cases i <;> first | rfl | cases htouch
    exact hkeep (hdefs.trans hs.definitions) (hmissing.symm ▸ hs.missing) hrequested
  | true =>
    cases i with
    | connectionEvent event now =>
      exact hkeep (q := p.clear.handle cfg (.connectionEvent event now)) hs.definitions
        hs.missing rfl
    | asdu a now =>
      obtain ⟨hmissing, hdefs⟩ :=
        Prod.mk.inj (p.clear.asduReceivedHandler_missingView cfg now a).1
      refine hkeep (hdefs.trans ?_) ?_ rfl
      · rw [Plugin.received_client, handleASDU_definitions]
        exact hs.definitions
      · exact hmissing.symm ▸
          List.Subset.trans (p.clear.received_missing_subset cfg now a) hs.missing
    | conThread env =>
      -- the start of a cycle renews the list, everything else in a round leaves it alone
      obtain ⟨htimeout, hfails⟩ := hi
      have hquiet := p.clear.conThread_quietRound cfg env hall htimeout hfails
        (.of_noRequest rfl rfl)
      have hview : (p.clear.conThread cfg env).client.exchangeDefinitions.definitions =
          t.definitions ∧
          (p.clear.conThread cfg env).client.listOfStationGroupDatapoints ⊆
            t.definitions.filter isInStationGroup := by
        rcases p.clear.conThread_missingView cfg env with ⟨-, hview⟩ | hview
        · obtain ⟨hmissing, hdefs⟩ := Prod.mk.inj hview
          exact ⟨hdefs.trans hs.definitions, hmissing.symm ▸ hs.missing⟩
        · obtain ⟨hmissing, hdefs⟩ := Prod.mk.inj hview
          rw [← hs.definitions]
          exact ⟨hdefs, hmissing.symm ▸ List.Subset.refl _⟩
      refine ⟨fun ca hca => ?_, hview.1, hview.2⟩
      change ca ∈ noteRequest w.requested p (.conThread env) _ at hca
      rw [noteRequest_conThread, Option.mem_def, Option.or_eq_some_iff] at hca
      rcases hca with hnew | ⟨-, hold⟩
      · exact hquiet.requested ca (List.mem_of_mem_head? hnew)
      · exact hs.requested ca hold
    | _ => cases htouch

/-- A confirmed run concludes the GI at the last CA if there is no other one to conclude it at,
or if GI is disabled or nothing of it is published. -/
theorem concludesAtLastCa (hall : cfg.giAllCa)
    (h : cfg.giEnabled → PublishesGi cfg t → ∀ ca ∈ cfg.listOfCAs,
      cfg.listOfCAs.getLast? = some ca ∧ ∀ d ∈ t.definitions, d.ca = ca)
    (hs : CaInv cfg t s) (hi : Confirmed cfg s i) : ConcludesAtLastCa cfg s i := by
  obtain ⟨p, w⟩ := s
  cases htouch : i.touchesGi with
  | false =>
    have hquiet := p.clear.concludes_handle cfg htouch rfl
    cases i with
    | connectionEvent _ _ | asdu _ _ | conThread _ => cases htouch
    | sendConnectionStatus | updateQualityForAllDataObjects => trivial
    | _ => exact concludes_eq_false.mp (hquiet.resolve_right (by simp))
  | true =>
    cases i with
    | connectionEvent event now => exact fun e he => by cases he
    | conThread env =>
      exact concludes_eq_false.mp (p.clear.conThread_quietRound cfg env hall hi.1 hi.2
        (.of_noRequest rfl rfl)).quiet
    | asdu a now =>
      intro e he hconcludes
      obtain ⟨hacts, htype, hcot, hkind⟩ := p.clear.concludes_asduReceivedHandler cfg now rfl
        (fun hacts => (hi hacts).2) he hconcludes
      obtain ⟨henabled, hca⟩ := hs.requested a.ca (hi hacts).1
      rcases hkind with ⟨-, hnone, hsignal⟩ | ⟨d, hd, hmark⟩
      · refine ⟨⟨htype, hcot, (h henabled (.inl hsignal) a.ca hca).1⟩, fun ca hmarked => ?_⟩
        rw [hnone] at hmarked
        cases hmarked
      · obtain ⟨hdefs, hgroup⟩ := List.mem_filter.mp (hs.missing hd)
        obtain ⟨hlast, honly⟩ := h henabled (.inr ⟨d, hdefs, hgroup⟩) a.ca hca
        refine ⟨⟨htype, hcot, hlast⟩, fun ca hmarked => .inl ?_⟩
        rw [hmark] at hmarked
        rw [← Option.some.inj hmarked]
        exact honly d hdefs
    | _ => cases htouch

end CaInv

/-! ## A confirmed run through the first CA -/

/-- The machine of an import with `gi_all_ca`, beside the watch of the CAs. -/
abbrev caMachine (cfg : IEC104ClientConfig) (t : ExchangeTable) :
    Machine (Plugin × CaWatch) Input Effect :=
  watch (step (allCaConfig cfg t)) (noteCas (allCaConfig cfg t))

namespace Plugin

/-- An active connection that has not started a cycle yet. -/
structure Ready (t : ExchangeTable) (p : Plugin) : Prop where
  active : p.con.connectionState = .connectedActive
  connection : p.con.connection.isSome
  synchronized : p.con.firstTimeSyncOperationCompleted
  firstGISent : p.con.firstGISent = false
  requestState : p.con.interrogationRequestState = .idle
  definitions : p.client.exchangeDefinitions.definitions = t.definitions

/-- A cycle over all CAs in which every datapoint of the station group is missing. -/
structure InCycle (t : ExchangeTable) (listOfCA_it : Nat) (requestState : RequestState)
    (giStatus : GiStatus) (p : Plugin) : Prop where
  active : p.con.connectionState = .connectedActive
  connection : p.con.connection.isSome
  synchronized : p.con.firstTimeSyncOperationCompleted
  firstGISent : p.con.firstGISent
  interrogationInProgress : p.con.interrogationInProgress
  requestState : p.con.interrogationRequestState = requestState
  listOfCA_it : p.con.listOfCA_it = listOfCA_it
  giStatus : p.client.giStatus = giStatus
  missing : p.client.listOfStationGroupDatapoints = t.definitions.filter isInStationGroup

variable {cfg : IEC104ClientConfig} {env : Env} {p : Plugin} {t : ExchangeTable}

theorem Ready.clear (hp : p.Ready t) : p.clear.Ready t :=
  ⟨hp.active, hp.connection, hp.synchronized, hp.firstGISent, hp.requestState, hp.definitions⟩

theorem InCycle.clear {n : Nat} {r : RequestState} {giStatus : GiStatus}
    (hp : p.InCycle t n r giStatus) : p.clear.InCycle t n r giStatus :=
  ⟨hp.active, hp.connection, hp.synchronized, hp.firstGISent, hp.interrogationInProgress,
    hp.requestState, hp.listOfCA_it, hp.giStatus, hp.missing⟩

/-- A round that reaches the GI part leaves it a connection that differs in the time
synchronisation and the audit only. -/
theorem conThread_giTasks (henabled : cfg.giEnabled)
    (hactive : p.con.connectionState = .connectedActive)
    (hsynchronized : p.con.firstTimeSyncOperationCompleted) :
    p.runsGiTasks cfg ∧ p.conThread cfg env = (p.beforeGi cfg env).giTasks cfg env := by
  have hrun : p.runsGiTasks cfg := by
    simp [runsGiTasks, henabled, hactive, hsynchronized]
  exact ⟨hrun, by rw [conThread_connectedActive cfg env p hactive, if_pos hrun]⟩

/-- The first round starts a cycle. -/
theorem Ready.start (hp : p.Ready t) (henabled : cfg.giEnabled) (hall : cfg.giAllCa)
    (hcas : cfg.listOfCAs ≠ []) : (p.conThread cfg env).InCycle t 0 .idle .started := by
  rw [(conThread_giTasks henabled hp.active hp.synchronized).2]
  obtain ⟨_, _, heq⟩ := p.beforeGi_eq cfg env
  have hstart : (p.beforeGi cfg env).giTasks cfg env =
      (p.beforeGi cfg env).startNewInterrogationCycle cfg env := by
    simp [giTasks, heq, hp.firstGISent]
  rw [hstart, heq]
  constructor <;>
    simp [startNewInterrogationCycle_con, startNewInterrogationCycle_client, broadcastSent,
      startedStatus, hall, hcas, hp.active, hp.connection, hp.synchronized, hp.requestState,
      hp.definitions]

theorem InCycle.beforeGi {n : Nat} {r : RequestState} {giStatus : GiStatus}
    (hp : p.InCycle t n r giStatus) : (p.beforeGi cfg env).InCycle t n r giStatus := by
  obtain ⟨_, _, heq⟩ := p.beforeGi_eq cfg env
  rw [heq]
  exact ⟨hp.active, hp.connection, hp.synchronized, hp.firstGISent, hp.interrogationInProgress,
    hp.requestState, hp.listOfCA_it, hp.giStatus, hp.missing⟩

theorem InCycle.sendGiToCa {n : Nat} {r : RequestState} {giStatus : GiStatus}
    (hp : p.InCycle t n r giStatus) {ca : Int}
    (hsent : (p.con.sendInterrogationCommand ca env.giAccepted).1 = true) :
    (p.sendGiToCa cfg env ca).InCycle t (n + 1) .waitActCon .started := by
  have hcon := sendGiToCa_con cfg env p ca
  have hclient := sendGiToCa_client cfg env p ca
  simp only [hsent, if_true] at hcon hclient
  constructor
  case requestState => rw [hcon]
  case giStatus => rw [hclient]
  case missing => rw [hclient]; exact hp.missing
  case listOfCA_it => rw [hcon]; exact congrArg (· + 1) hp.listOfCA_it
  all_goals rw [hcon]
  · exact hp.active
  · exact hp.connection
  · exact hp.synchronized
  · exact hp.firstGISent
  · exact hp.interrogationInProgress

variable (env) in
/-- The next round requests the CA the iterator points to. -/
theorem InCycle.request {n : Nat} {giStatus : GiStatus} (hp : p.InCycle t n .idle giStatus)
    (henabled : cfg.giEnabled) (hall : cfg.giAllCa) {ca : Int} (hca : cfg.listOfCAs[n]? = some ca)
    (haccepted : env.giAccepted) :
    (p.conThread cfg env).InCycle t (n + 1) .waitActCon .started ∧
      requestedCas (p.conThread cfg env).client.out = requestedCas p.client.out ++ [ca] := by
  rw [(conThread_giTasks henabled hp.active hp.synchronized).2]
  have hbefore : (p.beforeGi cfg env).InCycle t n .idle giStatus := hp.beforeGi
  have hsend : (p.beforeGi cfg env).giTasks cfg env =
      (p.beforeGi cfg env).sendGiToCa cfg env ca := by
    simp [giTasks, continueCycle, hall, hbefore.firstGISent, hbefore.interrogationInProgress,
      hbefore.requestState, hbefore.listOfCA_it, hca]
  have hsent : ((p.beforeGi cfg env).con.sendInterrogationCommand ca env.giAccepted).1 = true := by
    simp [sendInterrogationCommand_fst, hbefore.connection, hbefore.active, haccepted]
  rw [hsend]
  refine ⟨hbefore.sendGiToCa hsent, ?_⟩
  simp [sendGiToCa_client, hsent, requestedCas_sendInterrogationCommand, beforeGi_out]

theorem isGiReply_interrogationReply (cot ca : Int) (isNegative : Bool) :
    isGiReply (interrogationReply cot ca isNegative) := by
  rw [isGiReply_iff]
  exact ⟨rfl, _, List.mem_singleton_self _, rfl⟩

variable (cfg p) in
/-- What the client does with a reply to an interrogation command. -/
theorem received_interrogationReply (now : Nat) {cot : Int} (ca : Int) (isNegative : Bool)
    (hcot : cot ≠ CS101_COT_INTERROGATED_BY_STATION) :
    (p.received cfg now (interrogationReply cot ca isNegative)).con = p.con ∧
      (p.received cfg now (interrogationReply cot ca isNegative)).client.giStatus =
        p.client.giStatus ∧
      (p.received cfg now
          (interrogationReply cot ca isNegative)).client.listOfStationGroupDatapoints =
        p.client.listOfStationGroupDatapoints := by
  have hresponse : isInterrogationResponse (interrogationReply cot ca isNegative) = false := by
    simpa [isInterrogationResponse, interrogationReply] using hcot
  refine ⟨?_, ?_, ?_⟩
  · simp [received_con, hresponse]
  · simp [receivedGiStatus, hresponse]
  · rw [received_client, handleASDU_eq]
    exact elementLoop_missing_eq cfg now p.self p.client hresponse

variable (cfg) in
/-- The positive ACT_CON of the pending request. -/
theorem InCycle.confirm {n : Nat} {giStatus : GiStatus} (hp : p.InCycle t n .waitActCon giStatus)
    (now : Nat) (ca : Int) :
    (p.asduReceivedHandler cfg now
      (interrogationReply CS101_COT_ACTIVATION_CON ca false)).2.InCycle t n .waitActTerm
        .inProgress := by
  obtain ⟨hcon, hstatus, hmissing⟩ := received_interrogationReply cfg p now ca false
    (show CS101_COT_ACTIVATION_CON ≠ CS101_COT_INTERROGATED_BY_STATION by decide)
  rw [asduReceivedHandler_giReply cfg p now (isGiReply_interrogationReply ..), giReply,
    if_pos (show (interrogationReply CS101_COT_ACTIVATION_CON ca false).cot =
      CS101_COT_ACTIVATION_CON from rfl), giConfirmed, hcon, if_pos hp.requestState]
  exact ⟨hp.active, hp.connection, hp.synchronized, hp.firstGISent, hp.interrogationInProgress,
    rfl, hp.listOfCA_it, by simp [interrogationReply], by
      simpa [interrogationReply] using hmissing.trans hp.missing⟩

/-- The ACT_TERM of the pending request concludes the GI. -/
theorem InCycle.terminate {n : Nat} (hp : p.InCycle t n .waitActTerm .inProgress)
    (hpublishes : PublishesGi cfg t) (now : Nat) (ca : Int) :
    concludes (p.asduReceivedHandler cfg now
      (interrogationReply CS101_COT_ACTIVATION_TERMINATION ca false)).2.client.out := by
  obtain ⟨hcon, hstatus, hmissing⟩ := received_interrogationReply cfg p now ca false
    (show CS101_COT_ACTIVATION_TERMINATION ≠ CS101_COT_INTERROGATED_BY_STATION by decide)
  set q := p.received cfg now (interrogationReply CS101_COT_ACTIVATION_TERMINATION ca false)
  have hreply : (p.asduReceivedHandler cfg now
      (interrogationReply CS101_COT_ACTIVATION_TERMINATION ca false)).2 = q.giTerminated cfg :=
    asduReceivedHandler_giReply cfg p now (isGiReply_interrogationReply ..)
  have hinProgress : q.client.giStatus = .inProgress := hstatus.trans hp.giStatus
  have hterminate : q.giTerminated cfg =
      { q with con := { q.con with interrogationRequestState := .idle } }.concludeGi cfg
        .finished := by
    have hstate : q.con.interrogationRequestState = .waitActTerm := hcon ▸ hp.requestState
    simp [giTerminated, giRunning, hstate, hinProgress]
  rw [hreply, hterminate, concludeGi_client, concludes_append, concludes_append, Bool.or_eq_true,
    Bool.or_eq_true]
  rcases hpublishes with hsignal | ⟨d, hd, hgroup⟩
  · left
    right
    rw [concludes_giStatusEvents]
    simpa [hinProgress] using hsignal
  · right
    have hlisted : d ∈ q.client.listOfStationGroupDatapoints := by
      rw [hmissing, hp.missing]
      exact List.mem_filter.mpr ⟨hd, hgroup⟩
    exact List.any_eq_true.mpr ⟨_, List.mem_map_of_mem hlisted, by
      simp [Effect.concludesGi, markedCa?_qualityUpdate]⟩

end Plugin

/-! ## When every confirmed run concludes at the last CA -/

/-- Connect, open and activate a connection, and synchronise its time. -/
def openConnection : List Input :=
  [.connect, .conThread { created := some 1 }, .connectionEvent .opened 0, .activate,
    .connectionEvent .startdtConReceived 0, .asdu clockSyncConfirmation 0]

/-- Start a cycle, and have the request to its first CA confirmed and terminated. -/
def firstCaInterrogated (ca : Int) : List Input :=
  [.conThread {}, .conThread {}, .asdu (interrogationReply CS101_COT_ACTIVATION_CON ca false) 0,
    .asdu (interrogationReply CS101_COT_ACTIVATION_TERMINATION ca false) 0]

section Runs

variable (cfg : IEC104ClientConfig) (t : ExchangeTable)

theorem asduReceivedHandler_clockSync (p : Plugin) (now : Nat)
    (hsent : p.con.timeSyncCommandSent = false) :
    (p.asduReceivedHandler cfg now clockSyncConfirmation).2 =
      { p.received cfg now clockSyncConfirmation with
        con := { p.con with firstTimeSyncOperationCompleted := true } } := by
  have hcon : (p.received cfg now clockSyncConfirmation).con = p.con := by
    simp [Plugin.received_con, isInterrogationResponse, clockSyncConfirmation]
  have hreply : (p.asduReceivedHandler cfg now clockSyncConfirmation).2 =
      { p.received cfg now clockSyncConfirmation with
        con := (p.received cfg now clockSyncConfirmation).con.timeSyncReply cfg now
          clockSyncConfirmation } := by
    rw [Plugin.asduReceivedHandler_eq, handleASDU_handled]
    rfl
  rw [hreply, hcon]
  simp [Connection.timeSyncReply, hsent]

theorem openConnection_ready (self : ConId) :
    (run (step cfg) (Plugin.init t self) openConnection).Ready t := by
  let opened : Plugin :=
    { client := { exchangeDefinitions := t }
      con :=
        { connected := true
          connect := true
          connection := some 1
          connectionState := .connectedActive
          startDtSent := true
          delayExpirationTime := 10000 }
      self := self }
  have hrun : run (step cfg) (Plugin.init t self) openConnection =
      (opened.asduReceivedHandler cfg 0 clockSyncConfirmation).2 := rfl
  rw [hrun, asduReceivedHandler_clockSync cfg opened 0 rfl]
  refine ⟨rfl, rfl, rfl, rfl, rfl, ?_⟩
  rw [Plugin.received_client, handleASDU_definitions]

theorem openConnection_confirmed (self : ConId) :
    Along (caMachine cfg t) (Confirmed (allCaConfig cfg t)) (Plugin.init t self, {})
      openConnection := by
  refine ⟨trivial, ⟨rfl, rfl⟩, trivial, trivial, trivial, ?_, trivial⟩
  intro hacts
  cases hacts
/-- From a connection that has not started a cycle yet, the request to the first CA of the list
is confirmed and terminated, and the ACT_TERM concludes the GI. -/
theorem firstCaInterrogated_concludes {s : Plugin × CaWatch} (hready : s.1.Ready t)
    (henabled : cfg.giEnabled) (hall : cfg.giAllCa) (hpublishes : PublishesGi cfg t) {ca : Int}
    (hca : cfg.listOfCAs[0]? = some ca) (hlast : cfg.listOfCAs.getLast? ≠ some ca) :
    Along (watch (step cfg) (noteCas cfg)) (Confirmed cfg) s (firstCaInterrogated ca) ∧
      ¬ Along (watch (step cfg) (noteCas cfg)) (ConcludesAtLastCa cfg) s
        (firstCaInterrogated ca) := by
  obtain ⟨p, w⟩ := s
  have hcas : cfg.listOfCAs ≠ [] := fun hnil => by simp [hnil] at hca
  have hstarted : (p.clear.conThread cfg {}).InCycle t 0 .idle .started :=
    hready.clear.start henabled hall hcas
  obtain ⟨hrequested, hrequest⟩ := hstarted.clear.request {} henabled hall hca rfl
  have hconfirmed := hrequested.clear.confirm cfg 0 ca
  have hconcludes := hconfirmed.clear.terminate hpublishes 0 ca
  have hfirst : p.con.firstGISent = false := hready.firstGISent
  -- the replies leave the watched request alone
  have hnoted (requested : Option Int) : noteRequest requested (p.clear.conThread cfg {})
      (.conThread {}) ((p.clear.conThread cfg {}).clear.conThread cfg {}).client.out = some ca := by
    rw [noteRequest_conThread, hrequest]
    rfl
  constructor
  · refine ⟨⟨?_, ?_⟩, ⟨?_, ?_⟩, fun _ => ⟨?_, .inl ⟨rfl, rfl⟩⟩, fun _ => ⟨?_, .inr rfl⟩, trivial⟩
    · simp [Plugin.timesOutGi, hfirst]
    · simp [Plugin.failsRequest, hfirst]
    · show (p.clear.conThread cfg {}).timesOutGi cfg {} = false
      simp [Plugin.timesOutGi, hstarted.requestState]
    · show (p.clear.conThread cfg {}).failsRequest cfg {} = false
      simp [Plugin.failsRequest, Plugin.sendInterrogationCommand_fst, hstarted.connection,
        hstarted.active, hstarted.listOfCA_it, hca]
    · exact hnoted _
    · exact hnoted _
  · rintro ⟨-, -, -, hterminate, -⟩
    obtain ⟨e, he, hend⟩ := List.any_eq_true.mp hconcludes
    exact hlast (hterminate e he hend).1.2.2

/-- With a second CA and something to see of the GI, a confirmed run does not conclude it at
the last CA. -/
theorem exists_confirmed_run (self : ConId) (henabled : cfg.giEnabled)
    (hpublishes : PublishesGi cfg t) {ca : Int} (hca : (allCaConfig cfg t).listOfCAs[0]? = some ca)
    (hlast : (allCaConfig cfg t).listOfCAs.getLast? ≠ some ca) :
    ∃ is, Along (caMachine cfg t) (Confirmed (allCaConfig cfg t)) (Plugin.init t self, {}) is ∧
      ¬ Along (caMachine cfg t) (ConcludesAtLastCa (allCaConfig cfg t))
        (Plugin.init t self, {}) is := by
  have hready : (run (caMachine cfg t) (Plugin.init t self, {}) openConnection).1.Ready t := by
    rw [run_watch_fst]
    exact openConnection_ready (allCaConfig cfg t) t self
  obtain ⟨hconfirmed, hviolated⟩ := firstCaInterrogated_concludes (allCaConfig cfg t) t hready
    henabled rfl hpublishes hca hlast
  refine ⟨openConnection ++ firstCaInterrogated ca, ?_, fun hconcludes => ?_⟩
  · exact along_append.mpr ⟨openConnection_confirmed cfg t self, hconfirmed⟩
  · exact hviolated (along_append.mp hconcludes).2

variable {t} in
/-- The keys of a table are distinct, so the first of several CAs is not the last one. -/
theorem getLast?_ne_of_first (hmany : 1 < t.cas.length) {ca : Int} (hfirst : t.cas[0]? = some ca) :
    t.cas.getLast? ≠ some ca := by
  intro hlast
  have hnodup : t.cas.Nodup := t.map.keys_nodup
  match hlist : t.cas with
  | [] | [_] =>
    simp [hlist] at hmany
  | x :: y :: rest =>
    rw [hlist] at hfirst hlast hnodup
    have hrest : ca ∈ y :: rest := List.mem_of_getLast? (by simpa using hlast)
    exact (List.nodup_cons.mp hnodup).1 (Option.some.inj hfirst ▸ hrest)

variable {t} in
/-- The only CA is the last one, and the one of every definition. -/
theorem last_of_length_le_one (hone : t.cas.length ≤ 1) {ca : Int} (hca : ca ∈ t.cas) :
    t.cas.getLast? = some ca ∧ ∀ d ∈ t.definitions, d.ca = ca := by
  have hsingle : t.cas = [ca] := by
    obtain ⟨x, hx⟩ := List.length_eq_one_iff.mp (le_antisymm hone (List.length_pos_of_mem hca))
    rw [hx] at hca ⊢
    rw [List.mem_singleton.mp hca]
  rw [hsingle]
  refine ⟨rfl, fun d hd => ?_⟩
  have hdca := ExchangeTable.mem_cas_of_mem_definitions hd
  rw [hsingle] at hdca
  exact List.mem_singleton.mp hdca

/-- Every run in which all requests are confirmed and terminated concludes the GI at the last CA
only, if and only if GI is disabled, there is at most one CA, or nothing of a GI is published. -/
theorem concludes_at_last_iff (self : ConId) :
    (∀ is, Along (caMachine cfg t) (Confirmed (allCaConfig cfg t)) (Plugin.init t self, {}) is →
      Along (caMachine cfg t) (ConcludesAtLastCa (allCaConfig cfg t))
        (Plugin.init t self, {}) is) ↔
      cfg.giEnabled = false ∨ t.cas.length ≤ 1 ∨ ¬ PublishesGi cfg t := by
  have hcas : (allCaConfig cfg t).listOfCAs = t.cas := collectCAs_nil t
  constructor
  · intro hall
    by_contra hcond
    obtain ⟨henabled, hmany, hpublishes⟩ := by simpa only [not_or, not_not] using hcond
    obtain ⟨ca, hca⟩ : ∃ ca, t.cas[0]? = some ca := ⟨_, List.getElem?_eq_getElem (by omega)⟩
    have hlast := getLast?_ne_of_first (not_le.mp hmany) hca
    obtain ⟨is, hconfirmed, hviolated⟩ := exists_confirmed_run cfg t self (by simpa using henabled)
      hpublishes (hcas.symm ▸ hca) (hcas.symm ▸ hlast)
    exact hviolated (hall is hconfirmed)
  · intro hcond is hconfirmed
    have honly : cfg.giEnabled → PublishesGi cfg t → ∀ ca ∈ t.cas,
        t.cas.getLast? = some ca ∧ ∀ d ∈ t.definitions, d.ca = ca := by
      intro henabled hpublishes ca hca
      rcases hcond with hdisabled | hone | hsilent
      · rw [hdisabled] at henabled
        cases henabled
      · exact last_of_length_le_one hone hca
      · exact absurd hpublishes hsilent
    refine along_of_invariant (I := CaInv (allCaConfig cfg t) t)
      (fun _ _ hs hi => hs.step rfl hi)
      (fun _ _ hs hi => hs.concludesAtLastCa rfl (hcas.symm ▸ honly) hi) ?_ hconfirmed
    refine ⟨fun ca hca => ?_, rfl, List.nil_subset _⟩
    cases hca

end Runs

/-- Two stations with a single point each. -/
def twoStations : ExchangeTable :=
  .ofDatapoints [{ ca := 1, ioa := 10, typeId := M_SP_NA_1, label := "p", giGroups := 1 },
    { ca := 2, ioa := 10, typeId := M_SP_NA_1, label := "q", giGroups := 1 }]

/-- The ACT_TERM of the first of two CAs marks the datapoints of both. -/
theorem first_termination_concludes :
    ¬ ∀ is, Along (caMachine {} twoStations) (Confirmed (allCaConfig {} twoStations))
        (Plugin.init twoStations 0, {}) is →
      Along (caMachine {} twoStations) (ConcludesAtLastCa (allCaConfig {} twoStations))
        (Plugin.init twoStations 0, {}) is := by
  intro h
  exact absurd (h (openConnection ++ firstCaInterrogated 1) (by decide)) (by decide)

end Iec104South
