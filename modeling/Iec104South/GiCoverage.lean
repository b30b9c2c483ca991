import Iec104South.Machine

/-!
# What a finished GI has told about every datapoint

At the ACT_TERM that finishes a GI every definition of the station group has either been read
from an interrogation response of the cycle, or is marked invalid (`giCovered_of_along`), in
every run without a response whose type matches a definition but has no handler. Such a
response takes the definition off the list of missing datapoints and is then dropped, which
leaves the datapoint with neither: `unsupported_response_uncovered`.
-/

namespace Iec104South

open Reactive

/-- A reading under `label` from an interrogation response. -/
def isGiReading (label : String) : Effect → Bool
  | .ingest assetName (.dataObject o) =>
    assetName == label && o.do_cot == CS101_COT_INTERROGATED_BY_STATION
  | _ => false

/-- What was emitted since the start of the last cycle; `none` before the first one. -/
def noteCycle (cfg : IEC104ClientConfig) (cycle : Option (List Effect)) (p : Plugin) (i : Input)
    (out : List Effect) : Option (List Effect) :=
  match i with
  | .conThread env => if p.startsCycle cfg env then some [] else cycle.map (· ++ out)
  | _ => cycle.map (· ++ out)

/-- If the ASDU finishes the GI, each station-group definition was read in the cycle, or is
marked invalid now. -/
def GiCovered (cfg : IEC104ClientConfig) (s : Plugin × Option (List Effect)) (i : Input) : Prop :=
  match i, s.2 with
  | .asdu _ _, some cycle =>
    s.1.client.giStatus ≠ .finished → (step cfg s.1 i).1.client.giStatus = .finished →
      ∀ d ∈ s.1.client.exchangeDefinitions.definitions, isInStationGroup d →
        (cycle ++ (step cfg s.1 i).2).any (isGiReading d.label) ∨
          Client.qualityUpdate IEC60870_QUALITY_INVALID d ∈ (step cfg s.1 i).2
  | _, _ => True

/-- The element matches a definition of the station group. -/
def matchesStationGroup (a : ASDU) (t : ExchangeTable) : Option InformationObject → Bool
  | some io =>
    match t.find? a.ca io.objectAddress with
    | some d => isInStationGroup d && isMessageTypeMatching d.typeId a.typeId
    | none => false
  | none => false

/-- An interrogation response of a type without a handler has an element that matches a
definition of the station group. -/
def unsupportedResponse (a : ASDU) (t : ExchangeTable) : Bool :=
  isInterrogationResponse a && (asduHandler a.typeId).isNone &&
    a.elements.any (matchesStationGroup a t)

def NoUnsupportedResponse (s : Plugin × Option (List Effect)) : Input → Prop
  | .asdu a _ => unsupportedResponse a s.1.client.exchangeDefinitions = false
  | _ => True

instance (cfg : IEC104ClientConfig) :
    ∀ (s : Plugin × Option (List Effect)) (i : Input), Decidable (GiCovered cfg s i)
  | (_, some _) | (_, none) => by
    unfold GiCovered
    exact Input.decidable

instance (s : Plugin × Option (List Effect)) : ∀ i, Decidable (NoUnsupportedResponse s i) := by
  unfold NoUnsupportedResponse
  exact Input.decidable

/-! ## The element loop -/

@[simp] theorem reply_missing (kind : ReplyKind) (now : Nat) (cot : Int)
    (oc : Option OutstandingCommand) (c : Client) :
    (c.reply kind now cot oc).listOfStationGroupDatapoints = c.listOfStationGroupDatapoints := by
  cases kind <;> simp only [Client.reply, Client.replyToCommand, Client.replyToSetpoint]
  all_goals split
  all_goals try split_ifs
  all_goals rfl

@[simp] theorem requestGi_missing (c : Client) :
    (requestGi c).listOfStationGroupDatapoints = c.listOfStationGroupDatapoints := by
  unfold requestGi
  split <;> rfl

@[simp] theorem handleLabelled_missing (cfg : IEC104ClientConfig) (now : Nat) (a : ASDU)
    (io : InformationObject) (label : String) (oc : Option OutstandingCommand) (r : AsduRun) :
    (handleLabelled cfg now a io label oc r).client.listOfStationGroupDatapoints =
      r.client.listOfStationGroupDatapoints := by
  unfold handleLabelled
  split
  · rfl
  · next handler htype =>
    dsimp only
    split_ifs <;> simp [asduHandler_client htype]

/-- A missing datapoint stays missing unless the element is its interrogation response. -/
theorem mem_receivedInGi {a : ASDU} {ioa : Int} {c : Client} {d : DataExchangeDefinition}
    (hd : d ∈ c.listOfStationGroupDatapoints) :
    d ∈ (receivedInGi a ioa c).listOfStationGroupDatapoints ∨
      (isInterrogationResponse a ∧ isInStationGroup d ∧
        c.exchangeDefinitions.find? a.ca ioa = some d) := by
  unfold receivedInGi
  split_ifs with hresponse
  · split
    · next exgDef hfind =>
      split_ifs with hgroup
      · by_cases hsame : d = exgDef
        · exact .inr ⟨hresponse, hsame ▸ hgroup, hsame ▸ hfind⟩
        · exact .inl (by simpa [Client.removeFromListOfDatapoints, hsame] using hd)
      · exact .inl hd
    · exact .inl hd
  · exact .inl hd

theorem checkExchangeDataLayer_eq_some {t : ExchangeTable} {typeId ca ioa : Int} {label : String}
    {d : DataExchangeDefinition} (hlabel : t.checkExchangeDataLayer typeId ca ioa = some label)
    (hfind : t.find? ca ioa = some d) :
    isMessageTypeMatching d.typeId typeId ∧ label = d.label := by
  simp only [ExchangeTable.checkExchangeDataLayer, hfind] at hlabel
  split_ifs at hlabel with hmatch
  exact ⟨hmatch, (Option.some.inj hlabel).symm⟩

/-- The loop of a type with a handler: what is no longer missing has a reading. -/
structure LoopCovers (missing : List DataExchangeDefinition) (r : AsduRun) : Prop where
  handled : r.handledAsdu = true
  aligned : r.datapoints.length = r.labels.length
  covered : ∀ d ∈ missing, d ∈ r.client.listOfStationGroupDatapoints ∨
    ∃ o, (o, d.label) ∈ r.datapoints.zip r.labels ∧
      o.do_cot = CS101_COT_INTERROGATED_BY_STATION

/-- An element with a label and a handler adds one data object and its label. -/
theorem handleLabelled_of_handler (cfg : IEC104ClientConfig) (now : Nat) {a : ASDU}
    (io : InformationObject) (label : String) (oc : Option OutstandingCommand) {r : AsduRun}
    (htype : (asduHandler a.typeId).isSome) (hhandled : r.handledAsdu = true) :
    (handleLabelled cfg now a io label oc r).labels = r.labels ++ [label] ∧
      ∃ o, (handleLabelled cfg now a io label oc r).datapoints = r.datapoints ++ [o] ∧
        o.do_cot = a.cot := by
  obtain ⟨handler, hhandler⟩ := Option.isSome_iff_exists.mp htype
  simp only [handleLabelled, hhandler, hhandled, if_true]
  exact ⟨trivial, _, rfl, (asduHandler_dataObject hhandler now a io oc r.client).1⟩

/-- An element with a label: its definition is no longer missing, and the handler runs. -/
theorem handleElement_of_label {cfg : IEC104ClientConfig} {now : Nat} {connection : ConId}
    {a : ASDU} {r : AsduRun} {io : InformationObject} {label : String}
    (hlabel : r.client.exchangeDefinitions.checkExchangeDataLayer a.typeId a.ca io.objectAddress =
      some label) :
    ∃ oc, handleElement cfg now connection a r (some io) =
      handleLabelled cfg now a io label oc { r with
        client := receivedInGi a io.objectAddress (r.client.touch a.ca io.objectAddress) } := by
  simp only [handleElement, handleFound, hlabel]
  exact ⟨_, rfl⟩

theorem LoopCovers.handleElement {missing : List DataExchangeDefinition} {r : AsduRun}
    (hr : LoopCovers missing r) (cfg : IEC104ClientConfig) (now : Nat) (connection : ConId)
    {a : ASDU} (htype : (asduHandler a.typeId).isSome) (e : Option InformationObject) :
    LoopCovers missing (handleElement cfg now connection a r e) := by
  have hhandled : (Iec104South.handleElement cfg now connection a r e).handledAsdu = true := by
    rw [handleElement_handledAsdu, hr.handled, htype, Bool.true_or, Bool.and_self]
  cases e with
  | none => exact hr
  | some io =>
    cases hlabel : r.client.exchangeDefinitions.checkExchangeDataLayer a.typeId a.ca
        io.objectAddress with
    | none =>
      simp only [Iec104South.handleElement, handleFound, hlabel] at hhandled ⊢
      exact ⟨hhandled, hr.aligned, hr.covered⟩
    | some label =>
      obtain ⟨oc, heq⟩ := handleElement_of_label hlabel
      rw [heq] at hhandled ⊢
      set c := receivedInGi a io.objectAddress (r.client.touch a.ca io.objectAddress)
      obtain ⟨hlabels, o, hdatapoints, hcot⟩ :=
        handleLabelled_of_handler cfg now io label oc htype (r := { r with client := c }) hr.handled
      have hzip : (r.datapoints ++ [o]).zip (r.labels ++ [label]) =
          r.datapoints.zip r.labels ++ [(o, label)] := by
        rw [List.zip_append hr.aligned]
        rfl
      refine ⟨hhandled, ?_, fun d hd => ?_⟩
      · simp [hlabels, hdatapoints, hr.aligned]
      · rw [handleLabelled_missing, hlabels, hdatapoints, hzip]
        rcases hr.covered d hd with hmissing | ⟨o', hread, hcot'⟩
        -- what the round takes off the list it reads, under the label of the definition
        · have htouched :
              d ∈ (r.client.touch a.ca io.objectAddress).listOfStationGroupDatapoints := hmissing
          refine (mem_receivedInGi htouched).imp id ?_
          rintro ⟨hresponse, -, htouchedFind⟩
          have hfind := (r.client.exchangeDefinitions.find?_touch ..).symm.trans htouchedFind
          refine ⟨o, List.mem_append_right _ ?_, hcot.trans (beq_iff_eq.mp hresponse)⟩
          rw [(checkExchangeDataLayer_eq_some hlabel hfind).2]
          exact List.mem_singleton_self _
        · exact .inr ⟨o', List.mem_append_left _ hread, hcot'⟩

/-- Without a handler nothing is read, so nothing may be taken off the list. -/
theorem handleElement_missing {cfg : IEC104ClientConfig} {now : Nat} {connection : ConId}
    {a : ASDU} {r : AsduRun} {e : Option InformationObject}
    (h : isInterrogationResponse a → matchesStationGroup a r.client.exchangeDefinitions e = false)
    {d : DataExchangeDefinition} (hd : d ∈ r.client.listOfStationGroupDatapoints) :
    d ∈ (handleElement cfg now connection a r e).client.listOfStationGroupDatapoints := by
  cases e with
  | none => exact hd
  | some io =>
    cases hlabel : r.client.exchangeDefinitions.checkExchangeDataLayer a.typeId a.ca
        io.objectAddress with
    | none =>
      simp only [handleElement, handleFound, hlabel]
      exact hd
    | some label =>
      obtain ⟨oc, heq⟩ := handleElement_of_label hlabel
      rw [heq, handleLabelled_missing]
      have htouched :
          d ∈ (r.client.touch a.ca io.objectAddress).listOfStationGroupDatapoints := hd
      refine (mem_receivedInGi htouched).resolve_right ?_
      rintro ⟨hresponse, hgroup, htouchedFind⟩
      have hfind := (r.client.exchangeDefinitions.find?_touch ..).symm.trans htouchedFind
      have hmatch := (checkExchangeDataLayer_eq_some hlabel hfind).1
      simpa [matchesStationGroup, hfind, hgroup, hmatch] using h hresponse

/-- After the element loop each datapoint that was missing is missing still, or was read. -/
theorem elementLoop_covers (cfg : IEC104ClientConfig) (now : Nat) (connection : ConId) (a : ASDU)
    (c : Client) (h : unsupportedResponse a c.exchangeDefinitions = false)
    {d : DataExchangeDefinition} (hd : d ∈ c.listOfStationGroupDatapoints) :
    let r := elementLoop cfg now connection a c
    d ∈ r.client.listOfStationGroupDatapoints ∨
      ∃ o, (o, d.label) ∈ r.datapoints.zip r.labels ∧
        o.do_cot = CS101_COT_INTERROGATED_BY_STATION := by
  cases htype : (asduHandler a.typeId).isSome with
  | true =>
    -- labels and data objects stay aligned, because no element of the ASDU is unhandled
    have hloop : LoopCovers c.listOfStationGroupDatapoints (elementLoop cfg now connection a c) :=
      elementLoop_rule (P := LoopCovers c.listOfStationGroupDatapoints)
        ⟨rfl, rfl, fun _ h => .inl h⟩ fun r hr e _ =>
          hr.handleElement cfg now connection htype e
    exact hloop.covered d hd
  | false =>
    -- the table keeps its definitions, so the condition on the elements carries through
    left
    have hloop : (∀ e ∈ a.elements, isInterrogationResponse a → matchesStationGroup a
          (elementLoop cfg now connection a c).client.exchangeDefinitions e = false) ∧
        d ∈ (elementLoop cfg now connection a c).client.listOfStationGroupDatapoints := by
      refine elementLoop_rule (P := fun r => (∀ e ∈ a.elements, isInterrogationResponse a →
        matchesStationGroup a r.client.exchangeDefinitions e = false) ∧
          d ∈ r.client.listOfStationGroupDatapoints) ⟨fun e he hresponse => ?_, hd⟩ ?_
      · by_contra hmatch
        have hunsupported : unsupportedResponse a c.exchangeDefinitions = true := by
          simp only [unsupportedResponse, hresponse, Bool.and_eq_true, List.any_eq_true]
          exact ⟨⟨trivial, by simpa using htype⟩, e, he, by simpa [enterASDU] using hmatch⟩
        rw [h] at hunsupported
        cases hunsupported
      · rintro r ⟨hnone, hr⟩ e he
        refine ⟨fun e' he' hresponse => ?_, handleElement_missing (hnone e he) hr⟩
        have hframe := Client.Frame.handleElement cfg now connection a r e
        have hsame : matchesStationGroup a
            (handleElement cfg now connection a r e).client.exchangeDefinitions e' =
            matchesStationGroup a r.client.exchangeDefinitions e' := by
          cases e' <;> simp only [matchesStationGroup, hframe.find?]
        exact hsame.trans (hnone e' he' hresponse)
    exact hloop.2

/-! ## Steps -/

namespace Plugin

variable (cfg : IEC104ClientConfig) (env : Env) (p : Plugin)

/-- The missing datapoints and the definitions of a client. -/
def missingView (p : Plugin) : List DataExchangeDefinition × List DataExchangeDefinition :=
  (p.client.listOfStationGroupDatapoints, p.client.exchangeDefinitions.definitions)

/-- The connection does not change the list of missing datapoints, and it only adds to what the
client has emitted. -/
theorem asduReceivedHandler_missingView (now : Nat) (a : ASDU) :
    (p.asduReceivedHandler cfg now a).2.missingView = (p.received cfg now a).missingView ∧
      (p.received cfg now a).client.out <+: (p.asduReceivedHandler cfg now a).2.client.out := by
  cases hreply : isGiReply a with
  | true =>
    rw [asduReceivedHandler_giReply cfg p now hreply]
    simp only [giReply, giConfirmed, giTerminated, giRejected]
    split_ifs <;> simp [missingView, List.append_assoc]
  | false =>
    obtain ⟨con', heq, -⟩ := asduReceivedHandler_other cfg p now hreply
    rw [heq]
    exact ⟨rfl, List.prefix_rfl⟩

/-- The GI part leaves the list alone or starts a cycle. -/
theorem giTasks_missingView :
    (p.giTasks cfg env).missingView = p.missingView ∨
      (p.giTasks cfg env).missingView =
        (p.client.exchangeDefinitions.definitions.filter isInStationGroup,
          p.client.exchangeDefinitions.definitions) := by
  refine giTasks_rule cfg env p (P := fun q => q.missingView = p.missingView ∨
    q.missingView = (p.client.exchangeDefinitions.definitions.filter isInStationGroup,
      p.client.exchangeDefinitions.definitions)) (.inl rfl) ?_ ?_ ?_ ?_ ?_
  · intro q hq _
    have hdefs : q.client.exchangeDefinitions.definitions =
        p.client.exchangeDefinitions.definitions := by
      rcases hq with hq | hq
      · exact congrArg Prod.snd hq
      · exact congrArg Prod.snd hq
    simp [missingView, startNewInterrogationCycle_client, hdefs]
  · exact fun q hq => hq
  · intro _ _ _ _
    simp [missingView, failGiRequest_client]
  · intro ca _ _ _ _ _
    simp [missingView, sendGiToCa_client]
  · exact fun _ _ _ _ => .inl rfl

theorem beforeGi_missingView : (p.beforeGi cfg env).missingView = p.missingView := by
  obtain ⟨-, -, -, -, -, hmissing, hdefs⟩ := giView_eq_iff.mp (beforeGi_giView cfg env p)
  simp only [missingView, hmissing, hdefs]

/-- A round that starts a cycle lists every definition of the station group. -/
theorem conThread_missingView :
    (p.startsCycle cfg env = false ∧ (p.conThread cfg env).missingView = p.missingView) ∨
      (p.conThread cfg env).missingView =
        (p.client.exchangeDefinitions.definitions.filter isInStationGroup,
          p.client.exchangeDefinitions.definitions) := by
  have hbefore := p.beforeGi_missingView cfg env
  have hdefs : (p.beforeGi cfg env).client.exchangeDefinitions.definitions =
      p.client.exchangeDefinitions.definitions := congrArg Prod.snd hbefore
  cases hstarts : p.startsCycle cfg env with
  | true =>
    right
    have hrun := runsGiTasks_of_startsCycle hstarts
    rw [conThread_connectedActive cfg env p (active_of_runsGiTasks p hrun), if_pos hrun]
    obtain ⟨q, _, hfrom, heq⟩ := (p.beforeGi cfg env).giTasks_of_startsCycle cfg env
      ((beforeGi_startsCycle cfg env p).trans hstarts)
    have hq : q.client.exchangeDefinitions = (p.beforeGi cfg env).client.exchangeDefinitions := by
      rcases hfrom with rfl | ⟨-, -, rfl⟩
      · rfl
      · rw [startNewInterrogationCycle_client]
    rw [heq]
    simp [missingView, startNewInterrogationCycle_client, hq, hdefs]
  | false =>
    rcases conThread_cases cfg env p with ⟨-, hview, -⟩ | ⟨-, -, heq⟩
    · obtain ⟨-, -, -, -, -, hmissing, hdefs⟩ := giView_eq_iff.mp hview
      exact .inl ⟨rfl, by simp only [missingView, hmissing, hdefs]⟩
    · rw [heq, ← hbefore, ← hdefs]
      exact ((p.beforeGi cfg env).giTasks_missingView cfg env).imp (⟨rfl, ·⟩) id

end Plugin

/-- Since the start of the cycle each definition of the station group is missing or was read. -/
def CoverInv (s : Plugin × Option (List Effect)) : Prop :=
  ∀ cycle, s.2 = some cycle → ∀ d ∈ s.1.client.exchangeDefinitions.definitions,
    isInStationGroup d →
      d ∈ s.1.client.listOfStationGroupDatapoints ∨ cycle.any (isGiReading d.label)

namespace CoverInv

variable {cfg : IEC104ClientConfig} {p q : Plugin} {cycle : Option (List Effect)}
  {s : Plugin × Option (List Effect)} {i : Input}

/-- A step that leaves the list alone. -/
theorem keep (hp : CoverInv (p, cycle)) (h : q.missingView = p.missingView) (out : List Effect) :
    CoverInv (q, cycle.map (· ++ out)) := by
  obtain ⟨hmissing, hdefs⟩ : q.client.listOfStationGroupDatapoints = _ ∧
      q.client.exchangeDefinitions.definitions = _ := Prod.mk.inj h
  intro cycle' hcycle d hd hgroup
  obtain ⟨before, rfl, rfl⟩ := Option.map_eq_some_iff.mp hcycle
  dsimp only at hd ⊢
  rw [hmissing]
  refine (hp before rfl d (hdefs ▸ hd) hgroup).imp id fun hread => ?_
  rw [List.any_append, hread, Bool.true_or]

/-- A step that ends with every definition of the station group missing. -/
theorem of_started (h : q.missingView =
    (p.client.exchangeDefinitions.definitions.filter isInStationGroup,
      p.client.exchangeDefinitions.definitions)) : CoverInv (q, cycle) := by
  obtain ⟨hmissing, hdefs⟩ : q.client.listOfStationGroupDatapoints = _ ∧
      q.client.exchangeDefinitions.definitions = _ := Prod.mk.inj h
  intro _ _ d hd hgroup
  left
  dsimp only at hd ⊢
  rw [hmissing]
  exact List.mem_filter.mpr ⟨hdefs ▸ hd, hgroup⟩

/-- What the client does with an ASDU: a datapoint that is no longer missing was read. -/
theorem received (hp : CoverInv (p, cycle)) (now : Nat) {a : ASDU}
    (h : unsupportedResponse a p.client.exchangeDefinitions = false) {out : List Effect}
    (hout : (p.received cfg now a).client.out <+: out) :
    CoverInv (p.received cfg now a, cycle.map (· ++ out)) := by
  intro cycle' hcycle d hd hgroup
  obtain ⟨before, rfl, rfl⟩ := Option.map_eq_some_iff.mp hcycle
  dsimp only at hd ⊢
  rw [Plugin.received_client, handleASDU_definitions] at hd
  rcases hp before rfl d hd hgroup with hmissing | hread
  · rcases elementLoop_covers cfg now p.self a p.client h hmissing with hmissing' | ⟨o, ho, hcot⟩
    · rw [Plugin.received_client, handleASDU_eq]
      exact .inl hmissing'
    · right
      have hingested :
          Effect.ingest d.label (.dataObject o) ∈ (p.received cfg now a).client.out := by
        rw [Plugin.received_client, handleASDU_out]
        exact List.mem_append_right _ (List.mem_map.mpr ⟨(o, d.label), ho, rfl⟩)
      refine List.any_eq_true.mpr ⟨_, List.mem_append_right _ (hout.subset hingested), ?_⟩
      simp [isGiReading, hcot]
  · right
    rw [List.any_append, hread, Bool.true_or]

theorem step (hs : CoverInv s) (hi : NoUnsupportedResponse s i) :
    CoverInv (watch (step cfg) (noteCycle cfg) s i).1 := by
  obtain ⟨p, cycle⟩ := s
  have hclear : CoverInv (p.clear, cycle) := hs
  show CoverInv (p.clear.handle cfg i, noteCycle cfg cycle p i (p.clear.handle cfg i).client.out)
  cases htouch : i.touchesGi with
  | false =>
    obtain ⟨-, -, -, -, -, hmissing, hdefs⟩ :=
      Plugin.giView_eq_iff.mp (Plugin.handle_giView cfg p.clear htouch)
    have hview : (p.clear.handle cfg i).missingView = p.clear.missingView := by
      simp only [Plugin.missingView, hmissing, hdefs]
    have hkeep := hclear.keep hview (p.clear.handle cfg i).client.out
    cases i with
    | connectionEvent _ _ | asdu _ _ | conThread _ => cases htouch
    | _ => exact hkeep
  | true =>
    cases i with
    | connectionEvent event now => exact hclear.keep rfl _
    | asdu a now =>
      obtain ⟨hview, hout⟩ := p.clear.asduReceivedHandler_missingView cfg now a
      have hreceived := hclear.received now hi hout
      intro cycle' hcycle d hd hgroup
      have hsame := hreceived cycle' hcycle d
      obtain ⟨hmissing, hdefs⟩ := Prod.mk.inj hview
      rw [← hmissing, ← hdefs] at hsame
      exact hsame hd hgroup
    | conThread env =>
      rcases p.clear.conThread_missingView cfg env with ⟨hnone, hview⟩ | hview
      · have hkeep := hclear.keep hview (p.clear.conThread cfg env).client.out
        have hnote : noteCycle cfg cycle p (.conThread env) (p.clear.conThread cfg env).client.out =
            cycle.map (· ++ (p.clear.conThread cfg env).client.out) := by
          simp only [noteCycle, show p.startsCycle cfg env = false from hnone, Bool.false_eq_true,
            if_false]
        exact hnote ▸ hkeep
      · exact of_started hview
    | _ => cases htouch

end CoverInv

/-- An ASDU that makes the status FINISHED terminates a running GI. -/
theorem asdu_finishes (cfg : IEC104ClientConfig) (p : Plugin) (now : Nat) (a : ASDU)
    (hbefore : p.client.giStatus ≠ .finished)
    (hafter : (p.asduReceivedHandler cfg now a).2.client.giStatus = .finished) :
    (p.asduReceivedHandler cfg now a).2 = { p.received cfg now a with
      con := { (p.received cfg now a).con with
        interrogationRequestState := .idle } }.concludeGi cfg .finished := by
  have hreceived : (p.received cfg now a).client.giStatus ≠ .finished := by
    rw [Plugin.received_giStatus, receivedGiStatus]
    split_ifs
    · simp
    · exact hbefore
  cases hreply : isGiReply a with
  | true =>
    rw [Plugin.asduReceivedHandler_giReply cfg p now hreply] at hafter ⊢
    simp only [Plugin.giReply, Plugin.giConfirmed, Plugin.giTerminated, Plugin.giRejected]
      at hafter ⊢
    split_ifs at hafter ⊢ with hcon hstate hneg hterm hstate' hrunning hrunning'
    -- the ACT_TERM of a running GI is the only branch that ends with FINISHED
    all_goals first
      | rfl
      | exact absurd hafter hreceived
      | simp at hafter
  | false =>
    obtain ⟨con', heq, -⟩ := Plugin.asduReceivedHandler_other cfg p now hreply
    rw [heq] at hafter
    exact absurd hafter hreceived

theorem giCovered_of_coverInv {cfg : IEC104ClientConfig} {s : Plugin × Option (List Effect)}
    {i : Input} (hs : CoverInv s) (hi : NoUnsupportedResponse s i) : GiCovered cfg s i := by
  obtain ⟨p, cycle⟩ := s
  have hafterInv : CoverInv (watch (step cfg) (noteCycle cfg) (p, cycle) i).1 := hs.step hi
  cases i with
  | asdu a now =>
    cases cycle with
    | none => trivial
    | some cycle =>
      intro hbefore hafter d hd hgroup
      have hfinish := asdu_finishes cfg p.clear now a hbefore hafter
      have hview := (p.clear.asduReceivedHandler_missingView cfg now a).1
      have hdefs :
          (p.clear.asduReceivedHandler cfg now a).2.client.exchangeDefinitions.definitions =
            p.client.exchangeDefinitions.definitions := by
        rw [(Prod.mk.inj hview).2, Plugin.received_client, handleASDU_definitions]
        rfl
      refine ((hafterInv _ rfl d (by rw [← hdefs] at hd; exact hd) hgroup).symm).imp id ?_
      intro hmissing
      change d ∈ (p.clear.asduReceivedHandler cfg now a).2.client.listOfStationGroupDatapoints
        at hmissing
      show _ ∈ (p.clear.asduReceivedHandler cfg now a).2.client.out
      rw [hfinish, Plugin.concludeGi_client] at hmissing ⊢
      exact List.mem_append_right _ (List.mem_map_of_mem hmissing)
  | _ => trivial

/-- In every run without unsupported responses, every GI that finishes has told about every
definition of the station group: by a reading of the cycle, or by an invalid marking. -/
theorem giCovered_of_along (cfg : IEC104ClientConfig) (t : ExchangeTable) (self : ConId)
    (is : List Input)
    (h : Along (watch (step cfg) (noteCycle cfg)) NoUnsupportedResponse (Plugin.init t self, none)
      is) :
    Along (watch (step cfg) (noteCycle cfg)) (GiCovered cfg) (Plugin.init t self, none) is :=
  along_of_invariant (fun _ _ hs hi => CoverInv.step hs hi)
    (fun _ _ hs hi => giCovered_of_coverInv hs hi) (fun _ hnone => by cases hnone) h

/-- One station with an integrated total, a type without a handler. -/
def integratedTotal : ExchangeTable :=
  .ofDatapoints [{ ca := 1, ioa := 10, typeId := M_IT_NA_1, label := "total", giGroups := 1 }]

/-- A broadcast GI with one interrogation response between ACT_CON and ACT_TERM. -/
def giWithResponse (typeId : Int) : List Input :=
  firstRequest ++ [.asdu (interrogationReply CS101_COT_ACTIVATION_CON 65535 false) 0,
    .asdu { typeId := typeId, cot := CS101_COT_INTERROGATED_BY_STATION, ca := 1, elements := [some
      { objectAddress := 10, value := .int 1, quality := 0,
        timestamp := ⟨0, false, false, false⟩ }] } 0,
    .asdu (interrogationReply CS101_COT_ACTIVATION_TERMINATION 65535 false) 0]

/-- A GI in which the one datapoint is read. -/
theorem giCovered_singlePoint :
    Along (watch (step {}) (noteCycle {})) (GiCovered {}) (Plugin.init oneStation 0, none)
      (giWithResponse M_SP_NA_1) :=
  giCovered_of_along {} oneStation 0 _ (by decide)

/-- A GI response without a handler leaves its datapoint without a value and without a mark. -/
theorem unsupported_response_uncovered :
    ¬ Along (watch (step {}) (noteCycle {})) (GiCovered {}) (Plugin.init integratedTotal 0, none)
      (giWithResponse M_IT_NA_1) := by
  decide

end Iec104South
