import Iec104South.Client

/-!
# Received ASDUs

`IEC104Client::handleASDU` with the handlers of the supported types. The handlers of
one direction differ only in the getter of the value and in whether they attach the
time tag, so each is an instance of `pointHandler`, `commandHandler` or
`setpointHandler`.
-/

namespace Iec104South

/-- `isInterrogationResponse` -/
def isInterrogationResponse (a : ASDU) : Bool := a.cot == CS101_COT_INTERROGATED_BY_STATION

def isTypeIdSingleSP (typeId : Int) : Bool :=
  typeId == M_SP_NA_1 || typeId == M_SP_TA_1 || typeId == M_SP_TB_1

def isTypeIdDoubleSP (typeId : Int) : Bool :=
  typeId == M_DP_NA_1 || typeId == M_DP_TA_1 || typeId == M_DP_TB_1

def isTypeIdSP (typeId : Int) : Bool := isTypeIdSingleSP typeId || isTypeIdDoubleSP typeId

/-! ## Handlers -/

/-- `m_createDataObject` -/
def createDataObject (a : ASDU) (ioa : Int) (value : DatapointValue) (qd : Option (BitVec 8))
    (ts : Option CP56Time2a) : DataObject where
  do_type := a.typeId
  do_ca := a.ca
  do_oa := a.oa
  do_cot := a.cot
  do_test := a.isTest
  do_negative := a.isNegative
  do_ioa := ioa
  do_value := some value
  quality := qd.map qualityAttributes
  do_ts := ts

/-- The getters of the typed information objects. The library builds the object the type
asks for, so the mismatched cases do not occur. -/
def intValue : IoValue → DatapointValue
  | .int value => .int value
  | _ => .int 0

def floatValue : IoValue → DatapointValue
  | .float bits => .float bits
  | _ => .float 0

def stepPositionValue : IoValue → DatapointValue
  | .step position transient =>
    .string ("[" ++ toString position ++ "," ++ (if transient then "true" else "false") ++ "]")
  | _ => .string "[0,false]"

/-- A handler reads the clock, the ASDU, the element and the outstanding command the
element answers, and returns the data object with the client. -/
abbrev ASDUHandler :=
  Nat → ASDU → InformationObject → Option OutstandingCommand → Client → DataObject × Client

/-- Monitored information: value, quality, and the time tag for the types that have one. -/
def pointHandler (value : IoValue → DatapointValue) (withTime : Bool) : ASDUHandler :=
  fun _ a io _ c =>
    (createDataObject a io.objectAddress (value io.value) (some io.quality)
      (if withTime then some io.timestamp else none), c)

/-- Commands that are confirmed by ACT-CON and terminated by ACT-TERM. -/
def commandHandler (value : IoValue → DatapointValue) (typeIdWithTime : Int) : ASDUHandler :=
  fun now a io outstandingCommand c =>
    (createDataObject a io.objectAddress (value io.value) none
      (if a.typeId = typeIdWithTime then some io.timestamp else none),
      Client.replyToCommand now a.cot outstandingCommand c)

/-- Setpoint commands, which are done with ACT-CON. -/
def setpointHandler (value : IoValue → DatapointValue) (typeIdWithTime : Int) : ASDUHandler :=
  fun _ a io outstandingCommand c =>
    (createDataObject a io.objectAddress (value io.value) none
      (if a.typeId = typeIdWithTime then some io.timestamp else none),
      Client.replyToSetpoint a.cot outstandingCommand c)

def handle_M_ME_NB_1 : ASDUHandler := pointHandler intValue false
def handle_M_SP_NA_1 : ASDUHandler := pointHandler intValue false
def handle_M_SP_TB_1 : ASDUHandler := pointHandler intValue true
def handle_M_DP_NA_1 : ASDUHandler := pointHandler intValue false
def handle_M_DP_TB_1 : ASDUHandler := pointHandler intValue true
def handle_M_ST_NA_1 : ASDUHandler := pointHandler stepPositionValue false
def handle_M_ST_TB_1 : ASDUHandler := pointHandler stepPositionValue true
def handle_M_ME_NA_1 : ASDUHandler := pointHandler floatValue false
def handle_M_ME_TD_1 : ASDUHandler := pointHandler floatValue true
def handle_M_ME_TE_1 : ASDUHandler := pointHandler intValue true
def handle_M_ME_NC_1 : ASDUHandler := pointHandler floatValue false
def handle_M_ME_TF_1 : ASDUHandler := pointHandler floatValue true
def handle_C_SC_NA_1 : ASDUHandler := commandHandler intValue C_SC_TA_1
def handle_C_DC_NA_1 : ASDUHandler := commandHandler intValue C_DC_TA_1
def handle_C_RC_NA_1 : ASDUHandler := commandHandler intValue C_RC_TA_1
def handle_C_SE_NA_1 : ASDUHandler := setpointHandler floatValue C_SE_TA_1
def handle_C_SE_NB_1 : ASDUHandler := setpointHandler intValue C_SE_TB_1
def handle_C_SE_NC_1 : ASDUHandler := setpointHandler floatValue C_SE_TC_1

/-- The switch of `handleASDU`; `none` is its default case. -/
def asduHandler (typeId : Int) : Option ASDUHandler :=
  match typeId with
  | M_ME_NB_1 => some handle_M_ME_NB_1
  | M_SP_NA_1 => some handle_M_SP_NA_1
  | M_SP_TB_1 => some handle_M_SP_TB_1
  | M_DP_NA_1 => some handle_M_DP_NA_1
  | M_DP_TB_1 => some handle_M_DP_TB_1
  | M_ST_NA_1 => some handle_M_ST_NA_1
  | M_ST_TB_1 => some handle_M_ST_TB_1
  | M_ME_NA_1 => some handle_M_ME_NA_1
  | M_ME_TD_1 => some handle_M_ME_TD_1
  | M_ME_TE_1 => some handle_M_ME_TE_1
  | M_ME_NC_1 => some handle_M_ME_NC_1
  | M_ME_TF_1 => some handle_M_ME_TF_1
  | C_SC_NA_1 | C_SC_TA_1 => some handle_C_SC_NA_1
  | C_DC_TA_1 | C_DC_NA_1 => some handle_C_DC_NA_1
  | C_RC_NA_1 | C_RC_TA_1 => some handle_C_RC_NA_1
  | C_SE_NA_1 | C_SE_TA_1 => some handle_C_SE_NA_1
  | C_SE_NB_1 | C_SE_TB_1 => some handle_C_SE_NB_1
  | C_SE_NC_1 | C_SE_TC_1 => some handle_C_SE_NC_1
  | _ => none

/-! ## handleASDU -/

/-- The last data object is an OFF value of a configured triggering point, and the active
connection has no GI request pending. -/
def isAsduTriggerGi (cfg : IEC104ClientConfig) (datapoints : List DataObject) (a : ASDU)
    (ioa : Int) (c : Client) : Bool :=
  cfg.isTsAddressCgTriggering a.ca ioa && isTypeIdSP a.typeId &&
    a.cot != CS101_COT_INTERROGATED_BY_STATION &&
    match datapoints.getLast? with
    | some datapoint =>
      datapoint.do_value == some (.int (if isTypeIdSingleSP a.typeId then 0 else 1)) &&
        c.activeGiRequested == some false
    | none => false

/-- `m_activeConnection->setGiRequested(true)` -/
def requestGi (c : Client) : Client :=
  match c.activeConnection with
  | some con => c.setGiRequested con true
  | none => c

/-- The local variables of `handleASDU` beside the client. -/
structure AsduRun where
  client : Client
  handledAsdu : Bool := true
  datapoints : List DataObject := []
  labels : List String := []

/-- A GI response takes its definition off the list of missing datapoints. -/
def receivedInGi (a : ASDU) (ioa : Int) (c : Client) : Client :=
  if isInterrogationResponse a then
    match c.exchangeDefinitions.find? a.ca ioa with
    | some exgDef => if isInStationGroup exgDef then c.removeFromListOfDatapoints exgDef else c
    | none => c
  else c

/-- The switch over the type, and what follows it, for an element with a label. -/
def handleLabelled (cfg : IEC104ClientConfig) (now : Nat) (a : ASDU) (io : InformationObject)
    (label : String) (outstandingCommand : Option OutstandingCommand) (r : AsduRun) : AsduRun :=
  match asduHandler a.typeId with
  | none => { r with handledAsdu := false }
  | some handler =>
    let d := handler now a io outstandingCommand r.client
    let datapoints := r.datapoints ++ [d.1]
    if r.handledAsdu then
      { client :=
          if isAsduTriggerGi cfg datapoints a io.objectAddress d.2 then requestGi d.2 else d.2
        handledAsdu := true
        datapoints := datapoints
        labels := r.labels ++ [label] }
    else { r with client := d.2, datapoints := datapoints }

/-- The outstanding command an element of the ASDU answers. -/
def outstandingCommandFor (connection : ConId) (a : ASDU) (ioa : Int) (c : Client) :
    Option OutstandingCommand :=
  if Client.isSupportedCommand a.typeId then
    c.checkForOutstandingCommand a.typeId a.ca ioa connection
  else none

/-- What a round does with an element once its label and its command are looked up. -/
def handleFound (cfg : IEC104ClientConfig) (now : Nat) (a : ASDU) (io : InformationObject)
    (label : Option String) (outstandingCommand : Option OutstandingCommand) (r : AsduRun) :
    AsduRun :=
  match label with
  | none => { r with handledAsdu := r.handledAsdu && (asduHandler a.typeId).isSome }
  | some label =>
    handleLabelled cfg now a io label outstandingCommand
      { r with client := receivedInGi a io.objectAddress r.client }

/-- One round of the element loop. -/
def handleElement (cfg : IEC104ClientConfig) (now : Nat) (connection : ConId) (a : ASDU)
    (r : AsduRun) : Option InformationObject → AsduRun
  | none => r
  | some io =>
    let ioa := io.objectAddress
    let label := r.client.exchangeDefinitions.checkExchangeDataLayer a.typeId a.ca ioa
    let c := r.client.touch a.ca ioa
    handleFound cfg now a io label (outstandingCommandFor connection a ioa c)
      { r with client := c }

/-- The head of `handleASDU`: the first interrogation response puts a started GI in progress. -/
def beginASDU (cfg : IEC104ClientConfig) (a : ASDU) (c : Client) : Client :=
  if isInterrogationResponse a && c.giStatus == .started then c.updateGiStatus cfg .inProgress
  else c

/-- Returns whether the ASDU was handled, that is, needs no treatment by the connection. -/
def handleASDU (cfg : IEC104ClientConfig) (now : Nat) (connection : ConId) (a : ASDU)
    (c : Client) : Bool × Client :=
  let r := a.elements.foldl (handleElement cfg now connection a) { client := beginASDU cfg a c }
  (r.handledAsdu, r.client.sendData r.datapoints r.labels)

/-! ## The handlers by kind -/

/-- How the replies to a command of this type are treated: `none` is no command reply. -/
inductive ReplyKind where
  | none
  | command
  | setpoint
deriving DecidableEq, Repr

def replyKind (typeId : Int) : ReplyKind :=
  match typeId with
  | C_SC_NA_1 | C_SC_TA_1 | C_DC_NA_1 | C_DC_TA_1 | C_RC_NA_1 | C_RC_TA_1 => .command
  | C_SE_NA_1 | C_SE_TA_1 | C_SE_NB_1 | C_SE_TB_1 | C_SE_NC_1 | C_SE_TC_1 => .setpoint
  | _ => .none

def Client.reply (kind : ReplyKind) (now : Nat) (cot : Int)
    (outstandingCommand : Option OutstandingCommand) (c : Client) : Client :=
  match kind with
  | .none => c
  | .command => c.replyToCommand now cot outstandingCommand
  | .setpoint => c.replyToSetpoint cot outstandingCommand

/-- What a handler does to the client depends on the kind of its type only. -/
theorem asduHandler_client {typeId : Int} {handler : ASDUHandler}
    (h : asduHandler typeId = some handler) (now : Nat) (a : ASDU) (io : InformationObject)
    (oc : Option OutstandingCommand) (c : Client) :
    (handler now a io oc c).2 = c.reply (replyKind typeId) now a.cot oc := by
  unfold asduHandler at h
  split at h <;> first | (cases h; rfl) | cases h

/-- The data object of a handler names its ASDU, and it has a value. -/
theorem asduHandler_dataObject {typeId : Int} {handler : ASDUHandler}
    (h : asduHandler typeId = some handler) (now : Nat) (a : ASDU) (io : InformationObject)
    (oc : Option OutstandingCommand) (c : Client) :
    (handler now a io oc c).1.do_cot = a.cot ∧ (handler now a io oc c).1.do_ca = a.ca ∧
      (handler now a io oc c).1.do_ioa = io.objectAddress ∧
      (handler now a io oc c).1.do_value ≠ none := by
  unfold asduHandler at h
  split at h <;> first | (cases h; exact ⟨rfl, rfl, rfl, Option.some_ne_none _⟩) | cases h

/-! ## What the element loop leaves alone

Beside the outstanding commands, the list of missing datapoints and the GI requests the
loop changes nothing but null slots of the table. -/

/-- `c'` agrees with `c` in all the element loop leaves alone. -/
structure Client.Frame (c c' : Client) : Prop where
  find? : ∀ ca ioa, c'.exchangeDefinitions.find? ca ioa = c.exchangeDefinitions.find? ca ioa
  definitions : c'.exchangeDefinitions.definitions = c.exchangeDefinitions.definitions
  nextCommandId : c'.nextCommandId = c.nextCommandId
  connStatus : c'.connStatus = c.connStatus
  giStatus : c'.giStatus = c.giStatus
  activeConnection : c'.activeConnection = c.activeConnection
  out : c'.out = c.out

namespace Client.Frame

theorem refl (c : Client) : Client.Frame c c := ⟨fun _ _ => rfl, rfl, rfl, rfl, rfl, rfl, rfl⟩

theorem trans {c₁ c₂ c₃ : Client} (h : Client.Frame c₁ c₂) (h' : Client.Frame c₂ c₃) :
    Client.Frame c₁ c₃ where
  find? ca ioa := (h'.find? ca ioa).trans (h.find? ca ioa)
  definitions := h'.definitions.trans h.definitions
  nextCommandId := h'.nextCommandId.trans h.nextCommandId
  connStatus := h'.connStatus.trans h.connStatus
  giStatus := h'.giStatus.trans h.giStatus
  activeConnection := h'.activeConnection.trans h.activeConnection
  out := h'.out.trans h.out

theorem touch (c : Client) (ca ioa : Int) :
    Client.Frame c (c.touch ca ioa) where
  find? := c.exchangeDefinitions.find?_touch ca ioa
  definitions := c.exchangeDefinitions.definitions_touch ca ioa
  nextCommandId := rfl
  connStatus := rfl
  giStatus := rfl
  activeConnection := rfl
  out := rfl

theorem reply (kind : ReplyKind) (now : Nat) (cot : Int) (oc : Option OutstandingCommand)
    (c : Client) : Client.Frame c (c.reply kind now cot oc) := by
  cases kind with
  | none => exact refl c
  | command =>
    simp only [Client.reply, Client.replyToCommand]
    split
    · exact refl c
    · split_ifs
      · exact ⟨fun _ _ => rfl, rfl, rfl, rfl, rfl, rfl, rfl⟩
      · exact ⟨fun _ _ => rfl, rfl, rfl, rfl, rfl, rfl, rfl⟩
      · exact refl c
  | setpoint =>
    simp only [Client.reply, Client.replyToSetpoint]
    split
    · exact refl c
    · split_ifs
      · exact ⟨fun _ _ => rfl, rfl, rfl, rfl, rfl, rfl, rfl⟩
      · exact refl c

theorem handler {typeId : Int} {handler : ASDUHandler} (h : asduHandler typeId = some handler)
    (now : Nat) (a : ASDU) (io : InformationObject) (oc : Option OutstandingCommand) (c : Client) :
    Client.Frame c (handler now a io oc c).2 := by
  rw [asduHandler_client h]
  exact reply ..

theorem receivedInGi (a : ASDU) (ioa : Int) (c : Client) :
    Client.Frame c (receivedInGi a ioa c) := by
  unfold Iec104South.receivedInGi
  split_ifs
  · split
    · split_ifs
      · exact ⟨fun _ _ => rfl, rfl, rfl, rfl, rfl, rfl, rfl⟩
      · exact refl c
    · exact refl c
  · exact refl c

theorem requestGi (c : Client) : Client.Frame c (requestGi c) := by
  unfold Iec104South.requestGi
  split
  · exact ⟨fun _ _ => rfl, rfl, rfl, rfl, rfl, rfl, rfl⟩
  · exact refl c

theorem handleLabelled (cfg : IEC104ClientConfig) (now : Nat) (a : ASDU) (io : InformationObject)
    (label : String) (oc : Option OutstandingCommand) (r : AsduRun) :
    Client.Frame r.client (handleLabelled cfg now a io label oc r).client := by
  unfold Iec104South.handleLabelled
  split
  · exact refl _
  · next typeHandler htype =>
    have hhandler := handler htype now a io oc r.client
    dsimp only
    split_ifs
    · exact hhandler.trans (requestGi _)
    · exact hhandler
    · exact hhandler

theorem handleElement (cfg : IEC104ClientConfig) (now : Nat) (connection : ConId) (a : ASDU)
    (r : AsduRun) (e : Option InformationObject) :
    Client.Frame r.client (handleElement cfg now connection a r e).client := by
  cases e with
  | none => exact refl _
  | some io =>
    have htouch := touch r.client a.ca io.objectAddress
    have hgi := htouch.trans (receivedInGi a io.objectAddress _)
    simp only [Iec104South.handleElement, handleFound]
    split
    · exact htouch
    · exact hgi.trans (handleLabelled cfg now a io _ _ { r with client := _ })

end Client.Frame

theorem handleLabelled_handledAsdu (cfg : IEC104ClientConfig) (now : Nat) (a : ASDU)
    (io : InformationObject) (label : String) (oc : Option OutstandingCommand) (r : AsduRun) :
    (handleLabelled cfg now a io label oc r).handledAsdu =
      (r.handledAsdu && (asduHandler a.typeId).isSome) := by
  unfold handleLabelled
  split
  · next htype => simp [htype]
  · next handler htype => split_ifs with hhandled <;> simp [htype, hhandled]

theorem handleElement_handledAsdu (cfg : IEC104ClientConfig) (now : Nat) (connection : ConId)
    (a : ASDU) (r : AsduRun) (e : Option InformationObject) :
    (handleElement cfg now connection a r e).handledAsdu =
      (r.handledAsdu && ((asduHandler a.typeId).isSome || e.isNone)) := by
  cases e with
  | none => simp [handleElement]
  | some io =>
    simp only [handleElement, handleFound, Option.isNone_some, Bool.or_false]
    split
    · rfl
    · exact handleLabelled_handledAsdu ..

/-! ## handleASDU as a whole -/

/-- The GI status after the head of `handleASDU`. -/
def receivedGiStatus (a : ASDU) (giStatus : GiStatus) : GiStatus :=
  if isInterrogationResponse a && giStatus == .started then .inProgress else giStatus

/-- The client the element loop starts with. -/
def enterASDU (cfg : IEC104ClientConfig) (a : ASDU) (c : Client) : Client :=
  { c with
    giStatus := receivedGiStatus a c.giStatus
    out := c.out ++ Client.giStatusEvents cfg c.giStatus (receivedGiStatus a c.giStatus) }

theorem beginASDU_eq (cfg : IEC104ClientConfig) (a : ASDU) (c : Client) :
    beginASDU cfg a c = enterASDU cfg a c := by
  unfold beginASDU enterASDU receivedGiStatus
  split_ifs with h
  · exact Client.updateGiStatus_eq cfg .inProgress c
  · simp [Client.giStatusEvents]

/-- The element loop of `handleASDU`. -/
def elementLoop (cfg : IEC104ClientConfig) (now : Nat) (connection : ConId) (a : ASDU)
    (c : Client) : AsduRun :=
  a.elements.foldl (handleElement cfg now connection a) { client := enterASDU cfg a c }

/-- The rule for the element loop: what holds before it and is kept by each round, holds after
it. -/
theorem elementLoop_rule {cfg : IEC104ClientConfig} {now : Nat} {connection : ConId} {a : ASDU}
    {c : Client} {P : AsduRun → Prop} (hstart : P { client := enterASDU cfg a c })
    (hround : ∀ r, P r → ∀ e ∈ a.elements, P (handleElement cfg now connection a r e)) :
    P (elementLoop cfg now connection a c) :=
  List.foldlRecOn a.elements _ hstart hround

theorem handleASDU_eq (cfg : IEC104ClientConfig) (now : Nat) (connection : ConId) (a : ASDU)
    (c : Client) :
    handleASDU cfg now connection a c =
      ((elementLoop cfg now connection a c).handledAsdu,
        (elementLoop cfg now connection a c).client.sendData
          (elementLoop cfg now connection a c).datapoints
          (elementLoop cfg now connection a c).labels) := by
  simp only [handleASDU, beginASDU_eq, elementLoop]

theorem elementLoop_frame (cfg : IEC104ClientConfig) (now : Nat) (connection : ConId) (a : ASDU)
    (c : Client) : (enterASDU cfg a c).Frame (elementLoop cfg now connection a c).client :=
  elementLoop_rule (P := fun r => (enterASDU cfg a c).Frame r.client) (Client.Frame.refl _)
    fun r hr e _ => hr.trans (Client.Frame.handleElement cfg now connection a r e)

/-- Every data object of the loop has a value. -/
theorem elementLoop_do_value (cfg : IEC104ClientConfig) (now : Nat) (connection : ConId) (a : ASDU)
    (c : Client) : ∀ o ∈ (elementLoop cfg now connection a c).datapoints, o.do_value ≠ none := by
  refine elementLoop_rule (P := fun r => ∀ o ∈ r.datapoints, o.do_value ≠ none)
    (fun _ ho => by cases ho) ?_
  intro r hr e _ o ho
  cases e with
  | none => exact hr o ho
  | some io =>
    simp only [handleElement, handleFound] at ho
    split at ho
    · exact hr o ho
    · unfold handleLabelled at ho
      split at ho
      · exact hr o ho
      · next handler htype =>
        have hread : o ∈ r.datapoints ∨ o.do_value ≠ none := by
          dsimp only at ho
          split_ifs at ho
          all_goals
            rcases List.mem_append.mp ho with hold | hnew
            · exact .inl hold
            · rw [List.mem_singleton.mp hnew]
              exact .inr (asduHandler_dataObject htype ..).2.2.2
        exact hread.elim (hr o) id

/-- An ASDU is handled if its type has a handler, and also if no element of it decodes. -/
theorem handleASDU_handled (cfg : IEC104ClientConfig) (now : Nat) (connection : ConId) (a : ASDU)
    (c : Client) :
    (handleASDU cfg now connection a c).1 =
      ((asduHandler a.typeId).isSome || a.elements.all (·.isNone)) := by
  rw [handleASDU_eq, elementLoop]
  have hfold : ∀ (elements : List (Option InformationObject)) (r : AsduRun),
      (elements.foldl (handleElement cfg now connection a) r).handledAsdu =
        (r.handledAsdu && ((asduHandler a.typeId).isSome || elements.all (·.isNone))) := by
    intro elements
    induction elements with
    | nil => simp
    | cons e elements ih =>
      intro r
      rw [List.foldl_cons, ih, handleElement_handledAsdu, Bool.and_assoc, List.all_cons,
        Bool.or_and_distrib_left]
  simpa using hfold a.elements { client := enterASDU cfg a c }

/-- The ASDU reaches the `C_IC_NA_1` case of the connection: an ASDU none of whose elements
decodes counts as handled. -/
def isGiReply (a : ASDU) : Bool := a.typeId == C_IC_NA_1 && a.elements.any (·.isSome)

theorem isGiReply_iff {a : ASDU} :
    isGiReply a ↔ a.typeId = C_IC_NA_1 ∧ ∃ e ∈ a.elements, e.isSome := by
  simp [isGiReply]

@[simp] theorem handleASDU_giStatus (cfg : IEC104ClientConfig) (now : Nat) (connection : ConId)
    (a : ASDU) (c : Client) :
    (handleASDU cfg now connection a c).2.giStatus = receivedGiStatus a c.giStatus := by
  rw [handleASDU_eq]
  exact (elementLoop_frame cfg now connection a c).giStatus

@[simp] theorem handleASDU_definitions (cfg : IEC104ClientConfig) (now : Nat)
    (connection : ConId) (a : ASDU) (c : Client) :
    (handleASDU cfg now connection a c).2.exchangeDefinitions.definitions =
      c.exchangeDefinitions.definitions := by
  rw [handleASDU_eq]
  exact (elementLoop_frame cfg now connection a c).definitions

theorem handleASDU_out (cfg : IEC104ClientConfig) (now : Nat) (connection : ConId) (a : ASDU)
    (c : Client) :
    (handleASDU cfg now connection a c).2.out =
      c.out ++ Client.giStatusEvents cfg c.giStatus (receivedGiStatus a c.giStatus) ++
        ((elementLoop cfg now connection a c).datapoints.zip
          (elementLoop cfg now connection a c).labels).map
            fun d => .ingest d.2 (.dataObject d.1) := by
  rw [handleASDU_eq]
  simp only [Client.sendData, (elementLoop_frame cfg now connection a c).out, enterASDU]

theorem giEvents_handleASDU (cfg : IEC104ClientConfig) (now : Nat) (connection : ConId)
    (a : ASDU) (c : Client) :
    giEvents (handleASDU cfg now connection a c).2.out =
      giEvents c.out ++ giEvents (Client.giStatusEvents cfg c.giStatus
        (receivedGiStatus a c.giStatus)) := by
  have hdata (l : List (DataObject × String)) :
      giEvents (l.map fun d => .ingest d.2 (.dataObject d.1)) = [] := by
    simp [giEvents, Effect.giStatus?]
  rw [handleASDU_out, giEvents_append, giEvents_append, hdata, List.append_nil]

end Iec104South
