import Iec104South.TypeMatching
import Iec104South.HandleAsdu

/-!
# The GI trigger of received ASDUs

`handleASDU` requests a GI inside its element loop, after a look at the last data object
collected so far. What it should do is said without the loop: the active connection is asked
for a GI if some element is the OFF value of a triggering point (`TriggersGi`), and nothing else
depends on the triggering points. So the loop is run beside one that knows no triggering
points (`withoutTriggers`).
-/

namespace Iec104South

/-- The OFF value of a single or a double point, in a type that has a handler. -/
def isOffValue (typeId : Int) (value : IoValue) : Bool :=
  (typeId == M_SP_NA_1 || typeId == M_SP_TB_1) && intValue value == .int 0 ||
    (typeId == M_DP_NA_1 || typeId == M_DP_TB_1) && intValue value == .int 1

/-- The element is the OFF value of a triggering point with a matching definition. -/
def elementTriggers (cfg : IEC104ClientConfig) (t : ExchangeTable) (a : ASDU) :
    Option InformationObject → Prop
  | none => False
  | some io =>
    t.Accepts a.typeId a.ca io.objectAddress ∧
      (a.ca, io.objectAddress) ∈ cfg.cgTriggeringTsAdresses ∧ isOffValue a.typeId io.value

instance (cfg : IEC104ClientConfig) (t : ExchangeTable) (a : ASDU) :
    ∀ e, Decidable (elementTriggers cfg t a e)
  | none => inferInstanceAs (Decidable False)
  | some _ => inferInstanceAs (Decidable (_ ∧ _))

/-- The ASDU asks for a GI. -/
def TriggersGi (cfg : IEC104ClientConfig) (t : ExchangeTable) (a : ASDU) : Prop :=
  a.cot ≠ CS101_COT_INTERROGATED_BY_STATION ∧ ∃ e ∈ a.elements, elementTriggers cfg t a e

instance (cfg : IEC104ClientConfig) (t : ExchangeTable) (a : ASDU) :
    Decidable (TriggersGi cfg t a) :=
  inferInstanceAs (Decidable (_ ∧ _))

/-- The configuration without triggering points. -/
def IEC104ClientConfig.withoutTriggers (cfg : IEC104ClientConfig) : IEC104ClientConfig :=
  { cfg with cgTriggeringTsAdresses := [] }

/-- The requests after the active connection is asked for a GI, if `triggers` holds. -/
def askActive (activeConnection : Option ConId) (triggers : Bool) (giRequested : ConId → Bool) :
    ConId → Bool :=
  match activeConnection with
  | some con => Function.update giRequested con (giRequested con || triggers)
  | none => giRequested

@[simp] theorem askActive_false (activeConnection : Option ConId) (giRequested : ConId → Bool) :
    askActive activeConnection false giRequested = giRequested := by
  cases activeConnection with
  | none => rfl
  | some con => simp [askActive]

theorem askActive_askActive (activeConnection : Option ConId) (b b' : Bool)
    (giRequested : ConId → Bool) :
    askActive activeConnection b' (askActive activeConnection b giRequested) =
      askActive activeConnection (b || b') giRequested := by
  cases activeConnection with
  | none => rfl
  | some con => simp [askActive, Bool.or_assoc]

/-! ## A round does not look at the requests -/

namespace Client

def withGiRequested (giRequested : ConId → Bool) (c : Client) : Client :=
  { c with giRequested := giRequested }

variable (g : ConId → Bool) (c : Client)

theorem requestGi_withGiRequested :
    requestGi (c.withGiRequested g) =
      c.withGiRequested (askActive c.activeConnection true g) := by
  unfold requestGi askActive withGiRequested
  cases hactive : c.activeConnection with
  | none => simp
  | some con => simp [setGiRequested]

theorem receivedInGi_withGiRequested (a : ASDU) (ioa : Int) :
    receivedInGi a ioa (c.withGiRequested g) = (receivedInGi a ioa c).withGiRequested g := by
  unfold receivedInGi withGiRequested
  dsimp only
  split_ifs
  · split
    · split_ifs <;> rfl
    · rfl
  · rfl

theorem reply_withGiRequested (kind : ReplyKind) (now : Nat) (cot : Int)
    (oc : Option OutstandingCommand) :
    (c.withGiRequested g).reply kind now cot oc = (c.reply kind now cot oc).withGiRequested g := by
  cases oc with
  | none => cases kind <;> rfl
  | some command =>
    cases kind with
    | none => rfl
    | command =>
      simp only [reply, replyToCommand]
      split_ifs <;> rfl
    | setpoint =>
      simp only [reply, replyToSetpoint]
      split_ifs <;> rfl

end Client

theorem asduHandler_withGiRequested {typeId : Int} {handler : ASDUHandler}
    (h : asduHandler typeId = some handler) (now : Nat) (a : ASDU) (io : InformationObject)
    (oc : Option OutstandingCommand) (g : ConId → Bool) (c : Client) :
    handler now a io oc (c.withGiRequested g) =
      ((handler now a io oc c).1, (handler now a io oc c).2.withGiRequested g) := by
  refine Prod.ext ?_ ?_
  · unfold asduHandler at h
    split at h <;> first | (cases h; rfl) | cases h
  · rw [asduHandler_client h, asduHandler_client h]
    exact c.reply_withGiRequested g ..

/-! ## The rounds of the two loops -/

/-- The element is the OFF value of a triggering point, in an ASDU that can trigger. -/
def isOffPoint (cfg : IEC104ClientConfig) (a : ASDU) (io : InformationObject) : Bool :=
  a.cot != CS101_COT_INTERROGATED_BY_STATION &&
    cfg.isTsAddressCgTriggering a.ca io.objectAddress && isOffValue a.typeId io.value

/-- The value of the data object of a point with a handler decides like the element's. -/
theorem asduHandler_isOffValue {typeId : Int} {handler : ASDUHandler}
    (h : asduHandler typeId = some handler) (now : Nat) (a : ASDU) (io : InformationObject)
    (oc : Option OutstandingCommand) (c : Client) :
    (isTypeIdSP typeId &&
        ((handler now a io oc c).1.do_value ==
          some (.int (if isTypeIdSingleSP typeId then 0 else 1)))) =
      isOffValue typeId io.value := by
  unfold asduHandler at h
  split at h
  case h_25 => cases h
  all_goals
    cases h
    first | rfl | exact (Bool.or_false _).symm

/-- The types of the OFF values have handlers. -/
theorem asduHandler_of_isOffValue {typeId : Int} {value : IoValue} (h : isOffValue typeId value) :
    (asduHandler typeId).isSome := by
  simp only [isOffValue, Bool.and_eq_true, Bool.or_eq_true, beq_iff_eq] at h
  rcases h with ⟨rfl | rfl, -⟩ | ⟨rfl | rfl, -⟩ <;> rfl

/-- The last data object is the one of the current element, so the search for its value finds
the value of the element. -/
theorem isAsduTriggerGi_eq {cfg : IEC104ClientConfig} {a : ASDU} {handler : ASDUHandler}
    (h : asduHandler a.typeId = some handler) (now : Nat) (io : InformationObject)
    (oc : Option OutstandingCommand) (datapoints : List DataObject) (c c' : Client) :
    isAsduTriggerGi cfg (datapoints ++ [(handler now a io oc c).1]) a io.objectAddress c' =
      (isOffPoint cfg a io && c'.activeGiRequested == some false) := by
  have hvalue := asduHandler_isOffValue h now a io oc c
  simp only [isAsduTriggerGi, List.getLast?_concat, isOffPoint, ← hvalue]
  cases cfg.isTsAddressCgTriggering a.ca io.objectAddress <;> cases isTypeIdSP a.typeId <;>
    simp [Bool.and_assoc]

theorem isOffPoint_of_asduHandler {cfg : IEC104ClientConfig} {a : ASDU} (io : InformationObject)
    (h : asduHandler a.typeId = none) : isOffPoint cfg a io = false := by
  by_contra hoff
  rw [Bool.not_eq_false, isOffPoint, Bool.and_eq_true] at hoff
  have hsome := asduHandler_of_isOffValue hoff.2
  rw [h] at hsome
  cases hsome

/-- A request that is pending already is left alone, which is the same as asking again. -/
theorem requestGi_unless_pending (g : ConId → Bool) (c : Client) (off : Bool) :
    (if off && (c.withGiRequested g).activeGiRequested == some false then
        requestGi (c.withGiRequested g)
      else c.withGiRequested g) =
      c.withGiRequested (askActive c.activeConnection off g) := by
  rw [Client.requestGi_withGiRequested]
  have hpending : (c.withGiRequested g).activeGiRequested = c.activeConnection.map g := rfl
  rw [hpending]
  cases off with
  | false => simp
  | true =>
    cases c.activeConnection with
    | none => simp [askActive]
    | some con =>
      cases hcon : g con with
      | false => simp [hcon]
      | true =>
        have hsame : Function.update g con true = g := by
          rw [← hcon, Function.update_eq_self]
        simp [hcon, askActive, hsame]

def AsduRun.withGiRequested (g : ConId → Bool) (r : AsduRun) : AsduRun :=
  { r with client := r.client.withGiRequested g }

/-- The trigger at the end of a round, beside the same round without triggers. -/
theorem handleLabelled_withGiRequested {cfg : IEC104ClientConfig} {a : ASDU} {r : AsduRun}
    (hhandled : (asduHandler a.typeId).isSome → r.handledAsdu) (now : Nat)
    (io : InformationObject) (label : String) (oc : Option OutstandingCommand)
    (g : ConId → Bool) :
    handleLabelled cfg now a io label oc (r.withGiRequested g) =
      (handleLabelled cfg.withoutTriggers now a io label oc r).withGiRequested
        (askActive r.client.activeConnection (isOffPoint cfg a io) g) := by
  unfold handleLabelled
  cases htype : asduHandler a.typeId with
  | none =>
    simp only [isOffPoint_of_asduHandler io htype, askActive_false]
    rfl
  | some handler =>
    have hfirst : r.handledAsdu = true := hhandled (by rw [htype]; rfl)
    have hnever : ∀ datapoints c, isAsduTriggerGi cfg.withoutTriggers datapoints a
        io.objectAddress c = false := by
      intro datapoints c
      simp [isAsduTriggerGi, IEC104ClientConfig.withoutTriggers,
        IEC104ClientConfig.isTsAddressCgTriggering]
    have hactive : (handler now a io oc r.client).2.activeConnection =
        r.client.activeConnection :=
      (Client.Frame.handler htype now a io oc r.client).activeConnection
    have hask : (if isAsduTriggerGi cfg (r.datapoints ++ [(handler now a io oc r.client).1]) a
          io.objectAddress ((handler now a io oc r.client).2.withGiRequested g) then
        requestGi ((handler now a io oc r.client).2.withGiRequested g)
        else (handler now a io oc r.client).2.withGiRequested g) =
        (handler now a io oc r.client).2.withGiRequested
          (askActive r.client.activeConnection (isOffPoint cfg a io) g) := by
      rw [isAsduTriggerGi_eq htype, requestGi_unless_pending, hactive]
    simp only [AsduRun.withGiRequested, hfirst, if_true, hnever, Bool.false_eq_true, if_false,
      asduHandler_withGiRequested htype, hask]

/-- A round beside the round of a loop without triggers. -/
theorem handleElement_withGiRequested {cfg : IEC104ClientConfig} {a : ASDU} {r : AsduRun}
    (hhandled : (asduHandler a.typeId).isSome → r.handledAsdu) (now : Nat) (connection : ConId)
    (e : Option InformationObject) (g : ConId → Bool) :
    handleElement cfg now connection a (r.withGiRequested g) e =
      (handleElement cfg.withoutTriggers now connection a r e).withGiRequested
        (askActive r.client.activeConnection
          (a.cot != CS101_COT_INTERROGATED_BY_STATION &&
            decide (elementTriggers cfg r.client.exchangeDefinitions a e)) g) := by
  cases e with
  | none =>
    have hno : ¬elementTriggers cfg r.client.exchangeDefinitions a none := id
    rw [decide_eq_false hno, Bool.and_false, askActive_false]
    rfl
  | some io =>
    set c := r.client.touch a.ca io.objectAddress
    show handleFound cfg now a io
        (r.client.exchangeDefinitions.checkExchangeDataLayer a.typeId a.ca io.objectAddress)
        (outstandingCommandFor connection a io.objectAddress c)
        ({ r with client := c }.withGiRequested g) =
      (handleFound cfg.withoutTriggers now a io
        (r.client.exchangeDefinitions.checkExchangeDataLayer a.typeId a.ca io.objectAddress)
        (outstandingCommandFor connection a io.objectAddress c)
        { r with client := c }).withGiRequested _
    cases hlabel : r.client.exchangeDefinitions.checkExchangeDataLayer a.typeId a.ca
        io.objectAddress with
    | none =>
      have hno : ¬elementTriggers cfg r.client.exchangeDefinitions a (some io) := by
        rintro ⟨haccepts, -⟩
        rw [ExchangeTable.Accepts, hlabel] at haccepts
        cases haccepts
      rw [decide_eq_false hno, Bool.and_false, askActive_false]
      rfl
    | some label =>
      have hpoint : isOffPoint cfg a io =
          (a.cot != CS101_COT_INTERROGATED_BY_STATION &&
            decide (elementTriggers cfg r.client.exchangeDefinitions a (some io))) := by
        simp [isOffPoint, elementTriggers, ExchangeTable.Accepts, hlabel,
          IEC104ClientConfig.isTsAddressCgTriggering, Bool.and_assoc]
      have hframe := Client.Frame.receivedInGi a io.objectAddress c
      have hround := @handleLabelled_withGiRequested cfg a
        { r with client := receivedInGi a io.objectAddress c } hhandled now io label
        (outstandingCommandFor connection a io.objectAddress c) g
      rw [hframe.activeConnection] at hround
      rw [← hpoint]
      refine (congrArg (fun c' => handleLabelled cfg now a io label
        (outstandingCommandFor connection a io.objectAddress c) { r with client := c' }) ?_).trans
        hround
      exact c.receivedInGi_withGiRequested g a io.objectAddress

theorem elementTriggers_congr {t t' : ExchangeTable}
    (h : ∀ ca ioa, t'.find? ca ioa = t.find? ca ioa) (cfg : IEC104ClientConfig) (a : ASDU)
    (e : Option InformationObject) : elementTriggers cfg t' a e ↔ elementTriggers cfg t a e := by
  cases e with
  | none => exact Iff.rfl
  | some io =>
    simp only [elementTriggers, ExchangeTable.Accepts, ExchangeTable.checkExchangeDataLayer, h]

/-! ## handleASDU as a whole -/

/-- The element loop beside the loop without triggers. -/
theorem foldl_withGiRequested {cfg : IEC104ClientConfig} {a : ASDU} {t : ExchangeTable}
    (now : Nat) (connection : ConId) (elements : List (Option InformationObject)) :
    ∀ (r : AsduRun) (g : ConId → Bool),
      ((asduHandler a.typeId).isSome → r.handledAsdu) →
      (∀ ca ioa, r.client.exchangeDefinitions.find? ca ioa = t.find? ca ioa) →
      elements.foldl (handleElement cfg now connection a) (r.withGiRequested g) =
        (elements.foldl (handleElement cfg.withoutTriggers now connection a) r).withGiRequested
          (askActive r.client.activeConnection
            (a.cot != CS101_COT_INTERROGATED_BY_STATION &&
              decide (∃ e ∈ elements, elementTriggers cfg t a e)) g) := by
  induction elements with
  | nil =>
    intro r g _ _
    simp
  | cons e elements ih =>
    intro r g hhandled hfind
    have hframe := Client.Frame.handleElement cfg.withoutTriggers now connection a r e
    have hnext : (asduHandler a.typeId).isSome →
        (handleElement cfg.withoutTriggers now connection a r e).handledAsdu := by
      intro hsome
      rw [handleElement_handledAsdu, hhandled hsome, hsome]
      rfl
    rw [List.foldl_cons, List.foldl_cons, handleElement_withGiRequested hhandled,
      ih _ _ hnext fun ca ioa => (hframe.find? ca ioa).trans (hfind ca ioa),
      hframe.activeConnection, askActive_askActive, ← Bool.and_or_distrib_left]
    simp only [elementTriggers_congr hfind, List.exists_mem_cons_iff, Bool.decide_or]

theorem elementLoop_withGiRequested (cfg : IEC104ClientConfig) (now : Nat) (connection : ConId)
    (a : ASDU) (c : Client) :
    elementLoop cfg now connection a c =
      (elementLoop cfg.withoutTriggers now connection a c).withGiRequested
        (askActive c.activeConnection (decide (TriggersGi cfg c.exchangeDefinitions a))
          c.giRequested) := by
  have htriggers : decide (TriggersGi cfg c.exchangeDefinitions a) =
      (a.cot != CS101_COT_INTERROGATED_BY_STATION &&
        decide (∃ e ∈ a.elements, elementTriggers cfg c.exchangeDefinitions a e)) := by
    rw [Bool.eq_iff_iff, decide_eq_true_iff, Bool.and_eq_true, bne_iff_ne, decide_eq_true_iff]
    rfl
  rw [htriggers]
  exact foldl_withGiRequested now connection a.elements { client := enterASDU cfg a c }
    c.giRequested (fun _ => rfl) fun _ _ => rfl

/-- Without triggering points the loop leaves the requests alone. -/
theorem elementLoop_withoutTriggers (cfg : IEC104ClientConfig) (now : Nat) (connection : ConId)
    (a : ASDU) (c : Client) :
    (elementLoop cfg.withoutTriggers now connection a c).client.giRequested = c.giRequested := by
  have hnever : ¬TriggersGi cfg.withoutTriggers c.exchangeDefinitions a := by
    rintro ⟨-, e, -, he⟩
    cases e with
    | none => exact he
    | some io => exact List.not_mem_nil he.2.1
  rw [elementLoop_withGiRequested, decide_eq_false hnever, askActive_false]
  rfl

theorem handleASDU_withGiRequested (cfg : IEC104ClientConfig) (now : Nat) (connection : ConId)
    (a : ASDU) (c : Client) :
    handleASDU cfg now connection a c =
      ((handleASDU cfg.withoutTriggers now connection a c).1,
        (handleASDU cfg.withoutTriggers now connection a c).2.withGiRequested
          (askActive c.activeConnection (decide (TriggersGi cfg c.exchangeDefinitions a))
            c.giRequested)) := by
  rw [handleASDU_eq, elementLoop_withGiRequested, handleASDU_eq]
  rfl

/-- Beside the loop without triggers, `handleASDU` asks the active connection for a GI if the
ASDU triggers one; without an active connection it does the same as without triggers. -/
theorem handleASDU_giRequested (cfg : IEC104ClientConfig) (now : Nat) (connection : ConId)
    (a : ASDU) (c : Client) :
    (handleASDU cfg.withoutTriggers now connection a c).2.giRequested = c.giRequested ∧
      handleASDU cfg now connection a c =
        ((handleASDU cfg.withoutTriggers now connection a c).1,
          match c.activeConnection with
          | some con =>
            (handleASDU cfg.withoutTriggers now connection a c).2.setGiRequested con
              (c.giRequested con || decide (TriggersGi cfg c.exchangeDefinitions a))
          | none => (handleASDU cfg.withoutTriggers now connection a c).2) := by
  have hbase : (handleASDU cfg.withoutTriggers now connection a c).2.giRequested =
      c.giRequested := by
    rw [handleASDU_eq]
    exact elementLoop_withoutTriggers cfg now connection a c
  refine ⟨hbase, ?_⟩
  rw [handleASDU_withGiRequested cfg now connection a c, ← hbase]
  cases c.activeConnection with
  | none => rfl
  | some con => rfl

/-- A triggering single point that falls, after an element that does not decode. -/
example :
    TriggersGi { cgTriggeringTsAdresses := [(1, 10)] }
      (.ofDatapoints [{ ca := 1, ioa := 10, typeId := M_SP_NA_1, label := "p" }])
      { typeId := M_SP_TB_1, cot := CS101_COT_SPONTANEOUS, ca := 1,
        elements := [none, some ⟨10, .int 0, 0, ⟨0, false, false, false⟩⟩] } := by
  decide

end Iec104South
