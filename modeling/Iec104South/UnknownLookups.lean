import Iec104South.ClientMachine
import Iec104South.ExchangeImport

/-!
# Lookups of unknown addresses

Every access `ExchangeDefinition()[ca][ioa]` to an address that is not configured leaves a null
slot in the table, and often an empty row. The readers of the table are given once more with
pointers that can be null: `none` is a dereferenced null pointer. Each of them ends, with what the
client computes from the definitions alone, so none of them sees the difference between two tables
that hold the same definitions. `unknown_lookups_unseen`: in every run of the client the table and
what is read of it are those of the import.
-/

namespace Iec104South

open Reactive

namespace ExchangeTable

/-- `t'` holds the definitions of `t` in their order. The rows and the null slots may differ. -/
structure Holds (t t' : ExchangeTable) : Prop where
  find? : ∀ ca ioa, t'.find? ca ioa = t.find? ca ioa
  definitions : t'.definitions = t.definitions

theorem Holds.refl (t : ExchangeTable) : t.Holds t := ⟨fun _ _ => rfl, rfl⟩

theorem Holds.symm {t t' : ExchangeTable} (h : t.Holds t') : t'.Holds t :=
  ⟨fun ca ioa => (h.find? ca ioa).symm, h.definitions.symm⟩

theorem Holds.trans {t t' t'' : ExchangeTable} (h : t.Holds t') (h' : t'.Holds t'') :
    t.Holds t'' :=
  ⟨fun ca ioa => (h'.find? ca ioa).trans (h.find? ca ioa), h'.definitions.trans h.definitions⟩

theorem Holds.touch (t : ExchangeTable) (ca ioa : Int) : t.Holds (t.touch ca ioa) :=
  ⟨t.find?_touch ca ioa, t.definitions_touch ca ioa⟩

theorem Holds.of_eq {t t' : ExchangeTable} (h : t' = t) : t.Holds t' := h ▸ .refl t

end ExchangeTable

theorem Client.Frame.holds {c c' : Client} (h : c.Frame c') :
    c.exchangeDefinitions.Holds c'.exchangeDefinitions := ⟨h.find?, h.definitions⟩

/-! ## The readers with their pointers -/

/-- A pointer to a definition, `none` if it is null. What is read through it is `none` then. -/
abbrev DefinitionPtr := Option DataExchangeDefinition

/-- The pointers in the order of the two nested loops over the map. -/
def ExchangeTable.pointers (t : ExchangeTable) : List DefinitionPtr :=
  t.map.entries.flatMap fun row => row.2.entries.map (·.2)

namespace Checked

/-- The loop of a reader: what `read` makes of the definitions, behind the check of the pointer. -/
def collect {β : Type} (read : DataExchangeDefinition → List β) (t : ExchangeTable) :
    Option (List β) :=
  t.pointers.foldlM (fun collected dp => do
    if dp.isSome then return collected ++ read (← dp) else return collected) []

/-- The loop of `getExchangeDefinitionByLabel`, which returns the first pointer that matches. -/
def findLabel (label : String) : List DefinitionPtr → Option DefinitionPtr
  | [] => return none
  | dp :: dps =>
    if dp.isSome then do
      if (← dp).label = label then return dp else findLabel label dps
    else findLabel label dps

/-- `getExchangeDefinitionByLabel` -/
def getExchangeDefinitionByLabel (t : ExchangeTable) (label : String) : Option DefinitionPtr :=
  findLabel label t.pointers

/-- `checkExchangeDataLayer`: the label, and the table the access leaves. -/
def checkExchangeDataLayer (t : ExchangeTable) (typeId ca ioa : Int) :
    Option (Option String × ExchangeTable) := do
  let dp : DefinitionPtr := t.find? ca ioa
  let t := t.touch ca ioa
  if dp.isSome then
    if isMessageTypeMatching (← dp).typeId typeId then return (some (← dp).label, t)
    else return (none, t)
  else return (none, t)

/-- `createListOfDatapointsInStationGroup` -/
def createListOfDatapointsInStationGroup (c : Client) : Option Client := do
  let dps ← collect (fun dp => if isInStationGroup dp then [dp] else []) c.exchangeDefinitions
  return { c with listOfStationGroupDatapoints := dps }

/-- `updateQualityForAllDataObjects` -/
def updateQualityForAllDataObjects (qd : BitVec 8) (c : Client) : Option Client := do
  let updates ← collect (fun dp =>
    if isDataPointInMonitoringDirection dp then
      [(Client.createQualityUpdateForDataObject dp qd, dp.label)]
    else []) c.exchangeDefinitions
  return c.sendData (updates.map (·.1)) (updates.map (·.2))

/-- The part of `handleASDU` that indexes the table a second time. -/
def receivedInGi (a : ASDU) (ioa : Int) (c : Client) : Option Client :=
  if isInterrogationResponse a then do
    let exgDef : DefinitionPtr := c.exchangeDefinitions.find? a.ca ioa
    let c := c.touch a.ca ioa
    if exgDef.isSome then
      if isInStationGroup (← exgDef) then return c.removeFromListOfDatapoints (← exgDef)
      else return c
    else return c
  else return c

section

variable (cfg : IEC104ClientConfig) (now : Nat) (connection : ConId) (a : ASDU)

/-- One round of the element loop of `handleASDU`. -/
def handleElement (r : AsduRun) : Option InformationObject → Option AsduRun
  | none => return r
  | some io => do
    let ioa := io.objectAddress
    let checked ← checkExchangeDataLayer r.client.exchangeDefinitions a.typeId a.ca ioa
    let label := checked.1
    let c := { r.client with exchangeDefinitions := checked.2 }
    let outstandingCommand := outstandingCommandFor connection a ioa c
    if label.isSome then
      let received ← receivedInGi a ioa c
      return handleLabelled cfg now a io (← label) outstandingCommand { r with client := received }
    else return { r with
      client := c
      handledAsdu := r.handledAsdu && (asduHandler a.typeId).isSome }

/-- `handleASDU` -/
def handleASDU (c : Client) : Option (Bool × Client) := do
  let r ← a.elements.foldlM (handleElement cfg now connection a) { client := beginASDU cfg a c }
  return (r.handledAsdu, r.client.sendData r.datapoints r.labels)

end

/-! ## No null pointer is dereferenced -/

theorem definitions_eq (t : ExchangeTable) :
    t.definitions = t.pointers.flatMap (·.toList) := by
  simp only [ExchangeTable.definitions, ExchangeTable.pointers, List.flatMap_assoc,
    List.flatMap_map]

theorem collect_eq {β : Type} (read : DataExchangeDefinition → List β) (t : ExchangeTable) :
    collect read t = some (t.definitions.flatMap read) := by
  have hround : (fun (collected : List β) (dp : DefinitionPtr) =>
      (do if dp.isSome then return collected ++ read (← dp) else return collected : Option _)) =
        fun collected dp => pure (collected ++ dp.toList.flatMap read) := by
    funext collected dp
    cases dp with
    | none => simp
    | some dp => simp
  rw [collect, hround, List.foldlM_pure, List.foldl_append_eq_append, List.nil_append,
    ← List.flatMap_def, definitions_eq, List.flatMap_assoc]
  rfl

theorem getExchangeDefinitionByLabel_eq (t : ExchangeTable) (label : String) :
    getExchangeDefinitionByLabel t label =
      some (t.definitions.find? fun dp => dp.label = label) := by
  rw [getExchangeDefinitionByLabel, definitions_eq]
  induction t.pointers with
  | nil => rfl
  | cons dp dps ih =>
    cases dp with
    | none => simpa [findLabel] using ih
    | some dp =>
      by_cases hlabel : dp.label = label
      · simp [findLabel, hlabel]
      · simpa [findLabel, hlabel] using ih

theorem checkExchangeDataLayer_eq (t : ExchangeTable) (typeId ca ioa : Int) :
    checkExchangeDataLayer t typeId ca ioa =
      some (t.checkExchangeDataLayer typeId ca ioa, t.touch ca ioa) := by
  unfold checkExchangeDataLayer ExchangeTable.checkExchangeDataLayer
  cases t.find? ca ioa with
  | none => rfl
  | some dp => cases hmatch : isMessageTypeMatching dp.typeId typeId <;> simp [hmatch]

/-- What a reader keeps of the definitions, it filters. -/
theorem flatMap_ite {α β : Type} (p : α → Bool) (f : α → β) (l : List α) :
    (l.flatMap fun a => if p a then [f a] else []) = (l.filter p).map f := by
  induction l with
  | nil => rfl
  | cons a l ih => cases hp : p a <;> simp [hp, ih]

theorem createListOfDatapointsInStationGroup_eq (c : Client) :
    createListOfDatapointsInStationGroup c = some c.createListOfDatapointsInStationGroup := by
  rw [createListOfDatapointsInStationGroup, collect_eq, flatMap_ite, List.map_id']
  rfl

theorem updateQualityForAllDataObjects_eq (qd : BitVec 8) (c : Client) :
    updateQualityForAllDataObjects qd c = some (c.updateQualityForAllDataObjects qd) := by
  rw [updateQualityForAllDataObjects, collect_eq, flatMap_ite]
  simp [Client.updateQualityForAllDataObjects, Client.sendQualityUpdates, Function.comp_def]

/-- The second access finds what the first one has found, so it creates nothing. -/
theorem receivedInGi_eq {a : ASDU} {ioa : Int} {c : Client}
    (h : (c.exchangeDefinitions.find? a.ca ioa).isSome) :
    receivedInGi a ioa c = some (Iec104South.receivedInGi a ioa c) := by
  obtain ⟨dp, hfind⟩ := Option.isSome_iff_exists.mp h
  have htouch : c.touch a.ca ioa = c := by
    rw [Client.touch, ExchangeTable.touch_of_find? hfind]
  unfold receivedInGi Iec104South.receivedInGi
  split_ifs with hresponse
  · rw [htouch, hfind]
    cases hgroup : isInStationGroup dp <;> simp [hgroup]
  · rfl

theorem find?_of_checkExchangeDataLayer {t : ExchangeTable} {typeId ca ioa : Int} {label : String}
    (h : t.checkExchangeDataLayer typeId ca ioa = some label) : (t.find? ca ioa).isSome := by
  unfold ExchangeTable.checkExchangeDataLayer at h
  split at h
  · next hfind => rw [hfind]; rfl
  · cases h

section

variable (cfg : IEC104ClientConfig) (now : Nat) (connection : ConId) (a : ASDU)

theorem handleElement_eq (r : AsduRun) (e : Option InformationObject) :
    handleElement cfg now connection a r e =
      some (Iec104South.handleElement cfg now connection a r e) := by
  cases e with
  | none => rfl
  | some io =>
    simp only [handleElement, Iec104South.handleElement, handleFound, checkExchangeDataLayer_eq,
      Option.bind_eq_bind, Option.bind_some]
    cases hlabel : r.client.exchangeDefinitions.checkExchangeDataLayer a.typeId a.ca
        io.objectAddress with
    | none => rfl
    | some label =>
      have hfind : ((r.client.touch a.ca io.objectAddress).exchangeDefinitions.find? a.ca
          io.objectAddress).isSome := by
        rw [Client.touch, ExchangeTable.find?_touch]
        exact find?_of_checkExchangeDataLayer hlabel
      have hgi := receivedInGi_eq hfind
      simp only [Client.touch] at hgi
      simp [hgi, Client.touch]

theorem handleASDU_eq (c : Client) :
    handleASDU cfg now connection a c = some (Iec104South.handleASDU cfg now connection a c) := by
  have hround : handleElement cfg now connection a =
      fun r e => pure (Iec104South.handleElement cfg now connection a r e) := by
    funext r e
    exact handleElement_eq cfg now connection a r e
  rw [handleASDU, hround, List.foldlM_pure]
  rfl

end

end Checked

/-! ## Tables that hold the same definitions -/

namespace Client

def withTable (t : ExchangeTable) (c : Client) : Client := { c with exchangeDefinitions := t }

/-- The clients differ only in rows and null slots of their tables. -/
structure SameBut (c c' : Client) : Prop where
  holds : c.exchangeDefinitions.Holds c'.exchangeDefinitions
  eq : c' = c.withTable c'.exchangeDefinitions

namespace SameBut

variable {c c' : Client}

/-- A function that neither reads nor changes the table. -/
theorem map {f : Client → Client} (h : c.SameBut c')
    (hf : ∀ c t, f (c.withTable t) = (f c).withTable t) : (f c).SameBut (f c') := by
  have hkeeps (c : Client) : (f c).exchangeDefinitions = c.exchangeDefinitions := by
    have hsame : f c = (f c).withTable c.exchangeDefinitions := hf c c.exchangeDefinitions
    rw [hsame]
    rfl
  constructor
  · rw [hkeeps, hkeeps]
    exact h.holds
  · rw [hkeeps, ← hf, ← h.eq]

theorem touch (ca ioa : Int) (h : c.SameBut c') : (c.touch ca ioa).SameBut (c'.touch ca ioa) where
  holds := (ExchangeTable.Holds.touch _ ca ioa).symm.trans
    (h.holds.trans (ExchangeTable.Holds.touch _ ca ioa))
  eq := by
    rw [h.eq]
    rfl

theorem reply (kind : ReplyKind) (now : Nat) (cot : Int) (oc : Option OutstandingCommand)
    (h : c.SameBut c') : (c.reply kind now cot oc).SameBut (c'.reply kind now cot oc) := by
  refine h.map (f := Client.reply kind now cot oc) fun c t => ?_
  unfold Client.reply replyToCommand replyToSetpoint
  cases kind <;> cases oc <;> dsimp only <;> split_ifs <;> rfl

theorem requestGi (h : c.SameBut c') : (requestGi c).SameBut (requestGi c') := by
  refine h.map fun c t => ?_
  unfold Iec104South.requestGi withTable
  dsimp only
  split <;> rfl

theorem isAsduTriggerGi (cfg : IEC104ClientConfig) (datapoints : List DataObject) (a : ASDU)
    (ioa : Int) (h : c.SameBut c') :
    isAsduTriggerGi cfg datapoints a ioa c' = isAsduTriggerGi cfg datapoints a ioa c := by
  rw [h.eq]
  rfl

theorem receivedInGi (a : ASDU) (ioa : Int) (h : c.SameBut c') :
    (receivedInGi a ioa c).SameBut (receivedInGi a ioa c') := by
  unfold Iec104South.receivedInGi
  rw [h.holds.find?]
  split_ifs
  · cases c.exchangeDefinitions.find? a.ca ioa with
    | none => exact h
    | some exgDef =>
      dsimp only
      split_ifs
      · exact h.map (f := removeFromListOfDatapoints exgDef) fun _ _ => rfl
      · exact h
  · exact h

end SameBut

end Client

/-- The element loops differ only in the tables of their clients. -/
structure AsduRun.SameBut (r r' : AsduRun) : Prop where
  client : r.client.SameBut r'.client
  handledAsdu : r'.handledAsdu = r.handledAsdu
  datapoints : r'.datapoints = r.datapoints
  labels : r'.labels = r.labels

/-- No data object depends on the client. -/
theorem asduHandler_fst {typeId : Int} {handler : ASDUHandler}
    (h : asduHandler typeId = some handler) (now : Nat) (a : ASDU) (io : InformationObject)
    (oc : Option OutstandingCommand) (c c' : Client) :
    (handler now a io oc c).1 = (handler now a io oc c').1 := by
  unfold asduHandler at h
  split at h <;> first | (cases h; rfl) | cases h

namespace AsduRun.SameBut

variable {r r' : AsduRun} (cfg : IEC104ClientConfig) (now : Nat) (connection : ConId) (a : ASDU)

theorem handleLabelled (io : InformationObject) (label : String) (oc : Option OutstandingCommand)
    (h : r.SameBut r') :
    (handleLabelled cfg now a io label oc r).SameBut (handleLabelled cfg now a io label oc r') := by
  unfold Iec104South.handleLabelled
  cases htype : asduHandler a.typeId with
  | none => exact ⟨h.client, rfl, h.datapoints, h.labels⟩
  | some handler =>
    have hclient := h.client.reply (replyKind a.typeId) now a.cot oc
    dsimp only
    rw [asduHandler_fst htype now a io oc r'.client r.client, asduHandler_client htype,
      asduHandler_client htype, h.handledAsdu, h.datapoints, h.labels,
      hclient.isAsduTriggerGi]
    split_ifs
    · exact ⟨hclient.requestGi, rfl, rfl, rfl⟩
    · exact ⟨hclient, rfl, rfl, rfl⟩
    · exact ⟨hclient, rfl, rfl, rfl⟩

theorem handleElement (e : Option InformationObject) (h : r.SameBut r') :
    (handleElement cfg now connection a r e).SameBut
      (handleElement cfg now connection a r' e) := by
  cases e with
  | none => exact h
  | some io =>
    have htouch := h.client.touch a.ca io.objectAddress
    have houtstanding : outstandingCommandFor connection a io.objectAddress
        (r'.client.touch a.ca io.objectAddress) =
          outstandingCommandFor connection a io.objectAddress
            (r.client.touch a.ca io.objectAddress) := by
      rw [htouch.eq]
      rfl
    simp only [Iec104South.handleElement, handleFound,
      checkExchangeDataLayer_congr h.client.holds.find?, houtstanding]
    cases r.client.exchangeDefinitions.checkExchangeDataLayer a.typeId a.ca io.objectAddress with
    | none =>
      refine ⟨htouch, ?_, h.datapoints, h.labels⟩
      exact congrArg (· && _) h.handledAsdu
    | some label =>
      exact handleLabelled cfg now a io label _
        ⟨htouch.receivedInGi a io.objectAddress, h.handledAsdu, h.datapoints, h.labels⟩

end AsduRun.SameBut

/-- A client with the other table does the same with an ASDU. -/
theorem Client.SameBut.handleASDU {c c' : Client} (cfg : IEC104ClientConfig) (now : Nat)
    (connection : ConId) (a : ASDU) (h : c.SameBut c') :
    (handleASDU cfg now connection a c).1 = (handleASDU cfg now connection a c').1 ∧
      (handleASDU cfg now connection a c).2.SameBut (handleASDU cfg now connection a c').2 := by
  have henter : (enterASDU cfg a c).SameBut (enterASDU cfg a c') :=
    h.map (f := enterASDU cfg a) fun _ _ => rfl
  have hloop : (elementLoop cfg now connection a c).SameBut (elementLoop cfg now connection a c') :=
    List.foldl_rel (r := AsduRun.SameBut) ⟨henter, rfl, rfl, rfl⟩ fun e _ _ _ hr =>
      hr.handleElement cfg now connection a e
  rw [Iec104South.handleASDU_eq, Iec104South.handleASDU_eq, hloop.handledAsdu, hloop.datapoints,
    hloop.labels]
  exact ⟨rfl, hloop.client.map (f := Client.sendData _ _) fun _ _ => rfl⟩

/-! ## What is read after a run -/

/-- The configuration object of a client that has imported it. What the client does to it, it does
to the table. -/
def Client.configuration (imported : ImportedConfig) (c : Client) : ImportedConfig :=
  { imported with exchangeDefinitions := c.exchangeDefinitions }

/-- Neither computation dereferences a null pointer, and their results are related. -/
def BothEnd {α : Type} (R : α → α → Prop) (x y : Option α) : Prop :=
  ∃ a b, x = some a ∧ y = some b ∧ R a b

/-- The client reads its configuration as it was imported: the definitions and the list of common
addresses are the same, and the readers of the table have the same results and publish the same as
with the table of the import. -/
structure ReadsAsImported (imported : ImportedConfig) (c : Client) : Prop where
  holds : imported.exchangeDefinitions.Holds c.exchangeDefinitions
  listOfCAs : (c.configuration imported).config.listOfCAs = imported.config.listOfCAs
  checkExchangeDataLayer : ∀ typeId ca ioa, BothEnd (fun r r' => r.1 = r'.1)
    (Checked.checkExchangeDataLayer imported.exchangeDefinitions typeId ca ioa)
    (Checked.checkExchangeDataLayer c.exchangeDefinitions typeId ca ioa)
  getExchangeDefinitionByLabel : ∀ label, BothEnd Eq
    (Checked.getExchangeDefinitionByLabel imported.exchangeDefinitions label)
    (Checked.getExchangeDefinitionByLabel c.exchangeDefinitions label)
  createListOfDatapointsInStationGroup : BothEnd Client.SameBut
    (Checked.createListOfDatapointsInStationGroup (c.withTable imported.exchangeDefinitions))
    (Checked.createListOfDatapointsInStationGroup c)
  updateQualityForAllDataObjects : ∀ qd, BothEnd Client.SameBut
    (Checked.updateQualityForAllDataObjects qd (c.withTable imported.exchangeDefinitions))
    (Checked.updateQualityForAllDataObjects qd c)
  handleASDU : ∀ now connection a, BothEnd (fun r r' => r.1 = r'.1 ∧ r.2.SameBut r'.2)
    (Checked.handleASDU imported.config now connection a
      (c.withTable imported.exchangeDefinitions))
    (Checked.handleASDU imported.config now connection a c)

theorem readsAsImported_of_holds {imported : ImportedConfig} {c : Client}
    (h : imported.exchangeDefinitions.Holds c.exchangeDefinitions) :
    ReadsAsImported imported c := by
  have hc : (c.withTable imported.exchangeDefinitions).SameBut c := ⟨h, rfl⟩
  refine ⟨h, rfl, fun typeId ca ioa => ?_, fun label => ?_, ?_, fun qd => ?_,
    fun now connection a => ?_⟩
  · exact ⟨_, _, Checked.checkExchangeDataLayer_eq .., Checked.checkExchangeDataLayer_eq ..,
      (checkExchangeDataLayer_congr h.find? typeId ca ioa).symm⟩
  · refine ⟨_, _, Checked.getExchangeDefinitionByLabel_eq ..,
      Checked.getExchangeDefinitionByLabel_eq .., ?_⟩
    rw [h.definitions]
  · refine ⟨_, _, Checked.createListOfDatapointsInStationGroup_eq _,
      Checked.createListOfDatapointsInStationGroup_eq _, h, ?_⟩
    simp only [Client.createListOfDatapointsInStationGroup, Client.withTable, h.definitions]
  · refine ⟨_, _, Checked.updateQualityForAllDataObjects_eq qd _,
      Checked.updateQualityForAllDataObjects_eq qd _, h, ?_⟩
    simp only [Client.updateQualityForAllDataObjects, Client.sendQualityUpdates_eq,
      Client.withTable, h.definitions]
  · exact ⟨_, _, Checked.handleASDU_eq .., Checked.handleASDU_eq .., hc.handleASDU ..⟩

/-! ## Runs -/

namespace Client

variable (cfg : IEC104ClientConfig)

theorem sendCommand_holds (cons : ConId → Connection) (op : CommandOperation) (now : Nat)
    (accepted : Bool) (c : Client) :
    c.exchangeDefinitions.Holds (c.sendCommand cfg cons op now accepted).2.exchangeDefinitions := by
  have htouch : (c.sendCommand cfg cons op now accepted).2.exchangeDefinitions =
      c.exchangeDefinitions.touch op.ca op.ioa := by
    rw [sendCommand_eq]
    split_ifs
    · rfl
    · obtain ⟨_, hout⟩ := transmitCommand_eq cons op accepted
        ((c.touch op.ca op.ioa).withBooked op now)
      dsimp only
      rw [hout]
      split_ifs <;> rfl
    · rfl
  rw [htouch]
  exact .touch _ _ _

@[simp] theorem updateConnectionStatus_table (newState : ConnectionStatus) (c : Client) :
    (c.updateConnectionStatus cfg newState).exchangeDefinitions = c.exchangeDefinitions := by
  rw [updateConnectionStatus_eq]

@[simp] theorem updateQualityForAllDataObjects_table (qd : BitVec 8) (c : Client) :
    (c.updateQualityForAllDataObjects qd).exchangeDefinitions = c.exchangeDefinitions := by
  rw [updateQualityForAllDataObjects, sendQualityUpdates_eq]

theorem requestGi_table (c : Client) :
    (requestGi c).exchangeDefinitions = c.exchangeDefinitions := by
  unfold requestGi
  split <;> rfl

theorem sendConnectionStatus_table (c : Client) :
    (c.sendConnectionStatus cfg).exchangeDefinitions = c.exchangeDefinitions := by
  unfold sendConnectionStatus sendSouthMonitoringEvent
  split_ifs <;> rfl

theorem checkOutstandingCommandTimeouts_table (currentTime : Nat) (c : Client) :
    (c.checkOutstandingCommandTimeouts cfg currentTime).exchangeDefinitions =
      c.exchangeDefinitions :=
  List.foldlRecOn (motive := fun c' : Client => c'.exchangeDefinitions = c.exchangeDefinitions)
    _ _ rfl fun _ h _ _ => h

end Client

/-- An ASDU is looked up element by element. -/
theorem Plugin.asduReceivedHandler_holds (cfg : IEC104ClientConfig) (now : Nat) (a : ASDU)
    (p : Plugin) :
    p.client.exchangeDefinitions.Holds
      (p.asduReceivedHandler cfg now a).2.client.exchangeDefinitions := by
  have hreceived : p.client.exchangeDefinitions.Holds
      (p.received cfg now a).client.exchangeDefinitions := by
    rw [received_client, handleASDU_eq]
    exact (elementLoop_frame cfg now p.self a p.client).holds
  rw [asduReceivedHandler_eq]
  split_ifs
  · exact hreceived
  · exact hreceived.trans (.of_eq (congrArg (·.1) (unhandledASDU_kept cfg _ now a)))

namespace System

variable (cfg : IEC104ClientConfig) (redGroup : ConId → RedGroupCon) (s : System)

theorem monitoringThread_table (timeInMs monotonicTimeInMs : Nat) :
    (s.monitoringThread cfg redGroup timeInMs monotonicTimeInMs).client.exchangeDefinitions =
      s.client.exchangeDefinitions := by
  unfold monitoringThread
  cases s.client.activeConnection with
  | none =>
    cases s.connections.find? fun con => (s.cons con).isConnected with
    | some con =>
      exact (Client.updateConnectionStatus_table ..).trans
        (congrArg (·.1) (Plugin.activate_kept cfg (s.plugin con)))
    | none =>
      dsimp only
      rw [connectBackups_client, Client.updateConnectionStatus_table]
      unfold markNonTopical
      split_ifs
      · exact Client.updateQualityForAllDataObjects_table ..
      all_goals rfl
  | some active =>
    dsimp only
    split_ifs <;> rfl

theorem connectionStep_holds (con : ConId) (i : Input)
    (h : (s.plugin con).client.exchangeDefinitions.Holds
      ((s.plugin con).handle cfg i).client.exchangeDefinitions) :
    s.client.exchangeDefinitions.Holds
      (s.connectionStep cfg con i).client.exchangeDefinitions := by
  unfold connectionStep
  split_ifs
  · exact h
  · exact .refl _

/-- No step stores or removes a definition. -/
theorem handle_holds (i : ClientInput) :
    s.client.exchangeDefinitions.Holds (s.handle cfg redGroup i).client.exchangeDefinitions := by
  cases i with
  | monitoringThread timeInMs monotonicTimeInMs => exact .of_eq (monitoringThread_table ..)
  | checkOutstandingCommandTimeouts currentTime =>
    exact .of_eq (Client.checkOutstandingCommandTimeouts_table ..)
  | connectionEvent con event now => exact connectionStep_holds _ _ _ _ (.refl _)
  | asdu con a now =>
    exact connectionStep_holds _ _ _ _ (Plugin.asduReceivedHandler_holds cfg now a _)
  | conThread con env =>
    exact connectionStep_holds _ _ _ _ (.of_eq (congrArg (·.1) (Plugin.conThread_kept cfg env _)))
  | conThreadDisconnect con =>
    exact connectionStep_holds _ _ _ _
      (.of_eq (congrArg (·.1) (Plugin.conThreadDisconnect_kept _)))
  | sendCommand op now accepted => exact Client.sendCommand_holds ..
  | sendInterrogationCommand ca accepted =>
    simp only [handle, sendInterrogationCommand]
    split
    · exact .of_eq (congrArg (·.1) (Plugin.northInterrogation_kept _ ca accepted))
    · exact .refl _
  | scheduleGI => exact .of_eq (Client.requestGi_table _)
  | sendConnectionStatus => exact .of_eq (Client.sendConnectionStatus_table cfg _)

end System

/-- In every run of a client the table and what is read of it are those of the import, and no
lookup dereferences a null pointer. -/
theorem unknown_lookups_unseen (stackConfiguration msgConfiguration tlsConfiguration : Option Json)
    (redGroup : ConId → RedGroupCon) (connections : List ConId) (timeInMs : Nat)
    (is : List ClientInput) :
    let imported := setJsonConfig stackConfiguration msgConfiguration tlsConfiguration
    ReadsAsImported imported (run (clientStep imported.config redGroup)
      (.started imported.config redGroup imported.exchangeDefinitions connections timeInMs)
      is).client := by
  intro imported
  refine readsAsImported_of_holds (run_of_always (I := fun s : System =>
    imported.exchangeDefinitions.Holds s.client.exchangeDefinitions)
      (always_of_invariant (fun s i hs => ?_) (fun _ h => h) ?_))
  · exact hs.trans (System.handle_holds imported.config redGroup s.clear i)
  · refine .of_eq ?_
    simp [System.started, System.monitoringThreadStart, System.init]

end Iec104South
