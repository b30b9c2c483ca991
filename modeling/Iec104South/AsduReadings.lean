import Mathlib.Data.List.Forall2
import Mathlib.Data.List.Zip
import Iec104South.HandleAsdu

/-!
# The readings of an ASDU

`handleASDU` fills two vectors, one in the handlers of the types and one after the switch,
and ingests them index by index. What should come out is said without them: each decoded
element with a definition of a matching type yields one reading, in the order of the
elements.
-/

namespace Iec104South

/-- A decoded element with the definition at its address, if the types match. -/
def matchedElement (t : ExchangeTable) (a : ASDU) :
    Option InformationObject → Option (InformationObject × DataExchangeDefinition)
  | none => none
  | some io =>
    match t.find? a.ca io.objectAddress with
    | some dp => if isMessageTypeMatching dp.typeId a.typeId then some (io, dp) else none
    | none => none

/-- The elements of a list that should be read, if the type of the ASDU has a handler. -/
def matchedElements (t : ExchangeTable) (a : ASDU) (elements : List (Option InformationObject)) :
    List (InformationObject × DataExchangeDefinition) :=
  if (asduHandler a.typeId).isSome then elements.filterMap (matchedElement t a) else []

/-- The data object tells the ASDU and the element it was made of. -/
structure Tells (a : ASDU) (io : InformationObject) (o : DataObject) : Prop where
  ioa : o.do_ioa = io.objectAddress
  ca : o.do_ca = a.ca
  cot : o.do_cot = a.cot
  typeId : o.do_type = a.typeId

/-- A reading, as it is ingested, of an element with its definition. -/
structure ReadingOf (a : ASDU) (e : InformationObject × DataExchangeDefinition)
    (reading : String × DataObject) : Prop where
  assetName : reading.1 = e.2.label
  object : Tells a e.1 reading.2

theorem asduHandler_tells {typeId : Int} {handler : ASDUHandler}
    (h : asduHandler typeId = some handler) (now : Nat) (a : ASDU) (io : InformationObject)
    (oc : Option OutstandingCommand) (c : Client) : Tells a io (handler now a io oc c).1 := by
  unfold asduHandler at h
  split at h <;> first | (cases h; exact ⟨rfl, rfl, rfl, rfl⟩) | cases h

/-! ## The element loop -/

/-- After the elements `done` of the ASDU, the vectors hold what was to be read of them. -/
structure Collected (t : ExchangeTable) (a : ASDU) (done : List (Option InformationObject))
    (r : AsduRun) : Prop where
  find? : ∀ ca ioa, r.client.exchangeDefinitions.find? ca ioa = t.find? ca ioa
  handled : (asduHandler a.typeId).isSome → r.handledAsdu
  labels : r.labels = (matchedElements t a done).map (·.2.label)
  datapoints : List.Forall₂ (fun e => Tells a e.1) (matchedElements t a done) r.datapoints

theorem matchedElements_concat (t : ExchangeTable) (a : ASDU)
    (done : List (Option InformationObject)) (e : Option InformationObject) :
    matchedElements t a (done ++ [e]) = matchedElements t a done ++ matchedElements t a [e] := by
  unfold matchedElements
  split_ifs
  · exact List.filterMap_append ..
  · rfl

/-- A label is found for the elements that should be read and for no others. -/
theorem checkExchangeDataLayer_eq (t : ExchangeTable) (a : ASDU) (io : InformationObject) :
    t.checkExchangeDataLayer a.typeId a.ca io.objectAddress =
      (matchedElement t a (some io)).map (·.2.label) := by
  simp only [ExchangeTable.checkExchangeDataLayer, matchedElement]
  cases t.find? a.ca io.objectAddress with
  | none => rfl
  | some dp =>
    dsimp only
    split_ifs <;> rfl

/-- An element that should not be read leaves the vectors as they are. -/
theorem Collected.skip {t : ExchangeTable} {a : ASDU} {done : List (Option InformationObject)}
    {r r' : AsduRun} {e : Option InformationObject} (hr : Collected t a done r)
    (hframe : r.client.Frame r'.client)
    (hhandled : (asduHandler a.typeId).isSome → r.handledAsdu → r'.handledAsdu)
    (hlabels : r'.labels = r.labels) (hdatapoints : r'.datapoints = r.datapoints)
    (he : matchedElements t a [e] = []) : Collected t a (done ++ [e]) r' where
  find? ca ioa := (hframe.find? ca ioa).trans (hr.find? ca ioa)
  handled htype := hhandled htype (hr.handled htype)
  labels := by rw [matchedElements_concat, he, List.append_nil, hlabels, hr.labels]
  datapoints := by
    rw [matchedElements_concat, he, List.append_nil, hdatapoints]
    exact hr.datapoints

theorem Collected.handleLabelled {cfg : IEC104ClientConfig} {t : ExchangeTable} {a : ASDU}
    {done : List (Option InformationObject)} {io : InformationObject}
    {dp : DataExchangeDefinition} {r : AsduRun} (hr : Collected t a done r)
    (he : matchedElement t a (some io) = some (io, dp)) (now : Nat)
    (oc : Option OutstandingCommand) :
    Collected t a (done ++ [some io]) (handleLabelled cfg now a io dp.label oc r) := by
  have hframe := Client.Frame.handleLabelled cfg now a io dp.label oc r
  cases htype : asduHandler a.typeId with
  | none =>
    refine hr.skip hframe ?_ ?_ ?_ ?_
    · intro h
      rw [htype] at h
      cases h
    · simp only [Iec104South.handleLabelled, htype]
    · simp only [Iec104South.handleLabelled, htype]
    · simp [matchedElements, htype]
  | some handler =>
    have hhandled : r.handledAsdu = true := hr.handled (by simp [htype])
    have hnew : matchedElements t a [some io] = [(io, dp)] := by
      simp [matchedElements, htype, he]
    -- the handler pushes the data object, and the round the label
    have hdatapoints : (Iec104South.handleLabelled cfg now a io dp.label oc r).datapoints =
        r.datapoints ++ [(handler now a io oc r.client).1] := by
      simp only [Iec104South.handleLabelled, htype, hhandled, if_true]
    have hlabels : (Iec104South.handleLabelled cfg now a io dp.label oc r).labels =
        r.labels ++ [dp.label] := by
      simp only [Iec104South.handleLabelled, htype, hhandled, if_true]
    refine ⟨fun ca ioa => (hframe.find? ca ioa).trans (hr.find? ca ioa), ?_, ?_, ?_⟩
    · intro _
      rw [handleLabelled_handledAsdu, hhandled, htype]
      rfl
    · rw [hlabels, hr.labels, matchedElements_concat, hnew, List.map_append]
      rfl
    · rw [hdatapoints, matchedElements_concat, hnew]
      have hobject := asduHandler_tells htype now a io oc r.client
      exact List.rel_append hr.datapoints (.cons hobject .nil)

theorem Collected.handleElement {cfg : IEC104ClientConfig} {t : ExchangeTable} {a : ASDU}
    {done : List (Option InformationObject)} {r : AsduRun} (hr : Collected t a done r)
    (now : Nat) (connection : ConId) (e : Option InformationObject) :
    Collected t a (done ++ [e]) (handleElement cfg now connection a r e) := by
  cases e with
  | none =>
    refine hr.skip (Client.Frame.refl _) (fun _ h => h) rfl rfl ?_
    unfold matchedElements
    split_ifs <;> rfl
  | some io =>
    have hlabel : r.client.exchangeDefinitions.checkExchangeDataLayer a.typeId a.ca
        io.objectAddress = (matchedElement t a (some io)).map (·.2.label) := by
      rw [← checkExchangeDataLayer_eq]
      simp only [ExchangeTable.checkExchangeDataLayer, hr.find?]
    have htouch := Client.Frame.touch r.client a.ca io.objectAddress
    simp only [Iec104South.handleElement, hlabel]
    cases he : matchedElement t a (some io) with
    | none =>
      refine hr.skip htouch ?_ rfl rfl ?_
      · intro htype hhandled
        simp [handleFound, htype, hhandled]
      · simp [matchedElements, he]
    | some found =>
      obtain ⟨io', dp⟩ := found
      have hio : io' = io := by
        simp only [matchedElement] at he
        split at he
        · split_ifs at he
          exact (Prod.mk.inj (Option.some.inj he)).1.symm
        · cases he
      subst hio
      have hgi := htouch.trans (Client.Frame.receivedInGi a io'.objectAddress _)
      have hfound : Collected t a done
          { r with
            client := receivedInGi a io'.objectAddress (r.client.touch a.ca io'.objectAddress) } :=
        { hr with find? := fun ca ioa => (hgi.find? ca ioa).trans (hr.find? ca ioa) }
      exact hfound.handleLabelled he now _

theorem collected_elementLoop (cfg : IEC104ClientConfig) (now : Nat) (connection : ConId)
    (a : ASDU) (c : Client) :
    Collected c.exchangeDefinitions a a.elements (elementLoop cfg now connection a c) := by
  have hfold : ∀ (todo done : List (Option InformationObject)) (r : AsduRun),
      Collected c.exchangeDefinitions a done r →
      Collected c.exchangeDefinitions a (done ++ todo)
        (todo.foldl (handleElement cfg now connection a) r) := by
    intro todo
    induction todo with
    | nil =>
      intro done r hr
      rwa [List.append_nil]
    | cons e todo ih =>
      intro done r hr
      rw [List.foldl_cons, List.append_cons]
      exact ih _ _ (hr.handleElement now connection e)
  refine hfold a.elements [] _ ⟨fun _ _ => rfl, fun _ => rfl, ?_, ?_⟩
  · unfold matchedElements
    split_ifs <;> rfl
  · unfold matchedElements
    split_ifs <;> exact .nil

/-! ## The readings -/

/-- The data objects of the elements under the labels of their definitions are readings. -/
theorem forall₂_readingOf {a : ASDU} {es : List (InformationObject × DataExchangeDefinition)}
    {datapoints : List DataObject} (h : List.Forall₂ (fun e => Tells a e.1) es datapoints) :
    List.Forall₂ (ReadingOf a) es ((es.map (·.2.label)).zip datapoints) := by
  induction h with
  | nil => exact .nil
  | cons hobject _ ih => exact .cons ⟨rfl, hobject⟩ ih

/-- The vectors are equally long after every ASDU, so `labels.at(i)` finds its label, and
what is ingested beside the GI status are the readings of the elements in their order. -/
theorem handleASDU_readings (cfg : IEC104ClientConfig) (now : Nat) (connection : ConId)
    (a : ASDU) (c : Client) :
    (elementLoop cfg now connection a c).datapoints.length =
        (elementLoop cfg now connection a c).labels.length ∧
      ∃ readings : List (String × DataObject),
        List.Forall₂ (ReadingOf a) (matchedElements c.exchangeDefinitions a a.elements) readings ∧
        (handleASDU cfg now connection a c).2.out =
          c.out ++ Client.giStatusEvents cfg c.giStatus (receivedGiStatus a c.giStatus) ++
            readings.map fun d => .ingest d.1 (.dataObject d.2) := by
  obtain ⟨-, -, hlabels, hdatapoints⟩ := collected_elementLoop cfg now connection a c
  have hlength : (elementLoop cfg now connection a c).datapoints.length =
      (elementLoop cfg now connection a c).labels.length := by
    rw [hlabels, List.length_map, hdatapoints.length_eq]
  refine ⟨hlength, (elementLoop cfg now connection a c).labels.zip
    (elementLoop cfg now connection a c).datapoints, ?_, ?_⟩
  · rw [hlabels]
    exact forall₂_readingOf hdatapoints
  · rw [handleASDU_out, ← List.zip_swap, List.map_map]
    rfl

/-- An ASDU of three elements, the second one not decodable and the third one unknown. -/
example :
    let io (ioa : Int) : InformationObject :=
      ⟨ioa, .int 1, 0, ⟨0, false, false, false⟩⟩
    matchedElements (ExchangeTable.empty.store ⟨1, 10, M_SP_NA_1, "TS1", 0⟩)
      { typeId := M_SP_TB_1, cot := CS101_COT_SPONTANEOUS, ca := 1,
        elements := [some (io 10), none, some (io 11)] }
      [some (io 10), none, some (io 11)] =
        [(io 10, ⟨1, 10, M_SP_NA_1, "TS1", 0⟩)] := by
  decide

end Iec104South
