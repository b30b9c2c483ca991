import Iec104South.NonTopicalBurst
import Iec104South.ReadingFormat

/-!
# Stale data

A reader who keeps the last quality it was told of each label. Elements of ASDUs tell the quality
that the station reported; the marks of a start, of a loss and of an interrogation say that a value
is not to be used.

`qualities_agree`: the reader never takes stale data for good. What it may use was reported under
this label, with this quality, since the start and since the last loss that was marked; and from
such a mark on it knows that the label is not to be used until the station reports it.
-/

namespace Iec104South

open Reactive

/-- What the station has reported for a label since the start or the last loss. -/
inductive Report where
  /-- no element, nor was it marked -/
  | unheard
  | lost
  | reported (quality : QualityAttributes)
deriving DecidableEq, Repr

/-- The quality that is known is the one reported last, or tells not to use the value. -/
def Agrees (known : Option QualityAttributes) : Report → Prop
  | .unheard => ∀ q ∈ known, q.isUsable = false
  | .lost => ∃ q ∈ known, q.isUsable = false
  | .reported quality => ∃ q ∈ known, q = quality ∨ q.isUsable = false

/-- The reader keeps the last quality of each label. -/
def learnQuality (known : String → Option QualityAttributes) (e : Effect) :
    String → Option QualityAttributes :=
  match e.quality? with
  | some (label, quality) => Function.update known label (some quality)
  | none => known

/-- Replies to commands have no quality. -/
def noteElement (report : String → Report) (e : MatchedElement) : String → Report :=
  if Client.isSupportedCommand e.1.typeId then report
  else Function.update report e.2.2.label (.reported (qualityAttributes e.2.1.quality))

def markLost (dps : List DataExchangeDefinition) (report : String → Report) : String → Report :=
  fun label => if label ∈ dps.map (·.label) then .lost else report label

/-- The definitions that are marked at the start and after a loss. -/
def ExchangeTable.monitored (t : ExchangeTable) : List DataExchangeDefinition :=
  t.definitions.filter isDataPointInMonitoringDirection

/-- What the reader knows, and what was reported. -/
structure QualityWatch where
  known : String → Option QualityAttributes := fun _ => none
  report : String → Report := fun _ => .unheard

def noteQuality (cfg : IEC104ClientConfig) (redGroup : ConId → RedGroupCon) (w : QualityWatch)
    (s : System) (i : ClientInput) (out : List Effect) : QualityWatch where
  known := out.foldl learnQuality w.known
  report :=
    match i with
    | .monitoringThread timeInMs now =>
      if s.marksNonTopical cfg redGroup timeInMs now then
        markLost s.client.exchangeDefinitions.monitored w.report
      else w.report
    | _ => (elementsToRead s.client.exchangeDefinitions s.connections i).foldl noteElement w.report

/-! ## One event -/

/-- A mark agrees with everything. -/
theorem Agrees.of_mark {q : QualityAttributes} (h : q.isUsable = false) (r : Report) :
    Agrees (some q) r := by
  cases r with
  | unheard => exact fun q' hq' => Option.mem_some_iff.mp hq' ▸ h
  | lost => exact ⟨q, rfl, h⟩
  | reported quality => exact ⟨q, rfl, .inr h⟩

/-- A value is a report, if it has a quality. -/
def noteValue (report : String → Report) (d : String × DataObject) : String → Report :=
  match d.2.quality with
  | some quality => Function.update report d.1 (.reported quality)
  | none => report

theorem noteElement_eq (report : String → Report) (e : MatchedElement) :
    noteValue report e.value = noteElement report e := by
  simp only [noteValue, noteElement, MatchedElement.value, dataObjectOf, createDataObject]
  split_ifs <;> rfl

theorem Effect.quality?_of_value? {e : Effect} {d : String × DataObject}
    (h : e.value? = some d) : e.quality? = d.2.quality.map (d.1, ·) := by
  cases e with
  | ingest assetName reading =>
    cases reading with
    | dataObject object =>
      simp only [Effect.value?] at h
      split_ifs at h
      rw [← Option.some.inj h]
      rfl
    | southEvent connxStatus giStatus => cases h
  | _ => cases h

section

variable {known : String → Option QualityAttributes} {report : String → Report} {label : String}

theorem learnQuality_of_some {e : Effect} {q : String × QualityAttributes}
    (h : e.quality? = some q) : learnQuality known e = Function.update known q.1 (some q.2) := by
  simp only [learnQuality, h]

theorem learnQuality_of_none {e : Effect} (h : e.quality? = none) :
    learnQuality known e = known := by
  simp only [learnQuality, h]

theorem noteValue_of_some {d : String × DataObject} {quality : QualityAttributes}
    (h : d.2.quality = some quality) :
    noteValue report d = Function.update report d.1 (.reported quality) := by
  simp only [noteValue, h]

theorem noteValue_of_none {d : String × DataObject} (h : d.2.quality = none) :
    noteValue report d = report := by
  simp only [noteValue, h]

/-- An event that is a value reports, and any other one marks or says nothing. -/
theorem agrees_learn (h : Agrees (known label) (report label)) {e : Effect} (he : e.IsMarked) :
    Agrees (learnQuality known e label) (e.value?.toList.foldl noteValue report label) := by
  cases hvalue : e.value? with
  | none =>
    cases hquality : e.quality? with
    | none => rwa [learnQuality_of_none hquality]
    | some q =>
      rw [learnQuality_of_some hquality]
      rcases eq_or_ne label q.1 with rfl | hne
      · rw [Function.update_self]
        exact .of_mark (he q hquality hvalue) _
      · rwa [Function.update_of_ne hne]
  | some d =>
    have hquality := Effect.quality?_of_value? hvalue
    rw [Option.toList_some, List.foldl_cons, List.foldl_nil]
    cases hd : d.2.quality with
    | none =>
      rw [hd] at hquality
      rwa [learnQuality_of_none hquality, noteValue_of_none hd]
    | some quality =>
      rw [hd] at hquality
      rw [learnQuality_of_some hquality, noteValue_of_some hd]
      rcases eq_or_ne label d.1 with rfl | hne
      · rw [Function.update_self, Function.update_self]
        exact ⟨quality, rfl, .inl rfl⟩
      · rwa [Function.update_of_ne hne, Function.update_of_ne hne]

/-- The values among the events report what the reader learns from them. -/
theorem agrees_foldl_learn (h : Agrees (known label) (report label)) {events : List Effect}
    (hmarked : ∀ e ∈ events, e.IsMarked) :
    Agrees (events.foldl learnQuality known label)
      ((events.filterMap Effect.value?).foldl noteValue report label) := by
  induction events generalizing known report with
  | nil => exact h
  | cons e events ih =>
    obtain ⟨he, hmarked⟩ := List.forall_mem_cons.mp hmarked
    have hrest := ih (agrees_learn h he) hmarked
    cases hvalue : e.value? with
    | none =>
      rw [hvalue] at hrest
      rwa [List.filterMap_cons_none hvalue]
    | some d =>
      rw [hvalue] at hrest
      rwa [List.filterMap_cons_some hvalue]

/-- Events without a value leave a label marked that one of them is about. -/
theorem agrees_lost_of_mem {events : List Effect} (hmarked : ∀ e ∈ events, e.IsMarked)
    (hvalues : events.filterMap Effect.value? = []) {q : QualityAttributes} {e : Effect}
    (he : e ∈ events) (hquality : e.quality? = some (label, q)) :
    Agrees (events.foldl learnQuality known label) .lost := by
  have hvalueless := List.filterMap_eq_nil_iff.mp hvalues
  have hmark : q.isUsable = false := hmarked e he _ hquality (hvalueless e he)
  obtain ⟨before, after, rfl⟩ := List.append_of_mem he
  rw [List.foldl_append, List.foldl_cons]
  have hlost : Agrees (learnQuality (before.foldl learnQuality known) e label) .lost := by
    rw [learnQuality_of_some hquality, Function.update_self]
    exact .of_mark hmark .lost
  have hafter : after.filterMap Effect.value? = [] := List.filterMap_eq_nil_iff.mpr fun e' he' =>
    hvalueless e' (List.mem_append_right _ (List.mem_cons_of_mem _ he'))
  have hagrees := @agrees_foldl_learn _ (fun _ => .lost) label hlost after fun e' he' =>
    hmarked e' (List.mem_append_right _ (List.mem_cons_of_mem _ he'))
  rwa [hafter] at hagrees

end

/-! ## A step of the client -/

section

variable (cfg : IEC104ClientConfig) (redGroup : ConId → RedGroupCon) (s : System)

theorem clientStep_marked (i : ClientInput) :
    ∀ e ∈ (clientStep cfg redGroup s i).2, e.IsMarked := by
  obtain ⟨-, -, events, hout, -, -, -, hmarked, -⟩ := handle_publishes cfg redGroup s.clear i
  have hemitted : (clientStep cfg redGroup s i).2 = events := hout
  rwa [hemitted]

/-- What a step reports, apart from losses. -/
theorem clientStep_agrees {known : String → Option QualityAttributes} {report : String → Report}
    {label : String} (h : Agrees (known label) (report label)) (i : ClientInput) :
    Agrees ((clientStep cfg redGroup s i).2.foldl learnQuality known label)
      ((elementsToRead s.client.exchangeDefinitions s.connections i).foldl noteElement report
        label) := by
  have hagrees := agrees_foldl_learn h (clientStep_marked cfg redGroup s i)
  rw [clientStep_values, List.foldl_map] at hagrees
  simpa only [noteElement_eq] using hagrees

/-- A burst marks the labels of all monitored definitions. -/
theorem clientStep_lost {timeInMs now : Nat} (h : s.marksNonTopical cfg redGroup timeInMs now)
    {dp : DataExchangeDefinition} (hdp : dp ∈ s.client.exchangeDefinitions.monitored)
    (known : String → Option QualityAttributes) :
    Agrees ((clientStep cfg redGroup s (.monitoringThread timeInMs now)).2.foldl learnQuality known
      dp.label) .lost := by
  have hpublished := clientStep_published cfg redGroup s timeInMs now
  rw [if_pos h] at hpublished
  have hmem : Client.qualityUpdate IEC60870_QUALITY_NON_TOPICAL dp ∈
      (clientStep cfg redGroup s (.monitoringThread timeInMs now)).2 := by
    refine List.mem_of_mem_filter (hpublished.symm ▸ ?_ : _ ∈ dataObjects _)
    exact List.mem_map_of_mem hdp
  exact agrees_lost_of_mem (clientStep_marked cfg redGroup s _) (clientStep_values ..) hmem rfl

end

/-- Throughout every run of a started client, whatever the threads and the station do: what the
reader knows of each label agrees with what was reported for it. -/
theorem qualities_agree (cfg : IEC104ClientConfig) (redGroup : ConId → RedGroupCon)
    (t : ExchangeTable) (connections : List ConId) (timeInMs : Nat) (is : List ClientInput) :
    let start := System.started cfg redGroup t connections timeInMs
    Always (watch (clientStep cfg redGroup) (noteQuality cfg redGroup))
      (fun s => ∀ label, Agrees (s.2.known label) (s.2.report label))
      (start,
        { known := start.client.out.foldl learnQuality fun _ => none
          report := markLost t.monitored fun _ => .unheard }) is := by
  intro start
  refine always_of_invariant (I := fun s : System × QualityWatch =>
    ∀ label, Agrees (s.2.known label) (s.2.report label)) (fun s i hs label => ?_) (fun _ => id)
    fun label => ?_
  · show Agrees ((clientStep cfg redGroup s.1 i).2.foldl learnQuality s.2.known label)
      ((noteQuality cfg redGroup s.2 s.1 i (clientStep cfg redGroup s.1 i).2).report label)
    have hreports := clientStep_agrees cfg redGroup s.1 (hs label) i
    cases i with
    | monitoringThread timeInMs now =>
      simp only [noteQuality]
      split_ifs with hmarks
      · unfold markLost
        split_ifs with hlabel
        · obtain ⟨dp, hdp, rfl⟩ := List.mem_map.mp hlabel
          exact clientStep_lost cfg redGroup s.1 hmarks hdp s.2.known
        · exact hreports
      · exact hreports
    | _ => exact hreports
  · have hout : start.client.out =
        t.monitored.map (Client.qualityUpdate IEC60870_QUALITY_INVALID) := by
      simp [start, System.started, System.monitoringThreadStart, System.init,
        Client.updateQualityForAllDataObjects, Client.sendQualityUpdates_eq,
        Client.updateConnectionStatus_eq, Client.connectionStatusEvents, ExchangeTable.monitored]
    have hsilent : Silent start.client.out := hout ▸ .qualityUpdates t.monitored (by decide)
    simp only [markLost]
    split_ifs with hlabel
    · obtain ⟨dp, hdp, rfl⟩ := List.mem_map.mp hlabel
      exact agrees_lost_of_mem hsilent.isMarked hsilent.filterMap_value?
        (hout ▸ List.mem_map_of_mem hdp) rfl
    · have hnothing : Agrees none (.unheard) := fun _ hq => by cases hq
      have hagrees := @agrees_foldl_learn (fun _ => none) (fun _ => .unheard) label hnothing _
        hsilent.isMarked
      rwa [hsilent.filterMap_value?] at hagrees

end Iec104South
