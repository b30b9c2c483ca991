import Iec104South.ConfigImport

/-!
# The data derived from the exchange table

`importExchangeConfig` fills three containers: the table of the definitions, the set of
addresses that trigger a GI, and the list of common addresses. Only the table is cleared at
the start. This module says what the containers hold after any sequence of imports, and
when the two derived ones agree with the table.

* `entries document`: what the text stores, in order, up to the point where its import
  returns. Every import is `addAll` of these entries (`importExchangeConfig_eq`).
* `derivedFrom_iff`: the derived data agree with the table, as they do after the import of the
  same text into a fresh object, if and only if the texts are `Undisturbed`.
-/

namespace Iec104South

/-! ## What a text stores -/

/-- A definition with the mark of its datapoint, `isGiTriggeringTs`. -/
abbrev Entry := DataExchangeDefinition × Bool

def record (l : List Entry) (dp : DataExchangeDefinition) (isGiTriggeringTs : Bool) :
    List Entry :=
  l ++ [(dp, isGiTriggeringTs)]

/-- The loop of the import with a list for its containers. -/
def storedBy (document : Option Json) : ForInStep (List Entry) :=
  match exchangedDatapoints document with
  | none => .done []
  | some datapoints => scan (importDatapoint record) [] datapoints

/-- The definitions the import of the text stores, in order. -/
def entries (document : Option Json) : List Entry := (storedBy document).value

/-- The import gets to the end of the text. -/
def completes (document : Option Json) : Bool := (storedBy document).isYield

/-- The entry an address holds after all of them are stored: the last one. -/
def lastStored (l : List Entry) (ca ioa : Int) : Option Entry :=
  (l.filter fun e => e.1.ca = ca ∧ e.1.ioa = ioa).getLast?

theorem mem_of_lastStored {l : List Entry} {ca ioa : Int} {e : Entry}
    (h : lastStored l ca ioa = some e) : e ∈ l ∧ e.1.ca = ca ∧ e.1.ioa = ioa := by
  simpa using List.mem_of_getLast? h

theorem lastStored_isSome {l : List Entry} {e : Entry} (h : e ∈ l) :
    ∃ e', lastStored l e.1.ca e.1.ioa = some e' := by
  have hmem : e ∈ l.filter fun e' => e'.1.ca = e.1.ca ∧ e'.1.ioa = e.1.ioa := by
    simpa using h
  exact Option.isSome_iff_exists.mp (List.getLast?_isSome.mpr (List.ne_nil_of_mem hmem))

theorem find?_ofDatapoints_entries (l : List Entry) (ca ioa : Int) :
    (ExchangeTable.ofDatapoints (l.map (·.1))).find? ca ioa = (lastStored l ca ioa).map (·.1) := by
  rw [ExchangeTable.find?_ofDatapoints, List.filter_map, List.getLast?_map]
  rfl

/-! ## The import as a whole -/

def addAll (c : ImportedConfig) (l : List Entry) : ImportedConfig :=
  l.foldl (fun c e => addDefinition c e.1 e.2) c

theorem addAll_concat (c : ImportedConfig) (l : List Entry) (e : Entry) :
    addAll c (l ++ [e]) = addDefinition (addAll c l) e.1 e.2 := List.foldl_concat ..

theorem addAll_exchangeDefinitions (c : ImportedConfig) (l : List Entry) :
    (addAll c l).exchangeDefinitions =
      (l.map (·.1)).foldl ExchangeTable.store c.exchangeDefinitions := by
  induction l using List.reverseRecOn with
  | nil => rfl
  | append_singleton l e ih =>
    rw [addAll_concat, List.map_append, List.foldl_append, ← ih]
    rfl

/-- The stores change the table and the addresses that trigger a GI only. -/
theorem addAll_eq (c : ImportedConfig) (l : List Entry) :
    addAll c l = { c with
      exchangeDefinitions := (addAll c l).exchangeDefinitions
      config := { c.config with
        cgTriggeringTsAdresses := (addAll c l).config.cgTriggeringTsAdresses } } := by
  induction l using List.reverseRecOn with
  | nil => rfl
  | append_singleton l e ih =>
    rw [addAll_concat]
    simp only [addDefinition]
    rw [ih]

theorem mem_cgTriggering_addAll {c : ImportedConfig} {l : List Entry} {ca ioa : Int} :
    (ca, ioa) ∈ (addAll c l).config.cgTriggeringTsAdresses ↔
      (ca, ioa) ∈ c.config.cgTriggeringTsAdresses ∨
        ∃ e ∈ l, e.2 ∧ e.1.ca = ca ∧ e.1.ioa = ioa := by
  induction l using List.reverseRecOn with
  | nil => simp [addAll]
  | append_singleton l e ih =>
    have hstep : (ca, ioa) ∈ (addAll c (l ++ [e])).config.cgTriggeringTsAdresses ↔
        (e.2 ∧ e.1.ca = ca ∧ e.1.ioa = ioa) ∨
          (ca, ioa) ∈ (addAll c l).config.cgTriggeringTsAdresses := by
      rw [addAll_concat]
      simp only [addDefinition]
      split_ifs with htrigger
      · simp [htrigger, eq_comm]
      · simp [htrigger]
    rw [hstep, ih, or_comm, or_assoc]
    simp only [List.mem_append, List.mem_singleton, or_and_right, exists_or, exists_eq_left]

theorem importDatapoint_addAll (c : ImportedConfig) (l : List Entry) (datapoint : Json) :
    importDatapoint addDefinition (addAll c l) datapoint =
      (importDatapoint record l datapoint).map (addAll c) := by
  unfold importDatapoint
  split
  · rfl
  · refine scan_map (fun l protocol => ?_) l _
    unfold importProtocol
    split
    · rfl
    · rfl
    · next dp _ => exact congrArg ForInStep.yield (addAll_concat c l (dp, _)).symm

/-- What every import does: it clears the table, stores the entries of its text, and, if it
gets to the end, collects the common addresses. -/
theorem importExchangeConfig_eq (document : Option Json) (c : ImportedConfig) :
    importExchangeConfig document c =
      let c' := addAll (deleteExchangeDefinitions { c with exchangeConfigComplete := false })
        (entries document)
      if completes document then
        { c' with
          config := { c'.config with
            listOfCAs := collectCAs c'.config.listOfCAs c'.exchangeDefinitions }
          exchangeConfigComplete := true }
      else c' := by
  unfold importExchangeConfig entries completes storedBy
  cases exchangedDatapoints document with
  | none => rfl
  | some datapoints =>
    have hscan := scan_map (importDatapoint_addAll
      (deleteExchangeDefinitions { c with exchangeConfigComplete := false })) [] datapoints
    obtain ⟨stored, hstored⟩ : ∃ stored, scan (importDatapoint record) [] datapoints = stored :=
      ⟨_, rfl⟩
    rw [addAll, List.foldl_nil] at hscan
    simp only [hscan, hstored]
    cases stored <;> rfl

theorem importExchangeConfig_definitions (document : Option Json) (c : ImportedConfig) :
    (importExchangeConfig document c).exchangeDefinitions =
      ExchangeTable.ofDatapoints ((entries document).map (·.1)) := by
  rw [importExchangeConfig_eq]
  dsimp only
  split_ifs <;> exact addAll_exchangeDefinitions ..

theorem mem_collectCAs {listOfCAs : List Int} {t : ExchangeTable} {ca : Int} :
    ca ∈ collectCAs listOfCAs t ↔ ca ∈ listOfCAs ∨ ca ∈ t.cas := by
  unfold collectCAs
  induction t.cas generalizing listOfCAs with
  | nil => simp
  | cons ca' cas ih =>
    rw [List.foldl_cons, ih, List.mem_cons]
    split_ifs with hmem
    · constructor
      · exact Or.imp_right .inr
      · rintro (h | rfl | h)
        · exact .inl h
        · exact .inl hmem
        · exact .inr h
    · rw [List.mem_append, List.mem_singleton, or_assoc]

theorem mem_cgTriggering_importExchangeConfig {document : Option Json} {c : ImportedConfig}
    {ca ioa : Int} :
    (ca, ioa) ∈ (importExchangeConfig document c).config.cgTriggeringTsAdresses ↔
      (ca, ioa) ∈ c.config.cgTriggeringTsAdresses ∨
        ∃ e ∈ entries document, e.2 ∧ e.1.ca = ca ∧ e.1.ioa = ioa := by
  rw [importExchangeConfig_eq]
  dsimp only
  split_ifs <;> exact mem_cgTriggering_addAll

theorem importExchangeConfig_complete (document : Option Json) (c : ImportedConfig) :
    (importExchangeConfig document c).exchangeConfigComplete = completes document := by
  rw [importExchangeConfig_eq]
  dsimp only
  split_ifs with hcompletes
  · exact hcompletes.symm
  · rw [addAll_eq]
    exact (Bool.eq_false_iff.mpr hcompletes).symm

theorem mem_listOfCAs_importExchangeConfig {document : Option Json} {c : ImportedConfig}
    {ca : Int} :
    ca ∈ (importExchangeConfig document c).config.listOfCAs ↔
      ca ∈ c.config.listOfCAs ∨ (completes document ∧ ∃ e ∈ entries document, e.1.ca = ca) := by
  have hkept (l : List Entry) :
      (addAll (deleteExchangeDefinitions { c with exchangeConfigComplete := false })
        l).config.listOfCAs = c.config.listOfCAs := by
    rw [addAll_eq]
    rfl
  rw [importExchangeConfig_eq]
  dsimp only
  split_ifs with hcompletes
  · rw [mem_collectCAs, hkept, addAll_exchangeDefinitions]
    refine or_congr_right ?_
    rw [and_iff_right hcompletes]
    refine ExchangeTable.mem_cas_ofDatapoints.trans ?_
    simp
  · rw [hkept]
    simp [hcompletes]

/-! ## Sequences of imports -/

/-- The imports of some texts one after the other. -/
def importAll (documents : List (Option Json)) (c : ImportedConfig) : ImportedConfig :=
  documents.foldl (fun c document => importExchangeConfig document c) c

theorem importAll_concat (documents : List (Option Json)) (document : Option Json)
    (c : ImportedConfig) :
    importAll (documents ++ [document]) c = importExchangeConfig document (importAll documents c) :=
  List.foldl_concat ..

/-- The object before the first exchange text is imported. -/
def ImportedConfig.fresh (c : ImportedConfig) : ImportedConfig :=
  { c with
    exchangeDefinitions := .empty
    exchangeConfigComplete := false
    config := { c.config with listOfCAs := [], cgTriggeringTsAdresses := [] } }

/-- The import of the protocol text does not look at the exchange data. -/
theorem importProtocolConfig_fresh (document : Option Json) (c : ImportedConfig) :
    (importProtocolConfig document c).fresh = importProtocolConfig document c.fresh := by
  unfold importProtocolConfig
  cases protocolLayers document with
  | none => rfl
  | some layers =>
    simp only [foldl_importRedGroup]
    rfl

/-- `setJsonConfig` imports the exchange data into a fresh object. -/
theorem setJsonConfig_eq (stackConfiguration msgConfiguration tlsConfiguration : Option Json) :
    setJsonConfig stackConfiguration msgConfiguration tlsConfiguration =
      importTlsConfig tlsConfiguration (importExchangeConfig msgConfiguration
        (importProtocolConfig stackConfiguration {}).fresh) := by
  rw [importProtocolConfig_fresh]
  rfl

theorem mem_listOfCAs_of_fresh {document : Option Json} {c : ImportedConfig} {ca : Int} :
    ca ∈ (importExchangeConfig document c.fresh).config.listOfCAs ↔
      completes document ∧ ∃ e ∈ entries document, e.1.ca = ca := by
  rw [mem_listOfCAs_importExchangeConfig]
  exact or_iff_right List.not_mem_nil

theorem mem_cgTriggering_importAll {documents : List (Option Json)} {c : ImportedConfig}
    {ca ioa : Int} :
    (ca, ioa) ∈ (importAll documents c.fresh).config.cgTriggeringTsAdresses ↔
      ∃ d ∈ documents, ∃ e ∈ entries d, e.2 ∧ e.1.ca = ca ∧ e.1.ioa = ioa := by
  induction documents using List.reverseRecOn with
  | nil => simp [importAll, ImportedConfig.fresh]
  | append_singleton documents document ih =>
    rw [importAll_concat, mem_cgTriggering_importExchangeConfig, ih]
    simp only [List.mem_append, List.mem_singleton, or_and_right, exists_or, exists_eq_left]

theorem mem_listOfCAs_importAll {documents : List (Option Json)} {c : ImportedConfig} {ca : Int} :
    ca ∈ (importAll documents c.fresh).config.listOfCAs ↔
      ∃ d ∈ documents, completes d ∧ ∃ e ∈ entries d, e.1.ca = ca := by
  induction documents using List.reverseRecOn with
  | nil => simp [importAll, ImportedConfig.fresh]
  | append_singleton documents document ih =>
    rw [importAll_concat, mem_listOfCAs_importExchangeConfig, ih]
    simp only [List.mem_append, List.mem_singleton, or_and_right, exists_or, exists_eq_left]

/-! ## When the derived data agree with the table -/

/-- The derived data are those of the stored definitions. `l` is what the last text stored:
it tells of each definition whether its datapoint triggers a GI. -/
structure DerivedFrom (l : List Entry) (c : ImportedConfig) : Prop where
  triggers : ∀ ca ioa, c.config.isTsAddressCgTriggering ca ioa ↔
    ∃ dp, c.exchangeDefinitions.find? ca ioa = some dp ∧ lastStored l ca ioa = some (dp, true)
  cas : ∀ ca, ca ∈ c.config.listOfCAs ↔ ∃ ioa dp, c.exchangeDefinitions.find? ca ioa = some dp

/-- The two objects hold the same exchange data. -/
structure SameExchangeData (c c' : ImportedConfig) : Prop where
  definitions : c.exchangeDefinitions = c'.exchangeDefinitions
  triggers : ∀ ca ioa,
    c.config.isTsAddressCgTriggering ca ioa ↔ c'.config.isTsAddressCgTriggering ca ioa
  cas : ∀ ca, ca ∈ c.config.listOfCAs ↔ ca ∈ c'.config.listOfCAs

/-- The last text leaves nothing of the earlier ones behind, nor of its own datapoints that
it replaces, and it is read to its end if it stores anything. -/
structure Undisturbed (documents : List (Option Json)) (document : Option Json) : Prop where
  triggers : ∀ d ∈ documents ++ [document], ∀ e ∈ entries d, e.2 →
    ∃ dp, lastStored (entries document) e.1.ca e.1.ioa = some (dp, true)
  cas : ∀ d ∈ documents, completes d → ∀ e ∈ entries d, ∃ e' ∈ entries document,
    e'.1.ca = e.1.ca
  complete : entries document ≠ [] → completes document

theorem find?_importExchangeConfig {document : Option Json} {c : ImportedConfig} {ca ioa : Int}
    {dp : DataExchangeDefinition} :
    (importExchangeConfig document c).exchangeDefinitions.find? ca ioa = some dp ↔
      ∃ mark, lastStored (entries document) ca ioa = some (dp, mark) := by
  rw [importExchangeConfig_definitions, find?_ofDatapoints_entries, Option.map_eq_some_iff]
  constructor
  · rintro ⟨⟨dp', mark⟩, hlast, rfl⟩
    exact ⟨mark, hlast⟩
  · rintro ⟨mark, hlast⟩
    exact ⟨_, hlast, rfl⟩

/-- The common addresses of the stored definitions are those of the entries of the text. -/
theorem exists_find?_importExchangeConfig {document : Option Json} {c : ImportedConfig}
    {ca : Int} :
    (∃ ioa dp, (importExchangeConfig document c).exchangeDefinitions.find? ca ioa = some dp) ↔
      ∃ e ∈ entries document, e.1.ca = ca := by
  simp only [find?_importExchangeConfig]
  constructor
  · rintro ⟨ioa, dp, mark, hlast⟩
    obtain ⟨hmem, hca, -⟩ := mem_of_lastStored hlast
    exact ⟨_, hmem, hca⟩
  · rintro ⟨e, he, rfl⟩
    obtain ⟨⟨dp, mark⟩, hlast⟩ := lastStored_isSome he
    exact ⟨e.1.ioa, dp, mark, hlast⟩

theorem isTsAddressCgTriggering_iff {cfg : IEC104ClientConfig} {ca ioa : Int} :
    cfg.isTsAddressCgTriggering ca ioa ↔ (ca, ioa) ∈ cfg.cgTriggeringTsAdresses :=
  decide_eq_true_iff

section

variable {documents : List (Option Json)} {document : Option Json} {c : ImportedConfig}

theorem triggers_derived_iff :
    (∀ ca ioa, (importAll (documents ++ [document])
        c.fresh).config.isTsAddressCgTriggering ca ioa ↔
      ∃ dp, (importAll (documents ++ [document]) c.fresh).exchangeDefinitions.find? ca ioa =
          some dp ∧
        lastStored (entries document) ca ioa = some (dp, true)) ↔
      ∀ d ∈ documents ++ [document], ∀ e ∈ entries d, e.2 →
        ∃ dp, lastStored (entries document) e.1.ca e.1.ioa = some (dp, true) := by
  have hstored (ca ioa : Int) :
      (∃ dp, (importAll (documents ++ [document]) c.fresh).exchangeDefinitions.find? ca ioa =
          some dp ∧ lastStored (entries document) ca ioa = some (dp, true)) ↔
        ∃ dp, lastStored (entries document) ca ioa = some (dp, true) := by
    simp only [importAll_concat, find?_importExchangeConfig]
    exact exists_congr fun dp => and_iff_right_of_imp fun h => ⟨true, h⟩
  simp only [isTsAddressCgTriggering_iff, mem_cgTriggering_importAll, hstored]
  constructor
  · intro h d hd e he htrigger
    exact (h e.1.ca e.1.ioa).mp ⟨d, hd, e, he, htrigger, rfl, rfl⟩
  · intro h ca ioa
    constructor
    · rintro ⟨d, hd, e, he, htrigger, rfl, rfl⟩
      exact h d hd e he htrigger
    · rintro ⟨dp, hlast⟩
      obtain ⟨hmem, hca, hioa⟩ := mem_of_lastStored hlast
      exact ⟨document, by simp, _, hmem, rfl, hca, hioa⟩

/-- Data that agree with the table and with those of a fresh object need undisturbed texts. -/
theorem undisturbed_of_derivedFrom
    (hderived : DerivedFrom (entries document) (importAll (documents ++ [document]) c.fresh))
    (hsame : SameExchangeData (importAll (documents ++ [document]) c.fresh)
      (importExchangeConfig document c.fresh)) : Undisturbed documents document := by
  refine ⟨triggers_derived_iff.mp hderived.triggers, ?_, ?_⟩
  · intro d hd hcompletes e he
    have hmem : e.1.ca ∈ (importAll (documents ++ [document]) c.fresh).config.listOfCAs :=
      mem_listOfCAs_importAll.mpr ⟨d, List.mem_append_left _ hd, hcompletes, e, he, rfl⟩
    exact (mem_listOfCAs_of_fresh.mp ((hsame.cas _).mp hmem)).2
  · -- a definition that is stored has its common address in both lists
    intro hstores
    obtain ⟨e, he⟩ := List.exists_mem_of_ne_nil _ hstores
    have hmem : e.1.ca ∈ (importAll (documents ++ [document]) c.fresh).config.listOfCAs := by
      rw [hderived.cas, importAll_concat, exists_find?_importExchangeConfig]
      exact ⟨e, he, rfl⟩
    exact (mem_listOfCAs_of_fresh.mp ((hsame.cas _).mp hmem)).1

namespace Undisturbed

/-- Undisturbed texts leave the common addresses of the last one. -/
theorem mem_listOfCAs (h : Undisturbed documents document) (ca : Int) :
    ca ∈ (importAll (documents ++ [document]) c.fresh).config.listOfCAs ↔
      ∃ e ∈ entries document, e.1.ca = ca := by
  rw [mem_listOfCAs_importAll]
  constructor
  · rintro ⟨d, hd, hcompletes, e, he, rfl⟩
    rcases List.mem_append.mp hd with hd | hd
    · exact h.cas d hd hcompletes e he
    · rw [List.mem_singleton.mp hd] at he
      exact ⟨e, he, rfl⟩
  · rintro ⟨e, he, hca⟩
    exact ⟨document, by simp, h.complete (List.ne_nil_of_mem he), e, he, hca⟩

/-- The last text alone is undisturbed too. -/
theorem last (h : Undisturbed documents document) : Undisturbed [] document where
  triggers d hd := h.triggers d (List.mem_append_right _ hd)
  cas _ hd := absurd hd List.not_mem_nil
  complete := h.complete

theorem derivedFrom (h : Undisturbed documents document) :
    DerivedFrom (entries document) (importAll (documents ++ [document]) c.fresh) where
  triggers := triggers_derived_iff.mpr h.triggers
  cas ca := by
    rw [h.mem_listOfCAs, importAll_concat, exists_find?_importExchangeConfig]

theorem sameExchangeData (h : Undisturbed documents document) :
    SameExchangeData (importAll (documents ++ [document]) c.fresh)
      (importExchangeConfig document c.fresh) where
  definitions := by
    rw [importAll_concat, importExchangeConfig_definitions, importExchangeConfig_definitions]
  triggers ca ioa := by
    have hlast : DerivedFrom (entries document) (importExchangeConfig document c.fresh) :=
      h.last.derivedFrom
    refine (h.derivedFrom.triggers ca ioa).trans (Iff.trans ?_ (hlast.triggers ca ioa).symm)
    simp only [importAll_concat, find?_importExchangeConfig]
  cas ca := (h.mem_listOfCAs ca).trans (h.last.mem_listOfCAs ca).symm

end Undisturbed

/-- The derived data agree with the table, and an import after earlier ones leaves what it
leaves in a fresh object, exactly if the texts are undisturbed. -/
theorem derivedFrom_iff (c : ImportedConfig) (documents : List (Option Json))
    (document : Option Json) :
    DerivedFrom (entries document) (importAll (documents ++ [document]) c.fresh) ∧
        SameExchangeData (importAll (documents ++ [document]) c.fresh)
          (importExchangeConfig document c.fresh) ↔
      Undisturbed documents document := by
  constructor
  · rintro ⟨hderived, hsame⟩
    exact undisturbed_of_derivedFrom hderived hsame
  · intro h
    exact ⟨h.derivedFrom, h.sameExchangeData⟩

end

/-- A datapoint for IEC 104 at an address, with its pivot subtypes. -/
def datapointAt (label address : String) (subtypes : List String) : Json :=
  .object [("label", .string label), ("pivot_subtypes", .array (subtypes.map .string)),
    ("protocols", .array [.object [("name", .string "iec104"), ("address", .string address),
      ("typeid", .string "M_SP_NA_1")]])]

def exchangedData (datapoints : List Json) : Json :=
  .object [("exchanged_data", .object [("datapoints", .array datapoints)])]

/-- Two datapoints at one address, the first of which triggers a GI. -/
def replacedDatapointText : Option Json :=
  some (exchangedData [datapointAt "TS1" "41025-4202832" ["trigger_south_gi"],
    datapointAt "TS2" "41025-4202832" []])

/-- The second datapoint replaces the definition of the first one, but the address goes on
triggering. -/
theorem replaced_datapoint_triggers :
    ¬∀ (c : ImportedConfig) (documents : List (Option Json)) (document : Option Json),
      DerivedFrom (entries document) (importAll (documents ++ [document]) c.fresh) ∧
        SameExchangeData (importAll (documents ++ [document]) c.fresh)
          (importExchangeConfig document c.fresh) := by
  intro h
  obtain ⟨hderived, -⟩ := h {} [] replacedDatapointText
  obtain ⟨dp, -, hlast⟩ := (hderived.triggers 41025 4202832).mp (by decide)
  have hmark : (lastStored (entries replacedDatapointText) 41025 4202832).map (·.2) =
      some false := by decide
  rw [hlast] at hmark
  cases hmark

end Iec104South
