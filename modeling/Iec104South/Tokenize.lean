import Iec104South.Lib.Loop
import Iec104South.Lib.Split
import Iec104South.AddressGrammar

/-!
# The split of the GI groups

`tokenizeString` splits a text at a delimiter. It appends the delimiter to the text, and as long
as there is a delimiter in the text it takes off the part that ends with the first one. The model
of the import looks for `station` among the parts that `Text.tokenize` returns, which are those of
this loop (`tokenizeString_blank`).

* `Cut`: the invariant of the loop.
* `tokenizeString_ends`: the loop ends, and what it returns is the exact split. An empty
  delimiter, which is found in every text, would keep it running.
* `reaches_of_mem_entries`: what the import stores comes from an element it got to.
-/

namespace Iec104South

open Json

section

variable {α : Type*}

/-- The variables of the loop of `tokenizeString`. -/
structure Tokenizing (α : Type*) where
  tokens : List (List α)
  str : List α
deriving DecidableEq

/-- A round of the loop, `none` where `find` returns `npos`. -/
def tokenizeRound [DecidableEq α] (delimiter : List α) (s : Tokenizing α) : Option (Tokenizing α) :=
  (Split.find? delimiter s.str).map fun pos =>
    { tokens := s.tokens ++ [s.str.take pos]
      str := s.str.drop (pos + delimiter.length) }

/-- `tokenizeString`, with what it leaves in `str`, its parameter by reference. `none` if `fuel`
searches of the delimiter are not enough. -/
def tokenizeString [DecidableEq α] (fuel : Nat) (str delimiter : List α) :
    Option (Tokenizing α) :=
  Loop.run (tokenizeRound delimiter) fuel { tokens := [], str := str ++ delimiter }

/-- The tokens, each with the delimiter that ended it, and the rest are the text. -/
structure Cut (delimiter text : List α) (s : Tokenizing α) : Prop where
  joined : s.tokens.flatMap (· ++ delimiter) ++ s.str = text
  free : ∀ token ∈ s.tokens, ¬ delimiter <:+: token
  rest : Split.Unbordered delimiter → s.str = [] ∨ delimiter <:+ s.str

theorem cut_start (str delimiter : List α) :
    Cut delimiter (str ++ delimiter) { tokens := [], str := str ++ delimiter } where
  joined := rfl
  free := by simp
  rest _ := Or.inr (List.suffix_append str delimiter)

/-- The tokens of the text are an exact split: no delimiter is left in one, and they give the text
back if the delimiter cannot overlap itself. -/
structure SplitsExactly (str delimiter : List α) (tokens : List (List α)) : Prop where
  free : ∀ token ∈ tokens, ¬ delimiter <:+: token
  joined : Split.Unbordered delimiter → delimiter.intercalate tokens = str
  nonempty : Split.Unbordered delimiter → tokens ≠ []

variable [DecidableEq α]

/-- What a round does: it takes a token and the delimiter behind it off the text. -/
theorem tokenizeRound_eq_some {delimiter : List α} {s s' : Tokenizing α}
    (h : tokenizeRound delimiter s = some s') :
    ∃ token, Split.FirstOccurrence delimiter s.str token s'.str ∧
      s'.tokens = s.tokens ++ [token] := by
  obtain ⟨pos, hpos, rfl⟩ := Option.map_eq_some_iff.mp h
  obtain ⟨token, rest, hfirst, rfl⟩ := Split.find?_eq_some hpos
  have htake : s.str.take token.length = token := by
    rw [hfirst.split, List.append_assoc, List.take_left]
  have hdrop : s.str.drop (token.length + delimiter.length) = rest := by
    rw [hfirst.split, ← List.length_append, List.drop_left]
  refine ⟨token, ?_, by rw [htake]⟩
  dsimp only
  rw [hdrop]
  exact hfirst

theorem tokenizeRound_eq_none {delimiter : List α} {s : Tokenizing α} :
    tokenizeRound delimiter s = none ↔ ¬ delimiter <:+: s.str := by
  rw [tokenizeRound, Option.map_eq_none_iff, Split.find?_eq_none_iff]

/-- A round keeps the cut and shortens the text. -/
theorem Cut.round {delimiter text : List α} (hne : delimiter ≠ []) {s s' : Tokenizing α}
    (h : Cut delimiter text s) (hround : tokenizeRound delimiter s = some s') :
    Cut delimiter text s' ∧ s'.str.length < s.str.length := by
  obtain ⟨token, hfirst, htokens⟩ := tokenizeRound_eq_some hround
  have hshorter := hfirst.length_lt hne
  refine ⟨⟨?_, ?_, fun hunbordered => ?_⟩, hshorter⟩
  · calc s'.tokens.flatMap (· ++ delimiter) ++ s'.str
        = s.tokens.flatMap (· ++ delimiter) ++ (token ++ delimiter ++ s'.str) := by
          rw [htokens, List.flatMap_append, List.flatMap_singleton, List.append_assoc]
      _ = text := by rw [← hfirst.split, h.joined]
  · rw [htokens]
    exact List.forall_mem_append.mpr
      ⟨h.free, List.forall_mem_singleton.mpr (hfirst.not_in_before hne)⟩
  · rcases h.rest hunbordered with hnil | hend
    · rw [hnil] at hshorter
      exact absurd hshorter (Nat.not_lt_zero _)
    · exact hunbordered.rest hfirst.split hend

/-- Where the loop ends nothing is left, if the delimiter cannot overlap itself. -/
theorem Cut.str_eq_nil {delimiter text : List α} {s : Tokenizing α} (h : Cut delimiter text s)
    (hend : tokenizeRound delimiter s = none) (hunbordered : Split.Unbordered delimiter) :
    s.str = [] :=
  (h.rest hunbordered).resolve_right fun hsuffix =>
    tokenizeRound_eq_none.mp hend hsuffix.isInfix

theorem Cut.splitsExactly {str delimiter : List α} (hne : delimiter ≠ []) {s : Tokenizing α}
    (h : Cut delimiter (str ++ delimiter) s) (hend : tokenizeRound delimiter s = none) :
    SplitsExactly str delimiter s.tokens := by
  have htext (hunbordered : Split.Unbordered delimiter) :
      s.tokens.flatMap (· ++ delimiter) = str ++ delimiter := by
    rw [← h.joined, h.str_eq_nil hend hunbordered, List.append_nil]
  have hnonempty (hunbordered : Split.Unbordered delimiter) : s.tokens ≠ [] := by
    intro hnil
    have hempty := htext hunbordered
    rw [hnil, List.flatMap_nil] at hempty
    exact hne (List.append_eq_nil_iff.mp hempty.symm).2
  refine ⟨h.free, fun hunbordered => ?_, hnonempty⟩
  rw [← List.append_left_inj delimiter, ← htext hunbordered,
    Split.flatMap_append_eq_intercalate (hnonempty hunbordered)]

/-- The loop searches the delimiter at most as often as the text with its delimiter has
characters, and once more. -/
theorem tokenizeString_ends (str : List α) {delimiter : List α} (hne : delimiter ≠ []) :
    ∃ s, (∀ fuel, str.length + delimiter.length < fuel →
        tokenizeString fuel str delimiter = some s) ∧
      SplitsExactly str delimiter s.tokens := by
  obtain ⟨s, hrun, hcut, hend⟩ := Loop.run_of_decreasing (fun s : Tokenizing α => s.str.length)
    (fun s s' h hround => Cut.round hne h hround) (cut_start str delimiter)
    (Nat.lt_succ_self (str ++ delimiter).length)
  refine ⟨s, fun fuel hfuel => Loop.run_mono ?_ hrun, hcut.splitsExactly hne hend⟩
  rw [List.length_append]
  exact hfuel

/-- A delimiter that overlaps itself may be found across the end of the text. -/
example : tokenizeString 3 "a".toList "aa".toList = some { tokens := [[]], str := ['a'] } := by
  decide

/-- The exact split at a single element is `List.splitOn`. -/
theorem SplitsExactly.eq_splitOn {str : List α} {c : α} {tokens : List (List α)}
    (h : SplitsExactly str [c] tokens) : tokens = str.splitOn c := by
  have hunbordered := Split.unbordered_singleton c
  have hnot : ∀ token ∈ tokens, c ∉ token := by
    intro token htoken hmem
    exact h.free token htoken ((List.singleton_infix_iff c token).mpr hmem)
  rw [← h.joined hunbordered, List.splitOn_intercalate c hnot (h.nonempty hunbordered)]

theorem tokenizeString_singleton (str : List α) (c : α) {fuel : Nat}
    (hfuel : str.length + 1 < fuel) :
    ∃ s, tokenizeString fuel str [c] = some s ∧ s.tokens = str.splitOn c := by
  obtain ⟨s, hrun, hsplit⟩ := tokenizeString_ends str (List.cons_ne_nil c [])
  exact ⟨s, hrun fuel hfuel, hsplit.eq_splitOn⟩

theorem tokens_of_tokenizeString {str : List α} {c : α} {fuel : Nat} {s : Tokenizing α}
    (h : tokenizeString fuel str [c] = some s) : s.tokens = str.splitOn c := by
  obtain ⟨t, hrun, htokens⟩ := tokenizeString_singleton str c
    (Nat.lt_of_lt_of_le (Nat.lt_succ_self (str.length + 1)) (Nat.le_max_right fuel _))
  have hrun' := Loop.run_mono (Nat.le_max_left fuel (str.length + 1 + 1)) h
  obtain rfl : s = t := Option.some.inj (hrun'.symm.trans hrun)
  exact htokens

/-- The parts the model of the import looks through are the tokens of the loop. -/
theorem tokenizeString_blank (str : String) {fuel : Nat} (hfuel : str.toList.length + 1 < fuel) :
    ∃ s, tokenizeString fuel str.toList [' '] = some s ∧
      s.tokens.map String.ofList = Text.tokenize ' ' str := by
  obtain ⟨s, hrun, htokens⟩ := tokenizeString_singleton str.toList ' ' hfuel
  exact ⟨s, hrun, by rw [htokens, Text.tokenize]⟩

end

/-! ## The mark of the station group -/

/-- The text of `gi_groups`, if there is one. -/
def giGroupsText (protocol : Json) : Option String := do
  let members ← protocol.object?
  member? members "gi_groups" string?

/-- `station` stands in the text between blanks or its ends. -/
def NamesStation (giGroupsStr : String) : Prop :=
  Split.OccursBetween ' ' "station".toList giGroupsStr.toList

theorem station_mem_tokenize_iff (giGroupsStr : String) :
    "station" ∈ Text.tokenize ' ' giGroupsStr ↔ NamesStation giGroupsStr := by
  rw [NamesStation, ← Split.mem_splitOn_iff (by decide), Text.tokenize, List.mem_map]
  constructor
  · rintro ⟨token, htoken, hstation⟩
    rwa [← hstation, String.toList_ofList]
  · exact fun h => ⟨_, h, String.ofList_toList⟩

/-- The GI groups of a definition come from this text alone. -/
theorem giGroups_of_exchangeDefinition {label : String} {protocol : Json}
    {dp : DataExchangeDefinition} (h : exchangeDefinition label protocol = some (some dp)) :
    dp.giGroups = (giGroupsText protocol).elim 0 fun giGroupsStr =>
      if "station" ∈ Text.tokenize ' ' giGroupsStr then 1 else 0 := by
  unfold exchangeDefinition at h
  obtain ⟨members, hmembers, h⟩ := Option.bind_eq_some_iff.mp h
  obtain ⟨protocolName, hname, h⟩ := Option.bind_eq_some_iff.mp h
  split at h
  · cases h
  obtain ⟨address, haddress, h⟩ := Option.bind_eq_some_iff.mp h
  obtain ⟨typeIdStr, htypeId, h⟩ := Option.bind_eq_some_iff.mp h
  obtain ⟨parts, hparts, h⟩ := Option.bind_eq_some_iff.mp h
  obtain ⟨ca, hca, h⟩ := Option.bind_eq_some_iff.mp h
  obtain ⟨ioa, hioa, h⟩ := Option.bind_eq_some_iff.mp h
  obtain rfl := Option.some.inj (Option.some.inj h)
  rw [giGroupsText, hmembers]
  dsimp only [Option.bind_eq_bind, Option.bind_some]
  cases member? members "gi_groups" string? <;> rfl

theorem isInStationGroup_iff_of_exchangeDefinition {label : String} {protocol : Json}
    {dp : DataExchangeDefinition} (h : exchangeDefinition label protocol = some (some dp)) :
    isInStationGroup dp ↔
      ∃ giGroupsStr, giGroupsText protocol = some giGroupsStr ∧ NamesStation giGroupsStr := by
  rw [isInStationGroup, giGroups_of_exchangeDefinition h]
  cases giGroupsText protocol with
  | none => simp
  | some giGroupsStr =>
    simp only [Option.elim_some, Option.some.injEq, exists_eq_left', ← station_mem_tokenize_iff]
    split_ifs with hstation <;> simp [hstation]

/-- A definition the import stores is that of an element it got to. -/
theorem reaches_of_mem_entries {document : Option Json} {e : Entry} (h : e ∈ entries document) :
    ∃ label protocol stored, Reaches document label e.2 protocol stored ∧
      exchangeDefinition label protocol = some (some e.1) := by
  unfold entries storedBy at h
  cases hdatapoints : exchangedDatapoints document with
  | none =>
    rw [hdatapoints] at h
    exact absurd h List.not_mem_nil
  | some datapoints =>
    rw [hdatapoints] at h
    -- the datapoint in whose round the entry came, and of its elements the one
    obtain ⟨before, datapoint, after, storedBefore, rfl, hbefore, hnew, hround⟩ :=
      exists_round_of_scan (P := fun l => e ∈ l) List.not_mem_nil h
    unfold importDatapoint at hround
    cases hhead : datapointHead datapoint with
    | none =>
      rw [hhead] at hround
      exact absurd hround hnew
    | some head =>
      obtain ⟨label, isGiTriggeringTs, protocols⟩ := head
      rw [hhead] at hround
      obtain ⟨protocolsBefore, protocol, protocolsAfter, stored, rfl, hprotocols, hnew', hround'⟩ :=
        exists_round_of_scan (P := fun l => e ∈ l) hnew hround
      unfold importProtocol at hround'
      split at hround'
      · exact absurd hround' hnew'
      · exact absurd hround' hnew'
      · next dp hdp =>
        obtain rfl : e = (dp, isGiTriggeringTs) :=
          List.mem_singleton.mp ((List.mem_append.mp hround').resolve_left hnew')
        exact ⟨label, protocol, stored, ⟨before, datapoint, after, protocolsBefore, protocolsAfter,
          storedBefore, hdatapoints, hbefore, hhead, hprotocols⟩, hdp⟩

/-- `tokenizeString` ends for every text and every delimiter that is not empty. No token contains
the delimiter, and the tokens joined with it are the text, if it cannot overlap itself. So a
datapoint that is stored is in the station group if and only if `station` stands in its
`gi_groups` between blanks or the ends of the text. -/
theorem tokenizeString_splits_exactly :
    (∀ {α : Type*} [DecidableEq α] (str delimiter : List α), delimiter ≠ [] →
      ∃ s, (∀ fuel, str.length + delimiter.length < fuel →
          tokenizeString fuel str delimiter = some s) ∧
        (∀ token ∈ s.tokens, ¬ delimiter <:+: token) ∧
        (Split.Unbordered delimiter → delimiter.intercalate s.tokens = str)) ∧
    (∀ (document : Option Json) (label : String) (isGiTriggeringTs : Bool) (protocol : Json)
        (stored : List Entry) (dp : DataExchangeDefinition) (giGroupsStr : String),
      Reaches document label isGiTriggeringTs protocol stored →
      exchangeDefinition label protocol = some (some dp) →
      giGroupsText protocol = some giGroupsStr →
        stored ++ [(dp, isGiTriggeringTs)] <+: entries document ∧
        (∀ fuel s, tokenizeString fuel giGroupsStr.toList [' '] = some s →
          (isInStationGroup dp ↔ "station".toList ∈ s.tokens)) ∧
        (isInStationGroup dp ↔ NamesStation giGroupsStr)) ∧
    (∀ (document : Option Json) (c : ImportedConfig) (ca ioa : Int) (dp : DataExchangeDefinition),
      (importExchangeConfig document c).exchangeDefinitions.find? ca ioa = some dp →
        ∃ label isGiTriggeringTs protocol stored,
          Reaches document label isGiTriggeringTs protocol stored ∧
          exchangeDefinition label protocol = some (some dp) ∧
          (isInStationGroup dp ↔
            ∃ giGroupsStr, giGroupsText protocol = some giGroupsStr ∧
              NamesStation giGroupsStr)) := by
  refine ⟨fun str delimiter hne => ?_, ?_, ?_⟩
  · obtain ⟨s, hrun, hsplit⟩ := tokenizeString_ends str hne
    exact ⟨s, hrun, hsplit.free, hsplit.joined⟩
  · intro document label isGiTriggeringTs protocol stored dp giGroupsStr hreach hdp htext
    have hstation := isInStationGroup_iff_of_exchangeDefinition hdp
    simp only [htext, Option.some.injEq, exists_eq_left'] at hstation
    refine ⟨hreach.accepted hdp, fun fuel s hrun => ?_, hstation⟩
    rw [hstation, NamesStation, ← Split.mem_splitOn_iff (by decide),
      tokens_of_tokenizeString hrun]
  · intro document c ca ioa dp hfind
    obtain ⟨isGiTriggeringTs, hlast⟩ := find?_importExchangeConfig.mp hfind
    obtain ⟨label, protocol, stored, hreach, hdp⟩ :=
      reaches_of_mem_entries (mem_of_lastStored hlast).1
    exact ⟨label, isGiTriggeringTs, protocol, stored, hreach, hdp,
      isInStationGroup_iff_of_exchangeDefinition hdp⟩

/-- An element of `protocols` with these GI groups. -/
def stationProtocol (giGroupsStr : String) : Json :=
  .object [("name", .string "iec104"), ("address", .string "41025-4202832"),
    ("typeid", .string "M_SP_NA_1"), ("gi_groups", .string giGroupsStr)]

/-- One datapoint with these GI groups. -/
def stationText (giGroupsStr : String) : Option Json :=
  some (exchangedData [.object [("label", .string "TS1"),
    ("protocols", .array [stationProtocol giGroupsStr])]])

def stationDatapoint : DataExchangeDefinition :=
  { ca := 41025, ioa := 4202832, label := "TS1", typeId := M_SP_NA_1, giGroups := 1 }

theorem stationText_reaches (giGroupsStr : String) :
    Reaches (stationText giGroupsStr) "TS1" false (stationProtocol giGroupsStr) [] :=
  ⟨[], _, [], [], [], [], rfl, rfl, rfl, rfl⟩

theorem station_behind_blanks_marked :
    (∃ s, tokenizeString 6 "a  b".toList [' '] = some s ∧
        [' '].intercalate s.tokens = "a  b".toList) ∧
      NamesStation " g1  station" ∧
      ∃ label isGiTriggeringTs protocol stored,
        Reaches (stationText " g1  station") label isGiTriggeringTs protocol stored ∧
          exchangeDefinition label protocol = some (some stationDatapoint) := by
  obtain ⟨hsplit, hreached, hfound⟩ := tokenizeString_splits_exactly.{0}
  obtain ⟨s, hrun, -, hjoined⟩ := hsplit "a  b".toList [' '] (by decide)
  obtain ⟨-, -, hmarked⟩ := hreached _ _ _ _ _ stationDatapoint " g1  station"
    (stationText_reaches " g1  station") (by decide) (by decide)
  obtain ⟨label, isGiTriggeringTs, protocol, stored, hreach, hdp, -⟩ :=
    hfound (stationText " g1  station") {} 41025 4202832 stationDatapoint (by decide)
  exact ⟨⟨s, hrun 6 (by decide), hjoined (Split.unbordered_singleton ' ')⟩,
    hmarked.mp (by decide), label, isGiTriggeringTs, protocol, stored, hreach, hdp⟩

end Iec104South
