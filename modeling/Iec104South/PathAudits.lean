import Mathlib.Data.List.Count
import Mathlib.Data.List.Nodup
import Iec104South.Lib.Text
import Iec104South.ExchangeImport

/-!
# The audits of the paths

`prepareConnections` makes the connections of all groups and audits the initial status of each
path: the first connection of a group is path A, any other is path B. A group takes its index from
its position among the imported groups, the audits of unused paths count the groups themselves;
both agree (`redundancyGroups_index`). `paths_identified_iff`: the audits identify the paths if and
only if no group has more than two connections.
-/

namespace Iec104South

inductive PathLetter where
  | A
  | B
deriving DecidableEq, Repr

/-- What an initial audit says of a path. -/
inductive InitialStatus where
  | disconnected
  | unused
deriving DecidableEq, Repr

def PathLetter.text : PathLetter → String
  | .A => "A"
  | .B => "B"

def InitialStatus.text : InitialStatus → String
  | .disconnected => "disconnected"
  | .unused => "unused"

/-- The group and the letter of a path. -/
abbrev PathIdentity := Nat × PathLetter

structure PathAudit where
  group : Nat
  letter : PathLetter
  status : InitialStatus
deriving DecidableEq, Repr

namespace PathAudit

def identity (audit : PathAudit) : PathIdentity := (audit.group, audit.letter)

/-- The text of the audit. -/
def text (serviceName : String) (audit : PathAudit) : String :=
  serviceName ++ "-" ++ toString audit.group ++ "-" ++ audit.letter.text ++ "-" ++ audit.status.text

theorem eq_of_letter_status {letter letter' : PathLetter} {status status' : InitialStatus}
    (h : letter.text.toList ++ '-' :: status.text.toList =
      letter'.text.toList ++ '-' :: status'.text.toList) :
    letter = letter' ∧ status = status' := by
  revert h
  cases letter <;> cases letter' <;> cases status <;> cases status' <;> decide

/-- The text names the path and its status. -/
theorem text_injective (serviceName : String) : Function.Injective (text serviceName) := by
  have hparts (audit : PathAudit) : (text serviceName audit).toList = serviceName.toList ++ '-' ::
      (Nat.toDigits 10 audit.group ++ '-' ::
        (audit.letter.text.toList ++ '-' :: audit.status.text.toList)) := by
    simp [text]
  have hsplit (audit : PathAudit) (rest : List Char) :
      Text.splitAtFirst '-' (String.ofList (Nat.toDigits 10 audit.group ++ '-' :: rest)) =
        some (String.ofList (Nat.toDigits 10 audit.group), String.ofList rest) := by
    refine Text.splitAtFirst_eq_some.mpr ⟨by simp, fun hmem => ?_⟩
    rw [String.toList_ofList] at hmem
    exact (Text.isSpace_of_isDigit
      (Nat.isDigit_of_mem_toDigits (by decide) (by decide) hmem)).2.1 rfl
  rintro ⟨g, letter, status⟩ ⟨g', letter', status'⟩ heq
  have htail := congrArg String.toList heq
  rw [hparts, hparts] at htail
  have hrest := List.tail_eq_of_cons_eq (List.append_cancel_left htail)
  have hboth := congrArg (Text.splitAtFirst '-' ∘ String.ofList) hrest
  rw [Function.comp_apply, Function.comp_apply, hsplit, hsplit, Option.some.injEq, Prod.mk.injEq,
    String.ofList_inj, String.ofList_inj] at hboth
  obtain ⟨hdigits, hpath⟩ := hboth
  have hgroup : some g = some g' := by
    rw [← Text.digits?_toDigits g, ← Text.digits?_toDigits g']
    exact congrArg Text.digits? hdigits
  obtain ⟨rfl, rfl⟩ := eq_of_letter_status hpath
  rw [Option.some.inj hgroup]

end PathAudit

/-- A connection as `prepareConnections` makes it. -/
structure PathConnection where
  redGroup : RedGroup
  redGroupConnection : RedGroupConnection
  pathLetter : PathLetter
deriving DecidableEq, Repr

namespace PathConnection

def identity (con : PathConnection) : PathIdentity := (con.redGroup.index, con.pathLetter)

/-- The constructor audits the connection as disconnected. -/
def initialAudit (con : PathConnection) : PathAudit where
  group := con.redGroup.index
  letter := con.pathLetter
  status := .disconnected

end PathConnection

/-- `GetMaxRedGroups` -/
def maxRedGroups : Nat := 2

/-- The connections of a group. -/
def groupConnections (redGroup : RedGroup) : List PathConnection :=
  redGroup.connections.mapIdx fun j connection =>
    { redGroup := redGroup
      redGroupConnection := connection
      pathLetter := if j = 0 then .A else .B }

/-- The audits of the unused paths of the `i`th group. -/
def unusedAudits (i configuredConnections : Nat) : List PathAudit :=
  (if configuredConnections = 0 then [⟨i, .A, .unused⟩] else []) ++
    if configuredConnections ≤ 1 then [⟨i, .B, .unused⟩] else []

/-- The audits of a round of the loop over the groups. -/
def groupAudits (i : Nat) (redGroup : RedGroup) : List PathAudit :=
  (groupConnections redGroup).map (·.initialAudit) ++ unusedAudits i redGroup.connections.length

/-- `prepareConnections`: the connections, and the audits of their paths. -/
def prepareConnections (redGroups : List RedGroup) : List PathConnection × List PathAudit :=
  (redGroups.flatMap groupConnections,
    (redGroups.mapIdx groupAudits).flatten ++
      (List.range' redGroups.length (maxRedGroups - redGroups.length)).flatMap fun i =>
        [⟨i, .A, .unused⟩, ⟨i, .B, .unused⟩])

/-- Each connection has an identity of its own, and each path of the groups that there are or can
be has one audit. -/
structure PathsIdentified (redGroups : List RedGroup) : Prop where
  connections : ((prepareConnections redGroups).1.map (·.identity)).Nodup
  audits : ∀ g letter, g < max redGroups.length maxRedGroups →
    ((prepareConnections redGroups).2.map (·.identity)).count (g, letter) = 1

/-! ## Counting over the groups -/

theorem count_map_pair {β : Type*} [DecidableEq β] (i g : Nat) (b : β) (l : List β) :
    (l.map (i, ·)).count (g, b) = if g = i then l.count b else 0 := by
  split_ifs with heq
  · rw [heq]
    exact List.count_map_of_injective l (i, ·) (Prod.mk_right_injective i) b
  · refine List.count_eq_zero_of_not_mem fun hmem => heq ?_
    obtain ⟨_, -, hpair⟩ := List.mem_map.mp hmem
    exact (congrArg Prod.fst hpair).symm

/-- What each element contributes is numbered with its position, so a number counts what the
element there contributes. -/
theorem count_numbered {α β : Type*} [DecidableEq β] (items : α → List β) (l : List α) (g : Nat)
    (b : β) :
    (l.mapIdx fun i a => (items a).map (i, ·)).flatten.count (g, b) =
      (l[g]?.map fun a => (items a).count b).getD 0 := by
  induction l using List.reverseRecOn with
  | nil => rfl
  | append_singleton l a ih =>
    rw [List.mapIdx_concat, List.flatten_concat, List.count_append, ih, count_map_pair]
    rcases lt_trichotomy g l.length with hlt | rfl | hgt
    · rw [if_neg hlt.ne, List.getElem?_append_left hlt, Nat.add_zero]
    · simp
    · rw [if_neg hgt.ne', List.getElem?_eq_none hgt.le, List.getElem?_eq_none (by simp; omega)]
      rfl

/-! ## The identities of a group -/

/-- The groups have their positions as indexes. -/
def Numbered (redGroups : List RedGroup) : Prop :=
  ∀ (i : Nat) (redGroup : RedGroup), redGroups[i]? = some redGroup → redGroup.index = i

/-- The letters of the connections of a group: one A, then B. -/
def connectionLetters (connections : Nat) : List PathLetter :=
  if connections = 0 then [] else .A :: List.replicate (connections - 1) .B

theorem groupConnections_identity (redGroup : RedGroup) :
    (groupConnections redGroup).map (·.identity) =
      (connectionLetters redGroup.connections.length).map (redGroup.index, ·) := by
  unfold groupConnections connectionLetters
  cases redGroup.connections with
  | nil => rfl
  | cons connection connections =>
    have hrest : ((connections.mapIdx fun j connection =>
        ({ redGroup := redGroup
           redGroupConnection := connection
           pathLetter := .B } : PathConnection)).map (·.identity)) =
        List.replicate connections.length (redGroup.index, .B) := by
      refine List.eq_replicate_iff.mpr ⟨by simp, fun p hp => ?_⟩
      obtain ⟨con, hcon, rfl⟩ := List.mem_map.mp hp
      obtain ⟨_, _, rfl⟩ := List.mem_mapIdx.mp hcon
      rfl
    simpa [List.mapIdx_cons, PathConnection.identity] using hrest

/-- The letters of the audits of a group: one A, and one B for each connection but the first or,
if there is at most one connection, for the path that is unused. -/
def auditLetters (connections : Nat) : List PathLetter :=
  .A :: List.replicate (max 1 (connections - 1)) .B

theorem groupAudits_identity {i : Nat} {redGroup : RedGroup} (hindex : redGroup.index = i) :
    (groupAudits i redGroup).map (·.identity) =
      (auditLetters redGroup.connections.length).map (i, ·) := by
  have hconnections : ((groupConnections redGroup).map (·.initialAudit)).map (·.identity) =
      (connectionLetters redGroup.connections.length).map (i, ·) := by
    rw [List.map_map, ← hindex]
    exact groupConnections_identity redGroup
  rw [groupAudits, List.map_append, hconnections]
  unfold connectionLetters unusedAudits auditLetters
  rcases Nat.lt_trichotomy redGroup.connections.length 1 with hnone | hone | hmore
  · have hzero : redGroup.connections.length = 0 := by omega
    rw [hzero]
    rfl
  · rw [hone]
    rfl
  · have hmax : max 1 (redGroup.connections.length - 1) = redGroup.connections.length - 1 := by
      omega
    rw [if_neg (by omega), if_neg (by omega), if_neg (by omega), hmax]
    exact List.append_nil _

section

variable {redGroups : List RedGroup}

theorem connections_identity (h : Numbered redGroups) :
    (prepareConnections redGroups).1.map (·.identity) =
      (redGroups.mapIdx fun i redGroup =>
        (connectionLetters redGroup.connections.length).map (i, ·)).flatten := by
  have hgroups : (redGroups.mapIdx fun i redGroup =>
      (connectionLetters redGroup.connections.length).map (i, ·)) =
        redGroups.map fun redGroup => (groupConnections redGroup).map (·.identity) := by
    refine List.ext_getElem? fun i => ?_
    rw [List.getElem?_mapIdx, List.getElem?_map]
    cases hget : redGroups[i]? with
    | none => rfl
    | some redGroup =>
      rw [Option.map_some, Option.map_some, groupConnections_identity, h i redGroup hget]
  rw [prepareConnections, hgroups, List.map_flatMap]
  rfl

theorem audits_identity (h : Numbered redGroups) :
    ((redGroups.mapIdx groupAudits).flatten.map (·.identity)) =
      (redGroups.mapIdx fun i redGroup =>
        (auditLetters redGroup.connections.length).map (i, ·)).flatten := by
  have hgroups : ((redGroups.mapIdx groupAudits).map fun audits => audits.map (·.identity)) =
      redGroups.mapIdx fun i redGroup =>
        (auditLetters redGroup.connections.length).map (i, ·) := by
    refine List.ext_getElem? fun i => ?_
    rw [List.getElem?_map, List.getElem?_mapIdx, List.getElem?_mapIdx]
    cases hget : redGroups[i]? with
    | none => rfl
    | some redGroup =>
      rw [Option.map_some, Option.map_some, Option.map_some,
        groupAudits_identity (h i redGroup hget)]
  rw [List.map_flatten, hgroups]

/-- Groups that are not configured have one audit for each path. -/
theorem count_notConfigured (first count g : Nat) (letter : PathLetter) :
    (((List.range' first count).flatMap fun i =>
        [(⟨i, .A, .unused⟩ : PathAudit), ⟨i, .B, .unused⟩]).map (·.identity)).count (g, letter) =
      if first ≤ g ∧ g < first + count then 1 else 0 := by
  induction count generalizing first with
  | zero => exact (if_neg (by omega)).symm
  | succ count ih =>
    have hgroup : ([(⟨first, .A, .unused⟩ : PathAudit), ⟨first, .B, .unused⟩].map
        (·.identity)).count (g, letter) = if g = first then 1 else 0 := by
      rw [show [(⟨first, .A, .unused⟩ : PathAudit), ⟨first, .B, .unused⟩].map (·.identity) =
        [PathLetter.A, .B].map (first, ·) from rfl, count_map_pair]
      cases letter <;> rfl
    rw [List.range'_succ, List.flatMap_cons, List.map_append, List.count_append, hgroup, ih]
    split_ifs <;> omega

theorem count_audits (h : Numbered redGroups) {g : Nat} (letter : PathLetter)
    (hg : g < max redGroups.length maxRedGroups) :
    ((prepareConnections redGroups).2.map (·.identity)).count (g, letter) =
      (redGroups[g]?.map fun redGroup =>
        (auditLetters redGroup.connections.length).count letter).getD 1 := by
  rw [prepareConnections, List.map_append, List.count_append, audits_identity h, count_numbered,
    count_notConfigured]
  rcases Nat.lt_or_ge g redGroups.length with hlt | hge
  · rw [if_neg (by omega), List.getElem?_eq_getElem hlt]
    rfl
  · rw [if_pos (by omega), List.getElem?_eq_none hge]
    rfl

/-! ## When the audits identify the paths -/

theorem connectionLetters_nodup {connections : Nat} :
    (∀ letter, (connectionLetters connections).count letter ≤ 1) ↔ connections ≤ 2 := by
  unfold connectionLetters
  rcases Nat.eq_zero_or_pos connections with rfl | hpos
  · simp
  · rw [if_neg hpos.ne']
    constructor
    · intro hone
      have hB : connections - 1 ≤ 1 := by simpa using hone .B
      omega
    · rintro htwo (_ | _)
      · simp [List.count_replicate]
      · have hB : connections - 1 ≤ 1 := by omega
        simpa using hB

theorem auditLetters_count {connections : Nat} (h : connections ≤ 2) (letter : PathLetter) :
    (auditLetters connections).count letter = 1 := by
  have hmax : max 1 (connections - 1) = 1 := by omega
  rw [auditLetters, hmax]
  cases letter <;> rfl

theorem pathsIdentified_iff_of_numbered (h : Numbered redGroups) :
    PathsIdentified redGroups ↔ ∀ redGroup ∈ redGroups, redGroup.connections.length ≤ 2 := by
  constructor
  · rintro ⟨hconnections, -⟩ redGroup hmem
    obtain ⟨g, hg⟩ := List.getElem?_of_mem hmem
    rw [← connectionLetters_nodup]
    intro letter
    have hcount := List.nodup_iff_count_le_one.mp hconnections (g, letter)
    rw [connections_identity h, count_numbered, hg] at hcount
    exact hcount
  · intro htwo
    refine ⟨List.nodup_iff_count_le_one.mpr ?_, fun g letter hg => ?_⟩
    · rintro ⟨g, letter⟩
      rw [connections_identity h, count_numbered]
      cases hget : redGroups[g]? with
      | none => exact Nat.zero_le 1
      | some redGroup =>
        exact connectionLetters_nodup.mpr (htwo redGroup (List.mem_of_getElem? hget)) letter
    · rw [count_audits h letter hg]
      cases hget : redGroups[g]? with
      | none => rfl
      | some redGroup => exact auditLetters_count (htwo redGroup (List.mem_of_getElem? hget)) letter

end

theorem importTlsConfig_redundancyGroups (document : Option Json) (c : ImportedConfig) :
    (importTlsConfig document c).redundancyGroups = c.redundancyGroups := by
  unfold importTlsConfig
  split <;> rfl

theorem importExchangeConfig_redundancyGroups (document : Option Json) (c : ImportedConfig) :
    (importExchangeConfig document c).redundancyGroups = c.redundancyGroups := by
  have hadd (c : ImportedConfig) (l : List Entry) :
      (addAll c l).redundancyGroups = c.redundancyGroups := by rw [addAll_eq]
  rw [importExchangeConfig_eq]
  dsimp only
  split <;> exact hadd _ _

theorem importProtocolConfig_redundancyGroups (document : Option Json) :
    Numbered (importProtocolConfig document {}).redundancyGroups := by
  unfold importProtocolConfig
  cases protocolLayers document with
  | none =>
    intro i redGroup hget
    cases hget
  | some layers =>
    obtain ⟨protocolStack, transportLayer, applicationLayer⟩ := layers
    intro i redGroup hget
    have hkept (c : ImportedConfig) :
        (importApplicationLayer applicationLayer c).redundancyGroups = c.redundancyGroups := rfl
    dsimp only at hget
    rw [hkept, foldl_importRedGroup] at hget
    rw [List.nil_append, List.getElem?_mapIdx, Option.map_eq_some_iff] at hget
    obtain ⟨group, -, rfl⟩ := hget
    exact Nat.zero_add i

/-- The imported groups have their positions as indexes, whatever elements were ignored. -/
theorem redundancyGroups_index
    (stackConfiguration msgConfiguration tlsConfiguration : Option Json) :
    Numbered
      (setJsonConfig stackConfiguration msgConfiguration tlsConfiguration).redundancyGroups := by
  rw [setJsonConfig, importTlsConfig_redundancyGroups, importExchangeConfig_redundancyGroups]
  exact importProtocolConfig_redundancyGroups stackConfiguration

/-- After every import the audits identify the paths if and only if no group has more than two
connections. -/
theorem paths_identified_iff (stackConfiguration msgConfiguration tlsConfiguration : Option Json) :
    let redGroups :=
      (setJsonConfig stackConfiguration msgConfiguration tlsConfiguration).redundancyGroups
    PathsIdentified redGroups ↔ ∀ redGroup ∈ redGroups, redGroup.connections.length ≤ 2 :=
  pathsIdentified_iff_of_numbered (redundancyGroups_index _ _ _)

/-- A stack with one group of three connections. -/
def threeConnectionsStack : Json :=
  .object [("protocol_stack", .object
    [("transport_layer", .object [("redundancy_groups", .array
      [.object [("rg_name", .string "red-group1"), ("connections", .array
        [.object [("srv_ip", .string "127.0.0.1"), ("port", .int 2404)],
          .object [("srv_ip", .string "127.0.0.1"), ("port", .int 2405)],
          .object [("srv_ip", .string "127.0.0.1"), ("port", .int 2406)]])]])]),
      ("application_layer", .object [])])]

/-- The second and the third connection of a group are both its path B. -/
theorem third_connection_not_identified :
    ¬ PathsIdentified (setJsonConfig (some threeConnectionsStack) none none).redundancyGroups := by
  intro h
  have hcount := h.audits 0 .B (by decide)
  revert hcount
  decide

end Iec104South
