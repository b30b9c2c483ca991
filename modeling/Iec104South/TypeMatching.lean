import Iec104South.Config

/-!
# Type matching

What `isMessageTypeMatching` is meant to be: two types match when they are of one kind of
information, with, without or with another time tag (`InformationKind`). The switch does that
for all pairs but one: its case of `C_SE_TB_1` runs on into the next one and lets a setpoint
of short floating point numbers pass for a scaled one (`isMessageTypeMatching_iff`).
-/

namespace Iec104South

/-- The kinds of information. A type without a case in the switch is a kind of its own. -/
inductive InformationKind where
  | singlePoint
  | doublePoint
  | stepPosition
  | measuredNormalized
  | measuredScaled
  | measuredShort
  | singleCommand
  | doubleCommand
  | stepCommand
  | setpointNormalized
  | setpointScaled
  | setpointShort
  | unsupported (typeId : Int)
deriving DecidableEq, Repr

namespace InformationKind

/-- The types of a kind. -/
def types : InformationKind → List Int
  | singlePoint => [M_SP_NA_1, M_SP_TA_1, M_SP_TB_1]
  | doublePoint => [M_DP_NA_1, M_DP_TA_1, M_DP_TB_1]
  | stepPosition => [M_ST_NA_1, M_ST_TA_1, M_ST_TB_1]
  | measuredNormalized => [M_ME_NA_1, M_ME_TA_1, M_ME_TD_1, M_ME_ND_1]
  | measuredScaled => [M_ME_NB_1, M_ME_TB_1, M_ME_TE_1]
  | measuredShort => [M_ME_NC_1, M_ME_TC_1, M_ME_TF_1]
  | singleCommand => [C_SC_NA_1, C_SC_TA_1]
  | doubleCommand => [C_DC_NA_1, C_DC_TA_1]
  | stepCommand => [C_RC_NA_1, C_RC_TA_1]
  | setpointNormalized => [C_SE_NA_1, C_SE_TA_1]
  | setpointScaled => [C_SE_NB_1, C_SE_TB_1]
  | setpointShort => [C_SE_NC_1, C_SE_TC_1]
  | unsupported typeId => [typeId]

/-- The kinds with a case in the switch. -/
def supported : List InformationKind :=
  [singlePoint, doublePoint, stepPosition, measuredNormalized, measuredScaled, measuredShort,
    singleCommand, doubleCommand, stepCommand, setpointNormalized, setpointScaled, setpointShort]

end InformationKind

/-- The kind of information that a type carries, whatever its time tag is. -/
def informationKind (typeId : Int) : InformationKind :=
  (InformationKind.supported.find? (typeId ∈ ·.types)).getD (.unsupported typeId)

theorem mem_types_informationKind (typeId : Int) : typeId ∈ (informationKind typeId).types := by
  unfold informationKind
  cases hfind : InformationKind.supported.find? (typeId ∈ ·.types) with
  | none => exact List.mem_singleton_self typeId
  | some kind => simpa using List.find?_some hfind

/-- No type is of two kinds. -/
theorem mem_types_iff {a b : Int} :
    b ∈ (informationKind a).types ↔ informationKind a = informationKind b := by
  constructor
  · intro h
    have ha := mem_types_informationKind a
    cases hkind : informationKind a with
    | unsupported t =>
      rw [hkind] at h ha
      rw [← hkind, List.mem_singleton.mp h, List.mem_singleton.mp ha]
    | _ =>
      rw [hkind] at h
      simp only [InformationKind.types, List.mem_cons, List.not_mem_nil, or_false] at h
      rcases h with rfl | rfl | rfl | rfl <;> rfl
  · intro h
    rw [h]
    exact mem_types_informationKind b

/-- A definition matches the types of its kind; beside that, one of type `C_SE_TB_1` matches
`C_SE_TC_1`. -/
theorem isMessageTypeMatching_iff {expectedType rcvdType : Int} :
    isMessageTypeMatching expectedType rcvdType ↔
      informationKind expectedType = informationKind rcvdType ∨
        expectedType = C_SE_TB_1 ∧ rcvdType = C_SE_TC_1 := by
  rw [← mem_types_iff]
  unfold isMessageTypeMatching
  split
  case h_32 =>
    -- the default case
    have hkind : informationKind expectedType = .unsupported expectedType := by
      have hnone : InformationKind.supported.find? (expectedType ∈ ·.types) = none := by
        simp only [InformationKind.supported, InformationKind.types, List.find?_eq_none,
          List.mem_cons, List.not_mem_nil, or_false, Bool.not_eq_true, forall_eq_or_imp,
          Bool.decide_or, Bool.or_eq_false_iff, decide_eq_false_iff_not, forall_eq]
        and_intros <;> assumption
      rw [informationKind, hnone]
      rfl
    have hne : expectedType ≠ C_SE_TB_1 := by assumption
    rw [hkind, InformationKind.types, List.mem_singleton, Bool.or_false, beq_iff_eq,
      or_iff_left fun h => hne h.1]
    exact eq_comm
  all_goals
    simp [informationKind, InformationKind.supported, InformationKind.types]
    grind

/-! ## The laws -/

theorem isMessageTypeMatching_refl (a : Int) : isMessageTypeMatching a a :=
  isMessageTypeMatching_iff.mpr (.inl rfl)

theorem isMessageTypeMatching_symm_iff (a b : Int) :
    (isMessageTypeMatching a b → isMessageTypeMatching b a) ↔
      ¬(a = C_SE_TB_1 ∧ b = C_SE_TC_1) := by
  simp only [isMessageTypeMatching_iff]
  constructor
  · rintro h ⟨rfl, rfl⟩
    exact absurd (h (.inr ⟨rfl, rfl⟩)) (by decide)
  · rintro h (hkind | hslip)
    · exact .inl hkind.symm
    · exact absurd hslip h

theorem informationKind_eq_C_SE_TB_1 {a : Int} :
    informationKind a = informationKind C_SE_TB_1 ↔ a = C_SE_NB_1 ∨ a = C_SE_TB_1 := by
  rw [eq_comm, ← mem_types_iff, ← List.mem_pair]
  rfl

theorem informationKind_eq_C_SE_TC_1 {a : Int} :
    informationKind a = informationKind C_SE_TC_1 ↔ a = C_SE_NC_1 ∨ a = C_SE_TC_1 := by
  rw [eq_comm, ← mem_types_iff, ← List.mem_pair]
  rfl

/-- Transitivity fails for the two ways to extend the pair by another type of its kinds. -/
theorem isMessageTypeMatching_trans_iff (a b c : Int) :
    (isMessageTypeMatching a b → isMessageTypeMatching b c → isMessageTypeMatching a c) ↔
      ¬(a = C_SE_TB_1 ∧ b = C_SE_TC_1 ∧ c = C_SE_NC_1) ∧
        ¬(a = C_SE_NB_1 ∧ b = C_SE_TB_1 ∧ c = C_SE_TC_1) := by
  simp only [isMessageTypeMatching_iff]
  constructor
  · intro h
    constructor
    · rintro ⟨rfl, rfl, rfl⟩
      exact absurd (h (.inr ⟨rfl, rfl⟩) (.inl rfl)) (by decide)
    · rintro ⟨rfl, rfl, rfl⟩
      exact absurd (h (.inl rfl) (.inr ⟨rfl, rfl⟩)) (by decide)
  · rintro ⟨hfirst, hsecond⟩ (hab | ⟨rfl, rfl⟩) (hbc | ⟨hb, rfl⟩)
    · exact .inl (hab.trans hbc)
    · subst hb
      rcases informationKind_eq_C_SE_TB_1.mp hab with rfl | rfl
      · exact absurd ⟨rfl, rfl, rfl⟩ hsecond
      · exact .inr ⟨rfl, rfl⟩
    · rcases informationKind_eq_C_SE_TC_1.mp hbc.symm with rfl | rfl
      · exact absurd ⟨rfl, rfl, rfl⟩ hfirst
      · exact .inr ⟨rfl, rfl⟩
    · exact absurd hb (by decide)

/-- Two types of one kind match the same types, unless exactly one of them is `C_SE_TB_1`. -/
theorem isMessageTypeMatching_congr_iff {a b : Int} (h : informationKind a = informationKind b) :
    (∀ c, isMessageTypeMatching a c ↔ isMessageTypeMatching b c) ↔
      (a = C_SE_TB_1 ↔ b = C_SE_TB_1) := by
  simp only [isMessageTypeMatching_iff, h]
  constructor
  · intro hsame
    constructor
    · rintro rfl
      rcases (hsame C_SE_TC_1).mp (.inr ⟨rfl, rfl⟩) with hkind | ⟨hb, -⟩
      · exact absurd (h.trans hkind) (by decide)
      · exact hb
    · rintro rfl
      rcases (hsame C_SE_TC_1).mpr (.inr ⟨rfl, rfl⟩) with hkind | ⟨ha, -⟩
      · exact absurd hkind (by decide)
      · exact ha
  · exact fun hTB c => or_congr_right (and_congr_left fun _ => hTB)

/-- A type of another kind matches only where the switch falls through. -/
theorem sameKind_of_isMessageTypeMatching_iff (expectedType rcvdType : Int) :
    (isMessageTypeMatching expectedType rcvdType →
        informationKind expectedType = informationKind rcvdType) ↔
      ¬(expectedType = C_SE_TB_1 ∧ rcvdType = C_SE_TC_1) := by
  rw [isMessageTypeMatching_iff]
  constructor
  · rintro h ⟨rfl, rfl⟩
    exact absurd (h (.inr ⟨rfl, rfl⟩)) (by decide)
  · exact fun hslip h => h.resolve_right hslip

/-! ## Exchange tables -/

namespace ExchangeTable

/-- The table has a definition for the type at the address. -/
def Accepts (t : ExchangeTable) (typeId ca ioa : Int) : Prop :=
  (t.checkExchangeDataLayer typeId ca ioa).isSome

instance (t : ExchangeTable) (typeId ca ioa : Int) : Decidable (t.Accepts typeId ca ioa) :=
  inferInstanceAs (Decidable (_ = true))

theorem accepts_of_find? {t : ExchangeTable} {ca ioa : Int} {dp : DataExchangeDefinition}
    (h : t.find? ca ioa = some dp) (typeId : Int) :
    t.Accepts typeId ca ioa ↔ isMessageTypeMatching dp.typeId typeId := by
  unfold Accepts checkExchangeDataLayer
  rw [h]
  dsimp only
  split_ifs with hmatch
  · exact iff_of_true rfl hmatch
  · exact iff_of_false Bool.false_ne_true hmatch

theorem accepts_of_kind {t : ExchangeTable} {ca ioa typeId : Int} {dp : DataExchangeDefinition}
    (h : t.find? ca ioa = some dp) (hkind : informationKind dp.typeId = informationKind typeId) :
    t.Accepts typeId ca ioa :=
  (accepts_of_find? h typeId).mpr (isMessageTypeMatching_iff.mpr (.inl hkind))

/-- But for the type that is let pass, a table accepts what it has a definition of the kind for. -/
theorem accepts_iff {t : ExchangeTable} {ca ioa typeId : Int} (h : typeId ≠ C_SE_TC_1) :
    t.Accepts typeId ca ioa ↔ ∃ dp, t.find? ca ioa = some dp ∧
      informationKind dp.typeId = informationKind typeId := by
  constructor
  · intro haccepts
    cases hfind : t.find? ca ioa with
    | none =>
      unfold Accepts checkExchangeDataLayer at haccepts
      rw [hfind] at haccepts
      cases haccepts
    | some dp =>
      rw [accepts_of_find? hfind, isMessageTypeMatching_iff] at haccepts
      exact ⟨dp, rfl, haccepts.resolve_right fun hslip => h hslip.2⟩
  · rintro ⟨dp, hfind, hkind⟩
    exact accepts_of_kind hfind hkind

/-- `t'` is `t` with the type of the definition `dp` replaced. -/
structure Retyped (t t' : ExchangeTable) (dp : DataExchangeDefinition) (typeId : Int) : Prop where
  found : t.find? dp.ca dp.ioa = some dp
  replaced : t'.find? dp.ca dp.ioa = some { dp with typeId := typeId }
  others : ∀ ca ioa, ¬(ca = dp.ca ∧ ioa = dp.ioa) → t'.find? ca ioa = t.find? ca ioa

/-- The acceptance at the replaced definition decides for the whole table. -/
theorem Retyped.accepts_iff {t t' : ExchangeTable} {dp : DataExchangeDefinition} {typeId : Int}
    (h : Retyped t t' dp typeId) :
    (∀ rcvdType ca ioa, t'.Accepts rcvdType ca ioa ↔ t.Accepts rcvdType ca ioa) ↔
      ∀ rcvdType, isMessageTypeMatching typeId rcvdType ↔
        isMessageTypeMatching dp.typeId rcvdType := by
  constructor
  · intro hsame rcvdType
    have hhere := hsame rcvdType dp.ca dp.ioa
    rwa [accepts_of_find? h.replaced, accepts_of_find? h.found] at hhere
  · intro hmatch rcvdType ca ioa
    by_cases haddr : ca = dp.ca ∧ ioa = dp.ioa
    · obtain ⟨rfl, rfl⟩ := haddr
      rw [accepts_of_find? h.replaced, accepts_of_find? h.found]
      exact hmatch rcvdType
    · unfold Accepts checkExchangeDataLayer
      rw [h.others ca ioa haddr]

end ExchangeTable

/-- Matching is reflexive; symmetry, transitivity, the exchange of types of one kind in a table
and the separation of the kinds fail exactly where the case of `C_SE_TB_1` runs on. -/
theorem typeMatching_laws_iff (a b c : Int) (t t' : ExchangeTable) (dp : DataExchangeDefinition)
    (typeId : Int) (hretyped : t.Retyped t' dp typeId)
    (hkind : informationKind typeId = informationKind dp.typeId) :
    isMessageTypeMatching a a ∧
      ((isMessageTypeMatching a b → isMessageTypeMatching b a) ↔
        ¬(a = C_SE_TB_1 ∧ b = C_SE_TC_1)) ∧
      ((isMessageTypeMatching a b → isMessageTypeMatching b c → isMessageTypeMatching a c) ↔
        ¬(a = C_SE_TB_1 ∧ b = C_SE_TC_1 ∧ c = C_SE_NC_1) ∧
          ¬(a = C_SE_NB_1 ∧ b = C_SE_TB_1 ∧ c = C_SE_TC_1)) ∧
      ((∀ rcvdType ca ioa, t'.Accepts rcvdType ca ioa ↔ t.Accepts rcvdType ca ioa) ↔
        (typeId = C_SE_TB_1 ↔ dp.typeId = C_SE_TB_1)) ∧
      ∀ rcvdType,
        (t.Accepts rcvdType dp.ca dp.ioa →
            informationKind dp.typeId = informationKind rcvdType) ↔
          ¬(dp.typeId = C_SE_TB_1 ∧ rcvdType = C_SE_TC_1) := by
  refine ⟨isMessageTypeMatching_refl a, isMessageTypeMatching_symm_iff a b,
    isMessageTypeMatching_trans_iff a b c, ?_, fun rcvdType => ?_⟩
  · rw [hretyped.accepts_iff]
    exact isMessageTypeMatching_congr_iff hkind
  · rw [ExchangeTable.accepts_of_find? hretyped.found]
    exact sameKind_of_isMessageTypeMatching_iff dp.typeId rcvdType

/-- A scaled setpoint with time tag. -/
def scaledSetpoint : DataExchangeDefinition :=
  { ca := 1, ioa := 10, typeId := C_SE_TB_1, label := "p" }

/-- The replacement of `C_SE_TB_1` by `C_SE_NB_1`, of one kind, loses the type `C_SE_TC_1`. -/
theorem typeMatching_laws_scaledSetpoint :
    ¬∀ rcvdType ca ioa,
      (ExchangeTable.ofDatapoints [{ scaledSetpoint with typeId := C_SE_NB_1 }]).Accepts rcvdType
          ca ioa ↔
        (ExchangeTable.ofDatapoints [scaledSetpoint]).Accepts rcvdType ca ioa := by
  have hothers (typeId ca ioa : Int) (h : ¬(ca = 1 ∧ ioa = 10)) :
      (ExchangeTable.ofDatapoints [{ scaledSetpoint with typeId := typeId }]).find? ca ioa =
        none := by
    have hne : ¬(1 = ca ∧ 10 = ioa) := fun heq => h ⟨heq.1.symm, heq.2.symm⟩
    simp [ExchangeTable.find?_ofDatapoints, scaledSetpoint, hne]
  have hlaws := typeMatching_laws_iff C_SE_TB_1 C_SE_TC_1 C_SE_NC_1
    (ExchangeTable.ofDatapoints [scaledSetpoint])
    (ExchangeTable.ofDatapoints [{ scaledSetpoint with typeId := C_SE_NB_1 }]) scaledSetpoint
    C_SE_NB_1 ⟨by decide, by decide, fun ca ioa h =>
      (hothers C_SE_NB_1 ca ioa h).trans (hothers C_SE_TB_1 ca ioa h).symm⟩ (by decide)
  rw [hlaws.2.2.2.1]
  decide

/-- A definition of type `C_SE_TB_1` accepts an ASDU of type `C_SE_TC_1`, of another kind; the
relation is not symmetric. -/
theorem C_SE_TB_1_matches_C_SE_TC_1 :
    isMessageTypeMatching C_SE_TB_1 C_SE_TC_1 ∧ ¬isMessageTypeMatching C_SE_TC_1 C_SE_TB_1 ∧
      isMessageTypeMatching C_SE_TC_1 C_SE_NC_1 ∧ ¬isMessageTypeMatching C_SE_TB_1 C_SE_NC_1 ∧
      (ExchangeTable.ofDatapoints [scaledSetpoint]).Accepts C_SE_TC_1 1 10 ∧
      informationKind C_SE_TB_1 ≠ informationKind C_SE_TC_1 := by
  decide

end Iec104South
