import Iec104South.Operation

/-!
# The reads of the parameters

The operations once more, with reads of `params` that can fail: `none` is a read past the last of
the `count` entries. `operation_in_bounds_iff`: the six functions behind the switch check the
count before they read, but four operations read the first parameter without a look at it.
-/

namespace Iec104South

/-- The text `params[p]->value`, if there are so many parameters. -/
def textAt (params : List Parameter) (p : CommandParameter) : Option String :=
  params[p.ctorIdx]?.map (·.value)

theorem textAt_of_lt {params : List Parameter} {p : CommandParameter}
    (h : p.ctorIdx < params.length) : textAt params p = some (textOf params p) := by
  simp [textAt, textOf, List.getElem?_eq_getElem h]

theorem textAt_type {params : List Parameter} :
    textAt params .type = if params = [] then none else some (textOf params .type) := by
  cases params <;> rfl

namespace IEC104.Checked

/-- `paramsToStr`: the names and the values, for the log. -/
def paramsToStr (params : List Parameter) : Option (String × String) := do
  let read ← (List.range params.length).mapM fun i => params[i]?
  let quoted (texts : List String) : String :=
    "[" ++ ", ".intercalate (texts.map fun text => "\"" ++ text ++ "\"") ++ "]"
  return (quoted (read.map (·.name)), quoted (read.map (·.value)))

section

variable (readFloat : String → BitVec 32)

/-- The select flag, which the setpoints do not read. -/
def selectAt (params : List Parameter) (hasSelect : Bool) : Option Bool :=
  if hasSelect then (textAt params .se).map (Text.atoi · != 0) else some false

/-- The time of a command with a time tag, if its text can be read. -/
def timeAt (params : List Parameter) (withTime : Bool) : Option (Option Int) :=
  if withTime then (textAt params .ts).map Text.stol else some (some 0)

/-- What the six functions share. -/
def readCommand (params : List Parameter) (withTime hasSelect : Bool)
    (call : Int → Int → String → Bool → Int → CommandOperation) :
    Option (Option CommandOperation) :=
  if 8 < params.length then do
    let ca ← textAt params .ca
    let ioa ← textAt params .ioa
    let value ← textAt params .value
    let select ← selectAt params hasSelect
    let time ← timeAt params withTime
    return time.map (call (Text.atoi ca) (Text.atoi ioa) value select)
  else return none

def singleCommandOperation (params : List Parameter) (withTime : Bool) :
    Option (Option CommandOperation) :=
  readCommand params withTime true fun ca ioa value select time =>
    .sendSingleCommand ca ioa (Text.atoi value != 0) withTime select time

def doubleCommandOperation (params : List Parameter) (withTime : Bool) :
    Option (Option CommandOperation) :=
  readCommand params withTime true fun ca ioa value select time =>
    .sendDoubleCommand ca ioa (Text.atoi value) withTime select time

def stepCommandOperation (params : List Parameter) (withTime : Bool) :
    Option (Option CommandOperation) :=
  readCommand params withTime true fun ca ioa value select time =>
    .sendStepCommand ca ioa (Text.atoi value) withTime select time

def setpointNormalized (params : List Parameter) (withTime : Bool) :
    Option (Option CommandOperation) :=
  readCommand params withTime false fun ca ioa value _ time =>
    .sendSetpointNormalized ca ioa (readFloat value) withTime time

def setpointScaled (params : List Parameter) (withTime : Bool) :
    Option (Option CommandOperation) :=
  readCommand params withTime false fun ca ioa value _ time =>
    .sendSetpointScaled ca ioa (Text.atoi value) withTime time

def setpointShort (params : List Parameter) (withTime : Bool) :
    Option (Option CommandOperation) :=
  readCommand params withTime false fun ca ioa value _ time =>
    .sendSetpointShort ca ioa (readFloat value) withTime time

/-- The switch over the type. -/
def command (params : List Parameter) : Option (Option CommandOperation) := do
  let type ← textAt params .type
  match getTypeIdFromString (unquote type) with
  | C_SC_NA_1 => singleCommandOperation params false
  | C_SC_TA_1 => singleCommandOperation params true
  | C_DC_NA_1 => doubleCommandOperation params false
  | C_DC_TA_1 => doubleCommandOperation params true
  | C_RC_NA_1 => stepCommandOperation params false
  | C_RC_TA_1 => stepCommandOperation params true
  | C_SE_NA_1 => setpointNormalized readFloat params false
  | C_SE_TA_1 => setpointNormalized readFloat params true
  | C_SE_NB_1 => setpointScaled params false
  | C_SE_TB_1 => setpointScaled params true
  | C_SE_NC_1 => setpointShort readFloat params false
  | C_SE_TC_1 => setpointShort readFloat params true
  | _ => return none

/-- `IEC104::operation` -/
def operation (cfg : IEC104ClientConfig) (cons : ConId → Connection) (operation : String)
    (params : List Parameter) (now : Nat) (accepted : Bool) :
    Option Client → Option (Bool × Option Client)
  | none => return (false, none)
  | some c => do
    let _ ← paramsToStr params
    if operation = "CS104_Connection_sendInterrogationCommand" then
      let ca ← textAt params .type
      match c.activeConnection with
      | some con =>
        let sent := (cons con).sendInterrogationCommand (Text.atoi ca) accepted
        return (sent.1, some { c with out := c.out ++ sent.2 })
      | none => return (false, some c)
    else if operation = "CS104_Connection_sendTestCommandWithTimestamp" then
      let _ ← textAt params .type
      return (false, some c)
    else if operation = "IEC104Command" then
      match ← command readFloat params with
      | some op =>
        let sent := c.sendCommand cfg cons op now accepted
        return (sent.1, some sent.2)
      | none => return (false, some c)
    else if operation = "request_connection_status" then
      return (true, some (c.sendConnectionStatus cfg))
    else if operation = "north_status" then
      let type ← textAt params .type
      if unquote type = "init_socket_finished" then return (true, some (requestGi c))
      else return (false, some c)
    else return (false, some c)

end

/-! ## The functions that check the count -/

theorem isSome_mapM {α β : Type*} {f : α → Option β} {l : List α} (h : ∀ a ∈ l, (f a).isSome) :
    (l.mapM f).isSome := by
  induction l with
  | nil => rfl
  | cons a l ih =>
    obtain ⟨b, hb⟩ := Option.isSome_iff_exists.mp (h a List.mem_cons_self)
    obtain ⟨bs, hbs⟩ := Option.isSome_iff_exists.mp
      (ih fun a' ha' => h a' (List.mem_cons_of_mem _ ha'))
    simp [List.mapM_cons, hb, hbs]

/-- The texts for the log are read up to the count. -/
theorem paramsToStr_isSome (params : List Parameter) : (paramsToStr params).isSome := by
  have hread : ((List.range params.length).mapM fun i => params[i]?).isSome :=
    isSome_mapM fun i hi => by simpa using hi
  obtain ⟨read, hread⟩ := Option.isSome_iff_exists.mp hread
  rw [paramsToStr, hread]
  rfl

/-- Behind the check of the count every read is in bounds. -/
theorem readCommand_eq (params : List Parameter) (withTime hasSelect : Bool)
    (call : Int → Int → String → Bool → Int → CommandOperation) :
    readCommand params withTime hasSelect call =
      some (IEC104.readCommand params withTime fun ca ioa time =>
        call ca ioa (textOf params .value) (hasSelect && requestedSelect params) time) := by
  unfold readCommand IEC104.readCommand
  by_cases hcount : 8 < params.length
  · have hread (p : CommandParameter) (hp : p.ctorIdx ≤ 8) :
        textAt params p = some (textOf params p) := textAt_of_lt (hp.trans_lt hcount)
    have hselect : selectAt params hasSelect = some (hasSelect && requestedSelect params) := by
      rw [selectAt, hread .se (by decide)]
      cases hasSelect <;> rfl
    have htime : timeAt params withTime =
        some (if withTime then Text.stol (textOf params .ts) else some 0) := by
      rw [timeAt, hread .ts (by decide)]
      cases withTime <;> rfl
    rw [if_pos hcount, if_pos hcount, hread .ca (by decide), hread .ioa (by decide),
      hread .value (by decide), hselect, htime]
    cases withTime <;> rfl
  · rw [if_neg hcount, if_neg hcount]
    rfl

/-- Before the switch the type is read, whatever the count. -/
theorem command_eq (readFloat : String → BitVec 32) (params : List Parameter) :
    command readFloat params =
      if params = [] then none else some (IEC104.command readFloat params) := by
  unfold command IEC104.command
  rw [textAt_type]
  split_ifs with hnone
  · rfl
  · have htype : getTypeIdFromString (unquote (textOf params .type)) = requestedType params := rfl
    rw [Option.bind_eq_bind, Option.bind_some, htype]
    generalize requestedType params = typeId
    split
    case h_13 => simp_all
    all_goals exact readCommand_eq params _ _ _

/-- The operations that read the first parameter. -/
def firstParameterOperations : List String :=
  ["CS104_Connection_sendInterrogationCommand", "CS104_Connection_sendTestCommandWithTimestamp",
    "IEC104Command", "north_status"]

/-- Only without parameters a read is out of bounds. -/
theorem operation_eq (readFloat : String → BitVec 32) (cfg : IEC104ClientConfig)
    (cons : ConId → Connection) (operation : String) (params : List Parameter) (now : Nat)
    (accepted : Bool) (c : Client) :
    Checked.operation readFloat cfg cons operation params now accepted (some c) =
      if params = [] ∧ operation ∈ firstParameterOperations then none
      else some (IEC104.operation readFloat cfg cons operation params now accepted (some c)) := by
  obtain ⟨texts, htexts⟩ := Option.isSome_iff_exists.mp (paramsToStr_isSome params)
  unfold Checked.operation IEC104.operation
  rw [htexts, command_eq, textAt_type]
  by_cases hnone : params = []
  · rw [if_pos hnone, if_pos hnone]
    by_cases hfirst : operation ∈ firstParameterOperations
    · rw [if_pos ⟨hnone, hfirst⟩]
      simp only [firstParameterOperations, List.mem_cons, List.not_mem_nil, or_false] at hfirst
      rcases hfirst with rfl | rfl | rfl | rfl <;> rfl
    · rw [if_neg fun h => hfirst h.2]
      simp only [firstParameterOperations, List.mem_cons, List.not_mem_nil, or_false,
        not_or] at hfirst
      obtain ⟨hgi, htest, hcommand, hnorth⟩ := hfirst
      dsimp only
      simp only [hgi, htest, hcommand, hnorth, if_false, Option.bind_eq_bind, Option.bind_some]
      split_ifs <;> rfl
  · rw [if_neg hnone, if_neg hnone, if_neg fun h => hnone h.1]
    dsimp only
    simp only [Option.bind_eq_bind, Option.bind_some]
    split_ifs
    · cases c.activeConnection <;> rfl
    · rfl
    · cases IEC104.command readFloat params <;> rfl
    · rfl
    · rfl
    · rfl
    · rfl

end IEC104.Checked

/-! ## Too few parameters -/

open IEC104.Checked (firstParameterOperations)

/-- The number of parameters an operation needs. -/
def requiredCount (operation : String) : Nat :=
  if operation = "IEC104Command" then 9
  else if operation ∈ firstParameterOperations then 1
  else 0

/-- The operation reads only parameters that there are, and fails without any change if there are
too few. -/
def ReadsInBounds (readFloat : String → BitVec 32) (cfg : IEC104ClientConfig)
    (cons : ConId → Connection) (operation : String) (params : List Parameter) (now : Nat)
    (accepted : Bool) (c : Client) : Prop :=
  ∃ result,
    IEC104.Checked.operation readFloat cfg cons operation params now accepted (some c) =
      some result ∧
    (params.length < requiredCount operation → result = (false, some c))

theorem IEC104.command_of_too_few {readFloat : String → BitVec 32} {params : List Parameter}
    (h : params.length < 9) : IEC104.command readFloat params = none := by
  have hread (withTime : Bool) (call : Int → Int → Int → CommandOperation) :
      IEC104.readCommand params withTime call = none := if_neg (by omega)
  unfold IEC104.command
  split
  case h_13 => rfl
  all_goals exact hread _ _

/-- The reads are in bounds, and too few parameters refused, if and only if there is a parameter
or the operation is none of the four that read the first one. -/
theorem operation_in_bounds_iff (readFloat : String → BitVec 32) (cfg : IEC104ClientConfig)
    (cons : ConId → Connection) (operation : String) (params : List Parameter) (now : Nat)
    (accepted : Bool) (c : Client) :
    ReadsInBounds readFloat cfg cons operation params now accepted c ↔
      params ≠ [] ∨ operation ∉ firstParameterOperations := by
  unfold ReadsInBounds
  rw [IEC104.Checked.operation_eq]
  split_ifs with hout
  · refine iff_of_false ?_ fun h => h.elim (absurd hout.1) (absurd hout.2)
    rintro ⟨_, hnone, -⟩
    cases hnone
  · refine iff_of_true ⟨_, rfl, fun hfew => ?_⟩ (not_and_or.mp hout)
    unfold requiredCount at hfew
    split_ifs at hfew with hcommand hfirst
    · rw [hcommand, Iec104South.operation_eq, IEC104.command_of_too_few hfew]
    · exact absurd ⟨List.length_eq_zero_iff.mp (Nat.lt_one_iff.mp hfew), hfirst⟩ hout
    · exact absurd hfew (Nat.not_lt_zero _)

/-- A command without any parameter: the type is read before the count is checked. -/
theorem command_without_parameters_reads_out_of_bounds :
    ¬ ReadsInBounds (fun _ => 0) {} (fun _ => {}) "IEC104Command" [] 0 true
      { exchangeDefinitions := .empty } := by
  rintro ⟨_, hnone, -⟩
  cases hnone

end Iec104South
