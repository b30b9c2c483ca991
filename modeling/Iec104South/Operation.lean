import Iec104South.Commands
import Iec104South.ConfigImport

/-!
# Operations from north

`IEC104::operation` reads the texts of a command and calls one of the six operations of the
client. Twelve type names are spread over six functions that read the parameters, six of the
client and six of the connection; `CommandOperation.object` and `command_reads` are what is
left of them.

* `operation_dispatched`: what the texts say is what is transmitted and booked.
* `select_kept_iff`: but for the select flag, which the setpoints do not read.

A character of a text stands for a byte of it.
-/

namespace Iec104South

open Reactive

/-! ## The parameters -/

/-- `PLUGIN_PARAMETER` -/
structure Parameter where
  name : String
  value : String
deriving DecidableEq, Repr

/-- `CommandParameters`, the index of each parameter. -/
inductive CommandParameter where
  | type
  | ca
  | ioa
  | cot
  | negative
  | se
  | test
  | ts
  | value
deriving DecidableEq, Repr

/-- The text `params[p]->value`. The callers pass what is read; without it the text is empty. -/
def textOf (params : List Parameter) (p : CommandParameter) : String :=
  (params[p.ctorIdx]?.map (·.value)).getD ""

/-- A text that starts with a quote, less its first and its last character. -/
def unquote (text : String) : String :=
  match text.toList with
  | '"' :: rest => String.ofList rest.dropLast
  | _ => text

example : unquote "\"C_SC_NA_1\"" = "C_SC_NA_1" ∧ unquote "\"" = "" := by decide

/-- The number that the type table gives for the type text. -/
def requestedType (params : List Parameter) : Int :=
  getTypeIdFromString (unquote (textOf params .type))

def requestedCa (params : List Parameter) : Int := Text.atoi (textOf params .ca)

def requestedIoa (params : List Parameter) : Int := Text.atoi (textOf params .ioa)

/-- `0 = execute, otherwise = select` -/
def requestedSelect (params : List Parameter) : Bool := Text.atoi (textOf params .se) != 0

/-! ## IEC104::operation -/

namespace IEC104

section

/- The conversion `(float)atof`. -/
variable (readFloat : String → BitVec 32)

/-- What the six functions share: nine parameters, and a timestamp that can be read if there is
one. `call` is the call of the client with the address and the time. -/
def readCommand (params : List Parameter) (withTime : Bool)
    (call : Int → Int → Int → CommandOperation) : Option CommandOperation :=
  if 8 < params.length then
    if withTime then
      (Text.stol (textOf params .ts)).map (call (requestedCa params) (requestedIoa params))
    else some (call (requestedCa params) (requestedIoa params) 0)
  else none

def singleCommandOperation (params : List Parameter) (withTime : Bool) : Option CommandOperation :=
  readCommand params withTime fun ca ioa time =>
    .sendSingleCommand ca ioa (Text.atoi (textOf params .value) != 0) withTime
      (requestedSelect params) time

def doubleCommandOperation (params : List Parameter) (withTime : Bool) : Option CommandOperation :=
  readCommand params withTime fun ca ioa time =>
    .sendDoubleCommand ca ioa (Text.atoi (textOf params .value)) withTime
      (requestedSelect params) time

def stepCommandOperation (params : List Parameter) (withTime : Bool) : Option CommandOperation :=
  readCommand params withTime fun ca ioa time =>
    .sendStepCommand ca ioa (Text.atoi (textOf params .value)) withTime
      (requestedSelect params) time

def setpointNormalized (params : List Parameter) (withTime : Bool) : Option CommandOperation :=
  readCommand params withTime fun ca ioa time =>
    .sendSetpointNormalized ca ioa (readFloat (textOf params .value)) withTime time

def setpointScaled (params : List Parameter) (withTime : Bool) : Option CommandOperation :=
  readCommand params withTime fun ca ioa time =>
    .sendSetpointScaled ca ioa (Text.atoi (textOf params .value)) withTime time

def setpointShort (params : List Parameter) (withTime : Bool) : Option CommandOperation :=
  readCommand params withTime fun ca ioa time =>
    .sendSetpointShort ca ioa (readFloat (textOf params .value)) withTime time

/-- The switch over the type: the call of the client, `none` where there is none. -/
def command (params : List Parameter) : Option CommandOperation :=
  match requestedType params with
  | C_SC_NA_1 => singleCommandOperation params false
  | C_SC_TA_1 => singleCommandOperation params true
  | C_DC_NA_1 => doubleCommandOperation params false
  | C_DC_TA_1 => doubleCommandOperation params true
  | C_RC_NA_1 => stepCommandOperation params false
  | C_RC_TA_1 => stepCommandOperation params true
  | C_SE_NA_1 => setpointNormalized readFloat params false
  | C_SE_TA_1 => setpointNormalized readFloat params true
  | C_SE_NB_1 => setpointScaled params false
  | C_SE_TB_1 => setpointScaled params true
  | C_SE_NC_1 => setpointShort readFloat params false
  | C_SE_TC_1 => setpointShort readFloat params true
  | _ => none

/-- `IEC104::operation`. There is no client before the plugin is initialised. `now` is the time
of the booking, `accepted` what the library returns. -/
def operation (cfg : IEC104ClientConfig) (cons : ConId → Connection) (operation : String)
    (params : List Parameter) (now : Nat) (accepted : Bool) :
    Option Client → Bool × Option Client
  | none => (false, none)
  | some c =>
    if operation = "CS104_Connection_sendInterrogationCommand" then
      match c.activeConnection with
      | some con =>
        let sent := (cons con).sendInterrogationCommand
          (Text.atoi (textOf params .type)) accepted
        (sent.1, some { c with out := c.out ++ sent.2 })
      | none => (false, some c)
    else if operation = "CS104_Connection_sendTestCommandWithTimestamp" then (false, some c)
    else if operation = "IEC104Command" then
      match command readFloat params with
      | some op =>
        let sent := c.sendCommand cfg cons op now accepted
        (sent.1, some sent.2)
      | none => (false, some c)
    else if operation = "request_connection_status" then
      (true, some (c.sendConnectionStatus cfg))
    else if operation = "north_status" then
      if unquote (textOf params .type) = "init_socket_finished" then
        (true, some (requestGi c))
      else (false, some c)
    else (false, some c)

end

end IEC104

/-! ## What a call transmits -/

namespace CommandOperation

/-- The information object that the connection makes of a call. -/
def object : CommandOperation → CommandObject
  | sendSingleCommand _ ioa value withTime select time =>
    Connection.commandObject C_SC_TA_1 C_SC_NA_1 ioa (.int (if value then 1 else 0)) withTime select
      time
  | sendDoubleCommand _ ioa value withTime select time =>
    Connection.commandObject C_DC_TA_1 C_DC_NA_1 ioa (.int value) withTime select time
  | sendStepCommand _ ioa value withTime select time =>
    Connection.commandObject C_RC_TA_1 C_RC_NA_1 ioa (.int value) withTime select time
  | sendSetpointNormalized _ ioa value withTime time =>
    Connection.commandObject C_SE_TA_1 C_SE_NA_1 ioa (.float value) withTime false time
  | sendSetpointScaled _ ioa value withTime time =>
    Connection.commandObject C_SE_TB_1 C_SE_NB_1 ioa (.int value) withTime false time
  | sendSetpointShort _ ioa value withTime time =>
    Connection.commandObject C_SE_TC_1 C_SE_NC_1 ioa (.float value) withTime false time

theorem send_eq (op : CommandOperation) (accepted : Bool) (con : Connection) :
    op.send accepted con = con.sendCommand op.ca op.object accepted := by
  cases op <;> rfl

@[simp] theorem object_typeId (op : CommandOperation) : op.object.typeId = op.typeId := by
  cases op <;> rfl

@[simp] theorem object_ioa (op : CommandOperation) : op.object.ioa = op.ioa := by
  cases op <;> rfl

end CommandOperation

/-! ## What the texts say -/

def timeTaggedTypes : List Int := [C_SC_TA_1, C_DC_TA_1, C_RC_TA_1, C_SE_TA_1, C_SE_TB_1, C_SE_TC_1]

def setpointTypes : List Int := [C_SE_NA_1, C_SE_TA_1, C_SE_NB_1, C_SE_TB_1, C_SE_NC_1, C_SE_TC_1]

/-- The types of the switch. -/
def commandTypes : List Int :=
  [C_SC_NA_1, C_SC_TA_1, C_DC_NA_1, C_DC_TA_1, C_RC_NA_1, C_RC_TA_1] ++ setpointTypes

/-- The timestamp of a command: the text, if the type has a time tag. -/
def requestedTimestamp (params : List Parameter) : Option Int :=
  if requestedType params ∈ timeTaggedTypes then Text.stol (textOf params .ts) else none

/-- The call has the type, the address and the time that the texts name; the select flag gets
lost on setpoints. -/
structure CommandOperation.Reads (params : List Parameter) (op : CommandOperation) : Prop where
  typeId : op.typeId = requestedType params
  ca : op.ca = requestedCa params
  ioa : op.ioa = requestedIoa params
  msTimestamp : op.object.msTimestamp = requestedTimestamp params
  select : op.object.select = (requestedSelect params && requestedType params ∉ setpointTypes)

namespace IEC104

theorem readCommand_eq_some {params : List Parameter} {withTime : Bool}
    {call : Int → Int → Int → CommandOperation} {op : CommandOperation}
    (h : readCommand params withTime call = some op) :
    ∃ ca ioa time, call ca ioa time = op ∧ ca = requestedCa params ∧ ioa = requestedIoa params ∧
      (withTime → Text.stol (textOf params .ts) = some time) := by
  unfold readCommand at h
  split_ifs at h with hcount htime
  · obtain ⟨time, hread, hcall⟩ := Option.map_eq_some_iff.mp h
    exact ⟨_, _, time, hcall, rfl, rfl, fun _ => hread⟩
  · exact ⟨_, _, 0, Option.some.inj h, rfl, rfl, fun hwith => absurd hwith htime⟩

/-- There is a call for each of the twelve types, unless its timestamp cannot be read. -/
theorem readCommand_isSome {params : List Parameter} (hcount : 9 ≤ params.length) (withTime : Bool)
    (call : Int → Int → Int → CommandOperation) :
    (readCommand params withTime call).isSome ↔
      (withTime → (Text.stol (textOf params .ts)).isSome) := by
  unfold readCommand
  rw [if_pos (by omega)]
  cases withTime <;> simp

/-- The switch and the six functions read the texts as the type demands. -/
theorem command_reads {readFloat : String → BitVec 32} {params : List Parameter}
    {op : CommandOperation} (h : command readFloat params = some op) : op.Reads params := by
  unfold command at h
  split at h
  case h_13 => cases h
  all_goals
    rename_i hrequested
    obtain ⟨ca, ioa, time, rfl, hca, hioa, htime⟩ := readCommand_eq_some h
    refine ⟨hrequested.symm, hca, hioa, ?_, ?_⟩
    · rw [requestedTimestamp, hrequested]
      first | exact (htime rfl).symm | rfl
    · rw [hrequested]
      first | exact (Bool.and_true _).symm | exact (Bool.and_false _).symm

/-- The switch has a call for each of the twelve types. -/
theorem command_isSome (readFloat : String → BitVec 32) {params : List Parameter}
    (hcount : 9 ≤ params.length) (htype : requestedType params ∈ commandTypes) :
    (command readFloat params).isSome ↔
      (requestedType params ∈ timeTaggedTypes → (Text.stol (textOf params .ts)).isSome) := by
  unfold command
  split
  case h_13 => simp_all [commandTypes, setpointTypes]
  all_goals
    rename_i hrequested
    rw [hrequested]
    exact (readCommand_isSome hcount _ _).trans (by simp [timeTaggedTypes])

end IEC104

/-! ## What the client does with a call -/

namespace Client

/-- The command objects that are transmitted; a call of the library that reports failure
transmits nothing. -/
def transmittedCommands (out : List Effect) : List CommandObject :=
  out.filterMap fun
    | .sendProcessCommandEx _ _ _ command true => some command
    | _ => none

/-- The state in which a command goes out: the table has a definition of its kind, the limit
is not reached, and there is an active connection that can send. -/
structure CanSend (cfg : IEC104ClientConfig) (cons : ConId → Connection) (typeId ca ioa : Int)
    (accepted : Bool) (c : Client) (handle : Handle) : Prop where
  listed : ∃ dp, c.exchangeDefinitions.find? ca ioa = some dp ∧
    informationKind dp.typeId = informationKind typeId
  room : ¬c.limitReached cfg
  active : ∃ con, c.activeConnection = some con ∧ (cons con).connection = some handle ∧
    (cons con).connectionState = .connectedActive
  accepted : accepted

/-- The check of a command admits the definitions of its kind. -/
theorem checkCommand_iff {op : CommandOperation} {c : Client} :
    (c.checkCommand op).1 ↔ ∃ dp, c.exchangeDefinitions.find? op.ca op.ioa = some dp ∧
      informationKind dp.typeId = informationKind op.typeId := by
  show c.exchangeDefinitions.Accepts op.typeIdNoTimestamp op.ca op.ioa ↔ _
  rw [ExchangeTable.accepts_iff op.typeIdNoTimestamp_ne, op.informationKind_typeId]

variable {cfg : IEC104ClientConfig} {cons : ConId → Connection} {op : CommandOperation}
  {accepted : Bool} {c : Client}

theorem transmitCommand_of_active {con : ConId} (h : c.activeConnection = some con) :
    c.transmitCommand cons op accepted =
      (((cons con).sendCommand op.ca op.object accepted).1, { c with
        out := c.out ++ ((cons con).sendCommand op.ca op.object accepted).2 }) := by
  rw [← op.send_eq]
  unfold transmitCommand
  split
  · cases h.symm.trans ‹_›
    rfl
  · cases h.symm.trans ‹_›

/-- A command that can be sent is booked and goes out. -/
theorem sendCommand_of_canSend {handle : Handle} (now : Nat)
    (h : CanSend cfg cons op.typeId op.ca op.ioa accepted c handle) :
    c.sendCommand cfg cons op now accepted =
      (true, { (c.touch op.ca op.ioa).withBooked op now with
        out := c.out ++
          [.sendProcessCommandEx handle CS101_COT_ACTIVATION op.ca op.object true] }) := by
  obtain ⟨con, hactive, hhandle, hstate⟩ := h.active
  have hsent : (cons con).sendCommand op.ca op.object accepted =
      (true, [.sendProcessCommandEx handle CS101_COT_ACTIVATION op.ca op.object true]) := by
    rw [Connection.sendCommand, hhandle, h.accepted]
    exact if_pos hstate
  have hactive' : ((c.touch op.ca op.ioa).withBooked op now).activeConnection = some con := hactive
  have hroom : ¬(c.touch op.ca op.ioa).limitReached cfg := h.room
  rw [sendCommand_eq, if_pos (checkCommand_iff.mpr h.listed), if_neg hroom,
    transmitCommand_of_active hactive', hsent]
  rfl

/-- Without a connection that can send, nothing is transmitted. -/
theorem transmitCommand_failed (op : CommandOperation)
    (h : ∀ con handle, c.activeConnection = some con → (cons con).connection = some handle →
      (cons con).connectionState = .connectedActive → accepted = false) :
    ∃ new, c.transmitCommand cons op accepted = (false, { c with out := c.out ++ new }) ∧
      transmittedCommands new = [] := by
  rcases Option.eq_none_or_eq_some c.activeConnection with hactive | ⟨con, hactive⟩
  · refine ⟨[], ?_, rfl⟩
    unfold transmitCommand
    split
    · cases hactive.symm.trans ‹_›
    · exact Prod.ext rfl (by rw [List.append_nil])
  · rw [transmitCommand_of_active hactive, Connection.sendCommand]
    cases hhandle : (cons con).connection with
    | none => exact ⟨[], rfl, rfl⟩
    | some handle =>
      dsimp only
      split_ifs with hstate
      · have hrejected := h con handle hactive hhandle hstate
        exact ⟨_, Prod.ext hrejected rfl, by rw [hrejected]; rfl⟩
      · exact ⟨[], rfl, rfl⟩

/-- A command that cannot be sent leaves the list as it was, and nothing is transmitted. -/
theorem sendCommand_of_not_canSend (now : Nat)
    (h : ∀ handle, ¬CanSend cfg cons op.typeId op.ca op.ioa accepted c handle) :
    ∃ c' new, c.sendCommand cfg cons op now accepted = (false, c') ∧
      c'.out = c.out ++ new ∧ transmittedCommands new = [] ∧
      (c.Booked → c'.outstandingCommands = c.outstandingCommands) := by
  rw [sendCommand_eq]
  split_ifs with hlisted hlimit
  · exact ⟨_, [], rfl, (List.append_nil _).symm, rfl, fun _ => rfl⟩
  · -- booked, but not sent: the command is erased again
    have hrejected : ∀ con handle, c.activeConnection = some con →
        (cons con).connection = some handle → (cons con).connectionState = .connectedActive →
        accepted = false := fun con handle hactive hhandle hstate =>
      Bool.eq_false_iff.mpr fun haccepted => h handle
        ⟨checkCommand_iff.mp hlisted, hlimit, ⟨con, hactive, hhandle, hstate⟩, haccepted⟩
    obtain ⟨new, hsent, hnew⟩ := transmitCommand_failed op
      (c := (c.touch op.ca op.ioa).withBooked op now) hrejected
    rw [hsent]
    exact ⟨_, new, rfl, rfl, hnew, fun hbooked =>
      filter_bookedCommand (hbooked.congr (.touch _ _ _) rfl) op now⟩
  · exact ⟨_, [], rfl, (List.append_nil _).symm, rfl, fun _ => rfl⟩

end Client

/-! ## The operation -/

/-- What the operation has to do with a command that the texts name, between the states `c` and
`c'` of the client: transmit it over the active connection and append it to the list. -/
structure Dispatched (cons : ConId → Connection) (params : List Parameter) (c c' : Client)
    (new : List Effect) : Prop where
  transmitted : ∃ con handle object, c.activeConnection = some con ∧
    (cons con).connection = some handle ∧
    new = [.sendProcessCommandEx handle CS101_COT_ACTIVATION (requestedCa params) object true] ∧
    object.typeId = requestedType params ∧ object.ioa = requestedIoa params ∧
    object.msTimestamp = requestedTimestamp params ∧
    (object.msTimestamp.isSome ↔ requestedType params ∈ timeTaggedTypes)
  booked : ∃ command, c'.outstandingCommands = c.outstandingCommands ++ [command] ∧
    command.typeId = requestedType params ∧ command.ca = requestedCa params ∧
    command.ioa = requestedIoa params

/-- The state in which the command that the texts name goes out. -/
abbrev CanSendRequested (cfg : IEC104ClientConfig) (cons : ConId → Connection)
    (params : List Parameter) (accepted : Bool) (c : Client) : Handle → Prop :=
  Client.CanSend cfg cons (requestedType params) (requestedCa params) (requestedIoa params)
    accepted c

variable {readFloat : String → BitVec 32} {cfg : IEC104ClientConfig} {cons : ConId → Connection}
  {params : List Parameter} {accepted : Bool} {c : Client}

theorem operation_eq (now : Nat) :
    IEC104.operation readFloat cfg cons "IEC104Command" params now accepted (some c) =
      match IEC104.command readFloat params with
      | some op =>
        let sent := c.sendCommand cfg cons op now accepted
        (sent.1, some sent.2)
      | none => (false, some c) := by
  unfold IEC104.operation
  dsimp only
  rw [if_neg (by decide), if_neg (by decide), if_pos rfl]

/-- A requested command that can be sent is dispatched as the texts say. -/
theorem operation_of_canSend (now : Nat) {op : CommandOperation}
    (hop : IEC104.command readFloat params = some op) {handle : Handle}
    (h : CanSendRequested cfg cons params accepted c handle) :
    ∃ c', IEC104.operation readFloat cfg cons "IEC104Command" params now accepted (some c) =
        (true, some c') ∧
      c'.out = c.out ++
        [.sendProcessCommandEx handle CS101_COT_ACTIVATION (requestedCa params) op.object true] ∧
      c'.outstandingCommands = c.outstandingCommands ++ [bookedCommand op now c] := by
  have hreads := IEC104.command_reads hop
  have hsend : Client.CanSend cfg cons op.typeId op.ca op.ioa accepted c handle := by
    rw [hreads.typeId, hreads.ca, hreads.ioa]
    exact h
  rw [operation_eq, hop]
  dsimp only
  rw [Client.sendCommand_of_canSend now hsend, hreads.ca]
  exact ⟨_, rfl, rfl, rfl⟩

/-- Otherwise nothing is transmitted, and the list is as it was. -/
theorem operation_of_not_canSend (now : Nat)
    (h : IEC104.command readFloat params = none ∨
      ∀ handle, ¬CanSendRequested cfg cons params accepted c handle) :
    ∃ c' new, IEC104.operation readFloat cfg cons "IEC104Command" params now accepted (some c) =
        (false, some c') ∧
      c'.out = c.out ++ new ∧ Client.transmittedCommands new = [] ∧
      (c.Booked → c'.outstandingCommands = c.outstandingCommands) := by
  rw [operation_eq]
  cases hop : IEC104.command readFloat params with
  | none => exact ⟨c, [], rfl, (List.append_nil _).symm, rfl, fun _ => rfl⟩
  | some op =>
    have hreads := IEC104.command_reads hop
    have hnot : ∀ handle, ¬Client.CanSend cfg cons op.typeId op.ca op.ioa accepted c handle := by
      rw [hreads.typeId, hreads.ca, hreads.ioa]
      exact h.resolve_left (by rw [hop]; exact Option.some_ne_none op)
    obtain ⟨c', new, hsent, hnew⟩ := Client.sendCommand_of_not_canSend now hnot
    dsimp only
    rw [hsent]
    exact ⟨c', new, rfl, hnew⟩

/-- A requested command is transmitted, or nothing is. -/
theorem operation_cases {now : Nat} {success : Bool} {c' : Client} {new : List Effect}
    (hop : IEC104.operation readFloat cfg cons "IEC104Command" params now accepted (some c) =
      (success, some c'))
    (hnew : c'.out = c.out ++ new) :
    (∃ op, IEC104.command readFloat params = some op ∧
        (∃ handle, CanSendRequested cfg cons params accepted c handle) ∧ success = true ∧
        Client.transmittedCommands new = [op.object]) ∨
      ((IEC104.command readFloat params = none ∨
          ∀ handle, ¬CanSendRequested cfg cons params accepted c handle) ∧
        success = false ∧ Client.transmittedCommands new = []) := by
  by_cases hsend : (IEC104.command readFloat params).isSome ∧
      ∃ handle, CanSendRequested cfg cons params accepted c handle
  · obtain ⟨hsome, handle, hcan⟩ := hsend
    obtain ⟨op, hread⟩ := Option.isSome_iff_exists.mp hsome
    obtain ⟨c₁, hresult, hout, -⟩ := operation_of_canSend now hread hcan
    obtain ⟨rfl, rfl⟩ : success = true ∧ c' = c₁ := by
      rw [hop] at hresult
      simpa using hresult
    refine .inl ⟨op, hread, ⟨handle, hcan⟩, rfl, ?_⟩
    rw [List.append_cancel_left (hnew.symm.trans hout)]
    rfl
  · have hnot : IEC104.command readFloat params = none ∨
        ∀ handle, ¬CanSendRequested cfg cons params accepted c handle := by
      rw [not_and_or, not_exists] at hsend
      exact hsend.imp_left Option.not_isSome_iff_eq_none.mp
    obtain ⟨c₁, new₁, hresult, hout, hnothing, -⟩ :=
      operation_of_not_canSend now hnot
    obtain ⟨rfl, rfl⟩ : success = false ∧ c' = c₁ := by
      rw [hop] at hresult
      simpa using hresult
    refine .inr ⟨hnot, rfl, ?_⟩
    rw [List.append_cancel_left (hnew.symm.trans hout), hnothing]

/-- Whether a call has a timestamp depends on the type alone. -/
theorem CommandOperation.Reads.tagged {op : CommandOperation} (h : op.Reads params) :
    op.object.msTimestamp.isSome ↔ requestedType params ∈ timeTaggedTypes := by
  have hif (withTime : Bool) (time : Int) {a b : Int} (ha : a ∈ timeTaggedTypes)
      (hb : b ∉ timeTaggedTypes) : (if withTime then some time else none).isSome ↔
        (if withTime then a else b) ∈ timeTaggedTypes := by
    cases withTime
    · exact iff_of_false Bool.false_ne_true hb
    · exact iff_of_true rfl ha
  rw [← h.typeId]
  cases op <;> exact hif _ _ (of_decide_eq_true rfl) (of_decide_eq_true rfl)

/-- The client and its connections after a run of completed operations. -/
def CommandSystem.after (cfg : IEC104ClientConfig) (t : ExchangeTable) (cons : ConId → Connection)
    (is : List CommandInput) : CommandSystem :=
  run (commandStep cfg) { client := { exchangeDefinitions := t }, cons := cons } is

theorem CommandSystem.after_booked (cfg : IEC104ClientConfig) (t : ExchangeTable)
    (cons : ConId → Connection) (is : List CommandInput) :
    (CommandSystem.after cfg t cons is).client.Booked :=
  run_of_always (always_of_invariant (I := fun s : CommandSystem => s.client.Booked)
    (fun _ i hs => (commandStep_unanswered cfg hs i).2) (fun _ h => h) (.empty t))

/-- In every state that a run of completed operations reaches, a command is dispatched as its
texts say, or it fails and leaves no trace; only a definition of its kind lets it out. -/
theorem operation_dispatched (readFloat : String → BitVec 32) (cfg : IEC104ClientConfig)
    (t : ExchangeTable) (cons : ConId → Connection) (before : List CommandInput)
    (params : List Parameter) (now : Nat) (accepted : Bool) :
    let s := CommandSystem.after cfg t cons before
    ∃ success c' new,
      IEC104.operation readFloat cfg s.cons "IEC104Command" params now accepted (some s.client) =
          (success, some c') ∧
        c'.out = s.client.out ++ new ∧
        (success → Dispatched s.cons params s.client c' new) ∧
        (¬success → Client.transmittedCommands new = [] ∧
          c'.outstandingCommands = s.client.outstandingCommands) ∧
        (Client.transmittedCommands new ≠ [] →
          ∃ dp, s.client.exchangeDefinitions.find? (requestedCa params) (requestedIoa params) =
              some dp ∧
            informationKind dp.typeId = informationKind (requestedType params)) := by
  intro s
  by_cases hsend : ∃ op handle, IEC104.command readFloat params = some op ∧
      CanSendRequested cfg s.cons params accepted s.client handle
  · obtain ⟨op, handle, hop, hcan⟩ := hsend
    have hreads := IEC104.command_reads hop
    obtain ⟨con, hactive, hhandle, -⟩ := hcan.active
    obtain ⟨c', hresult, hout, hlist⟩ := operation_of_canSend now hop hcan
    refine ⟨true, c', _, hresult, hout, fun _ => ⟨?_, ?_⟩, fun h => absurd rfl h,
      fun _ => hcan.listed⟩
    · exact ⟨con, handle, op.object, hactive, hhandle, rfl, op.object_typeId.trans hreads.typeId,
        op.object_ioa.trans hreads.ioa, hreads.msTimestamp, hreads.tagged⟩
    · exact ⟨_, hlist, hreads.typeId, hreads.ca, hreads.ioa⟩
  · have hnot : IEC104.command readFloat params = none ∨
        ∀ handle, ¬CanSendRequested cfg s.cons params accepted s.client handle := by
      refine or_iff_not_imp_left.mpr fun hsome handle hcan => hsend ?_
      obtain ⟨op, hop⟩ := Option.ne_none_iff_exists'.mp hsome
      exact ⟨op, handle, hop, hcan⟩
    obtain ⟨c', new, hresult, hout, hnothing, hlist⟩ :=
      operation_of_not_canSend now hnot
    have hbooked := CommandSystem.after_booked cfg t cons before
    exact ⟨false, c', new, hresult, hout, fun h => absurd h Bool.false_ne_true,
      fun _ => ⟨hnothing, hlist hbooked⟩, fun h => absurd hnothing h⟩

/-! ## The select flag -/

/-- A command object that goes out has its select flag as the text says, unless it is that of a
setpoint to be selected. -/
theorem select_kept_iff (readFloat : String → BitVec 32) (cfg : IEC104ClientConfig)
    (cons : ConId → Connection) (params : List Parameter) (hcount : 9 ≤ params.length)
    (htype : requestedType params ∈ commandTypes) (now : Nat) (accepted : Bool) (c : Client)
    (success : Bool) (c' : Client) (new : List Effect)
    (hop : IEC104.operation readFloat cfg cons "IEC104Command" params now accepted (some c) =
      (success, some c'))
    (hnew : c'.out = c.out ++ new) :
    (requestedSelect params → ∀ object ∈ Client.transmittedCommands new, object.select) ↔
      ¬(requestedSelect params ∧ requestedType params ∈ setpointTypes ∧
        (requestedType params ∈ timeTaggedTypes → (Text.stol (textOf params .ts)).isSome) ∧
        ∃ handle, CanSendRequested cfg cons params accepted c handle) := by
  rcases operation_cases hop hnew with
    ⟨op, hread, hcan, -, hobject⟩ | ⟨hnot, -, hnothing⟩
  · have hreads := IEC104.command_reads hread
    have htime := (IEC104.command_isSome readFloat hcount htype).mp
      (Option.isSome_of_mem hread)
    rw [hobject]
    simp only [List.mem_singleton, forall_eq, hreads.select]
    constructor
    · rintro h ⟨hselect, hsetpoint, -⟩
      simpa [hsetpoint] using h hselect
    · intro h hselect
      by_contra hlost
      refine h ⟨hselect, ?_, htime, hcan⟩
      simpa [hselect] using hlost
  · rw [hnothing]
    refine iff_of_true (fun _ _ h => absurd h List.not_mem_nil) ?_
    rintro ⟨-, -, htime, handle, hcan⟩
    have hsome := (IEC104.command_isSome readFloat hcount htype).mpr htime
    rcases hnot with hnone | hnot
    · simp [hnone] at hsome
    · exact hnot handle hcan

/-- The texts of a command with the select flag set. -/
def selectCommand (type : String) : List Parameter :=
  [⟨"co_type", type⟩, ⟨"co_ca", "1"⟩, ⟨"co_ioa", "10"⟩, ⟨"co_cot", "6"⟩, ⟨"co_negative", "0"⟩,
    ⟨"co_se", "1"⟩, ⟨"co_test", "0"⟩, ⟨"co_ts", "1000"⟩, ⟨"co_value", "7"⟩]

/-- A client with one datapoint, for commands of the type, over an active connection. -/
def commandClient (typeId : Int) : Client where
  exchangeDefinitions := .ofDatapoints [{ ca := 1, ioa := 10, typeId := typeId, label := "p" }]
  activeConnection := some 0

/-- Connections in the active state. -/
def activeConnections : ConId → Connection :=
  fun con => { connectionState := .connectedActive, connection := some con }

/-- What the operation emits for the texts. -/
def emittedFor (params : List Parameter) : List Effect :=
  ((IEC104.operation (fun _ => 0) {} activeConnections "IEC104Command" params 5 true
    (some (commandClient (requestedType params)))).2.map (·.out)).getD []

theorem select_kept_singleCommand :
    requestedSelect (selectCommand "C_SC_TA_1") ∧
      ∀ object ∈ Client.transmittedCommands (emittedFor (selectCommand "C_SC_TA_1")),
        object.select := by
  refine ⟨by decide, (select_kept_iff (fun _ => 0) {} activeConnections
    (selectCommand "C_SC_TA_1") (by decide) (by decide) 5 true
    (commandClient (requestedType (selectCommand "C_SC_TA_1"))) true _ _ rfl rfl).mpr ?_
    (by decide)⟩
  rintro ⟨-, hsetpoint, -⟩
  revert hsetpoint
  decide

/-- A scaled setpoint to be selected is transmitted as one to be executed. -/
theorem select_sent_as_execute :
    requestedSelect (selectCommand "C_SE_NB_1") ∧
      emittedFor (selectCommand "C_SE_NB_1") =
        [.sendProcessCommandEx 0 CS101_COT_ACTIVATION 1
          { typeId := C_SE_NB_1, ioa := 10, value := .int 7, select := false, msTimestamp := none }
          true] := by
  decide

end Iec104South
