import Iec104South.Lib.Keyed
import Iec104South.Machine
import Iec104South.TypeMatching

/-!
# Commands

The six command operations of the client. They differ in their type ids and in the
information object they create; each checks the address, books the command in
`m_outstandingCommands`, and transmits it over the active connection.

`outstandingCommands_refine` says that the list holds the unanswered commands, as a
specification computes them that knows nothing of object identities, of the exchange table
and of the element loop. It is about completed operations; their critical sections are
interleaved in `CommandsConcurrent`.
-/

namespace Iec104South

open Reactive

/-! ## The command methods of a connection -/

namespace Connection

/-- What the command methods share: the object is sent if there is an active connection. -/
def sendCommand (ca : Int) (cmdObj : CommandObject) (accepted : Bool) (con : Connection) :
    Bool × List Effect :=
  match con.connection with
  | some handle =>
    if con.connectionState = .connectedActive then
      (accepted, [.sendProcessCommandEx handle CS101_COT_ACTIVATION ca cmdObj accepted])
    else (false, [])
  | none => (false, [])

/-- The information object of a command, with or without time tag. -/
def commandObject (typeIdWithTimestamp typeIdNoTimestamp ioa : Int) (value : IoValue)
    (withTime select : Bool) (msTimestamp : Int) : CommandObject where
  typeId := if withTime then typeIdWithTimestamp else typeIdNoTimestamp
  ioa := ioa
  value := value
  select := select
  msTimestamp := if withTime then some msTimestamp else none

def sendSingleCommand (ca ioa : Int) (value withTime select : Bool) (msTimestamp : Int) :
    Bool → Connection → Bool × List Effect :=
  sendCommand ca (commandObject C_SC_TA_1 C_SC_NA_1 ioa (.int (if value then 1 else 0)) withTime
    select msTimestamp)

def sendDoubleCommand (ca ioa value : Int) (withTime select : Bool) (msTimestamp : Int) :
    Bool → Connection → Bool × List Effect :=
  sendCommand ca (commandObject C_DC_TA_1 C_DC_NA_1 ioa (.int value) withTime select msTimestamp)

def sendStepCommand (ca ioa value : Int) (withTime select : Bool) (msTimestamp : Int) :
    Bool → Connection → Bool × List Effect :=
  sendCommand ca (commandObject C_RC_TA_1 C_RC_NA_1 ioa (.int value) withTime select msTimestamp)

def sendSetpointNormalized (ca ioa : Int) (value : BitVec 32) (withTime : Bool)
    (msTimestamp : Int) : Bool → Connection → Bool × List Effect :=
  sendCommand ca (commandObject C_SE_TA_1 C_SE_NA_1 ioa (.float value) withTime false msTimestamp)

def sendSetpointScaled (ca ioa value : Int) (withTime : Bool) (msTimestamp : Int) :
    Bool → Connection → Bool × List Effect :=
  sendCommand ca (commandObject C_SE_TB_1 C_SE_NB_1 ioa (.int value) withTime false msTimestamp)

def sendSetpointShort (ca ioa : Int) (value : BitVec 32) (withTime : Bool) (msTimestamp : Int) :
    Bool → Connection → Bool × List Effect :=
  sendCommand ca (commandObject C_SE_TC_1 C_SE_NC_1 ioa (.float value) withTime false msTimestamp)

end Connection

/-! ## The command operations of the client -/

/-- A call of one of the six operations. -/
inductive CommandOperation where
  | sendSingleCommand (ca ioa : Int) (value withTime select : Bool) (time : Int)
  | sendDoubleCommand (ca ioa value : Int) (withTime select : Bool) (time : Int)
  | sendStepCommand (ca ioa value : Int) (withTime select : Bool) (time : Int)
  | sendSetpointNormalized (ca ioa : Int) (value : BitVec 32) (withTime : Bool) (time : Int)
  | sendSetpointScaled (ca ioa value : Int) (withTime : Bool) (time : Int)
  | sendSetpointShort (ca ioa : Int) (value : BitVec 32) (withTime : Bool) (time : Int)
deriving DecidableEq, Repr

namespace CommandOperation

def ca : CommandOperation → Int
  | sendSingleCommand ca _ _ _ _ _ | sendDoubleCommand ca _ _ _ _ _
  | sendStepCommand ca _ _ _ _ _ | sendSetpointNormalized ca _ _ _ _
  | sendSetpointScaled ca _ _ _ _ | sendSetpointShort ca _ _ _ _ => ca

def ioa : CommandOperation → Int
  | sendSingleCommand _ ioa _ _ _ _ | sendDoubleCommand _ ioa _ _ _ _
  | sendStepCommand _ ioa _ _ _ _ | sendSetpointNormalized _ ioa _ _ _
  | sendSetpointScaled _ ioa _ _ _ | sendSetpointShort _ ioa _ _ _ => ioa

def withTime : CommandOperation → Bool
  | sendSingleCommand _ _ _ withTime _ _ | sendDoubleCommand _ _ _ withTime _ _
  | sendStepCommand _ _ _ withTime _ _ | sendSetpointNormalized _ _ _ withTime _
  | sendSetpointScaled _ _ _ withTime _ | sendSetpointShort _ _ _ withTime _ => withTime

/-- The type the address is checked for. -/
def typeIdNoTimestamp : CommandOperation → Int
  | sendSingleCommand .. => C_SC_NA_1
  | sendDoubleCommand .. => C_DC_NA_1
  | sendStepCommand .. => C_RC_NA_1
  | sendSetpointNormalized .. => C_SE_NA_1
  | sendSetpointScaled .. => C_SE_NB_1
  | sendSetpointShort .. => C_SE_NC_1

def typeIdWithTimestamp : CommandOperation → Int
  | sendSingleCommand .. => C_SC_TA_1
  | sendDoubleCommand .. => C_DC_TA_1
  | sendStepCommand .. => C_RC_TA_1
  | sendSetpointNormalized .. => C_SE_TA_1
  | sendSetpointScaled .. => C_SE_TB_1
  | sendSetpointShort .. => C_SE_TC_1

/-- The requested type. -/
def typeId (op : CommandOperation) : Int :=
  if op.withTime then op.typeIdWithTimestamp else op.typeIdNoTimestamp

/-- The method of the active connection that the operation calls. -/
def send : CommandOperation → Bool → Connection → Bool × List Effect
  | sendSingleCommand ca ioa value withTime select time =>
    Connection.sendSingleCommand ca ioa value withTime select time
  | sendDoubleCommand ca ioa value withTime select time =>
    Connection.sendDoubleCommand ca ioa value withTime select time
  | sendStepCommand ca ioa value withTime select time =>
    Connection.sendStepCommand ca ioa value withTime select time
  | sendSetpointNormalized ca ioa value withTime time =>
    Connection.sendSetpointNormalized ca ioa value withTime time
  | sendSetpointScaled ca ioa value withTime time =>
    Connection.sendSetpointScaled ca ioa value withTime time
  | sendSetpointShort ca ioa value withTime time =>
    Connection.sendSetpointShort ca ioa value withTime time

end CommandOperation

namespace Client

/-- The address and the type are in the exchange configuration. -/
def checkCommand (op : CommandOperation) (c : Client) : Bool × Client :=
  ((c.exchangeDefinitions.checkExchangeDataLayer op.typeIdNoTimestamp op.ca op.ioa).isSome,
    c.touch op.ca op.ioa)

def bookCommand (cfg : IEC104ClientConfig) (op : CommandOperation) (now : Nat) (c : Client) :
    Option OutstandingCommand × Client :=
  c.addOutstandingCommandAndCheckLimit cfg op.ca op.ioa op.withTime op.typeIdWithTimestamp
    op.typeIdNoTimestamp now

/-- Send over the active connection, if there is one. -/
def transmitCommand (cons : ConId → Connection) (op : CommandOperation) (accepted : Bool)
    (c : Client) : Bool × Client :=
  match c.activeConnection with
  | some con =>
    let sent := op.send accepted (cons con)
    (sent.1, { c with out := c.out ++ sent.2 })
  | none => (false, c)

/-- The body of the operations: whether the command was sent. -/
def sendCommand (cfg : IEC104ClientConfig) (cons : ConId → Connection) (op : CommandOperation)
    (now : Nat) (accepted : Bool) (c : Client) : Bool × Client :=
  let checked := c.checkCommand op
  if !checked.1 then (false, checked.2)
  else
    match checked.2.bookCommand cfg op now with
    | (none, c) => (false, c)
    | (some command, c) =>
      let sent := c.transmitCommand cons op accepted
      if sent.1 then sent else (false, sent.2.removeOutstandingCommand command)

end Client

/-! ## The specification -/

/-- A command that was sent and is not answered yet. -/
structure UnansweredCommand where
  typeId : Int
  ca : Int
  ioa : Int
  connection : Option ConId
  actConReceived : Bool
  timeout : Nat
deriving DecidableEq, Repr

namespace UnansweredCommand

/-- A reply on `connection` with this type and address answers the command. -/
def answeredBy (typeId ca ioa : Int) (connection : ConId) (u : UnansweredCommand) : Bool :=
  u.typeId == typeId && u.ca == ca && u.ioa == ioa && u.connection == some connection

def timedOut (cfg : IEC104ClientConfig) (currentTime : Nat) (u : UnansweredCommand) : Bool :=
  (u.timeout + cfg.cmdExecTimeout) % 2 ^ 64 < currentTime

def confirm (now : Nat) (u : UnansweredCommand) : UnansweredCommand :=
  { u with actConReceived := true, timeout := now }

end UnansweredCommand

/-- A sent command is appended, a command that was not sent leaves the list as it was. -/
def specSend (op : CommandOperation) (activeConnection : Option ConId) (now : Nat)
    (success : Bool) (l : List UnansweredCommand) : List UnansweredCommand :=
  if success then
    l ++ [{ typeId := op.typeId, ca := op.ca, ioa := op.ioa, connection := activeConnection,
            actConReceived := false, timeout := now }]
  else l

/-- A reply acts on the oldest command it answers: single, double and step commands are
confirmed by ACT_CON and removed by ACT_TERM, setpoints are removed by ACT_CON. -/
def specReply (kind : ReplyKind) (now : Nat) (cot : Int) (answered : UnansweredCommand → Bool)
    (l : List UnansweredCommand) : List UnansweredCommand :=
  match kind with
  | .none => l
  | .command =>
    if cot = CS101_COT_ACTIVATION_CON then
      Keyed.updateFirst answered (UnansweredCommand.confirm now) l
    else if cot = CS101_COT_ACTIVATION_TERMINATION then l.eraseP answered
    else l
  | .setpoint => if cot = CS101_COT_ACTIVATION_CON then l.eraseP answered else l

/-- Each decoded element of an ASDU is a reply for its address. -/
def specElement (now : Nat) (connection : ConId) (a : ASDU) (l : List UnansweredCommand) :
    Option InformationObject → List UnansweredCommand
  | none => l
  | some io =>
    specReply (replyKind a.typeId) now a.cot
      (UnansweredCommand.answeredBy a.typeId a.ca io.objectAddress connection) l

def specTimeouts (cfg : IEC104ClientConfig) (currentTime : Nat) (l : List UnansweredCommand) :
    List UnansweredCommand :=
  l.filter (! UnansweredCommand.timedOut cfg currentTime ·)

/-! ## Sequences of completed operations -/

/-- The client and the connections it has created. -/
structure CommandSystem where
  client : Client
  cons : ConId → Connection

/-- A completed step, or a change of the active connection and of the connections. -/
inductive CommandInput where
  | send (op : CommandOperation) (now : Nat) (accepted : Bool)
  | handleASDU (connection : ConId) (a : ASDU) (now : Nat)
  | checkOutstandingCommandTimeouts (currentTime : Nat)
  | connections (activeConnection : Option ConId) (cons : ConId → Connection)

/-- A step emits the results of the operations. -/
def commandStep (cfg : IEC104ClientConfig) : Machine CommandSystem CommandInput Bool
  | s, .send op now accepted =>
    let sent := s.client.sendCommand cfg s.cons op now accepted
    ({ s with client := sent.2 }, [sent.1])
  | s, .handleASDU connection a now =>
    ({ s with client := (handleASDU cfg now connection a s.client).2 }, [])
  | s, .checkOutstandingCommandTimeouts currentTime =>
    ({ s with client := s.client.checkOutstandingCommandTimeouts cfg currentTime }, [])
  | s, .connections activeConnection cons =>
    ({ client := { s.client with activeConnection := activeConnection }, cons := cons }, [])

/-- The list the specification computes beside a run. -/
def specStep (cfg : IEC104ClientConfig) (l : List UnansweredCommand) (s : CommandSystem)
    (i : CommandInput) (results : List Bool) : List UnansweredCommand :=
  match i with
  | .send op now _ => specSend op s.client.activeConnection now (true ∈ results) l
  | .handleASDU connection a now => a.elements.foldl (specElement now connection a) l
  | .checkOutstandingCommandTimeouts currentTime => specTimeouts cfg currentTime l
  | .connections _ _ => l

/-- The command without the identity of its object. -/
def OutstandingCommand.unanswered (command : OutstandingCommand) : UnansweredCommand where
  typeId := command.typeId
  ca := command.ca
  ioa := command.ioa
  connection := command.clientCon
  actConReceived := command.actConReceived
  timeout := command.timeout

/-! ## What keeps the list consistent -/

/-- The identity, the type and the address of a command, which no reply changes. -/
def OutstandingCommand.key (command : OutstandingCommand) : Nat × Int × Int × Int :=
  (command.id, command.typeId, command.ca, command.ioa)

/-- Every listed command has an identity of its own, and passes the check of the exchange
configuration that its reply will have to pass. -/
structure Client.Booked (c : Client) : Prop where
  nodup : (c.outstandingCommands.map (·.id)).Nodup
  fresh : ∀ command ∈ c.outstandingCommands, command.id < c.nextCommandId
  listed : ∀ command ∈ c.outstandingCommands,
    (c.exchangeDefinitions.checkExchangeDataLayer command.typeId command.ca command.ioa).isSome

theorem checkExchangeDataLayer_congr {t t' : ExchangeTable}
    (h : ∀ ca ioa, t'.find? ca ioa = t.find? ca ioa) (typeId ca ioa : Int) :
    t'.checkExchangeDataLayer typeId ca ioa = t.checkExchangeDataLayer typeId ca ioa := by
  simp only [ExchangeTable.checkExchangeDataLayer, h]

namespace Client.Booked

variable {c c' : Client}

/-- Editing and removing commands keeps the list consistent. -/
theorem of_sublist (hc : c.Booked)
    (hfind : ∀ ca ioa, c'.exchangeDefinitions.find? ca ioa = c.exchangeDefinitions.find? ca ioa)
    (hnext : c.nextCommandId ≤ c'.nextCommandId)
    (hsub : (c'.outstandingCommands.map OutstandingCommand.key).Sublist
      (c.outstandingCommands.map OutstandingCommand.key)) : c'.Booked := by
  have hmem : ∀ command ∈ c'.outstandingCommands, ∃ old ∈ c.outstandingCommands,
      old.key = command.key := fun command h =>
    List.mem_map.mp (hsub.subset (List.mem_map_of_mem h))
  refine ⟨?_, fun command h => ?_, fun command h => ?_⟩
  · have hids : (c'.outstandingCommands.map (·.id)).Sublist (c.outstandingCommands.map (·.id)) := by
      have := hsub.map Prod.fst
      rwa [List.map_map, List.map_map] at this
    exact hc.nodup.sublist hids
  · obtain ⟨old, hold, hkey⟩ := hmem command h
    have hid : old.id = command.id := congrArg Prod.fst hkey
    exact hid ▸ (hc.fresh old hold).trans_le hnext
  · obtain ⟨old, hold, hkey⟩ := hmem command h
    simp only [OutstandingCommand.key, Prod.mk.injEq] at hkey
    obtain ⟨-, htype, hca, hioa⟩ := hkey
    rw [checkExchangeDataLayer_congr hfind, ← htype, ← hca, ← hioa]
    exact hc.listed old hold

/-- Operations that leave the list alone. -/
theorem congr (hc : c.Booked) (h : c.Frame c')
    (hsame : c'.outstandingCommands = c.outstandingCommands) : c'.Booked :=
  hc.of_sublist h.find? h.nextCommandId.ge (hsame ▸ List.Sublist.refl _)

theorem removeOutstandingCommand (hc : c.Booked) (command : OutstandingCommand) :
    (c.removeOutstandingCommand command).Booked :=
  hc.of_sublist (fun _ _ => rfl) le_rfl (List.filter_sublist.map _)

theorem confirmOutstandingCommand (hc : c.Booked) (now : Nat) (command : OutstandingCommand) :
    (c.confirmOutstandingCommand now command).Booked := by
  refine hc.of_sublist (fun _ _ => rfl) le_rfl ?_
  rw [Client.confirmOutstandingCommand, List.map_map]
  refine (List.map_congr_left fun e _ => ?_) ▸ List.Sublist.refl _
  simp only [Function.comp]
  split_ifs <;> rfl

theorem reply (hc : c.Booked) (kind : ReplyKind) (now : Nat) (cot : Int)
    (oc : Option OutstandingCommand) : (c.reply kind now cot oc).Booked := by
  cases oc with
  | none => cases kind <;> exact hc
  | some command =>
    cases kind with
    | none => exact hc
    | command =>
      simp only [Client.reply, Client.replyToCommand]
      split_ifs
      · exact hc.confirmOutstandingCommand now command
      · exact hc.removeOutstandingCommand command
      · exact hc
    | setpoint =>
      simp only [Client.reply, Client.replyToSetpoint]
      split_ifs
      · exact hc.removeOutstandingCommand command
      · exact hc

end Client.Booked

/-! ## Replies -/

/-- The unanswered commands of a client. -/
def Client.unanswered (c : Client) : List UnansweredCommand :=
  c.outstandingCommands.map OutstandingCommand.unanswered

/-- The commands that the timeout removes are those the specification removes. -/
theorem checkOutstandingCommandTimeouts_unanswered {c : Client} (hc : c.Booked)
    (cfg : IEC104ClientConfig) (currentTime : Nat) :
    (c.checkOutstandingCommandTimeouts cfg currentTime).unanswered =
        specTimeouts cfg currentTime c.unanswered ∧
      (c.checkOutstandingCommandTimeouts cfg currentTime).Booked := by
  -- the code collects the timed out commands first and then erases each by its identity
  have hfold : ∀ (l : List OutstandingCommand) (c : Client),
      l.foldl (fun c command => c.removeOutstandingCommand command) c =
        { c with outstandingCommands :=
            l.foldl (fun l command => l.filter (·.id ≠ command.id)) c.outstandingCommands } := by
    intro l
    induction l with
    | nil => exact fun _ => rfl
    | cons command l ih => exact fun c => ih _
  have hlist : (c.checkOutstandingCommandTimeouts cfg currentTime).outstandingCommands =
      c.outstandingCommands.filter (! Client.timedOut cfg currentTime ·) := by
    rw [Client.checkOutstandingCommandTimeouts, hfold]
    exact Keyed.foldl_filter_key hc.nodup _
  constructor
  · rw [Client.unanswered, hlist, specTimeouts, Client.unanswered, List.filter_map]
    rfl
  · rw [Client.checkOutstandingCommandTimeouts, hfold] at hlist ⊢
    refine hc.of_sublist (fun _ _ => rfl) le_rfl ?_
    rw [hlist]
    exact List.filter_sublist.map _

/-- A reply that answers no command changes nothing. -/
theorem specReply_of_forall_not {answered : UnansweredCommand → Bool}
    {l : List UnansweredCommand} (h : ∀ u ∈ l, ¬ answered u) (kind : ReplyKind) (now : Nat)
    (cot : Int) : specReply kind now cot answered l = l := by
  cases kind with
  | none => rfl
  | command =>
    rw [specReply, Keyed.updateFirst_of_forall_not h, List.eraseP_of_forall_not h, ite_self,
      ite_self]
  | setpoint => rw [specReply, List.eraseP_of_forall_not h, ite_self]

section

variable {c : Client} {command : OutstandingCommand} {typeId ca ioa : Int} {connection : ConId}

/-- Removing a command by its identity takes out the first one that the reply answers. -/
theorem removeOutstandingCommand_unanswered (hc : c.Booked)
    (hfound : c.checkForOutstandingCommand typeId ca ioa connection = some command) :
    (c.removeOutstandingCommand command).unanswered =
      c.unanswered.eraseP (UnansweredCommand.answeredBy typeId ca ioa connection) := by
  rw [Client.unanswered, Client.removeOutstandingCommand, Keyed.filter_key_ne hc.nodup hfound]
  exact Keyed.map_eraseP (g := OutstandingCommand.unanswered)
    (q := UnansweredCommand.answeredBy typeId ca ioa connection) (fun _ => rfl) _

/-- Confirming a command by its identity confirms the first one that the reply answers. -/
theorem confirmOutstandingCommand_unanswered (hc : c.Booked) (now : Nat)
    (hfound : c.checkForOutstandingCommand typeId ca ioa connection = some command) :
    (c.confirmOutstandingCommand now command).unanswered =
      Keyed.updateFirst (UnansweredCommand.answeredBy typeId ca ioa connection)
        (UnansweredCommand.confirm now) c.unanswered := by
  rw [Client.unanswered, Client.confirmOutstandingCommand,
    Keyed.map_key_eq hc.nodup hfound fun e => { e with actConReceived := true, timeout := now }]
  exact Keyed.map_updateFirst (g := OutstandingCommand.unanswered)
    (q := UnansweredCommand.answeredBy typeId ca ioa connection) (fun _ => rfl) (fun _ => rfl) _

end

/-- A reply edits by identity the command that the specification edits in place. -/
theorem reply_unanswered {c : Client} (hc : c.Booked) (kind : ReplyKind) (now : Nat)
    (cot typeId ca ioa : Int) (connection : ConId) :
    (c.reply kind now cot (c.checkForOutstandingCommand typeId ca ioa connection)).unanswered =
      specReply kind now cot (UnansweredCommand.answeredBy typeId ca ioa connection)
        c.unanswered := by
  cases hfound : c.checkForOutstandingCommand typeId ca ioa connection with
  | none =>
    have hnone : ∀ u ∈ c.unanswered,
        ¬ UnansweredCommand.answeredBy typeId ca ioa connection u := by
      intro u hu
      obtain ⟨command, hcommand, rfl⟩ := List.mem_map.mp hu
      exact List.find?_eq_none.mp hfound command hcommand
    rw [specReply_of_forall_not hnone]
    cases kind <;> rfl
  | some command =>
    cases kind with
    | none => rfl
    | command =>
      simp only [Client.reply, Client.replyToCommand, specReply]
      split_ifs
      · exact confirmOutstandingCommand_unanswered hc now hfound
      · exact removeOutstandingCommand_unanswered hc hfound
      · rfl
    | setpoint =>
      simp only [Client.reply, Client.replyToSetpoint, specReply]
      split_ifs
      · exact removeOutstandingCommand_unanswered hc hfound
      · rfl

/-! ## Received ASDUs -/

/-- A type with command replies has a handler and is looked up. -/
theorem replyKind_supported {typeId : Int} (h : replyKind typeId ≠ .none) :
    (asduHandler typeId).isSome ∧ Client.isSupportedCommand typeId := by
  unfold replyKind at h
  split at h <;> first | exact ⟨rfl, rfl⟩ | exact absurd rfl h

@[simp] theorem receivedInGi_outstandingCommands (a : ASDU) (ioa : Int) (c : Client) :
    (receivedInGi a ioa c).outstandingCommands = c.outstandingCommands := by
  unfold receivedInGi
  split_ifs
  · split
    · split_ifs <;> rfl
    · rfl
  · rfl

@[simp] theorem requestGi_outstandingCommands (c : Client) :
    (requestGi c).outstandingCommands = c.outstandingCommands := by
  unfold requestGi
  split <;> rfl

/-- What the switch and the trigger do to the list is the reply of the type. -/
theorem handleLabelled_outstandingCommands (cfg : IEC104ClientConfig) (now : Nat) (a : ASDU)
    (io : InformationObject) (label : String) (oc : Option OutstandingCommand) (r : AsduRun) :
    (handleLabelled cfg now a io label oc r).client.outstandingCommands =
      (r.client.reply (replyKind a.typeId) now a.cot oc).outstandingCommands := by
  unfold handleLabelled
  split
  · next htype =>
    have hkind : replyKind a.typeId = .none := by
      by_contra hkind
      have hsome := (replyKind_supported hkind).1
      rw [htype] at hsome
      cases hsome
    rw [hkind]
    rfl
  · next handler htype =>
    dsimp only
    split_ifs
    · rw [requestGi_outstandingCommands, asduHandler_client htype]
    · rw [asduHandler_client htype]
    · rw [asduHandler_client htype]

/-- An address that fails the check of the exchange data has no listed command. -/
theorem Client.Booked.not_answeredBy {c : Client} (hc : c.Booked) {typeId ca ioa : Int}
    {connection : ConId}
    (hunknown : c.exchangeDefinitions.checkExchangeDataLayer typeId ca ioa = none) :
    ∀ u ∈ c.unanswered, ¬ UnansweredCommand.answeredBy typeId ca ioa connection u := by
  intro u hu hanswered
  obtain ⟨command, hcommand, rfl⟩ := List.mem_map.mp hu
  simp only [UnansweredCommand.answeredBy, OutstandingCommand.unanswered, Bool.and_eq_true,
    beq_iff_eq] at hanswered
  obtain ⟨⟨⟨htype, hca⟩, hioa⟩, -⟩ := hanswered
  have hlisted := hc.listed command hcommand
  rw [htype, hca, hioa, hunknown] at hlisted
  cases hlisted

theorem handleElement_unanswered (cfg : IEC104ClientConfig) (now : Nat) (connection : ConId)
    (a : ASDU) (e : Option InformationObject) {r : AsduRun} (hr : r.client.Booked) :
    (handleElement cfg now connection a r e).client.unanswered =
        specElement now connection a r.client.unanswered e ∧
      (handleElement cfg now connection a r e).client.Booked := by
  cases e with
  | none => exact ⟨rfl, hr⟩
  | some io =>
    have htouch : (r.client.touch a.ca io.objectAddress).Booked :=
      hr.congr (.touch _ _ _) rfl
    simp only [handleElement, handleFound, specElement]
    split
    · next hlabel =>
      exact ⟨(specReply_of_forall_not (hr.not_answeredBy hlabel) ..).symm, htouch⟩
    · next label hlabel =>
      set c := receivedInGi a io.objectAddress (r.client.touch a.ca io.objectAddress)
      set oc := outstandingCommandFor connection a io.objectAddress
        (r.client.touch a.ca io.objectAddress)
      have hc : c.Booked := htouch.congr (.receivedInGi a io.objectAddress _)
        (receivedInGi_outstandingCommands ..)
      have hsame : c.outstandingCommands = r.client.outstandingCommands :=
        receivedInGi_outstandingCommands ..
      have hlist := handleLabelled_outstandingCommands cfg now a io label oc { r with client := c }
      constructor
      · rw [Client.unanswered, hlist]
        -- only a type with command replies is looked up in the list
        by_cases hkind : replyKind a.typeId = .none
        · rw [hkind]
          exact congrArg (List.map _) hsame
        · have hfound : oc = c.checkForOutstandingCommand a.typeId a.ca io.objectAddress
              connection := by
            simp only [oc, outstandingCommandFor, (replyKind_supported hkind).2, if_true]
            rw [Client.checkForOutstandingCommand, Client.checkForOutstandingCommand, hsame]
            rfl
          rw [hfound]
          refine (reply_unanswered hc ..).trans ?_
          rw [Client.unanswered, hsame]
          rfl
      · have hframe := Client.Frame.handleLabelled cfg now a io label oc { r with client := c }
        have hreply := Client.Frame.reply (replyKind a.typeId) now a.cot oc c
        refine (hc.reply (replyKind a.typeId) now a.cot oc).of_sublist
          (fun ca ioa => (hframe.find? ca ioa).trans (hreply.find? ca ioa).symm)
          (hreply.nextCommandId.trans hframe.nextCommandId.symm).le ?_
        rw [hlist]

theorem handleASDU_unanswered (cfg : IEC104ClientConfig) (now : Nat) (connection : ConId)
    (a : ASDU) {c : Client} (hc : c.Booked) :
    (handleASDU cfg now connection a c).2.unanswered =
        a.elements.foldl (specElement now connection a) c.unanswered ∧
      (handleASDU cfg now connection a c).2.Booked := by
  -- the specification reads the list an element leaves behind, as the loop does
  have hloop : ∀ (elements : List (Option InformationObject)) (r : AsduRun), r.client.Booked →
      (elements.foldl (handleElement cfg now connection a) r).client.unanswered =
          elements.foldl (specElement now connection a) r.client.unanswered ∧
        (elements.foldl (handleElement cfg now connection a) r).client.Booked := by
    intro elements
    induction elements with
    | nil => exact fun r hr => ⟨rfl, hr⟩
    | cons e elements ih =>
      intro r hr
      obtain ⟨helement, hbooked⟩ := handleElement_unanswered cfg now connection a e hr
      rw [List.foldl_cons, List.foldl_cons, ← helement]
      exact ih _ hbooked
  have henter : (enterASDU cfg a c).Booked :=
    hc.of_sublist (fun _ _ => rfl) le_rfl (List.Sublist.refl _)
  obtain ⟨hlist, hbooked⟩ := hloop a.elements { client := enterASDU cfg a c } henter
  rw [handleASDU_eq]
  exact ⟨hlist, hbooked.of_sublist (fun _ _ => rfl) le_rfl (List.Sublist.refl _)⟩

/-! ## Sending -/

/-- The two types of a command are of one kind. -/
theorem CommandOperation.informationKind_typeId (op : CommandOperation) :
    informationKind op.typeIdNoTimestamp = informationKind op.typeId := by
  unfold typeId
  split_ifs
  · cases op <;> rfl
  · rfl

theorem CommandOperation.typeIdNoTimestamp_ne (op : CommandOperation) :
    op.typeIdNoTimestamp ≠ C_SE_TC_1 := by
  cases op <;> exact of_decide_eq_true rfl

/-- An address that admits a command without time tag admits it with one. -/
theorem checkExchangeDataLayer_typeId {t : ExchangeTable} {op : CommandOperation}
    (h : (t.checkExchangeDataLayer op.typeIdNoTimestamp op.ca op.ioa).isSome) :
    (t.checkExchangeDataLayer op.typeId op.ca op.ioa).isSome := by
  obtain ⟨_, hfind, hkind⟩ := (ExchangeTable.accepts_iff op.typeIdNoTimestamp_ne).mp h
  exact ExchangeTable.accepts_of_kind hfind (hkind.trans op.informationKind_typeId)

/-- The command that a booking appends. -/
def bookedCommand (op : CommandOperation) (now : Nat) (c : Client) : OutstandingCommand where
  id := c.nextCommandId
  typeId := op.typeId
  ca := op.ca
  ioa := op.ioa
  clientCon := c.activeConnection
  timeout := now

/-- The client with a booking appended. -/
def Client.withBooked (op : CommandOperation) (now : Nat) (c : Client) : Client :=
  { c with
    outstandingCommands := c.outstandingCommands ++ [bookedCommand op now c]
    nextCommandId := c.nextCommandId + 1 }

/-- The limit of parallel commands is reached. -/
def Client.limitReached (cfg : IEC104ClientConfig) (c : Client) : Prop :=
  0 < cfg.cmdParallel ∧ cfg.cmdParallel ≤ c.outstandingCommands.length

instance (cfg : IEC104ClientConfig) (c : Client) : Decidable (c.limitReached cfg) :=
  inferInstanceAs (Decidable (_ ∧ _))

/-- A booking appends its command, or the limit is reached and nothing changes. -/
theorem bookCommand_eq (cfg : IEC104ClientConfig) (op : CommandOperation) (now : Nat)
    (c : Client) :
    c.bookCommand cfg op now =
      if c.limitReached cfg then (none, c)
      else (some (bookedCommand op now c), c.withBooked op now) := rfl

/-- The operation as a case distinction on the check, the limit and the transmission. -/
theorem sendCommand_eq (cfg : IEC104ClientConfig) (cons : ConId → Connection)
    (op : CommandOperation) (now : Nat) (accepted : Bool) (c : Client) :
    c.sendCommand cfg cons op now accepted =
      if (c.checkCommand op).1 then
        if (c.touch op.ca op.ioa).limitReached cfg then (false, c.touch op.ca op.ioa)
        else
          let sent := ((c.touch op.ca op.ioa).withBooked op now).transmitCommand cons op accepted
          (sent.1, if sent.1 then sent.2
            else sent.2.removeOutstandingCommand (bookedCommand op now (c.touch op.ca op.ioa)))
      else (false, c.touch op.ca op.ioa) := by
  simp only [Client.sendCommand]
  by_cases hlisted : (c.checkCommand op).1
  · rw [if_neg (by rw [hlisted]; exact Bool.false_ne_true), if_pos hlisted, bookCommand_eq]
    by_cases hlimit : (c.touch op.ca op.ioa).limitReached cfg
    · rw [if_pos hlimit, if_pos (show (c.checkCommand op).2.limitReached cfg from hlimit)]
      rfl
    · rw [if_neg hlimit, if_neg (show ¬ (c.checkCommand op).2.limitReached cfg from hlimit)]
      dsimp only [Client.checkCommand]
      split_ifs with hsent
      · exact Prod.ext rfl rfl
      · exact Prod.ext (Bool.eq_false_iff.mpr hsent).symm rfl
  · rw [if_pos (by rw [Bool.eq_false_iff.mpr hlisted]; rfl), if_neg hlisted]
    rfl

theorem Client.Booked.withBooked {c : Client} (hc : c.Booked) {op : CommandOperation}
    (hlisted : (c.exchangeDefinitions.checkExchangeDataLayer op.typeIdNoTimestamp op.ca
      op.ioa).isSome) (now : Nat) : (c.withBooked op now).Booked := by
  refine ⟨?_, fun command h => ?_, fun command h => ?_⟩
  · rw [Client.withBooked, List.map_append, List.nodup_append]
    refine ⟨hc.nodup, List.nodup_singleton _, ?_⟩
    rintro id hid _ hlast rfl
    obtain ⟨command, hcommand, rfl⟩ := List.mem_map.mp hid
    exact (hc.fresh command hcommand).ne (List.mem_singleton.mp hlast)
  · rcases List.mem_append.mp h with hold | hnew
    · exact (hc.fresh command hold).trans (Nat.lt_succ_self _)
    · rw [List.mem_singleton.mp hnew]
      exact Nat.lt_succ_self _
  · rcases List.mem_append.mp h with hold | hnew
    · exact hc.listed command hold
    · rw [List.mem_singleton.mp hnew]
      exact checkExchangeDataLayer_typeId hlisted

/-- Removing the command a booking appended restores the list. -/
theorem filter_bookedCommand {c : Client} (hc : c.Booked) (op : CommandOperation) (now : Nat) :
    (c.outstandingCommands ++ [bookedCommand op now c]).filter
      (·.id ≠ (bookedCommand op now c).id) = c.outstandingCommands := by
  rw [List.filter_append, List.filter_eq_self.mpr, List.filter_cons_of_neg (by simp)]
  · simp
  · exact fun command h => decide_eq_true (hc.fresh command h).ne

theorem transmitCommand_eq (cons : ConId → Connection) (op : CommandOperation) (accepted : Bool)
    (c : Client) : ∃ out, (c.transmitCommand cons op accepted).2 = { c with out := out } := by
  unfold Client.transmitCommand
  split
  · exact ⟨_, rfl⟩
  · exact ⟨c.out, rfl⟩

theorem sendCommand_unanswered (cfg : IEC104ClientConfig) (cons : ConId → Connection)
    (op : CommandOperation) (now : Nat) (accepted : Bool) {c : Client} (hc : c.Booked) :
    (c.sendCommand cfg cons op now accepted).2.unanswered =
        specSend op c.activeConnection now (c.sendCommand cfg cons op now accepted).1
          c.unanswered ∧
      (c.sendCommand cfg cons op now accepted).2.Booked := by
  have htouch : (c.touch op.ca op.ioa).Booked := hc.congr (.touch _ _ _) rfl
  rw [sendCommand_eq]
  split_ifs with hlisted hlimit
  · exact ⟨rfl, htouch⟩
  · have hbooked : ((c.touch op.ca op.ioa).withBooked op now).Booked :=
      htouch.withBooked ((c.exchangeDefinitions.checkExchangeDataLayer_touch ..).symm ▸ hlisted) now
    obtain ⟨out, hout⟩ := transmitCommand_eq cons op accepted
      ((c.touch op.ca op.ioa).withBooked op now)
    have hkept : (((c.touch op.ca op.ioa).withBooked op now).transmitCommand cons op
        accepted).2.Booked := by
      rw [hout]
      exact hbooked.of_sublist (fun _ _ => rfl) le_rfl (List.Sublist.refl _)
    dsimp only
    split_ifs with hsent
    -- sent, the command stays at the end of the list; failed, it is erased from there
    · refine ⟨?_, hkept⟩
      rw [hsent, hout]
      exact List.map_append
    · refine ⟨?_, hkept.removeOutstandingCommand _⟩
      rw [Bool.eq_false_iff.mpr hsent, hout, Client.unanswered, Client.removeOutstandingCommand]
      exact congrArg (List.map _) (filter_bookedCommand htouch op now)
  · exact ⟨rfl, htouch⟩

/-! ## Runs -/

/-- A step does to the list of outstanding commands what the specification does. -/
theorem commandStep_unanswered (cfg : IEC104ClientConfig) {s : CommandSystem}
    (hbooked : s.client.Booked) (i : CommandInput) :
    (commandStep cfg s i).1.client.unanswered =
        specStep cfg s.client.unanswered s i (commandStep cfg s i).2 ∧
      (commandStep cfg s i).1.client.Booked := by
  cases i with
  | send op now accepted =>
    obtain ⟨hlist, hnext⟩ := sendCommand_unanswered cfg s.cons op now accepted hbooked
    have hresult (success : Bool) : success = decide (true ∈ [success]) := by
      cases success <;> rfl
    exact ⟨hlist.trans (congrArg (specSend op _ now · _) (hresult _)), hnext⟩
  | handleASDU connection a now => exact handleASDU_unanswered cfg now connection a hbooked
  | checkOutstandingCommandTimeouts currentTime =>
    exact checkOutstandingCommandTimeouts_unanswered hbooked cfg currentTime
  | connections activeConnection cons =>
    exact ⟨rfl, hbooked.of_sublist (fun _ _ => rfl) le_rfl (List.Sublist.refl _)⟩

/-- The list of a fresh client is consistent. -/
theorem Client.Booked.empty (t : ExchangeTable) : Client.Booked { exchangeDefinitions := t } :=
  ⟨List.nodup_nil, fun _ h => absurd h List.not_mem_nil, fun _ h => absurd h List.not_mem_nil⟩

/-- For every exchange table and every run of completed operations, with any number of
connections, the list of outstanding commands is the list of unanswered commands. -/
theorem outstandingCommands_refine (cfg : IEC104ClientConfig) (t : ExchangeTable)
    (cons : ConId → Connection) (is : List CommandInput) :
    Always (watch (commandStep cfg) (specStep cfg)) (fun s => s.1.client.unanswered = s.2)
      ({ client := { exchangeDefinitions := t }, cons := cons }, []) is := by
  refine always_of_invariant (I := fun (s : CommandSystem × List UnansweredCommand) =>
    s.1.client.Booked ∧ s.1.client.unanswered = s.2) ?_ (fun s hs => hs.2)
    ⟨.empty t, rfl⟩
  rintro ⟨s, l⟩ i ⟨hbooked, hrefines⟩
  obtain rfl : s.client.unanswered = l := hrefines
  obtain ⟨hlist, hnext⟩ := commandStep_unanswered cfg hbooked i
  exact ⟨hnext, hlist⟩

end Iec104South
