import Iec104South.Lib.Lockset
import Iec104South.Protocol

/-!
# The mutex of the outstanding commands

`m_outstandingCommands` is used by north operations, by the receive threads of the connections
and by the monitoring thread. `m_outstandingCommandsMtx` is declared to protect it; but the
booking of a command, and the test at the end of the monitoring thread, hold
`m_activeConnectionMtx` instead.

A function is the list of what it does with the two mutexes and with the list. What it decides
on the way is a parameter, so the runs have the threads in every order and with every decision.
-/

namespace Iec104South

open Reactive Lockset

inductive Mutex where
  | activeConnectionMtx
  | outstandingCommandsMtx
deriving DecidableEq, Repr

/-- The sections that read or modify `m_outstandingCommands`. -/
inductive ListSection where
  | checkForOutstandingCommand
  | checkOutstandingCommandTimeouts
  | removeOutstandingCommand
  | addOutstandingCommandAndCheckLimit
  /-- `m_outstandingCommands.empty()` at the end of `_monitoringThread` -/
  | monitoringThreadEmpty
  /-- `m_outstandingCommands.clear()`, after it -/
  | monitoringThreadClear
deriving DecidableEq, Repr

/-- Any number of north threads, a receive thread for each connection, the monitoring thread. -/
inductive Thread where
  | north (n : Nat)
  | receive (con : ConId)
  | monitoring
deriving DecidableEq, Repr

namespace OutstandingCommands

/-! ## The functions -/

/-- What the functions are made of: a scope of `std::lock_guard`. -/
def lockGuard (m : Mutex) (body : List (Action Mutex ListSection)) :
    List (Action Mutex ListSection) :=
  .lock m :: body ++ [.unlock m]

def within (a : ListSection) : List (Action Mutex ListSection) := [.enter a, .leave]

def checkForOutstandingCommand : List (Action Mutex ListSection) :=
  lockGuard .outstandingCommandsMtx (within .checkForOutstandingCommand)

def checkOutstandingCommandTimeouts : List (Action Mutex ListSection) :=
  lockGuard .outstandingCommandsMtx (within .checkOutstandingCommandTimeouts)

def removeOutstandingCommand : List (Action Mutex ListSection) :=
  lockGuard .outstandingCommandsMtx (within .removeOutstandingCommand)

def addOutstandingCommandAndCheckLimit : List (Action Mutex ListSection) :=
  lockGuard .activeConnectionMtx (within .addOutstandingCommandAndCheckLimit)

/-- Where a command operation ends. -/
inductive CommandOutcome where
  | notListed
  | limitReached
  | sent
  | failed
deriving DecidableEq, Repr

/-- The six command operations. -/
def sendCommand : CommandOutcome → List (Action Mutex ListSection)
  | .notListed => []
  | .limitReached => addOutstandingCommandAndCheckLimit
  | .sent => addOutstandingCommandAndCheckLimit ++ lockGuard .activeConnectionMtx []
  | .failed =>
    addOutstandingCommandAndCheckLimit ++ lockGuard .activeConnectionMtx removeOutstandingCommand

/-- `sendInterrogationCommand` -/
def sendInterrogationCommand : List (Action Mutex ListSection) := lockGuard .activeConnectionMtx []

/-- What an element of a received ASDU leads to. -/
inductive ElementOutcome where
  /-- not decoded, or not of a command type -/
  | noLookup
  /-- the lookup, and with `removes` the removal of the command it found -/
  | lookup (removes : Bool)
deriving DecidableEq, Repr

def handleElement : ElementOutcome → List (Action Mutex ListSection)
  | .noLookup => []
  | .lookup false => checkForOutstandingCommand
  | .lookup true => checkForOutstandingCommand ++ removeOutstandingCommand

def handleASDU (elements : List ElementOutcome) : List (Action Mutex ListSection) :=
  elements.flatMap handleElement

/-- A round of the loop of `_monitoringThread`. -/
def monitoringRound : List (Action Mutex ListSection) :=
  lockGuard .activeConnectionMtx [] ++ checkOutstandingCommandTimeouts

/-- What follows the loop of `_monitoringThread`. -/
def monitoringEnd (isEmpty : Bool) : List (Action Mutex ListSection) :=
  lockGuard .activeConnectionMtx (within .monitoringThreadEmpty ++
    if isEmpty then []
    else lockGuard .outstandingCommandsMtx (within .monitoringThreadClear))

/-- What a north thread calls. -/
inductive NorthCall where
  | sendCommand (outcome : CommandOutcome)
  | sendInterrogationCommand
deriving DecidableEq, Repr

/-- What the monitoring thread does next. -/
inductive MonitoringCall where
  | round
  | finish (isEmpty : Bool)
deriving DecidableEq, Repr

/-- What a thread calls. -/
def Call : Thread → Type
  | .north _ => NorthCall
  | .receive _ => List ElementOutcome
  | .monitoring => MonitoringCall

def program : ∀ t, Call t → List (Action Mutex ListSection)
  | .north _, .sendCommand outcome => sendCommand outcome
  | .north _, .sendInterrogationCommand => sendInterrogationCommand
  | .receive _, elements => handleASDU elements
  | .monitoring, .round => monitoringRound
  | .monitoring, .finish isEmpty => monitoringEnd isEmpty

/-! ## Which sections are protected -/

/-- The sections that hold the mutex of the list. -/
def IsGuarded (a : ListSection) : Prop :=
  a ≠ .addOutstandingCommandAndCheckLimit ∧ a ≠ .monitoringThreadEmpty

instance : DecidablePred IsGuarded := fun _ => inferInstanceAs (Decidable (_ ∧ _))

/-- A program on its own. -/
abbrev Obedient (p : List (Action Mutex ListSection)) : Prop :=
  Respects .outstandingCommandsMtx IsGuarded false none p

theorem obedient_sendCommand (outcome : CommandOutcome) : Obedient (sendCommand outcome) := by
  cases outcome <;> decide

theorem obedient_handleElement (e : ElementOutcome) : Obedient (handleElement e) := by
  cases e with
  | noLookup => decide
  | lookup removes => cases removes <;> decide

/-- Every program locks and unlocks the mutex in turn, and holds it in all sections but the
booking and the test at the end of the monitoring thread. -/
theorem obedient_program (t : Thread) (k : Call t) : Obedient (program t k) := by
  cases t with
  | north n =>
    cases k with
    | sendCommand outcome => exact obedient_sendCommand outcome
    | sendInterrogationCommand => exact of_decide_eq_true rfl
  | receive con => exact .flatMap obedient_handleElement k
  | monitoring =>
    cases k with
    | round => decide
    | finish isEmpty => cases isEmpty <;> decide

/-- For every interleaving: the threads in the list own its mutex, and exclude each other, as long
as no thread books a command and the monitoring thread does not come to its end; either of these
steps breaks it. -/
theorem listMutex_protects_iff (is : List (Lockset.Input Thread Call)) :
    Always (Lockset.step program) (fun s => s.Protected .outstandingCommandsMtx ∧ s.Exclusive)
        .idle is ↔
      Along (Lockset.step program)
        (fun s i => s.enters i ≠ some .addOutstandingCommandAndCheckLimit ∧
          s.enters i ≠ some .monitoringThreadEmpty) .idle is := by
  calc Always (Lockset.step program) (fun s => s.Protected .outstandingCommandsMtx ∧ s.Exclusive)
        .idle is
      ↔ Always (Lockset.step program) (·.Protected .outstandingCommandsMtx) .idle is :=
        always_congr_of_invariant (I := fun _ => True) (fun _ _ _ => trivial)
          (fun _ _ => and_iff_left_of_imp exclusive_of_protected) trivial
    _ ↔ Along (Lockset.step program) (fun s i => ∀ a, s.enters i = some a → IsGuarded a)
        .idle is :=
        always_protected_iff obedient_program is
    _ ↔ _ := by
      refine along_congr fun s i => ?_
      constructor
      · exact fun h => ⟨fun ha => (h _ ha).1 rfl, fun ha => (h _ ha).2 rfl⟩
      · rintro ⟨hadd, hempty⟩ a ha
        exact ⟨fun heq => hadd (heq ▸ ha), fun heq => hempty (heq ▸ ha)⟩

/-- A command is booked while a reply is looked up. -/
def bookingDuringLookup : List (Lockset.Input Thread Call) :=
  [.call (.receive 0) [ElementOutcome.lookup false], .advance (.receive 0), .advance (.receive 0),
    .call (.north 0) (NorthCall.sendCommand .sent), .advance (.north 0), .advance (.north 0)]

/-- The booking does not own the mutex, and meets the lookup in the list. -/
theorem booking_meets_lookup :
    ¬(run (Lockset.step program) .idle bookingDuringLookup).Protected .outstandingCommandsMtx ∧
      ¬(run (Lockset.step program) .idle bookingDuringLookup).Exclusive := by
  have hnorth : (run (Lockset.step program) .idle bookingDuringLookup).inside (.north 0) =
      some .addOutstandingCommandAndCheckLimit := by decide
  have hreceive : (run (Lockset.step program) .idle bookingDuringLookup).inside (.receive 0) =
      some .checkForOutstandingCommand := by decide
  have hexclusive : ¬(run (Lockset.step program) .idle bookingDuringLookup).Exclusive := fun h =>
    Thread.noConfusion (h _ _ _ _ hnorth hreceive)
  exact ⟨fun h => hexclusive (exclusive_of_protected h), hexclusive⟩

end OutstandingCommands

end Iec104South
