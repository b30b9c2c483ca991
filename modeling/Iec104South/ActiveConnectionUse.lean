import Iec104South.Lib.SharedPointer
import Iec104South.OutstandingMutex

/-!
# The uses of the active connection

`m_activeConnection` is set and cleared by the monitoring thread, and dereferenced by the
operations and by the threads of lib60870 that receive ASDUs. `m_activeConnectionMtx` protects it;
but the triggering of a GI, for `isAsduTriggerGi` and for `scheduleGI`, looks at the pointer and
dereferences it without the mutex.

`activeConnection_uses_valid`: in no interleaving does the monitoring thread, or a thread that owns
the mutex, come to dereference null; another thread comes to it if and only if the monitoring
thread clears the pointer after that thread has looked at it.

A function is what it does with the mutex and the pointer; copies and comparisons of the pointer
are left out. What else it decides on is a parameter.
-/

namespace Iec104South

open Reactive
open SharedPointer (Program Checks)
open OutstandingCommands (CommandOutcome)

namespace ActiveConnectionUse

/-! ## The functions -/

/-- `if (m_activeConnection != nullptr)`, and a call of one of its methods. -/
def useIfActive (next : Program ConId) : Program ConId :=
  .read fun con => if con.isSome then .use next else next

/-- `sendInterrogationCommand` -/
def sendInterrogationCommand : Program ConId := .lock (useIfActive (.unlock .done))

/-- The six command operations. -/
def sendCommand : CommandOutcome → Program ConId
  | .notListed => .done
  | .limitReached => .lock (.unlock .done)
  | .sent | .failed => .lock (.unlock (.lock (useIfActive (.unlock .done))))

/-- `scheduleGI`, of the operation `north_status` -/
def scheduleGI : Program ConId := useIfActive .done

/-- `isAsduTriggerGi`: the attributes of the data object that carry the triggering value, each
with what `getGiRequested` returns. -/
def isAsduTriggerGi : List Bool → (Bool → Program ConId) → Program ConId
  | [], next => next false
  | giRequested :: values, next =>
    .read fun con =>
      if con.isSome then .use (if giRequested then isAsduTriggerGi values next else next true)
      else next false

/-- An element of an ASDU, with the attributes that `isAsduTriggerGi` comes to. -/
def handleElement (values : List Bool) (next : Program ConId) : Program ConId :=
  isAsduTriggerGi values fun triggers => if triggers then .use next else next

def handleASDU (elements : List (List Bool)) : Program ConId := elements.foldr handleElement .done

/-- A round of the loop of `_monitoringThread`: the open connection that it activates if there is
no active one, and whether the active one is still connected. -/
def monitoringRound (opened : Option ConId) (connected : Bool) : Program ConId :=
  .lock <| .read fun con =>
    if con.isSome then
      .use (if connected then .unlock .done else .write none (.unlock .done))
    else
      match opened with
      | some clientConnection => .write (some clientConnection) (.unlock .done)
      | none => .unlock .done

/-- What follows the loop of `_monitoringThread`. -/
def monitoringEnd : Program ConId := .lock (.write none (.unlock .done))

/-- What a north thread calls. -/
inductive NorthCall where
  | sendCommand (outcome : CommandOutcome)
  | sendInterrogationCommand
  | scheduleGI
deriving DecidableEq, Repr

/-- What the monitoring thread does next. -/
inductive MonitoringCall where
  | round (opened : Option ConId) (connected : Bool)
  | finish
deriving DecidableEq, Repr

/-- What a thread calls. -/
def Call : Thread → Type
  | .north _ => NorthCall
  | .receive _ => List (List Bool)
  | .monitoring => MonitoringCall

def program : ∀ t, Call t → Program ConId
  | .north _, .sendCommand outcome => sendCommand outcome
  | .north _, .sendInterrogationCommand => sendInterrogationCommand
  | .north _, .scheduleGI => scheduleGI
  | .receive _, elements => handleASDU elements
  | .monitoring, .round opened connected => monitoringRound opened connected
  | .monitoring, .finish => monitoringEnd

/-! ## Every use is checked -/

theorem checks_useIfActive {holds found : Bool} {next : Program ConId}
    (h : ∀ found, Checks holds found next) : Checks holds found (useIfActive next) := by
  intro con
  cases con with
  | none => exact h false
  | some con => exact ⟨rfl, h true⟩

theorem checks_isAsduTriggerGi {values : List Bool} {next : Bool → Program ConId}
    (hfalse : ∀ found, Checks false found (next false)) (htrue : Checks false true (next true))
    {found : Bool} : Checks false found (isAsduTriggerGi values next) := by
  induction values generalizing found with
  | nil => exact hfalse found
  | cons giRequested values ih =>
    intro con
    cases con with
    | none => exact hfalse false
    | some con =>
      refine ⟨rfl, ?_⟩
      cases giRequested with
      | true => exact ih
      | false => exact htrue

theorem checks_handleASDU (elements : List (List Bool)) (found : Bool) :
    Checks false found (handleASDU elements) := by
  induction elements generalizing found with
  | nil => rfl
  | cons values elements ih =>
    refine checks_isAsduTriggerGi ih ?_
    exact ⟨rfl, ih true⟩

theorem checks_monitoringRound (opened : Option ConId) (connected : Bool) :
    Checks false false (monitoringRound opened connected) := by
  refine ⟨rfl, fun con => ?_⟩
  cases con with
  | none =>
    cases opened with
    | none => exact ⟨rfl, rfl⟩
    | some clientConnection => exact ⟨rfl, rfl, rfl⟩
  | some con =>
    refine ⟨rfl, ?_⟩
    cases connected with
    | true => exact ⟨rfl, rfl⟩
    | false => exact ⟨rfl, rfl, rfl⟩

/-- Every function looks at the pointer before it dereferences it, and sets it under the
mutex. -/
theorem checks_program (t : Thread) (k : Call t) : Checks false false (program t k) := by
  cases t with
  | north n =>
    cases k with
    | sendCommand outcome =>
      cases outcome with
      | notListed => rfl
      | limitReached => exact ⟨rfl, rfl, rfl⟩
      | sent | failed => exact ⟨rfl, rfl, rfl, checks_useIfActive fun _ => ⟨rfl, rfl⟩⟩
    | sendInterrogationCommand => exact ⟨rfl, checks_useIfActive fun _ => ⟨rfl, rfl⟩⟩
    | scheduleGI => exact checks_useIfActive fun _ => rfl
  | receive con => exact checks_handleASDU k false
  | monitoring =>
    cases k with
    | round opened connected => exact checks_monitoringRound opened connected
    | finish => exact ⟨rfl, rfl, rfl, rfl⟩

/-! ## Who clears the pointer -/

theorem keeps_useIfActive {next : Program ConId} (h : next.Keeps) : (useIfActive next).Keeps := by
  intro con
  cases con with
  | none => exact h
  | some con => exact h

theorem keeps_isAsduTriggerGi {values : List Bool} {next : Bool → Program ConId}
    (h : ∀ triggers, (next triggers).Keeps) : (isAsduTriggerGi values next).Keeps := by
  induction values with
  | nil => exact h false
  | cons giRequested values ih =>
    intro con
    cases con with
    | none => exact h false
    | some con =>
      cases giRequested with
      | true => exact ih
      | false => exact h true

theorem keeps_handleASDU (elements : List (List Bool)) : (handleASDU elements).Keeps := by
  induction elements with
  | nil => trivial
  | cons values elements ih =>
    refine keeps_isAsduTriggerGi fun triggers => ?_
    cases triggers with
    | false => exact ih
    | true => exact ih

/-- Only the monitoring thread clears `m_activeConnection`. -/
theorem keeps_program (t : Thread) (k : Call t) (ht : t ≠ .monitoring) : (program t k).Keeps := by
  cases t with
  | north n =>
    cases k with
    | sendCommand outcome =>
      cases outcome with
      | notListed | limitReached => trivial
      | sent | failed => exact keeps_useIfActive trivial
    | sendInterrogationCommand => exact keeps_useIfActive trivial
    | scheduleGI => exact keeps_useIfActive trivial
  | receive con => exact keeps_handleASDU k
  | monitoring => exact absurd rfl ht

/-- For every interleaving: neither the monitoring thread nor a thread that owns
`m_activeConnectionMtx` comes to dereference null, and any thread comes to it if and only if
the monitoring thread clears the pointer when that thread is about to dereference it. -/
theorem activeConnection_uses_valid (is : List (Lockset.Input Thread Call)) :
    Always (SharedPointer.step program) (·.Valid .monitoring) .idle is ∧
      Always (SharedPointer.step program) (fun s => ∀ t, s.owner = some t → s.Valid t) .idle is ∧
      ∀ t, Always (SharedPointer.step program) (·.Valid t) .idle is ↔
        Along (SharedPointer.step program)
          (fun s i => s.clears i = some .monitoring → (s.rest t).uses = false) .idle is := by
  refine ⟨?_, ?_, fun t => ?_⟩
  · exact SharedPointer.always_valid_of_keeps checks_program keeps_program is
  · exact SharedPointer.always_valid_of_owner checks_program is
  · exact SharedPointer.always_valid_iff_of_keeps checks_program keeps_program t is

/-- A connection is activated, `t` looks at the pointer, and the monitoring thread ends. -/
def endDuring (t : Thread) (k : Call t) : List (Lockset.Input Thread Call) :=
  [.call .monitoring (MonitoringCall.round (some 0) true), .advance .monitoring,
    .advance .monitoring, .advance .monitoring, .advance .monitoring,
    .call t k, .advance t,
    .call .monitoring MonitoringCall.finish, .advance .monitoring, .advance .monitoring]

/-- Both triggers of a GI come to dereference null. -/
theorem trigger_meets_end :
    ¬(run (SharedPointer.step program) .idle (endDuring (.receive 0) [[false]])).Valid
        (.receive 0) ∧
      ¬(run (SharedPointer.step program) .idle
        (endDuring (.north 0) NorthCall.scheduleGI)).Valid (.north 0) := by
  have hnull : ∀ {s : SharedPointer.State Thread ConId} {t}, (s.rest t).uses = true →
      s.pointer = none → ¬s.Valid t := by
    intro s t huses hnone h
    have hsome := h huses
    simp [hnone] at hsome
  exact ⟨hnull rfl rfl, hnull rfl rfl⟩

end ActiveConnectionUse

end Iec104South
