import Iec104South.Lib.Waiting
import Iec104South.Protocol

/-!
# The order of the locks

What the threads of the plugin wait for: `m_activeConnectionMtx`, `m_outstandingCommandsMtx`, the
`m_conLock` of each connection, and the ends of other threads. `stop` joins the monitoring thread,
the destructor of a connection joins its thread, and that one waits for the callbacks of lib60870
when it closes or destroys a handle.

`no_deadlock_of_along`: in no interleaving do the threads wait for each other, as long as no
callback holds the last reference to its connection. A callback that does would join the thread
which waits for the callback.

A function is the list of what it locks and joins. What it decides on the way is a parameter.
-/

namespace Iec104South

namespace LockOrder

open Reactive Waiting

inductive PluginMutex where
  | activeConnectionMtx
  | outstandingCommandsMtx
  | conLock (con : ConId)
deriving DecidableEq, Repr

inductive PluginThread where
  /-- start, reconfiguration and shutdown of the plugin -/
  | management
  /-- the operations -/
  | north (n : Nat)
  | monitoring
  /-- `_conThread` of a connection -/
  | connection (con : ConId)
  /-- the thread of lib60870 that calls the handlers of a connection -/
  | library (con : ConId)
deriving DecidableEq, Repr

abbrev Program := List (Action PluginThread PluginMutex)

/-! ## The functions -/

/-- A section under `m_conLock` that calls nothing back. -/
def locked (con : ConId) : Program := scope (.conLock con) []

/-- `CS104_Connection_destroy` and `CS104_Connection_close` wait for the callbacks, if there is
a handle. -/
def endCallbacks (con : ConId) (handle : Bool) : Program :=
  if handle then [.join (.library con)] else []

/-- The destructor of a connection: `Stop`. -/
def destructor (con : ConId) : Program := [.join (.connection con)]

/-- What a thread does when it drops its reference, which may be the last one. -/
def dropReference (con : Option ConId) : Program := con.toList.flatMap destructor

/-- Where a command operation ends; the connection is the active one, if there is one. -/
inductive CommandPath where
  | notListed
  | limitReached
  /-- the local reference to the command may be the last one to a connection -/
  | sends (con : Option ConId) (success : Bool) (last : Option ConId)
deriving DecidableEq, Repr

/-- The six command operations. -/
def sendCommand : CommandPath → Program
  | .notListed => []
  | .limitReached => scope .activeConnectionMtx []
  | .sends con success last =>
    scope .activeConnectionMtx [] ++
      (scope .activeConnectionMtx (con.toList.flatMap locked ++
        if success then [] else scope .outstandingCommandsMtx []) ++ dropReference last)

def sendInterrogationCommand (con : Option ConId) : Program :=
  scope .activeConnectionMtx (con.toList.flatMap locked)

/-- A round of the loop of `_monitoringThread`, which may activate a connection. -/
def monitoringRound (activated : Option ConId) : Program :=
  scope .activeConnectionMtx (activated.toList.flatMap locked) ++ scope .outstandingCommandsMtx []

/-- What follows the loop of `_monitoringThread`: the outstanding commands are cleared, if there
are any, and the connections to which there is no other reference are destroyed. -/
def monitoringEnd (outstanding : Bool) (destroyed : List ConId) : Program :=
  scope .activeConnectionMtx
    ((if outstanding then scope .outstandingCommandsMtx [] else []) ++ destroyed.flatMap destructor)

/-- What a round of `_conThread` does: the connection is created, or the periodic tasks of an
active one send and close. -/
inductive ConThreadRound where
  | other
  | connects (handle : Bool)
  | tasks (timeSync sendsGi closes : Bool)
deriving DecidableEq, Repr

def conThreadRound (con : ConId) : ConThreadRound → Program
  | .other => []
  | .connects handle => locked con ++ (endCallbacks con handle ++ locked con)
  | .tasks timeSync sendsGi closes =>
    (if timeSync then locked con else []) ++
      ((if sendsGi then locked con else []) ++ endCallbacks con closes)

/-- The handle is taken under the lock and destroyed after it: a disconnect request, and the end
of `_conThread`. -/
def releaseHandle (con : ConId) (handle : Bool) : Program := locked con ++ endCallbacks con handle

/-- `_conThread`; a round may serve a disconnect request. -/
def conThread (con : ConId) (rounds : List (ConThreadRound × Option Bool)) (handle : Bool) :
    Program :=
  rounds.flatMap (fun round =>
    conThreadRound con round.1 ++ round.2.toList.flatMap (releaseHandle con)) ++
    releaseHandle con handle

/-- What an element of a received ASDU leads to; `last` tells that the command which was found
holds the last reference to the connection when the handler drops it. -/
inductive ElementPath where
  /-- not decoded, or not of a command type -/
  | noLookup
  | lookup (removes last : Bool)
deriving DecidableEq, Repr

def handleElement (con : ConId) : ElementPath → Program
  | .noLookup => []
  | .lookup removes last =>
    scope .outstandingCommandsMtx [] ++
      ((if removes then scope .outstandingCommandsMtx [] else []) ++
        dropReference (if last then some con else none))

/-- `m_asduReceivedHandler`; the answer to a clock synchronisation is treated under the lock. -/
def asduReceivedHandler (con : ConId) (elements : List ElementPath) (clockSync : Bool) : Program :=
  elements.flatMap (handleElement con) ++ if clockSync then locked con else []

/-! ## What the threads run -/

inductive ManagementCall where
  | start
  | stop
  | reconfigure
deriving DecidableEq, Repr

inductive NorthCall where
  | sendCommand (path : CommandPath)
  | sendInterrogationCommand (con : Option ConId)
  /-- `scheduleGI` and `sendConnectionStatus`, which lock nothing -/
  | unlocked
deriving DecidableEq, Repr

structure MonitoringCall where
  rounds : List (Option ConId)
  outstanding : Bool
  destroyed : List ConId
deriving DecidableEq, Repr

structure ConThreadCall where
  rounds : List (ConThreadRound × Option Bool)
  handle : Bool
deriving DecidableEq, Repr

inductive Callback where
  /-- `m_connectionHandler` -/
  | connectionEvent
  | asdu (elements : List ElementPath) (clockSync : Bool)
deriving DecidableEq, Repr

/-- What a thread is started with; a library thread is busy while it runs a callback. -/
def Call : PluginThread → Type
  | .management => ManagementCall
  | .north _ => NorthCall
  | .monitoring => MonitoringCall
  | .connection _ => ConThreadCall
  | .library _ => Callback

def program : ∀ t, Call t → Program
  | .management, .start => []
  | .management, .stop | .management, .reconfigure => [.join .monitoring]
  | .north _, .sendCommand path => sendCommand path
  | .north _, .sendInterrogationCommand con => sendInterrogationCommand con
  | .north _, .unlocked => []
  | .monitoring, call =>
    call.rounds.flatMap monitoringRound ++ monitoringEnd call.outstanding call.destroyed
  | .connection con, call => conThread con call.rounds call.handle
  | .library con, .connectionEvent => locked con
  | .library con, .asdu elements clockSync => asduReceivedHandler con elements clockSync

/-- No callback drops the last reference to its connection. -/
def KeepsConnection : Input PluginThread Call → Prop
  | .call (.library _) (.asdu elements _) =>
    ∀ e ∈ elements, ∀ removes, e ≠ ElementPath.lookup removes true
  | _ => True

/-! ## The order -/

/-- Who waits ranks above what it waits for. -/
def rank : Resource PluginThread PluginMutex → Nat
  | .inl .management => 7
  | .inl (.north _) | .inl .monitoring => 6
  | .inr .activeConnectionMtx => 5
  | .inl (.connection _) => 4
  | .inl (.library _) => 3
  | .inr (.conLock _) => 2
  | .inr .outstandingCommandsMtx => 1

section

variable {t : PluginThread} {held : List PluginMutex}

/-- A thread may take a lock of a connection if it ranks above it, as all that it holds. -/
theorem ordered_locked {con : ConId} (h : Below rank t held (.inr (.conLock con))) :
    Ordered rank t held (locked con) held := .scope h rfl

theorem ordered_outstanding (h : Below rank t held (.inr .outstandingCommandsMtx)) :
    Ordered rank t held (scope .outstandingCommandsMtx []) held := .scope h rfl

/-- What is done with an object that there may be. -/
theorem ordered_toList {α : Type} {f : α → Program} {a : Option α}
    (h : ∀ a, Ordered rank t held (f a) held) :
    Ordered rank t held (a.toList.flatMap f) held := .flatMap _ fun a _ => h a

theorem ordered_ite {b : Bool} {p : Program} (h : Ordered rank t held p held) :
    Ordered rank t held (if b then p else []) held := by
  cases b with
  | true => exact h
  | false => rfl

theorem ordered_destructor {con : ConId} (h : Below rank t held (.inl (.connection con))) :
    Ordered rank t held (destructor con) held := ⟨h, rfl⟩

end

theorem ordered_sendCommand (n : Nat) (path : CommandPath) :
    Ordered rank (.north n) [] (sendCommand path) [] := by
  have hactive {body : Program} (hbody : Ordered rank (.north n) [.activeConnectionMtx] body
      [.activeConnectionMtx]) : Ordered rank (.north n) [] (scope .activeConnectionMtx body) [] :=
    .scope (by simp [Below, rank]) hbody
  cases path with
  | notListed => rfl
  | limitReached => exact hactive .nil
  | sends con success last =>
    refine (hactive .nil).both ((hactive (.both ?_ ?_)).both ?_)
    · exact ordered_toList fun con => ordered_locked (by simp [Below, rank])
    · cases success with
      | true => rfl
      | false => exact ordered_outstanding (by simp [Below, rank])
    · exact ordered_toList fun con => ordered_destructor (by simp [Below, rank])

theorem ordered_sendInterrogationCommand (n : Nat) (con : Option ConId) :
    Ordered rank (.north n) [] (sendInterrogationCommand con) [] :=
  .scope (by simp [Below, rank]) (ordered_toList fun _ => ordered_locked (by simp [Below, rank]))

theorem ordered_monitoring (call : MonitoringCall) :
    Ordered rank .monitoring [] (program .monitoring call) [] := by
  refine Ordered.both (.flatMap _ fun activated _ => ?_) ?_
  · refine Ordered.both (.scope (by simp [Below, rank]) ?_)
      (ordered_outstanding (by simp [Below, rank]))
    exact ordered_toList fun con => ordered_locked (by simp [Below, rank])
  · refine .scope (by simp [Below, rank]) (.both ?_ ?_)
    · exact ordered_ite (ordered_outstanding (by simp [Below, rank]))
    · exact .flatMap _ fun con _ => ordered_destructor (by simp [Below, rank])

theorem ordered_conThread (con : ConId) (rounds : List (ConThreadRound × Option Bool))
    (handle : Bool) : Ordered rank (.connection con) [] (conThread con rounds handle) [] := by
  have hlocked : Ordered rank (.connection con) [] (locked con) [] :=
    ordered_locked (by simp [Below, rank])
  have hend (handle : Bool) : Ordered rank (.connection con) [] (endCallbacks con handle) [] :=
    ordered_ite ⟨by simp [Below, rank], rfl⟩
  refine Ordered.both (.flatMap _ fun round _ => .both ?_ ?_) (hlocked.both (hend handle))
  · cases round.1 with
    | other => rfl
    | connects handle => exact hlocked.both ((hend handle).both hlocked)
    | tasks timeSync sendsGi closes =>
      exact (ordered_ite hlocked).both ((ordered_ite hlocked).both (hend closes))
  · exact ordered_toList fun handle => hlocked.both (hend handle)

/-- A callback that keeps its connection joins nothing. -/
theorem ordered_asduReceivedHandler {con : ConId} {elements : List ElementPath} (clockSync : Bool)
    (h : ∀ e ∈ elements, ∀ removes, e ≠ ElementPath.lookup removes true) :
    Ordered rank (.library con) [] (asduReceivedHandler con elements clockSync) [] := by
  have houtstanding : Ordered rank (.library con) [] (scope .outstandingCommandsMtx []) [] :=
    ordered_outstanding (by simp [Below, rank])
  refine Ordered.both (.flatMap _ fun e he => ?_) ?_
  · cases e with
    | noLookup => rfl
    | lookup removes last =>
      obtain rfl : last = false := Bool.eq_false_iff.mpr fun hlast => h _ he removes (by rw [hlast])
      exact houtstanding.both ((ordered_ite houtstanding).both rfl)
  · exact ordered_ite (ordered_locked (by simp [Below, rank]))

theorem inOrder_of_keepsConnection {i : Input PluginThread Call} (h : KeepsConnection i) :
    i.InOrder rank program := by
  cases i with
  | advance t => trivial
  | call t call =>
    cases t with
    | management =>
      cases call with
      | start => rfl
      | stop | reconfigure => exact ⟨(by simp [Below, rank]), rfl⟩
    | north n =>
      cases call with
      | sendCommand path => exact ordered_sendCommand n path
      | sendInterrogationCommand con => exact ordered_sendInterrogationCommand n con
      | unlocked => rfl
    | monitoring => exact ordered_monitoring call
    | connection con => exact ordered_conThread con call.rounds call.handle
    | library con =>
      cases call with
      | connectionEvent => exact ordered_locked (by simp [Below, rank])
      | asdu elements clockSync => exact ordered_asduReceivedHandler clockSync h

/-- In every interleaving in which no callback drops the last reference to its connection: while
a thread is busy some thread can act, and all threads can be brought to their ends. -/
theorem no_deadlock_of_along {is : List (Input PluginThread Call)}
    (his : Along (step program) (fun _ i => KeepsConnection i) .idle is) :
    (∀ t, (run (step program) .idle is).rest t ≠ [] →
      ∃ u, (run (step program) .idle is).CanAct u) ∧
      ∃ order : List PluginThread,
        run (step program) (run (step program) .idle is) (order.map .advance) = .idle := by
  have hordered : Along (step program) (fun _ i => i.InOrder rank program) .idle is :=
    along_of_invariant (I := fun _ => True) (fun _ _ _ _ => trivial)
      (fun _ _ _ hi => inOrder_of_keepsConnection hi) trivial his
  exact progress_of_along hordered

/-- The plugin stops while a reply is handled. -/
def stopDuringReply : List (Input PluginThread Call) :=
  [.call .monitoring { rounds := [some 0], outstanding := true, destroyed := [0] },
    .call (.connection 0) { rounds := [], handle := true },
    .call (.library 0) (Callback.asdu [.lookup true false] false),
    .call .management ManagementCall.stop, .advance .monitoring, .advance (.library 0)]

theorem stopDuringReply_progresses :
    (∀ t, (run (step program) .idle stopDuringReply).rest t ≠ [] →
      ∃ u, (run (step program) .idle stopDuringReply).CanAct u) ∧
      ∃ order : List PluginThread,
        run (step program) (run (step program) .idle stopDuringReply) (order.map .advance) =
          .idle :=
  no_deadlock_of_along
    ⟨trivial, trivial, by simp [KeepsConnection], trivial, trivial, trivial, trivial⟩

/-- The monitoring thread has dropped a connection of which a callback still holds a command. -/
def lastReferenceInReply : List (Input PluginThread Call) :=
  [.call (.library 0) (Callback.asdu [.lookup true true] false), .advance (.library 0),
    .advance (.library 0), .advance (.library 0), .advance (.library 0),
    .call (.connection 0) { rounds := [], handle := true }, .advance (.connection 0),
    .advance (.connection 0)]

/-- The callback joins the thread of the connection, which waits for the callback. -/
theorem lastReferenceInReply_deadlocks :
    (run (step program) .idle lastReferenceInReply).waitsFor (.library 0) =
        some (.inl (.connection 0)) ∧
      (run (step program) .idle lastReferenceInReply).waitsFor (.connection 0) =
        some (.inl (.library 0)) := by
  decide

end LockOrder

end Iec104South
