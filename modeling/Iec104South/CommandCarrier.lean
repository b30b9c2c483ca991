import Iec104South.CommandsConcurrent

/-!
# The connection of a command

A command is booked in one section of its call and sent in another. The entry names the
connection that was active at the booking; the command is carried by the one that is active
when it is sent. `booked_on_carrier_iff` says when these are the same: the client that moves
to another connection between the two sections books the command on a connection on which
its replies never arrive.
-/

namespace Iec104South

open Reactive

/-- The connection a transmission goes over. -/
def CommandEvent.carrier? : CommandEvent → Option ConId
  | .transmitted _ con _ => some con
  | _ => none

/-- The call has booked its command on the one connection in `carriers`. -/
def CallState.BookedOn (carriers : List ConId) : CallState → Prop
  | .booked _ command => carriers = command.clientCon.toList
  | _ => False

instance (carriers : List ConId) : ∀ state : CallState, Decidable (state.BookedOn carriers)
  | .booked _ command => inferInstanceAs (Decidable (carriers = command.clientCon.toList))
  | .idle | .checked _ | .failed _ | .returned _ => inferInstanceAs (Decidable False)

/-- A call that returns true has booked its command on the connection that carried it. -/
def CommandEvent.BookedOnCarrier (s : System) (events : List CommandEvent) : CommandEvent → Prop
  | .returned k true => (s.calls k).BookedOn (events.filterMap CommandEvent.carrier?)
  | _ => True

instance (s : System) (events : List CommandEvent) :
    ∀ e : CommandEvent, Decidable (e.BookedOnCarrier s events)
  | .returned k true =>
    inferInstanceAs (Decidable ((s.calls k).BookedOn (events.filterMap CommandEvent.carrier?)))
  | .returned _ false | .checked _ | .refused _ | .booked .. | .transmitted .. =>
    inferInstanceAs (Decidable True)

/-- Every call that returns true in this step has booked its command on the connection that
carried it. -/
def BookedOnCarrier (cfg : IEC104ClientConfig) (redGroup : ConId → RedGroupCon) (s : System)
    (i : SystemInput) : Prop :=
  ∀ e ∈ (systemStep cfg redGroup s i).2, e.BookedOnCarrier s (systemStep cfg redGroup s i).2

instance (cfg : IEC104ClientConfig) (redGroup : ConId → RedGroupCon) (s : System)
    (i : SystemInput) : Decidable (BookedOnCarrier cfg redGroup s i) :=
  inferInstanceAs (Decidable (∀ e ∈ _, _))

/-- Observer: `m_activeConnection` when each call booked its command. -/
def noteActiveConnection (activeAt : Nat → Option ConId) (s : System) (_ : SystemInput)
    (events : List CommandEvent) : Nat → Option ConId :=
  match events with
  | [.booked k _ _] => Function.update activeAt k s.client.activeConnection
  | _ => activeAt

/-- The step sends the command of the call `k`. -/
def System.sendsCommand (k : Nat) (accepted : Bool) (s : System) : Bool :=
  (match s.calls k with
    | .booked _ _ => true
    | _ => false) &&
  s.activeConnectionMtx.isNone && sends accepted s

/-- A command that is sent in this step is sent over the connection that was active when it
was booked. -/
def SameActiveConnection (s : System × (Nat → Option ConId)) : SystemInput → Prop
  | .transmit k accepted => s.1.sendsCommand k accepted → s.1.client.activeConnection = s.2 k
  | _ => True

/-- The booked commands name the connection that was active at their booking. -/
def BookedOnActive (s : System × (Nat → Option ConId)) : Prop :=
  ∀ k op command, s.1.calls k = .booked op command → command.clientCon = s.2 k

theorem bookedOnActive_step (cfg : IEC104ClientConfig) (redGroup : ConId → RedGroupCon)
    (s : System × (Nat → Option ConId)) (i : SystemInput) (h : BookedOnActive s) :
    BookedOnActive (watch (systemStep cfg redGroup) noteActiveConnection s i).1 := by
  obtain ⟨s, activeAt⟩ := s
  have hset {k : Nat} {state : CallState} {s' : System} (hcalls : s'.calls = s.calls)
      (hstate : ∀ op command, state ≠ .booked op command) :
      BookedOnActive (s'.setCall k state, activeAt) := by
    intro j op command hj
    by_cases hjk : j = k
    · rw [hjk, setCall_calls_self] at hj
      exact absurd hj (hstate op command)
    · rw [setCall_calls_of_ne hjk, hcalls] at hj
      exact h j op command hj
  have heffect := systemStep_effect cfg redGroup s i
  simp only [watch]
  generalize systemStep cfg redGroup s i = r at heffect ⊢
  cases heffect with
  | other hcalls _ =>
    intro j op command hj
    exact h j op command (hcalls ▸ hj)
  | checked => exact hset rfl (fun _ _ => CallState.noConfusion)
  | unlisted => exact hset rfl (fun _ _ => CallState.noConfusion)
  | refused => exact hset rfl (fun _ _ => CallState.noConfusion)
  | @booked k now op =>
    -- the observer notes what the booking has put into the command
    intro j op' command hj
    by_cases hjk : j = k
    · rw [hjk, setCall_calls_self] at hj
      cases hj
      simp [noteActiveConnection, hjk, bookedCommand]
    · rw [setCall_calls_of_ne hjk] at hj
      simpa [noteActiveConnection, Function.update_of_ne hjk] using h j op' command hj
  | sent => exact hset rfl (fun _ _ => CallState.noConfusion)
  | @failed _ _ _ _ _ transmitted _ htransmitted =>
    rcases htransmitted with rfl | ⟨con, e, -, rfl⟩
    · exact hset rfl (fun _ _ => CallState.noConfusion)
    · exact hset rfl (fun _ _ => CallState.noConfusion)
  | removed => exact hset rfl (fun _ _ => CallState.noConfusion)

theorem bookedOnCarrier_of_forall_ne {s : System} {events : List CommandEvent}
    (h : ∀ k, .returned k true ∉ events) : ∀ e ∈ events, e.BookedOnCarrier s events := by
  intro e he
  unfold CommandEvent.BookedOnCarrier
  split
  · next k => exact absurd he (h k)
  · trivial

/-- A command that is sent was booked on the connection that carries it exactly when the active
connection is the one of its booking. -/
theorem bookedOnCarrier_transmit (cfg : IEC104ClientConfig) (redGroup : ConId → RedGroupCon)
    {s : System × (Nat → Option ConId)} (h : BookedOnActive s) (k : Nat) (accepted : Bool) :
    BookedOnCarrier cfg redGroup s.1 (.transmit k accepted) ↔
      SameActiveConnection s (.transmit k accepted) := by
  obtain ⟨s, activeAt⟩ := s
  have hnone (hevents : (systemStep cfg redGroup s (.transmit k accepted)).2 = [])
      (hsends : s.sendsCommand k accepted = false) :
      BookedOnCarrier cfg redGroup s (.transmit k accepted) ↔
        SameActiveConnection (s, activeAt) (.transmit k accepted) := by
    refine iff_of_true ?_ fun hsent => absurd (hsends.symm.trans hsent) Bool.noConfusion
    rw [BookedOnCarrier, hevents]
    exact fun _ he => by cases he
  by_cases hfree : s.activeConnectionMtx = none
  · have hstep : systemStep cfg redGroup s (.transmit k accepted) = s.transmit k accepted :=
      underMtx_free hfree _
    cases hcall : s.calls k with
    | booked op command =>
      obtain ⟨hsent, htransmissions⟩ := transmissions_cases op k accepted s
      have hsends : s.sendsCommand k accepted = sends accepted s := by
        simp [System.sendsCommand, hcall, hfree]
      simp only [BookedOnCarrier, SameActiveConnection, hstep, transmit_booked hcall, hsent, hsends]
      split_ifs with haccepted
      -- sent: the one carrier is the active connection, the booked one is the noted one
      · rcases htransmissions with ⟨-, hfalse⟩ | ⟨con, e, hactive, -, hone⟩
        · exact absurd (haccepted.symm.trans hfalse) Bool.noConfusion
        · have hclientCon : command.clientCon = activeAt k := h k op command hcall
          have hcarrier : [con] = (activeAt k).toList ↔ some con = activeAt k := by
            cases activeAt k <;> simp
          have hcarriers : [CommandEvent.transmitted k con e, .returned k true].filterMap
              CommandEvent.carrier? = [con] := rfl
          simpa [hone, haccepted, hactive, CommandEvent.BookedOnCarrier, CallState.BookedOn,
            hcall, hcarriers, hclientCon] using hcarrier
      · refine iff_of_true (bookedOnCarrier_of_forall_ne fun j hj => ?_) fun hsent =>
          absurd hsent haccepted
        rcases htransmissions with ⟨hnil, -⟩ | ⟨con, e, -, -, hone⟩
        · simp [hnil] at hj
        · simp [hone] at hj
    | _ =>
      refine hnone ?_ ?_
      · simp [hstep, System.transmit, hcall]
      · simp [System.sendsCommand, hcall]
  · refine hnone ?_ ?_
    · rw [systemStep, System.underMtx, if_neg hfree]
    · simp [System.sendsCommand, hfree]

/-- No section but the transmission ends a call with true. -/
theorem not_returned_true {cfg : IEC104ClientConfig} {s : System} {i : SystemInput}
    {r : System × List CommandEvent} (heffect : SectionEffect cfg s i r)
    (hi : ∀ k accepted, i ≠ .transmit k accepted) (k : Nat) : .returned k true ∉ r.2 := by
  cases heffect with
  | sent => exact absurd rfl (hi _ _)
  | failed => exact absurd rfl (hi _ _)
  | _ => simp

theorem bookedOnCarrier_step (cfg : IEC104ClientConfig) (redGroup : ConId → RedGroupCon)
    (s : System × (Nat → Option ConId)) (i : SystemInput) (h : BookedOnActive s) :
    BookedOnCarrier cfg redGroup s.1 i ↔ SameActiveConnection s i := by
  cases i with
  | transmit k accepted => exact bookedOnCarrier_transmit cfg redGroup h k accepted
  | _ =>
    exact iff_of_true (bookedOnCarrier_of_forall_ne (not_returned_true
      (systemStep_effect cfg redGroup s.1 _) fun _ _ => SystemInput.noConfusion)) trivial

/-- In every run: the calls that return true have booked their commands on the connections that
carried them, if and only if every command is sent over the connection that was active when it
was booked. -/
theorem booked_on_carrier_iff (cfg : IEC104ClientConfig) (redGroup : ConId → RedGroupCon)
    (t : ExchangeTable) (connections : List ConId) (is : List SystemInput) :
    Along (watch (systemStep cfg redGroup) noteActiveConnection)
        (fun s i => BookedOnCarrier cfg redGroup s.1 i)
        (System.init t connections, fun _ => none) is ↔
      Along (watch (systemStep cfg redGroup) noteActiveConnection) SameActiveConnection
        (System.init t connections, fun _ => none) is :=
  along_congr_of_invariant (I := BookedOnActive) (bookedOnActive_step cfg redGroup)
    (bookedOnCarrier_step cfg redGroup) fun _ _ _ hidle => by cases hidle

/-- The client moves from connection 0 to connection 1 while a command is booked. -/
def failover : List SystemInput :=
  [.monitoringThreadStart 0, .conThread 0 { created := some 1 }, .conThread 1 { created := some 2 },
    .connectionEvent 0 .opened 0, .connectionEvent 1 .opened 0, .monitoringThread 0 0,
    .call 0 (.sendSingleCommand 1 10 true false false 0), .book 0 0,
    .connectionEvent 0 .closed 0, .monitoringThread 0 0, .monitoringThread 0 0,
    .transmit 0 true]

/-- The command is sent over connection 1 and stays booked on connection 0. -/
theorem booked_on_lost_connection :
    ¬ Along (watch (systemStep {} fun _ => {}) noteActiveConnection)
      (fun s i => BookedOnCarrier {} (fun _ => {}) s.1 i)
      (System.init commandTable [0, 1], fun _ => none) failover := by
  decide

end Iec104South
