import Iec104South.CommandsConcurrent

/-!
# The limit of parallel commands

With `cmd_parallel` = n > 0, over every interleaving of the command operations with received
ASDUs, timeouts and changes of the active connection (`command_limit`):

* at most n commands are outstanding in every state;
* a command is transmitted once, after an entry of its own was booked while fewer than n
  commands were outstanding;
* a call that the limit refuses changes nothing but itself, and is over.

The entry is booked before it is known whether the command is sent, so the bound is about
bookings; the other sections only edit and remove entries.
-/

namespace Iec104South

open Reactive

/-- The call an event is about. -/
def CommandEvent.call : CommandEvent → Nat
  | .checked k | .refused k | .booked k _ _ | .transmitted k _ _ | .returned k _ => k

/-- Observer: everything the calls have reported. -/
def noteEvents (history : List CommandEvent) (_ : System) (_ : SystemInput)
    (events : List CommandEvent) : List CommandEvent :=
  history ++ events

/-- What the call `k` has reported. -/
def eventsOf (k : Nat) (history : List CommandEvent) : List CommandEvent :=
  history.filter (·.call = k)

/-- What the limit promises of a step from `s` to `next.1` that reports `next.2`. -/
structure LimitKept (cfg : IEC104ClientConfig) (s : System) (history : List CommandEvent)
    (i : SystemInput) (next : System × List CommandEvent) : Prop where
  /-- a booking appends its entry, and reports how many commands were outstanding -/
  booked : ∀ k command n, .booked k command n ∈ next.2 →
    n = s.client.outstandingCommands.length ∧
      next.1.client.outstandingCommands = s.client.outstandingCommands ++ [command]
  /-- a step transmits at most one command -/
  one : ∀ k con e, .transmitted k con e ∈ next.2 →
    next.2 = [.transmitted k con e] ∨ next.2 = [.transmitted k con e, .returned k true]
  /-- before a transmission its call has done nothing but the check and the booking, of an
  entry for this command that is its own -/
  transmitted : ∀ k con e, .transmitted k con e ∈ next.2 →
    ∃ command n, n < cfg.cmdParallel ∧ e.Carries command.typeId command.ca command.ioa ∧
      eventsOf k history = [.checked k, .booked k command n] ∧
      ∀ j command' n', .booked j command' n' ∈ history → command'.id = command.id → j = k
  /-- the check of a call that goes on changes nothing else -/
  checked : ∀ k, .checked k ∈ next.2 → ∃ op, next = (s.setCall k (.checked op), [.checked k])
  /-- the refusal changes nothing else -/
  refused : ∀ k, .refused k ∈ next.2 →
    next = (s.setCall k (.returned false), [.refused k, .returned k false])
  /-- a refused call takes no further step -/
  settled : ∀ k, .refused k ∈ history → i.call? = some k → next = (s, [])

/-! ## The invariant -/

/-- What a call has reported when it is in this state, with the limit `n`. -/
def CallState.Reported (n k : Nat) (events : List CommandEvent) : CallState → Prop
  | .idle => events = []
  | .checked _ => events = [.checked k]
  | .booked op command =>
    (command.typeId = op.typeId ∧ command.ca = op.ca ∧ command.ioa = op.ioa) ∧
      ∃ m < n, events = [.checked k, .booked k command m]
  | .failed _ => .refused k ∉ events
  | .returned _ => True

/-- The state between two steps, with everything reported so far. -/
structure Limited (cfg : IEC104ClientConfig) (s : System × List CommandEvent) : Prop where
  length_le : s.1.client.outstandingCommands.length ≤ cfg.cmdParallel
  reported : ∀ k, (s.1.calls k).Reported cfg.cmdParallel k (eventsOf k s.2)
  fresh : ∀ k command n, .booked k command n ∈ s.2 → command.id < s.1.client.nextCommandId
  own : ∀ j k command command' n n', .booked j command n ∈ s.2 → .booked k command' n' ∈ s.2 →
    command.id = command'.id → j = k

section Invariant

variable {cfg : IEC104ClientConfig} {redGroup : ConId → RedGroupCon} {s s' : System}
  {history events : List CommandEvent} {k : Nat}

theorem eventsOf_append (k : Nat) (history events : List CommandEvent) :
    eventsOf k (history ++ events) = eventsOf k history ++ eventsOf k events :=
  List.filter_append ..

theorem mem_eventsOf {e : CommandEvent} : e ∈ eventsOf k history ↔ e ∈ history ∧ e.call = k := by
  simp [eventsOf]

/-- The events of a step are of one call, whose state is the only one that changes. -/
theorem reported_setCall {n : Nat} {state : CallState}
    (h : ∀ j, (s.calls j).Reported n j (eventsOf j history)) (hcalls : s'.calls = s.calls)
    (hcall : ∀ e ∈ events, e.call = k)
    (hstate : state.Reported n k (eventsOf k history ++ events)) (j : Nat) :
    ((s'.setCall k state).calls j).Reported n j (eventsOf j (history ++ events)) := by
  rw [eventsOf_append]
  rcases eq_or_ne j k with rfl | hjk
  · have hall : eventsOf j events = events :=
      List.filter_eq_self.mpr fun e he => decide_eq_true (hcall e he)
    rw [setCall_calls_self, hall]
    exact hstate
  · have hnone : eventsOf j events = [] :=
      List.filter_eq_nil_iff.mpr fun e he hej =>
        hjk ((of_decide_eq_true hej).symm.trans (hcall e he))
    rw [setCall_calls_of_ne hjk, hcalls, hnone, List.append_nil]
    exact h j

namespace Limited

theorem reported_of (h : Limited cfg (s, history)) {state : CallState} (hcall : s.calls k = state) :
    state.Reported cfg.cmdParallel k (eventsOf k history) :=
  hcall ▸ h.reported k

/-- A step without a booking keeps the bound, and all entries stay their calls' own. -/
theorem of_noBooking (h : Limited cfg (s, history)) (hclient : s.client.NoBooking s'.client)
    (hnone : ∀ k command n, .booked k command n ∉ events)
    (hreported : ∀ k, (s'.calls k).Reported cfg.cmdParallel k (eventsOf k (history ++ events))) :
    Limited cfg (s', history ++ events) := by
  have hold {k : Nat} {command : OutstandingCommand} {n : Nat}
      (hbooked : .booked k command n ∈ history ++ events) : .booked k command n ∈ history :=
    (List.mem_append.mp hbooked).resolve_right (hnone k command n)
  refine ⟨hclient.length_le.trans h.length_le, hreported, ?_, ?_⟩
  · intro k command n hbooked
    exact (h.fresh k command n (hold hbooked)).trans_eq hclient.nextCommandId.symm
  · intro j k command command' n n' hj hk
    exact h.own j k command command' n n' (hold hj) (hold hk)

/-- A booking below the limit keeps the bound, and its identity is new. -/
theorem withBooked (h : Limited cfg (s, history)) (hparallel : 0 < cfg.cmdParallel)
    {op : CommandOperation} {now : Nat} (hchecked : s.calls k = .checked op)
    (hlimit : ¬ s.client.limitReached cfg) :
    Limited cfg
      ({ s with client := s.client.withBooked op now }.setCall k
          (.booked op (bookedCommand op now s.client)),
        history ++
          [.booked k (bookedCommand op now s.client) s.client.outstandingCommands.length]) := by
  have hlt : s.client.outstandingCommands.length < cfg.cmdParallel :=
    not_le.mp fun hle => hlimit ⟨hparallel, hle⟩
  have hevents : eventsOf k history = [.checked k] := h.reported_of hchecked
  refine ⟨?_, ?_, ?_, ?_⟩
  · exact (List.length_append ..).trans_le hlt
  · refine reported_setCall h.reported rfl ?_ ⟨⟨rfl, rfl, rfl⟩, _, hlt, ?_⟩
    · simp [CommandEvent.call]
    · rw [hevents]
      rfl
  · intro j command n hbooked
    rcases List.mem_append.mp hbooked with hold | hnew
    · exact (h.fresh j command n hold).trans (Nat.lt_succ_self _)
    · cases List.mem_singleton.mp hnew
      exact Nat.lt_succ_self _
  -- the identity of the new command is above all that were given
  · intro i j command command' n n' hi hj hid
    rcases List.mem_append.mp hi with hi | hi <;> rcases List.mem_append.mp hj with hj | hj
    · exact h.own i j command command' n n' hi hj hid
    · cases List.mem_singleton.mp hj
      exact absurd hid (h.fresh i command n hi).ne
    · cases List.mem_singleton.mp hi
      exact absurd hid.symm (h.fresh j command' n' hj).ne
    · cases List.mem_singleton.mp hi
      cases List.mem_singleton.mp hj
      rfl

theorem step (hparallel : 0 < cfg.cmdParallel) (s : System × List CommandEvent) (i : SystemInput)
    (h : Limited cfg s) : Limited cfg (watch (systemStep cfg redGroup) noteEvents s i).1 := by
  obtain ⟨s, history⟩ := s
  have heffect := systemStep_effect cfg redGroup s i
  simp only [watch, noteEvents]
  generalize systemStep cfg redGroup s i = r at heffect ⊢
  cases heffect with
  | other hcalls hclient =>
    refine h.of_noBooking hclient (by simp) fun k => ?_
    rw [List.append_nil, hcalls]
    exact h.reported k
  | @checked k op hidle =>
    have hevents : eventsOf k history = [] := h.reported_of hidle
    refine h.of_noBooking (.refl _) (by simp) (reported_setCall h.reported rfl ?_ ?_)
    · simp [CommandEvent.call]
    · rw [hevents]
      rfl
  | unlisted =>
    refine h.of_noBooking ⟨rfl, le_rfl⟩ (by simp) (reported_setCall h.reported rfl ?_ trivial)
    simp [CommandEvent.call]
  | refused =>
    refine h.of_noBooking (.refl _) (by simp) (reported_setCall h.reported rfl ?_ trivial)
    simp [CommandEvent.call]
  | booked hchecked hlimit => exact h.withBooked hparallel hchecked hlimit
  | sent =>
    refine h.of_noBooking ⟨rfl, le_rfl⟩ (by simp) (reported_setCall h.reported rfl ?_ trivial)
    simp [CommandEvent.call]
  | @failed k _ op command _ transmitted hbooked htransmitted =>
    obtain ⟨-, n, -, hevents⟩ := h.reported_of hbooked
    refine h.of_noBooking ⟨rfl, le_rfl⟩ ?_ (reported_setCall h.reported rfl ?_ ?_)
    · rcases htransmitted with rfl | ⟨con, e, -, rfl⟩ <;> simp
    · rcases htransmitted with rfl | ⟨con, e, -, rfl⟩ <;> simp [CommandEvent.call]
    · rw [hevents]
      rcases htransmitted with rfl | ⟨con, e, -, rfl⟩ <;> simp [CallState.Reported]
  | removed =>
    refine h.of_noBooking (.removeOutstandingCommand _ _) (by simp)
      (reported_setCall h.reported rfl ?_ trivial)
    simp [CommandEvent.call]

theorem init (t : ExchangeTable) (connections : List ConId) :
    Limited cfg (System.init t connections, []) where
  length_le := Nat.zero_le _
  reported _ := rfl
  fresh _ _ _ h := by cases h
  own _ _ _ _ _ _ h := by cases h

/-! ## What the invariant promises of a step -/

/-- A call that transmits has only been checked and booked. -/
theorem transmitted (h : Limited cfg (s, history)) {op : CommandOperation}
    {command : OutstandingCommand} (hbooked : s.calls k = .booked op command) {e : Effect}
    (hcarries : e.Carries op.typeId op.ca op.ioa) :
    ∃ command n, n < cfg.cmdParallel ∧ e.Carries command.typeId command.ca command.ioa ∧
      eventsOf k history = [.checked k, .booked k command n] ∧
      ∀ j command' n', .booked j command' n' ∈ history → command'.id = command.id → j = k := by
  obtain ⟨⟨htype, hca, hioa⟩, n, hn, hevents⟩ := h.reported_of hbooked
  rw [← htype, ← hca, ← hioa] at hcarries
  have hmem : .booked k command n ∈ history := by
    have hlast : .booked k command n ∈ eventsOf k history := by simp [hevents]
    exact (mem_eventsOf.mp hlast).1
  exact ⟨command, n, hn, hcarries, hevents, fun j command' n' hj hid =>
    h.own j k command' command n' n hj hmem hid⟩

/-- A refused call has returned. -/
theorem returned_of_refused (h : Limited cfg (s, history)) (hrefused : .refused k ∈ history) :
    ∃ success, s.calls k = .returned success := by
  have hmem : .refused k ∈ eventsOf k history := mem_eventsOf.mpr ⟨hrefused, rfl⟩
  cases hcall : s.calls k with
  | idle =>
    have hevents : eventsOf k history = [] := h.reported_of hcall
    simp [hevents] at hmem
  | checked op =>
    have hevents : eventsOf k history = [.checked k] := h.reported_of hcall
    simp [hevents] at hmem
  | booked op command =>
    obtain ⟨-, n, -, hevents⟩ := h.reported_of hcall
    simp [hevents] at hmem
  | failed command => exact absurd hmem (h.reported_of hcall)
  | returned success => exact ⟨success, rfl⟩

end Limited

theorem Limited.limitKept (h : Limited cfg (s, history)) (i : SystemInput) :
    LimitKept cfg s history i (systemStep cfg redGroup s i) := by
  have heffect := systemStep_effect cfg redGroup s i
  have hsettled : ∀ k, .refused k ∈ history → i.call? = some k →
      systemStep cfg redGroup s i = (s, []) := by
    intro k hrefused hi
    obtain ⟨success, hcall⟩ := h.returned_of_refused hrefused
    exact systemStep_returned cfg redGroup hi hcall
  generalize systemStep cfg redGroup s i = next at heffect hsettled ⊢
  cases heffect with
  | other | unlisted | removed =>
    exact ⟨by simp, by simp, by simp, by simp, by simp, hsettled⟩
  | @checked k op =>
    refine ⟨by simp, by simp, by simp, fun j hj => ?_, by simp, hsettled⟩
    cases List.mem_singleton.mp hj
    exact ⟨op, rfl⟩
  | refused =>
    refine ⟨by simp, by simp, by simp, by simp, fun j hj => ?_, hsettled⟩
    obtain rfl : j = _ := by simpa using hj
    rfl
  | booked =>
    refine ⟨fun j command n hj => ?_, by simp, by simp, by simp, by simp, hsettled⟩
    cases List.mem_singleton.mp hj
    exact ⟨rfl, rfl⟩
  | @sent k _ op command con e _ hbooked _ hcarries =>
    refine ⟨by simp, fun j con' e' hj => .inr ?_, fun j con' e' hj => ?_, by simp, by simp,
      hsettled⟩
    · obtain ⟨rfl, rfl, rfl⟩ : j = k ∧ con' = con ∧ e' = e := by simpa using hj
      rfl
    · obtain ⟨rfl, -, rfl⟩ : j = k ∧ con' = con ∧ e' = e := by simpa using hj
      exact h.transmitted hbooked hcarries
  | failed hbooked htransmitted =>
    rcases htransmitted with rfl | ⟨con, e, hcarries, rfl⟩
    · exact ⟨by simp, by simp, by simp, by simp, by simp, hsettled⟩
    · refine ⟨by simp, fun j con' e' hj => .inl ?_, fun j con' e' hj => ?_, by simp, by simp,
        hsettled⟩
      · rw [List.mem_singleton.mp hj]
      · cases List.mem_singleton.mp hj
        exact h.transmitted hbooked hcarries

end Invariant

/-- With a limit, in every run: at most as many commands as allowed are outstanding in every
state, and every step keeps to the limit. -/
theorem command_limit (cfg : IEC104ClientConfig) (redGroup : ConId → RedGroupCon)
    (t : ExchangeTable) (connections : List ConId) (hparallel : 0 < cfg.cmdParallel)
    (is : List SystemInput) :
    Always (systemStep cfg redGroup)
        (fun s => s.client.outstandingCommands.length ≤ cfg.cmdParallel)
        (System.init t connections) is ∧
      Along (watch (systemStep cfg redGroup) noteEvents)
        (fun s i => LimitKept cfg s.1 s.2 i (systemStep cfg redGroup s.1 i))
        (System.init t connections, []) is := by
  have hinit : Limited cfg (System.init t connections, []) := .init t connections
  constructor
  · rw [← always_watch (systemStep cfg redGroup) noteEvents _ _ []]
    exact always_of_invariant (Limited.step hparallel) (fun _ h => h.length_le) hinit
  · exact along_of_forall_step (Limited.step hparallel) (fun _ i h => h.limitKept i) hinit

/-- Two calls at a time, with a limit of one command. -/
def twoCalls : List SystemInput :=
  [.monitoringThreadStart 0, .conThread 0 { created := some 1 }, .connectionEvent 0 .opened 0,
    .monitoringThread 0 0, .call 0 (.sendSingleCommand 1 10 true false false 0),
    .call 1 (.sendSingleCommand 1 10 false false false 0), .book 0 0, .book 1 0,
    .transmit 0 true, .transmit 1 true]

/-- The second call is refused and the first one sends its command. -/
theorem command_limit_one :
    (.refused 1 ∈ trace (systemStep { cmdParallel := 1 } fun _ => {})
        (System.init commandTable [0]) twoCalls ∧
      .returned 0 true ∈ trace (systemStep { cmdParallel := 1 } fun _ => {})
        (System.init commandTable [0]) twoCalls) ∧
    Always (systemStep { cmdParallel := 1 } fun _ => {})
        (fun s => s.client.outstandingCommands.length ≤ 1) (System.init commandTable [0])
        twoCalls ∧
      Along (watch (systemStep { cmdParallel := 1 } fun _ => {}) noteEvents)
        (fun s i => LimitKept { cmdParallel := 1 } s.1 s.2 i
          (systemStep { cmdParallel := 1 } (fun _ => {}) s.1 i))
        (System.init commandTable [0], []) twoCalls :=
  ⟨by decide, command_limit { cmdParallel := 1 } (fun _ => {}) commandTable [0] (by decide)
    twoCalls⟩

end Iec104South
