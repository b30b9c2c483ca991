import Iec104South.Machine

/-!
# Time synchronisation of a new session

`sync_restarts_of_along`: the first round of the connection thread after the STARTDT_CON event
of a session sends a clock synchronisation command, in every run in which the event does not
find the command of an earlier session unanswered and no unsolicited clock synchronisation
arrives before that round. STARTDT_CON resets three of the four flags of the synchronisation
and leaves `m_timeSyncCommandSent`, so the first condition is needed:
`unanswered_sync_blocks_next_session`.
-/

namespace Iec104South

open Reactive

/-- A clock synchronisation command was passed to the library. -/
def sendsClockSync (out : List Effect) : Bool :=
  out.any fun
    | .sendClockSyncCommand .. => true
    | _ => false

/-- The library accepted a clock synchronisation command. -/
def sentClockSync (out : List Effect) : Bool :=
  out.any fun
    | .sendClockSyncCommand _ _ accepted => accepted
    | _ => false

/-- The state of the session: a clock synchronisation command was sent on it, its STARTDT_CON
event was received, and no round in the active state has run since. -/
structure SyncWatch where
  syncSent : Bool := false
  started : Bool := false
  firstRound : Bool := false
deriving DecidableEq, Repr

def noteSync (w : SyncWatch) (p : Plugin) (i : Input) (out : List Effect) : SyncWatch :=
  match i with
  | .connectionEvent .opened _ => {}
  | .connectionEvent .startdtConReceived _ => { w with started := true, firstRound := true }
  | .conThread _ =>
    { w with
      syncSent := w.syncSent || sentClockSync out
      firstRound := w.firstRound && p.con.connectionState != .connectedActive }
  | _ => w

/-- The first round of a session on which no clock synchronisation command was sent sends one,
and after it the connection does not wait for the answer to the command of an earlier session. -/
def SyncRestarts (cfg : IEC104ClientConfig) (s : Plugin × SyncWatch) (i : Input) : Prop :=
  (s.2.started → s.2.firstRound = false → s.1.con.timeSyncCommandSent → s.2.syncSent) ∧
    match i with
    | .conThread _ =>
      s.1.con.connectionState = .connectedActive → s.2.firstRound → s.2.syncSent = false →
        sendsClockSync (step cfg s.1 i).2
    | _ => True

/-- STARTDT_CON does not find the command of an earlier session unanswered, and no clock
synchronisation ASDU arrives between it and the first round. -/
def NoStaleSync (s : Plugin × SyncWatch) : Input → Prop
  | .connectionEvent .startdtConReceived _ => s.2.syncSent ∨ s.1.con.timeSyncCommandSent = false
  | .asdu a _ =>
    s.2.firstRound → s.2.syncSent = false → a.typeId = C_CS_NA_1 → ∀ e ∈ a.elements, e = none
  | _ => True

instance (cfg : IEC104ClientConfig) (s : Plugin × SyncWatch) :
    ∀ i, Decidable (SyncRestarts cfg s i) := by
  unfold SyncRestarts
  exact Input.decidable

instance (s : Plugin × SyncWatch) : ∀ i, Decidable (NoStaleSync s i) := by
  unfold NoStaleSync
  exact Input.decidable

/-- What holds between steps. -/
structure SyncInv (s : Plugin × SyncWatch) : Prop where
  started : s.2.firstRound → s.2.started
  /-- an unanswered command was sent on this session -/
  fresh : s.2.started → s.2.syncSent = false → s.1.con.timeSyncCommandSent = false
  /-- the flags are as STARTDT_CON left them -/
  restarted : s.2.firstRound → s.2.syncSent = false →
    s.1.con.timeSynchronized = false ∧ s.1.con.firstTimeSyncOperationCompleted = false

/-- The flags of the time synchronisation. -/
def Connection.syncFlags (con : Connection) : Bool × Bool × Bool :=
  (con.timeSyncCommandSent, con.timeSynchronized, con.firstTimeSyncOperationCompleted)

namespace Plugin

variable (cfg : IEC104ClientConfig) (env : Env) (p : Plugin)

/-- Beside library events, ASDUs and rounds of the thread nothing changes the flags. -/
theorem handle_syncFlags {i : Input} (hi : i.touchesGi = false) :
    (p.handle cfg i).con.syncFlags = p.con.syncFlags := by
  have hflags := congrArg Connection.syncFlags (handle_frame cfg p hi).1
  exact hflags

/-- An ASDU changes the flags only as the reply to a clock synchronisation. -/
theorem asduReceivedHandler_syncFlags (now : Nat) (a : ASDU) :
    (p.asduReceivedHandler cfg now a).2.con.syncFlags = p.con.syncFlags ∨
      (a.typeId = C_CS_NA_1 ∧ ∃ e ∈ a.elements, e ≠ none) ∧
        ((p.asduReceivedHandler cfg now a).2.con.timeSyncCommandSent →
          p.con.timeSyncCommandSent) := by
  cases hreply : isGiReply a with
  | true =>
    rw [asduReceivedHandler_giReply cfg p now hreply]
    left
    simp only [giReply, giConfirmed, giTerminated, giRejected]
    split_ifs <;> simp [Connection.syncFlags, received_con, Connection.disonnect]
  | false =>
    obtain ⟨con', heq, rfl | rfl | ⟨htype, hdecodes, rfl⟩⟩ :=
      asduReceivedHandler_other cfg p now hreply
    · exact .inl (by simp [heq, Connection.syncFlags, received_con])
    · exact .inl (by simp [heq, Connection.syncFlags, received_con])
    · refine .inr ⟨⟨htype, hdecodes⟩, ?_⟩
      rw [heq]
      simp only [Connection.timeSyncReply]
      split_ifs <;> simp [received_con]

/-- In the states outside the active one a round leaves the flags alone. -/
theorem conThread_syncFlags (h : p.con.connectionState ≠ .connectedActive) :
    (p.conThread cfg env).con.syncFlags = p.con.syncFlags := by
  have hflags := congrArg Connection.syncFlags (p.conThread_inactive cfg env h).1
  exact hflags

theorem timeSyncTasks_sync :
    (p.con.timeSyncDue env.syncTime → sendsClockSync (p.timeSyncTasks cfg env).client.out) ∧
      ((p.timeSyncTasks cfg env).con.timeSyncCommandSent →
        p.con.timeSyncCommandSent ∨ sentClockSync (p.timeSyncTasks cfg env).client.out) := by
  unfold timeSyncTasks
  by_cases hdue : p.con.timeSyncDue env.syncTime
  · rw [if_pos hdue]
    refine ⟨fun _ => by simp [sendsClockSync], fun h => ?_⟩
    rcases Bool.or_eq_true_iff.mp h with hbefore | haccepted
    · exact .inl hbefore
    · exact .inr (by simp [sentClockSync, haccepted])
  · rw [if_neg hdue]
    exact ⟨fun h => absurd h hdue, fun h => .inl h⟩

/-- A round in the active state sends a command when one is due, and waits for an answer only
to a command that was sent before or is sent now. -/
theorem conThread_sync (henabled : cfg.isTimeSyncEnabled)
    (hactive : p.con.connectionState = .connectedActive) :
    (p.con.timeSyncDue env.syncTime → sendsClockSync (p.conThread cfg env).client.out) ∧
      ((p.conThread cfg env).con.timeSyncCommandSent →
        p.con.timeSyncCommandSent ∨ sentClockSync (p.conThread cfg env).client.out) := by
  have hgi : (p.conThread cfg env).con.timeSyncCommandSent =
      (p.beforeGi cfg env).con.timeSyncCommandSent ∧
      (p.beforeGi cfg env).client.out <+: (p.conThread cfg env).client.out := by
    rw [conThread_connectedActive cfg env p hactive]
    split_ifs
    · exact giTasks_frame cfg env _
    · exact ⟨rfl, List.prefix_rfl⟩
  have hbefore : p.beforeGi cfg env =
      (p.sendConnectionStatusAudit .active).timeSyncTasks cfg env := by
    simp [beforeGi, henabled]
  obtain ⟨hsent, rest, hout⟩ := hgi
  obtain ⟨hdue, hwaits⟩ := (p.sendConnectionStatusAudit .active).timeSyncTasks_sync cfg env
  rw [hsent, ← hout, hbefore]
  have haudit := p.sendConnectionStatusAudit_eq .active
  constructor
  · intro h
    have hsends := hdue (by rw [haudit]; exact h)
    simp only [sendsClockSync, List.any_append, Bool.or_eq_true] at hsends ⊢
    exact .inl hsends
  · intro h
    refine (hwaits h).imp (fun hbefore => by rwa [haudit] at hbefore) fun hsends => ?_
    simp only [sentClockSync, List.any_append, Bool.or_eq_true] at hsends ⊢
    exact .inl hsends

end Plugin

namespace SyncInv

variable {cfg : IEC104ClientConfig} {s : Plugin × SyncWatch} {i : Input}

theorem congr {p q : Plugin} {w : SyncWatch} (hp : SyncInv (p, w))
    (h : q.con.syncFlags = p.con.syncFlags) : SyncInv (q, w) := by
  simp only [Connection.syncFlags, Prod.mk.injEq] at h
  obtain ⟨hsent, hsync, hfirst⟩ := h
  refine ⟨hp.started, ?_, ?_⟩
  · rw [hsent]
    exact hp.fresh
  · rw [hsync, hfirst]
    exact hp.restarted

/-- After an active round no round is the first one, and any other round leaves the flags
alone. -/
theorem conThread (henabled : cfg.isTimeSyncEnabled) (hs : SyncInv s) (env : Env) :
    SyncInv (watch (Iec104South.step cfg) noteSync s (.conThread env)).1 := by
  obtain ⟨p, w⟩ := s
  have hclear : SyncInv (p.clear, w) := ⟨hs.started, hs.fresh, hs.restarted⟩
  show SyncInv (p.clear.conThread cfg env,
    noteSync w p (.conThread env) (p.clear.conThread cfg env).client.out)
  by_cases hactive : p.con.connectionState = .connectedActive
  · have hwaits := (p.clear.conThread_sync cfg env henabled hactive).2
    refine ⟨fun hfirst => ?_, fun hstarted hunsent => ?_, fun hfirst => ?_⟩
    · simp [noteSync, hactive] at hfirst
    · simp only [noteSync, Bool.or_eq_false_iff] at hunsent
      refine Bool.eq_false_iff.mpr fun h => ?_
      rcases hwaits h with hbefore | hnow
      · exact Bool.eq_false_iff.mp (hs.fresh hstarted hunsent.1) hbefore
      · exact Bool.eq_false_iff.mp hunsent.2 hnow
    · simp [noteSync, hactive] at hfirst
  · have hkeep := hclear.congr (Plugin.conThread_syncFlags cfg env p.clear hactive)
    refine ⟨fun hfirst => ?_, fun hstarted hunsent => ?_, fun hfirst hunsent => ?_⟩
    · exact hkeep.started (by simpa [noteSync, hactive] using hfirst)
    · exact hkeep.fresh hstarted (Bool.or_eq_false_iff.mp hunsent).1
    · exact hkeep.restarted (by simpa [noteSync, hactive] using hfirst)
        (Bool.or_eq_false_iff.mp hunsent).1

theorem step (henabled : cfg.isTimeSyncEnabled) (hs : SyncInv s) (hi : NoStaleSync s i) :
    SyncInv (watch (step cfg) noteSync s i).1 := by
  obtain ⟨p, w⟩ := s
  have hclear : SyncInv (p.clear, w) := ⟨hs.started, hs.fresh, hs.restarted⟩
  show SyncInv (p.clear.handle cfg i, noteSync w p i (p.clear.handle cfg i).client.out)
  cases htouch : i.touchesGi with
  | false =>
    have hkeep := hclear.congr (Plugin.handle_syncFlags cfg p.clear htouch)
    cases i with
    | connectionEvent _ _ | asdu _ _ | conThread _ => cases htouch
    | _ => exact hkeep
  | true =>
    cases i with
    | connectionEvent event now =>
      cases event with
      | opened =>
        exact ⟨fun h => (Bool.false_ne_true h).elim, fun h => (Bool.false_ne_true h).elim,
          fun h => (Bool.false_ne_true h).elim⟩
      | startdtConReceived =>
        refine ⟨fun _ => rfl, fun _ hunsent => hi.resolve_left ?_, fun _ _ => ⟨rfl, rfl⟩⟩
        exact Bool.eq_false_iff.mp hunsent
      | closed | stopdtConReceived | other => exact ⟨hs.started, hs.fresh, hs.restarted⟩
    | asdu a now =>
      rcases p.clear.asduReceivedHandler_syncFlags cfg now a with
        hkeep | ⟨⟨htype, e, he, hsome⟩, hsent⟩
      · exact hclear.congr hkeep
      -- a reply to a clock synchronisation command, which can only clear the sent flag
      · refine ⟨hs.started, fun hstarted hunsent => ?_, fun hfirst hunsent => ?_⟩
        · exact Bool.eq_false_iff.mpr fun h =>
            Bool.eq_false_iff.mp (hs.fresh hstarted hunsent) (hsent h)
        · exact absurd (hi hfirst hunsent htype e he) hsome
    | conThread env => exact hs.conThread henabled env
    | _ => cases htouch

theorem restarts (henabled : cfg.isTimeSyncEnabled) (hs : SyncInv s) : SyncRestarts cfg s i := by
  obtain ⟨p, w⟩ := s
  refine ⟨fun hstarted _ hwaits => ?_, ?_⟩
  · by_contra hunsent
    exact Bool.eq_false_iff.mp (hs.fresh hstarted (Bool.eq_false_iff.mpr hunsent)) hwaits
  · cases i with
    | conThread env =>
      intro hactive hfirst hunsent
      apply (p.clear.conThread_sync cfg env henabled hactive).1
      obtain ⟨hsync, hcompleted⟩ := hs.restarted hfirst hunsent
      have hsent := hs.fresh (hs.started hfirst) hunsent
      simp only at hsync hcompleted hsent
      simp [Connection.timeSyncDue, hsync, hcompleted, hsent]
    | _ => trivial

end SyncInv

/-- In every run with time synchronisation in which no session starts with a stale or foreign
clock synchronisation, every session synchronises in its first round. -/
theorem sync_restarts_of_along (cfg : IEC104ClientConfig) (t : ExchangeTable) (self : ConId)
    (is : List Input) (henabled : cfg.isTimeSyncEnabled)
    (h : Along (watch (step cfg) noteSync) NoStaleSync (Plugin.init t self, {}) is) :
    Along (watch (step cfg) noteSync) (SyncRestarts cfg) (Plugin.init t self, {}) is :=
  along_of_invariant (fun _ _ hs hi => SyncInv.step henabled hs hi)
    (fun _ _ hs _ => hs.restarts henabled)
    ⟨fun h => (Bool.false_ne_true h).elim, fun h => (Bool.false_ne_true h).elim,
      fun h => (Bool.false_ne_true h).elim⟩ h

/-- Two sessions; the command of the first one is answered. -/
theorem sync_restarts_two_sessions :
    Along (watch (step { timeSyncPeriod := 60 }) noteSync)
      (SyncRestarts { timeSyncPeriod := 60 }) (Plugin.init .empty 0, {})
      (firstRequest ++ [.asdu clockSyncConfirmation 100] ++ reconnect ++
        [.connectionEvent .startdtConReceived 10000, .conThread { syncTime := 10000 }]) :=
  sync_restarts_of_along { timeSyncPeriod := 60 } .empty 0 _ (by decide) (by decide)

/-- The session is lost before the command is answered, and the next one does not synchronise. -/
theorem unanswered_sync_blocks_next_session :
    ¬ Along (watch (step { timeSyncPeriod := 60 }) noteSync)
      (SyncRestarts { timeSyncPeriod := 60 }) (Plugin.init .empty 0, {})
      (firstRequest ++ reconnect ++
        [.connectionEvent .startdtConReceived 10000, .conThread { syncTime := 10000 }]) := by
  decide

end Iec104South
