import Iec104South.Lib.Typestate
import Iec104South.HandleDiscipline

/-!
# The protocol of a session

What happens to a `CS104_Connection` between its creation and its destruction: the calls of the
plugin and the events of lib60870, in their order. `session` is the protocol: connected once,
STARTDT once and in the open session, commands only after STARTDT and before the end of the
session, and no call after `CS104_Connection_destroy`.

* `PhaseInv`: what the state of the connection says about the session of its handle.
* `calls_follow_session`: as long as lib60870 delivers events in their order, the calls follow the
  protocol, for every handle and whatever the threads do.
* `connection_knows_session`: then the variables of the connection are right about its session.
-/

namespace Iec104South

open Reactive Typestate

/-! ## The protocol -/

inductive HandleAction where
  | call (c : HandleCall)
  | event (e : ConnectionEvent)
deriving DecidableEq, Repr

def HandleAction.isEvent : HandleAction → Bool
  | event _ => true
  | call _ => false

/-- Where a handle is in its session. -/
inductive SessionPhase where
  /-- not created, or being destroyed: lib60870 may close the session while it is destroyed -/
  | ended
  | created
  | connecting
  | opened
  | started
  | closed
deriving DecidableEq, Repr

/-- One session over one handle. STOPDT is never sent, so it is never confirmed. The thread may
send the clock synchronisation, or close the connection, when the session has just ended. -/
def session : Protocol SessionPhase HandleAction
  | .ended, .call .create => some .created
  | .ended, .event _ => some .ended
  | .created, .call .connectAsync => some .connecting
  | .connecting, .event .opened => some .opened
  | .opened, .call .sendStartDT => some .started
  | .started, .event .startdtConReceived => some .started
  | .started, .call .sendInterrogationCommand => some .started
  | .started, .call .sendProcessCommandEx => some .started
  | .started, .call .sendClockSyncCommand => some .started
  | .started, .call .close => some .started
  | .closed, .call .sendClockSyncCommand => some .closed
  | .closed, .call .close => some .closed
  | .connecting, .event .closed | .opened, .event .closed | .started, .event .closed => some .closed
  | .connecting, .call .destroy | .opened, .call .destroy | .started, .call .destroy
  | .closed, .call .destroy => some .ended
  | phase, .event .other => some phase
  | _, _ => none

/-- The calls of the plugin in a list of effects. -/
def handleActions (out : List Effect) : List (Handle × HandleAction) :=
  (handleCalls out).map fun a => (a.1, .call a.2)

/-- The event that lib60870 delivers in a step. -/
def ConThread.delivered (s : ConThread) : ConThreadInput → List (Handle × HandleAction)
  | .connectionEvent con event _ => if con ∈ s.undestroyed then [(con, .event event)] else []
  | _ => []

/-- A step of a connection, with the events that it gets and the calls that it makes. -/
def sessionStep (cfg : IEC104ClientConfig) :
    Machine ConThread ConThreadInput (Handle × HandleAction) :=
  fun s i => ((conThreadStep cfg s i).1, s.delivered i ++ handleActions (conThreadStep cfg s i).2)

/-! ## The invariant -/

/-- The sections of the periodic tasks. -/
def Section.IsTask (pc : Section) : Prop := pc = .active ∨ pc = .gi

/-- What the connection, its thread in the section `pc`, knows of the session of its handle. -/
structure Knows (pc : Section) (con : Connection) (phase : SessionPhase) : Prop where
  held : phase ≠ .ended ∧ phase ≠ .created
  connected : con.connected ↔ phase = .opened ∨ phase = .started
  inactive : con.connectionState = .connectedInactive → phase = .opened
  active : con.connectionState = .connectedActive → phase = .started
  tasks : pc.IsTask → phase = .started ∨ phase = .closed

/-- Only the handle of the connection has a session, and a connection that is connected has an open
one, or one that is open until it is destroyed. -/
structure PhaseInv (s : ConThread) (phase : Handle → SessionPhase) : Prop where
  knows : ∀ con ∈ s.plugin.con.connection, Knows s.pc s.plugin.con (phase con)
  others : ∀ con, con ∉ s.plugin.con.connection → phase con = .ended
  connected : s.plugin.con.connected → ∃ con ∈ s.undestroyed, con ∈ s.openSessions

namespace PhaseInv

variable {s : ConThread} {phase : Handle → SessionPhase}

/-- The calls of a section that keeps the session are possible, and keep the phases. -/
theorem after_of_keepsSession (hs : PhaseInv s phase) (hout : s.plugin.client.out = [])
    {reported : List AuditType} {q : Plugin} (hq : KeepsSession s.pc reported s.plugin q) :
    after session phase (handleActions q.client.out) = some phase := by
  obtain ⟨-, -, out, hq, hfit, -⟩ := hq
  rw [hout, List.nil_append] at hq
  rw [hq]
  refine after_of_keeps session fun a ha => ?_
  obtain ⟨call, hcalls, rfl⟩ := List.mem_map.mp ha
  obtain ⟨e, he, hcall⟩ := List.mem_filterMap.mp hcalls
  have hfits := hfit e he
  cases e with
  | create | connectAsync | sendStartDT | destroy => exact hfits.elim
  | ingest | connectionStatusAudit | clientStatusAudit => cases hcall
  | sendInterrogationCommand handle | sendProcessCommandEx handle =>
    obtain rfl := Option.some.inj hcall
    dsimp only
    rw [(hs.knows handle hfits.1).active hfits.2]
    rfl
  | close handle =>
    obtain rfl := Option.some.inj hcall
    dsimp only
    rcases (hs.knows handle hfits.1).tasks (.inr hfits.2) with h | h <;> rw [h] <;> rfl
  | sendClockSyncCommand con =>
    obtain ⟨handle, rfl, rfl⟩ := Option.map_eq_some_iff.mp hcall
    dsimp only
    rcases (hs.knows handle hfits.1).tasks (.inl hfits.2) with h | h <;> rw [h] <;> rfl

/-- The session is kept, and the thread may go on; to the periodic tasks only from the active
state. -/
theorem keep (hs : PhaseInv s phase) {reported : List AuditType} {q : Plugin}
    (hq : KeepsSession s.pc reported s.plugin q) {started : Bool} {pc : Section}
    (hpc : pc.IsTask → s.pc.IsTask ∨ s.plugin.con.connectionState = .connectedActive) :
    PhaseInv { s with plugin := q, started := started, pc := pc } phase := by
  have hconnection := hq.connection
  refine ⟨fun con hcon => ?_, fun con hcon => hs.others con (hconnection ▸ hcon),
    fun h => hs.connected (hq.connected ▸ h)⟩
  obtain ⟨hheld, hconnected, hinactive, hactive, htasks⟩ := hs.knows con (hconnection ▸ hcon)
  rw [← hq.connected] at hconnected
  rw [← hq.connectionState] at hinactive hactive
  exact ⟨hheld, hconnected, hinactive, hactive,
    fun h => (hpc h).elim htasks fun h => .inl (hactive (hq.connectionState.trans h))⟩

/-- The connection knows nothing of a session, and the thread is in no periodic task. -/
theorem forget (hs : PhaseInv s phase) {q : Plugin}
    (hconnection : q.con.connection = s.plugin.con.connection)
    (hconnected : q.con.connected = s.plugin.con.connected)
    (hstate : ¬ q.con.hasSession) {pc : Section} (hpc : ¬ pc.IsTask) :
    PhaseInv { s with plugin := q, pc := pc } phase := by
  refine ⟨fun con hcon => ?_, fun con hcon => hs.others con (hconnection ▸ hcon),
    fun h => hs.connected (hconnected ▸ h)⟩
  have hknows := hs.knows con (hconnection ▸ hcon)
  exact ⟨hknows.held, hconnected ▸ hknows.connected, fun h => absurd (.inl h) hstate,
    fun h => absurd (.inr h) hstate, fun h => absurd h hpc⟩

/-- The session of the handle goes on to another phase. -/
theorem update (hs : PhaseInv s phase) {s' : ConThread} {con : Handle} {x : SessionPhase}
    (hcon : s'.plugin.con.connection = some con)
    (hothers : ∀ con', con' ∈ s.plugin.con.connection → con' = con)
    (hknows : Knows s'.pc s'.plugin.con x)
    (hconnected : s'.plugin.con.connected → ∃ con ∈ s'.undestroyed, con ∈ s'.openSessions) :
    PhaseInv s' (Function.update phase con x) := by
  refine ⟨fun con' hcon' => ?_, fun con' hcon' => ?_, hconnected⟩
  · obtain rfl : con = con' := Option.some.inj (hcon.symm.trans hcon')
    rwa [Function.update_self]
  · rw [hcon] at hcon'
    have hne : con' ≠ con := fun h => hcon' (h ▸ rfl)
    rw [Function.update_of_ne hne]
    exact hs.others con' fun h => hne (hothers con' h)

end PhaseInv

/-- A step to `s'` with the actions `l`, from the phases `phase`. -/
def SessionStep (phase : Handle → SessionPhase) (l : List (Handle × HandleAction))
    (s' : ConThread) : Prop :=
  ∃ phase', after session phase l = some phase' ∧ PhaseInv s' phase'

/-- The switch begins the periodic tasks only in the active state. -/
theorem ConThread.Decides.isTask {env : Env} {s : ConThread} {pc pc' : Section}
    (h : s.Decides env pc pc') (htask : pc'.IsTask) :
    s.plugin.con.connectionState = .connectedActive := by
  cases h with
  | switch =>
    revert htask
    unfold Connection.switch Section.IsTask
    split <;> (try split_ifs) <;> simp_all
  | finish | disconnect | loop => rcases htask with h | h <;> cases h

theorem Section.Works.isTask {cfg : IEC104ClientConfig} {env : Env} {p q : Plugin}
    {pc pc' : Section} (h : pc.Works cfg env p q pc') (htask : pc'.IsTask) : pc.IsTask := by
  cases h with
  | active => exact .inl rfl
  | _ => rcases htask with h | h <;> cases h

theorem Knows.event {pc : Section} {con : Connection} {phase x : SessionPhase}
    (h : Knows pc con phase) {event : ConnectionEvent} {now : Nat}
    (hx : session phase (.event event) = some x) :
    Knows pc (con.connectionHandler event now) x := by
  obtain ⟨hended, hcreated⟩ := h.held
  cases event with
  | closed =>
    obtain rfl : SessionPhase.closed = x := by
      revert hx
      cases phase <;> simp_all [session]
    exact ⟨by decide, by simp [Connection.connectionHandler],
      fun h => absurd h (by simp [Connection.connectionHandler]),
      fun h => absurd h (by simp [Connection.connectionHandler]), fun _ => .inr rfl⟩
  | opened =>
    obtain ⟨rfl, rfl⟩ : phase = .connecting ∧ x = .opened := by
      revert hx
      cases phase <;> simp_all [session, eq_comm]
    exact ⟨by decide, by simp [Connection.connectionHandler], fun _ => rfl,
      fun h => absurd h (by simp [Connection.connectionHandler]),
      fun htask => absurd (h.tasks htask) (by decide)⟩
  | startdtConReceived =>
    obtain ⟨rfl, rfl⟩ : phase = .started ∧ x = .started := by
      revert hx
      cases phase <;> simp_all [session, eq_comm]
    exact ⟨by decide, h.connected, fun h => absurd h (by simp [Connection.connectionHandler]),
      fun _ => rfl, fun _ => .inl rfl⟩
  | stopdtConReceived =>
    revert hx
    cases phase <;> simp_all [session]
  | other =>
    obtain rfl : phase = x := by
      revert hx
      cases phase <;> simp_all [session]
    exact h

namespace SessionStep

variable {cfg : IEC104ClientConfig} {s : ConThread} {phase : Handle → SessionPhase}

theorem of_keepsSession (hs : PhaseInv s phase) (hout : s.plugin.client.out = [])
    {reported : List AuditType} {q : Plugin} (hq : KeepsSession s.pc reported s.plugin q)
    {started : Bool} {pc : Section}
    (hpc : pc.IsTask → s.pc.IsTask ∨ s.plugin.con.connectionState = .connectedActive) :
    SessionStep phase (handleActions q.client.out)
      { s with plugin := q, started := started, pc := pc } :=
  ⟨phase, hs.after_of_keepsSession hout hq, hs.keep hq hpc⟩

theorem refl (hs : PhaseInv s phase) (hout : s.plugin.client.out = []) :
    SessionStep phase (handleActions s.plugin.client.out) s :=
  of_keepsSession hs hout (.refl _) .inl

/-- The handle is taken. -/
theorem take (hs : PhaseInv s phase) (hout : s.plugin.client.out = []) (purpose : TakePurpose)
    (pc : Section) :
    SessionStep phase (handleActions (s.plugin.takeHandle purpose).client.out)
      { s with plugin := s.plugin.takeHandle purpose, pc := pc } := by
  have hnone : (purpose.take s.plugin.con).connection = none := by cases purpose <;> rfl
  have hconnected : (purpose.take s.plugin.con).connected →
      ∃ con ∈ s.undestroyed, con ∈ s.openSessions := by
    cases purpose with
    | reconnect | finish => exact hs.connected
    | disconnect => exact fun h => absurd h Bool.false_ne_true
  cases hcon : s.plugin.con.connection with
  | none =>
    refine ⟨phase, by simp [Plugin.takeHandle, hcon, hout, handleActions, handleCalls], ?_,
      fun con _ => ?_, hconnected⟩
    · intro con hcon'
      cases hnone.symm.trans hcon'
    · exact hs.others con (by simp [hcon])
  | some con =>
    have hheld := (hs.knows con hcon).held
    have hdestroy : session (phase con) (.call .destroy) = some .ended := by
      revert hheld
      cases phase con <;> simp [session]
    refine ⟨Function.update phase con .ended, ?_, ?_, fun con' _ => ?_, hconnected⟩
    · simp [Plugin.takeHandle, hcon, hout, handleActions, handleCalls, Effect.handleCall?, next,
        hdestroy]
    · intro con' hcon'
      cases hnone.symm.trans hcon'
    · rcases eq_or_ne con' con with rfl | hne
      · exact Function.update_self ..
      · rw [Function.update_of_ne hne]
        exact hs.others con' (by simpa [hcon] using hne.symm)

/-- A handle is created and connected. -/
theorem creates (hs : PhaseInv s phase) (hhandles : HandleInv s)
    (hout : s.plugin.client.out = []) (hpc : s.pc = .taken .reconnect) {env : Env} {con : Handle}
    (hcreated : env.created = some con) :
    SessionStep phase (handleActions (s.plugin.prepare env).2.client.out)
      { s with
        plugin := (s.plugin.prepare env).2
        undestroyed := con :: s.undestroyed
        pc := .checkDisconnect } := by
  obtain ⟨hnone, hempty⟩ := hhandles.taken hpc
  have hconnected : s.plugin.con.connected = false := by
    by_contra hconnected
    obtain ⟨con, hcon, -⟩ := hs.connected (Bool.not_eq_false _ ▸ hconnected)
    rw [hempty] at hcon
    cases hcon
  have hended : phase con = .ended := hs.others con (by simp [hnone])
  refine ⟨Function.update phase con .connecting, ?_, ?_⟩
  · simp [Plugin.prepare, hcreated, hnone, hout, handleActions, handleCalls, Effect.handleCall?,
      next, hended, session]
  · refine hs.update ?_ (by simp [hnone]) ?_ ?_
    · simp [Plugin.prepare, hcreated, hnone]
    · simp only [Plugin.prepare, hcreated, hnone]
      exact ⟨by decide, by simp [hconnected], fun h => absurd h (by simp),
        fun h => absurd h (by simp), fun h => by rcases h with h | h <;> cases h⟩
    · simp [Plugin.prepare, hcreated, hnone, hconnected]

/-- The destruction ends. A connection that was still connected would have an open session. -/
theorem destroyed (hs : PhaseInv s phase) (hhandles : HandleInv s)
    (hout : s.plugin.client.out = []) {con : Handle} {purpose : TakePurpose}
    (hpc : s.pc = .destroying con purpose) (hclosed : con ∉ s.openSessions) :
    SessionStep phase (handleActions s.plugin.client.out)
      { s with undestroyed := s.undestroyed.erase con, pc := .taken purpose } := by
  have hnone : s.plugin.con.connection = none := hhandles.handleless (by rw [hpc]; trivial)
  refine ⟨phase, by simp [hout, handleActions, handleCalls], by simp [hnone], hs.others,
    fun hconnected => ?_⟩
  obtain ⟨con', hcon', hopen⟩ := hs.connected hconnected
  rw [hhandles.undestroyed, hpc, hnone] at hcon'
  obtain rfl : con' = con := List.mem_singleton.mp hcon'
  exact absurd hopen hclosed

/-- The connection is left in a state without a session. -/
theorem leaves (hs : PhaseInv s phase) (hout : s.plugin.client.out = [])
    {reported : List AuditType} {q : Plugin} (hq : KeepsSession s.pc reported s.plugin q)
    {con : Connection} (hkept : con.connection = q.con.connection ∧
      con.connected = q.con.connected) (hsession : ¬ con.hasSession) :
    SessionStep phase (handleActions q.client.out)
      { s with plugin := { q with con := con }, pc := .checkDisconnect } :=
  ⟨phase, hs.after_of_keepsSession hout hq,
    hs.forget (hkept.1.trans hq.connection) (hkept.2.trans hq.connected) hsession nofun⟩

theorem thread (hs : PhaseInv s phase) (hhandles : HandleInv s)
    (hout : s.plugin.client.out = []) {env : Env} {s' : ConThread} (h : ThreadEffect cfg env s s') :
    SessionStep phase (handleActions s'.plugin.client.out) s' := by
  cases h with
  | stays => exact refl hs hout
  | decides hpc h => exact of_keepsSession hs hout (.refl _) fun htask => .inr (h.isTask htask)
  | takes | destroys => exact take hs hout _ _
  | destroyed hpc hclosed => exact destroyed hs hhandles hout hpc hclosed
  | works hpc h =>
    subst hpc
    exact of_keepsSession hs hout h.keepsSession fun htask => .inl (h.isTask htask)
  | creates hpc hnone hcreated => exact creates hs hhandles hout hpc hcreated
  | fails => exact leaves hs hout (.refl _) ⟨rfl, rfl⟩ (by simp [Connection.hasSession])
  | expires => exact leaves hs hout (.refl _) ⟨rfl, rfl⟩ (by simp [Connection.hasSession])
  | loses =>
    exact leaves hs hout (s.plugin.sendConnectionStatusAudit_keepsSession .disconnected)
      ⟨rfl, rfl⟩ (by simp [Connection.hasSession])

/-- An event of the handle of the connection, or of the handle that is being destroyed. -/
theorem connectionEvent (hs : PhaseInv s phase) (hhandles : HandleInv s) {con : Handle}
    (hcon : con ∈ s.undestroyed) (event : ConnectionEvent) (now : Nat)
    (henv : EnvFollows session (·.isEvent) phase (s.delivered (.connectionEvent con event now))) :
    SessionStep phase (s.delivered (.connectionEvent con event now))
      (s.connectionEvent con event now) := by
  have hsame : (s.plugin.con.connectionHandler event now).connection =
      s.plugin.con.connection := by
    cases event <;> rfl
  simp only [ConThread.connectionEvent, ConThread.delivered, if_pos hcon] at henv ⊢
  obtain ⟨x, hx⟩ := Option.isSome_iff_exists.mp (isSome_of_envFollows session henv rfl)
  refine ⟨Function.update phase con x, by simp [next, hx], ?_⟩
  have hconnected : (s.plugin.con.connectionHandler event now).connected →
      ∃ con' ∈ s.undestroyed, con' ∈ (s.connectionEvent con event now).openSessions := by
    simp only [ConThread.connectionEvent, if_pos hcon]
    cases event with
    | closed => exact fun h => absurd h Bool.false_ne_true
    | opened | startdtConReceived | stopdtConReceived =>
      exact fun _ => ⟨con, hcon, List.mem_cons_self⟩
    | other => exact hs.connected
  simp only [ConThread.connectionEvent, if_pos hcon] at hconnected
  by_cases hheld : con ∈ s.plugin.con.connection
  · refine hs.update ?_ (fun con' hcon' => Option.some.inj (hcon'.symm.trans hheld)) ?_ hconnected
    · exact hsame.trans hheld
    · exact (hs.knows con hheld).event hx
  · -- the handle is being destroyed
    have hended : phase con = .ended := hs.others con hheld
    have hnone : s.plugin.con.connection = none := by
      rw [hhandles.undestroyed, List.mem_append, Option.mem_toList, Option.mem_toList] at hcon
      refine hhandles.handleless ?_
      cases hpc : s.pc with
      | destroying => trivial
      | _ =>
        rw [hpc] at hcon
        exact absurd (hcon.resolve_left (by simp [Section.dying])) hheld
    rw [hended] at hx
    obtain rfl : SessionPhase.ended = x := Option.some.inj hx
    rw [← hended, Function.update_eq_self]
    refine ⟨fun con' hcon' => ?_, fun con' _ => hs.others con' (by simp [hnone]), hconnected⟩
    cases (hsame.trans hnone).symm.trans hcon'

/-- STARTDT is sent in an open session. -/
theorem activate (hs : PhaseInv s phase) (hout : s.plugin.client.out = [])
    (hinactive : s.plugin.con.connectionState = .connectedInactive) :
    SessionStep phase (handleActions (s.plugin.handle cfg .activate).client.out)
      { s with plugin := s.plugin.handle cfg .activate } := by
  simp only [Plugin.handle, Plugin.emit, hout, List.nil_append, Connection.activate, hinactive]
  cases hcon : s.plugin.con.connection with
  | none =>
    refine ⟨phase, rfl, fun con hcon' => ?_, fun con _ => hs.others con (by simp [hcon]),
      hs.connected⟩
    cases hcon'
  | some con =>
    have hknows := hs.knows con hcon
    have hopened := hknows.inactive hinactive
    refine ⟨Function.update phase con .started, ?_, ?_⟩
    · simp [handleActions, handleCalls, Effect.handleCall?, next, hopened, session]
    · refine hs.update ?_ (fun con' hcon' => Option.some.inj (hcon'.symm.trans hcon)) ?_
        hs.connected
      · rfl
      · have hconnected := hknows.connected.mpr (.inl hopened)
        exact ⟨by decide, iff_of_true hconnected (.inr rfl), fun h => absurd h (by simp),
          fun _ => rfl, fun _ => .inl rfl⟩

theorem of_effect (hs : PhaseInv s phase) (hhandles : HandleInv s)
    (hout : s.plugin.client.out = []) {i : ConThreadInput}
    (henv : EnvFollows session (·.isEvent) phase (s.delivered i)) {s' : ConThread}
    (h : StepEffect cfg s i s') :
    SessionStep phase (s.delivered i ++ handleActions s'.plugin.client.out) s' := by
  cases h with
  | thread h => exact thread hs hhandles hout h
  | keeps hi h =>
    have hnone : s.delivered i = [] := by
      cases i with
      | conThread => exact hi.elim
      | connectionEvent con event now => exact if_neg hi
      | _ => rfl
    rw [hnone]
    exact of_keepsSession hs hout h .inl
  | starts _ h => exact of_keepsSession hs hout h fun h => by rcases h with h | h <;> cases h
  | stops => exact of_keepsSession hs hout (.refl _) .inl
  | activates hinactive => exact activate hs hout hinactive
  | @event con event now hcon =>
    have hnone : handleActions (s.connectionEvent con event now).plugin.client.out = [] := by
      simp [ConThread.connectionEvent, hcon, hout, handleActions, handleCalls]
    rw [hnone, List.append_nil]
    exact connectionEvent hs hhandles hcon event now henv

end SessionStep

/-! ## Runs -/

theorem run_sessionStep (cfg : IEC104ClientConfig) (s : ConThread) (is : List ConThreadInput) :
    run (sessionStep cfg) s is = run (conThreadStep cfg) s is := by
  induction is generalizing s with
  | nil => rfl
  | cons i is ih => exact ih _

theorem run_session (cfg : IEC104ClientConfig) (t : ExchangeTable) (self : ConId)
    (is : List ConThreadInput)
    (henv : EnvFollows session (·.isEvent) (fun _ => .ended)
      (trace (sessionStep cfg) (ConThread.init t self) is)) :
    ∃ phase, after session (fun _ => .ended)
        (trace (sessionStep cfg) (ConThread.init t self) is) = some phase ∧
      PhaseInv (run (conThreadStep cfg) (ConThread.init t self) is) phase := by
  have hinit : HandleInv (ConThread.init t self) ∧
      PhaseInv (ConThread.init t self) fun _ => .ended :=
    ⟨.init t self, nofun, fun _ _ => rfl, nofun⟩
  obtain ⟨phase, hafter, -, hinv⟩ := follows_trace
    (R := fun (s : ConThread) phase => HandleInv s ∧ PhaseInv s phase)
    (fun s i phase hs henv => by
      have hclear : HandleInv s.clear :=
        ⟨hs.1.undestroyed, hs.1.handleless, hs.1.active, hs.1.session⟩
      have hcleared : PhaseInv s.clear phase := ⟨hs.2.knows, hs.2.others, hs.2.connected⟩
      have hstep : SessionStep phase
          (s.clear.delivered i ++ handleActions (s.clear.handle cfg i).plugin.client.out)
          (s.clear.handle cfg i) :=
        SessionStep.of_effect hcleared hclear rfl (envFollows_append session henv).1
          (s.clear.handle_effect cfg i)
      obtain ⟨phase', hafter, hs'⟩ := hstep
      exact ⟨phase', hafter, (hs.1.step cfg i).inv, hs'⟩) hinit henv
  rw [run_sessionStep] at hinv
  exact ⟨phase, hafter, hinv⟩

/-- In every run of a connection in which lib60870 delivers the events of each session in their
order, all calls and events of each handle follow the protocol of a session, again and again. -/
theorem calls_follow_session (cfg : IEC104ClientConfig) (t : ExchangeTable) (self : ConId)
    (is : List ConThreadInput)
    (henv : EnvFollows session (·.isEvent) (fun _ => .ended)
      (trace (sessionStep cfg) (ConThread.init t self) is)) (con : Handle) :
    ((word con (trace (sessionStep cfg) (ConThread.init t self) is)).foldlM session
      .ended).isSome := by
  obtain ⟨phase, hafter, -⟩ := run_session cfg t self is henv
  rw [(after_eq_some_iff session).mp hafter con]
  rfl

/-- A session is opened, started, and lost while the next commands are on their way. -/
def startedSession : List ConThreadInput :=
  [.start true, .conThread {}, .conThread {}, .conThread { created := some 1 },
    .connectionEvent 1 .opened 0, .call .activate, .connectionEvent 1 .startdtConReceived 0,
    .conThread {}, .conThread {}, .conThread { syncAccepted := true },
    .sendCommand (.sendSingleCommand 1 10 true false false 0) true, .connectionEvent 1 .closed 0,
    .sendCommand (.sendSingleCommand 1 10 true false false 0) true, .stop]

theorem calls_follow_session_started :
    let actions := trace (sessionStep {}) (ConThread.init .empty 0) startedSession
    actions.length = 7 ∧ ((word 1 actions).foldlM session .ended).isSome :=
  ⟨by decide, calls_follow_session {} .empty 0 startedSession (by decide) 1⟩

/-- In such a run the variables of the connection tell the truth about the session of its handle:
it is connected exactly while the session is open, inactive only before STARTDT, and active only
after it. -/
theorem connection_knows_session (cfg : IEC104ClientConfig) (t : ExchangeTable) (self : ConId)
    (is : List ConThreadInput)
    (henv : EnvFollows session (·.isEvent) (fun _ => .ended)
      (trace (sessionStep cfg) (ConThread.init t self) is)) {con : Handle}
    (hcon : (run (conThreadStep cfg) (ConThread.init t self) is).plugin.con.connection =
      some con) :
    let c := (run (conThreadStep cfg) (ConThread.init t self) is).plugin.con
    ∃ phase, (word con (trace (sessionStep cfg) (ConThread.init t self) is)).foldlM session
        .ended = some phase ∧
      (c.connected ↔ phase = .opened ∨ phase = .started) ∧
      (c.connectionState = .connectedInactive → phase = .opened) ∧
      (c.connectionState = .connectedActive → phase = .started) := by
  obtain ⟨phase, hafter, hinv⟩ := run_session cfg t self is henv
  have hknows := hinv.knows con hcon
  exact ⟨phase con, (after_eq_some_iff session).mp hafter con, hknows.connected, hknows.inactive,
    hknows.active⟩

theorem connection_knows_session_started :
    let is := startedSession.take 9
    let c := (run (conThreadStep {}) (ConThread.init .empty 0) is).plugin.con
    ∃ phase, (word 1 (trace (sessionStep {}) (ConThread.init .empty 0) is)).foldlM session
        .ended = some phase ∧
      (c.connected ↔ phase = .opened ∨ phase = .started) ∧
      (c.connectionState = .connectedInactive → phase = .opened) ∧
      (c.connectionState = .connectedActive → phase = .started) :=
  connection_knows_session {} .empty 0 (startedSession.take 9) (by decide) (by decide)

end Iec104South
