import Iec104South.ReconnectPacing
import Iec104South.SessionCalls

/-!
# What a section of the connection thread does

The thread goes on, takes the handle, waits until it is destroyed, works with it, creates one, or
notices that a delay has expired or that the session is lost.

* `ThreadEffect`: what a section can do (`nextSection_effect`).
* `StepEffect`: what a step of the connection, of its thread or of another one, can do
  (`handle_effect`).
-/

namespace Iec104South

open Reactive

/-- The status that the thread reports in a section. -/
def Section.reported : Section → List AuditType
  | .inactive => [.passive]
  | .active => [.active]
  | .closed | .taken .disconnect | .taken .finish => [.disconnected]
  | _ => []

/-- From `p` to `q` the connection stays asked for, with its state and its delay. -/
structure KeepsSetUp (p q : Plugin) : Prop where
  connect : p.con.connect → q.con.connect
  undisturbed : p.con.disconnect = false → q.con.disconnect = false
  connectionState : q.con.connectionState = p.con.connectionState
  delay : q.con.delayExpirationTime = p.con.delayExpirationTime

namespace KeepsSetUp

variable {p q r : Plugin}

theorem refl (p : Plugin) : KeepsSetUp p p := ⟨id, id, rfl, rfl⟩

theorem trans (hp : KeepsSetUp p q) (hq : KeepsSetUp q r) : KeepsSetUp p r :=
  ⟨fun h => hq.connect (hp.connect h), fun h => hq.undisturbed (hp.undisturbed h),
    hq.connectionState.trans hp.connectionState, hq.delay.trans hp.delay⟩

theorem of_link (hlink : q.con.link = p.con.link)
    (hdelay : q.con.delayExpirationTime = p.con.delayExpirationTime) : KeepsSetUp p q :=
  ⟨fun h => (congrArg Link.connect hlink).trans h,
    fun h => (congrArg Link.disconnect hlink).trans h,
    congrArg Link.connectionState hlink, hdelay⟩

theorem takeHandle (purpose : TakePurpose) : KeepsSetUp p (p.takeHandle purpose) := by
  cases purpose with
  | disconnect => exact ⟨id, fun _ => rfl, rfl, rfl⟩
  | reconnect | finish => exact ⟨id, id, rfl, rfl⟩

end KeepsSetUp

namespace Plugin

variable (cfg : IEC104ClientConfig) (env : Env) (p : Plugin)

theorem sendConnectionStatusAudit_keepsSetUp (auditType : AuditType) :
    KeepsSetUp p (p.sendConnectionStatusAudit auditType) := by
  rw [sendConnectionStatusAudit_eq]
  exact .of_link rfl rfl

theorem syncSection_keepsSetUp : KeepsSetUp p (p.syncSection cfg env) := by
  have haudit := p.sendConnectionStatusAudit_keepsSetUp .active
  have hsync (q : Plugin) : KeepsSetUp q (q.timeSyncTasks cfg env) := by
    obtain ⟨_, _, heq⟩ := q.timeSyncTasks_eq cfg env
    rw [heq]
    exact .of_link rfl rfl
  unfold syncSection
  dsimp only
  split_ifs
  · exact haudit.trans (hsync _)
  · exact haudit

theorem giSection_keepsSetUp : KeepsSetUp p (p.giSection cfg env) := by
  have hgi : KeepsSetUp p (p.giTasks cfg env) :=
    .of_link (p.giTasks_sameLink cfg env).1 (p.giTasks_keepsDelay cfg env).delay
  unfold giSection
  split_ifs
  · exact hgi
  · exact .refl p
  · exact .refl p

end Plugin

/-! ## The sections -/

/-- The sections that only decide which one is next. -/
inductive ConThread.Decides (env : Env) (s : ConThread) : Section → Section → Prop
  | switch (hstarted : s.started) : Decides env s .loop (s.plugin.con.switch env)
  | finish (hstopped : s.started = false) : Decides env s .loop (.take .finish)
  | disconnect (hdisconnect : s.plugin.con.disconnect) :
      Decides env s .checkDisconnect (.take .disconnect)
  | loop (hundisturbed : s.plugin.con.disconnect = false) : Decides env s .checkDisconnect .loop

/-- The sections that report or run periodic tasks: what they do, and where they lead. -/
inductive Section.Works (cfg : IEC104ClientConfig) (env : Env) (p : Plugin) :
    Section → Plugin → Section → Prop
  | disconnected :
      Works cfg env p (.taken .disconnect) (p.sendConnectionStatusAudit .disconnected) .loop
  | finished :
      Works cfg env p (.taken .finish) (p.sendConnectionStatusAudit .disconnected) .notRunning
  | inactive : Works cfg env p .inactive (p.sendConnectionStatusAudit .passive) .checkDisconnect
  | active : Works cfg env p .active (p.syncSection cfg env) .gi
  | gi : Works cfg env p .gi (p.giSection cfg env) .checkDisconnect

namespace Section.Works

variable {cfg : IEC104ClientConfig} {env : Env} {p q : Plugin} {pc pc' : Section}

theorem keepsSession (h : pc.Works cfg env p q pc') : KeepsSession pc pc.reported p q := by
  cases h with
  | disconnected | finished | inactive => exact p.sendConnectionStatusAudit_keepsSession _
  | active => exact p.syncSection_keepsSession cfg env rfl
  | gi => exact p.giSection_keepsSession cfg env rfl

theorem keepsSetUp (h : pc.Works cfg env p q pc') : KeepsSetUp p q := by
  cases h with
  | disconnected | finished | inactive => exact p.sendConnectionStatusAudit_keepsSetUp _
  | active => exact p.syncSection_keepsSetUp cfg env
  | gi => exact p.giSection_keepsSetUp cfg env

end Section.Works

/-- What a section of the thread can do. -/
inductive ThreadEffect (cfg : IEC104ClientConfig) (env : Env) (s : ConThread) : ConThread → Prop
  /-- there is no thread, or the session of the handle has to be closed first -/
  | stays (h : s.pc = .notRunning ∨
      ∃ con ∈ s.openSessions, ∃ purpose, s.pc = .destroying con purpose) : ThreadEffect cfg env s s
  | decides {pc pc' : Section} (hpc : s.pc = pc) (h : s.Decides env pc pc') :
      ThreadEffect cfg env s { s with pc := pc' }
  | takes {purpose : TakePurpose} (hpc : s.pc = .take purpose)
      (hnone : s.plugin.con.connection = none) :
      ThreadEffect cfg env s { s with plugin := s.plugin.takeHandle purpose, pc := .taken purpose }
  | destroys {purpose : TakePurpose} {con : Handle} (hpc : s.pc = .take purpose)
      (hcon : s.plugin.con.connection = some con) :
      ThreadEffect cfg env s
        { s with plugin := s.plugin.takeHandle purpose, pc := .destroying con purpose }
  | destroyed {con : Handle} {purpose : TakePurpose} (hpc : s.pc = .destroying con purpose)
      (hclosed : con ∉ s.openSessions) :
      ThreadEffect cfg env s { s with undestroyed := s.undestroyed.erase con, pc := .taken purpose }
  | works {pc pc' : Section} {q : Plugin} (hpc : s.pc = pc)
      (h : pc.Works cfg env s.plugin q pc') :
      ThreadEffect cfg env s { s with plugin := q, pc := pc' }
  | creates {con : Handle} (hpc : s.pc = .taken .reconnect)
      (hnone : s.plugin.con.connection = none) (hcreated : env.created = some con) :
      ThreadEffect cfg env s
        { s with
          plugin := (s.plugin.prepare env).2
          undestroyed := con :: s.undestroyed
          pc := .checkDisconnect }
  /-- no handle is created: a fatal error -/
  | fails (hpc : s.pc = .taken .reconnect)
      (hfails : s.plugin.con.connection = none → env.created = none) :
      ThreadEffect cfg env s
        { s with
          plugin := { s.plugin with con := { s.plugin.con with connectionState := .fatalError } }
          pc := .checkDisconnect }
  | expires (hpc : s.pc = .expired) :
      ThreadEffect cfg env s
        { s with
          plugin := { s.plugin with con := { s.plugin.con with connectionState := .idle } }
          pc := .checkDisconnect }
  /-- the session is lost -/
  | loses (hpc : s.pc = .closed) :
      ThreadEffect cfg env s
        { s with plugin := s.plugin.closedSection env, pc := .checkDisconnect }

/-- A handle is created where there is none. -/
theorem Plugin.prepare_cases (env : Env) (p : Plugin) :
    (∃ con, p.con.connection = none ∧ env.created = some con ∧ (p.prepare env).1 = some con) ∨
      ((p.con.connection = none → env.created = none) ∧
        p.prepare env =
          (none, { p with con := { p.con with connectionState := .fatalError } })) := by
  unfold prepare
  split
  · next con hnone hcreated => exact .inl ⟨con, hnone, hcreated, rfl⟩
  · next hfails =>
    refine .inr ⟨fun hnone => Option.eq_none_iff_forall_ne_some.mpr fun con hcreated => ?_, rfl⟩
    exact hfails con hnone hcreated

theorem ConThread.nextSection_effect (cfg : IEC104ClientConfig) (env : Env) (s : ConThread) :
    ThreadEffect cfg env s (s.nextSection cfg env) := by
  cases hpc : s.pc with
  | notRunning =>
    simp only [nextSection, hpc]
    exact .stays (.inl hpc)
  | loop =>
    simp only [nextSection, hpc]
    split_ifs with hstarted
    · exact .decides hpc (.switch hstarted)
    · exact .decides hpc (.finish (Bool.eq_false_iff.mpr hstarted))
  | take purpose =>
    simp only [nextSection, hpc]
    cases hcon : s.plugin.con.connection with
    | none => exact .takes hpc hcon
    | some con => exact .destroys hpc hcon
  | destroying con purpose =>
    simp only [nextSection, hpc]
    split_ifs with hopen
    · exact .stays (.inr ⟨con, hopen, purpose, hpc⟩)
    · exact .destroyed hpc hopen
  | taken purpose =>
    cases purpose with
    | reconnect =>
      simp only [nextSection, hpc]
      rcases s.plugin.prepare_cases env with ⟨con, hnone, hcreated, hprepared⟩ | ⟨hfails, hprepared⟩
      · rw [hprepared]
        exact .creates hpc hnone hcreated
      · rw [hprepared]
        exact .fails hpc hfails
    | disconnect =>
      simp only [nextSection, hpc]
      exact .works hpc .disconnected
    | finish =>
      simp only [nextSection, hpc]
      exact .works hpc .finished
  | expired =>
    simp only [nextSection, hpc]
    exact .expires hpc
  | inactive =>
    simp only [nextSection, hpc]
    exact .works hpc .inactive
  | active =>
    simp only [nextSection, hpc]
    exact .works hpc .active
  | gi =>
    simp only [nextSection, hpc]
    exact .works hpc .gi
  | closed =>
    simp only [nextSection, hpc]
    exact .loses hpc
  | checkDisconnect =>
    simp only [nextSection, hpc]
    split_ifs with hdisconnect
    · exact .decides hpc (.disconnect hdisconnect)
    · exact .decides hpc (.loop (Bool.eq_false_iff.mpr hdisconnect))

/-! ## The steps of all threads -/

/-- The input is no section of the thread, and no event is delivered. -/
def ConThreadInput.IsOther (s : ConThread) : ConThreadInput → Prop
  | .conThread _ => False
  | .connectionEvent con _ _ => con ∉ s.undestroyed
  | _ => True

/-- What a step of the connection can do. -/
inductive StepEffect (cfg : IEC104ClientConfig) (s : ConThread) :
    ConThreadInput → ConThread → Prop
  | thread {env : Env} {s' : ConThread} (h : ThreadEffect cfg env s s') :
      StepEffect cfg s (.conThread env) s'
  | keeps {i : ConThreadInput} {q : Plugin} (hi : i.IsOther s)
      (h : KeepsSession s.pc [] s.plugin q) : StepEffect cfg s i { s with plugin := q }
  | starts {conn : Bool} {q : Plugin} (hpc : s.pc = .notRunning)
      (h : KeepsSession s.pc [] s.plugin q) :
      StepEffect cfg s (.start conn) { s with plugin := q, started := true, pc := .loop }
  | stops : StepEffect cfg s .stop { s with started := false }
  /-- STARTDT is sent -/
  | activates (hinactive : s.plugin.con.connectionState = .connectedInactive) :
      StepEffect cfg s (.call .activate) { s with plugin := s.plugin.handle cfg .activate }
  | event {con : Handle} {event : ConnectionEvent} {now : Nat} (hcon : con ∈ s.undestroyed) :
      StepEffect cfg s (.connectionEvent con event now) (s.connectionEvent con event now)

theorem ConThread.handle_effect (cfg : IEC104ClientConfig) (s : ConThread) (i : ConThreadInput) :
    StepEffect cfg s i (s.handle cfg i) := by
  cases i with
  | start conn =>
    simp only [handle, start]
    split_ifs with hstopped
    · exact .starts hstopped.2 (.of_out_eq rfl rfl)
    · exact .keeps trivial (.refl _)
  | stop => exact .stops
  | conThread env => exact .thread (s.nextSection_effect cfg env)
  | connectionEvent con event now =>
    by_cases hcon : con ∈ s.undestroyed
    · exact .event hcon
    · simp only [handle, connectionEvent, if_neg hcon]
      exact .keeps hcon (.refl _)
  | asdu con a now =>
    simp only [handle]
    split_ifs
    · exact .keeps trivial (s.plugin.asduReceivedHandler_keepsSession cfg now a)
    · exact .keeps trivial (.refl _)
  | sendCommand op accepted => exact .keeps trivial (.of_unaudited rfl rfl (.send op accepted))
  | call i =>
    simp only [handle]
    split_ifs with hcall
    · rcases eq_or_ne i .activate with rfl | hne
      · by_cases hinactive : s.plugin.con.connectionState = .connectedInactive
        · exact .activates hinactive
        · have hnothing : s.plugin.handle cfg .activate = s.plugin := by
            simp [Plugin.handle, Plugin.emit, Connection.activate, hinactive]
          rw [hnothing]
          exact .keeps trivial (.refl _)
      · exact .keeps trivial (s.plugin.handle_keepsSession cfg hcall hne)
    · exact .keeps trivial (.refl _)

end Iec104South
