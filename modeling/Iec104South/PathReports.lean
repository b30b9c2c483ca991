import Iec104South.HandleDiscipline

/-!
# The audits of a path

A path is reported when its status is another one than the last that was reported.

* `path_audits_destutter`: the audits are the statuses that the sections of the thread report,
  without repetitions, and in IDLE, CONNECTING, WAIT_FOR_RECONNECT and FATAL_ERROR, or without a
  thread, the path is reported as disconnected.
* `fatal_error_final`: after a fatal error the connection calls no `CS104_Connection` function and
  reports nothing more.
-/

namespace Iec104South

open Reactive Change

/-- The status that a step reports: only the sections of the thread do. -/
def ConThread.reported (s : ConThread) : ConThreadInput → List AuditType
  | .conThread _ => s.pc.reported
  | _ => []

/-- From `s` to `s'` these statuses are reported. -/
structure ReportStep (s : ConThread) (reported : List AuditType) (s' : ConThread) : Prop where
  audits : pathAudits s'.plugin.client.out = changes s.plugin.con.last_audit reported
  last : s'.plugin.con.last_audit = reported.getLastD s.plugin.con.last_audit

namespace ReportStep

variable {cfg : IEC104ClientConfig} {s : ConThread}

theorem of_keepsSession (hout : s.plugin.client.out = []) {pc : Section}
    {reported : List AuditType} {q : Plugin} (hq : KeepsSession pc reported s.plugin q)
    {s' : ConThread} (hs' : s'.plugin = q) : ReportStep s reported s' := by
  obtain ⟨-, hlast, out, hout', -, haudits⟩ := hq
  rw [hout, List.nil_append] at hout'
  exact ⟨by rw [hs', hout', haudits], by rw [hs', hlast]⟩

/-- Steps that report nothing. -/
theorem quiet {s' : ConThread} (haudits : pathAudits s'.plugin.client.out = [])
    (hlast : s'.plugin.con.last_audit = s.plugin.con.last_audit) : ReportStep s [] s' :=
  ⟨haudits, hlast⟩

theorem same (hout : s.plugin.client.out = []) {s' : ConThread}
    (hs' : s'.plugin.client.out = s.plugin.client.out)
    (hlast : s'.plugin.con.last_audit = s.plugin.con.last_audit) : ReportStep s [] s' :=
  quiet (by rw [hs', hout]; rfl) hlast

theorem take (hout : s.plugin.client.out = []) (purpose : TakePurpose) (pc : Section) :
    ReportStep s [] { s with plugin := s.plugin.takeHandle purpose, pc := pc } := by
  refine quiet ?_ ?_
  · simp [Plugin.takeHandle, hout, pathAudits, Effect.pathAudit?]
  · cases purpose <;> rfl

theorem thread (hout : s.plugin.client.out = []) {env : Env} {s' : ConThread}
    (h : ThreadEffect cfg env s s') : ReportStep s s.pc.reported s' := by
  cases h with
  | stays hpc =>
    rcases hpc with hpc | ⟨con, -, purpose, hpc⟩ <;>
    · rw [hpc]
      exact same hout rfl rfl
  | decides hpc h =>
    rw [hpc]
    cases h <;> exact same hout rfl rfl
  | takes hpc | destroys hpc =>
    rw [hpc]
    exact take hout _ _
  | destroyed hpc | fails hpc | expires hpc =>
    rw [hpc]
    exact same hout rfl rfl
  | works hpc h =>
    rw [hpc]
    exact of_keepsSession hout h.keepsSession rfl
  | creates hpc hnone hcreated =>
    rw [hpc]
    refine quiet ?_ ?_ <;>
    simp [Plugin.prepare, hnone, hcreated, hout, pathAudits, Effect.pathAudit?]
  | loses hpc =>
    rw [hpc]
    have hkeeps : KeepsSession .closed [.disconnected] s.plugin
        (s.plugin.sendConnectionStatusAudit .disconnected) :=
      s.plugin.sendConnectionStatusAudit_keepsSession .disconnected
    have haudit : ReportStep s [.disconnected] { s with
        plugin := s.plugin.sendConnectionStatusAudit .disconnected } :=
      of_keepsSession hout hkeeps rfl
    exact ⟨haudit.audits, haudit.last⟩

theorem of_effect (hout : s.plugin.client.out = []) {i : ConThreadInput} {s' : ConThread}
    (h : StepEffect cfg s i s') : ReportStep s (s.reported i) s' := by
  cases h with
  | thread h => exact thread hout h
  | @keeps i _ hi h =>
    have hnone : s.reported i = [] := by
      cases i with
      | conThread => exact hi.elim
      | _ => rfl
    rw [hnone]
    exact of_keepsSession hout h rfl
  | starts _ h => exact of_keepsSession hout h rfl
  | stops => exact same hout rfl rfl
  | activates hinactive =>
    refine quiet ?_ ?_ <;>
    simp [Plugin.handle, Plugin.emit, Connection.activate, hinactive, hout, pathAudits,
      Effect.pathAudit?]
  | @event con event now hcon =>
    simp only [ConThread.connectionEvent, if_pos hcon]
    exact same hout rfl (by cases event <;> rfl)

end ReportStep

/-! ## Paths that are down -/

/-- IDLE, CONNECTING, WAIT_FOR_RECONNECT and FATAL_ERROR. In CLOSED the session is lost, but the
thread has yet to report it. -/
def ConState.IsDown : ConState → Prop
  | .idle | .connecting | .waitForReconnect | .fatalError => True
  | .connectedInactive | .connectedActive | .closed => False

/-- The sections that lead to one of these states, and the end of the thread. -/
def Section.IsDown : Section → Prop
  | .expired | .take .reconnect | .destroying _ .reconnect | .taken .reconnect | .notRunning => True
  | _ => False

/-- The sections that a session, or its end, has led to. -/
def Section.IsUp : Section → Prop
  | .inactive | .active | .gi | .closed => True
  | _ => False

/-- The switch leads to a section of its kind. -/
theorem Connection.switch_isDown (env : Env) (con : Connection) :
    ((con.switch env).IsDown → con.connectionState.IsDown) ∧
      ((con.switch env).IsUp → ¬ con.connectionState.IsDown) := by
  unfold Connection.switch
  split <;> (try split_ifs) <;> simp_all [Section.IsDown, Section.IsUp, ConState.IsDown]

/-- A path that is down is reported as disconnected. -/
structure DownInv (s : ConThread) : Prop where
  state : s.plugin.con.connectionState.IsDown → s.plugin.con.last_audit = .disconnected
  pc : s.pc.IsDown → s.plugin.con.last_audit = .disconnected
  up : s.pc.IsUp → ¬ s.plugin.con.connectionState.IsDown

namespace DownInv

variable {cfg : IEC104ClientConfig} {s : ConThread}

/-- The state is kept, and nothing is reported. -/
theorem keep (hs : DownInv s) {q : Plugin}
    (hstate : q.con.connectionState.IsDown → s.plugin.con.connectionState.IsDown)
    (hlast : q.con.last_audit = s.plugin.con.last_audit) {s' : ConThread} (hs' : s'.plugin = q)
    (hdown : s'.pc.IsDown → s.pc.IsDown ∨ s.plugin.con.connectionState.IsDown)
    (hup : s'.pc.IsUp → s.pc.IsUp ∨ ¬ s.plugin.con.connectionState.IsDown) : DownInv s' := by
  subst hs'
  refine ⟨fun h => ?_, fun h => ?_, fun h hdown' => ?_⟩
  · rw [hlast]
    exact hs.state (hstate h)
  · rw [hlast]
    exact (hdown h).elim hs.pc hs.state
  · exact (hup h).elim (fun h => hs.up h (hstate hdown')) fun h => h (hstate hdown')

/-- The thread has reported that the path is disconnected. -/
theorem disconnected {s' : ConThread} (hlast : s'.plugin.con.last_audit = .disconnected)
    (hup : ¬ s'.pc.IsUp) : DownInv s' :=
  ⟨fun _ => hlast, fun _ => hlast, fun h => absurd h hup⟩

/-- A section that a session has led to keeps the state. -/
theorem of_up (hs : DownInv s) (hpc : s.pc.IsUp) {s' : ConThread}
    (hstate : s'.plugin.con.connectionState = s.plugin.con.connectionState)
    (hdown : ¬ s'.pc.IsDown) : DownInv s' := by
  have hup : ¬ s'.plugin.con.connectionState.IsDown := hstate ▸ hs.up hpc
  exact ⟨fun h => absurd h hup, fun h => absurd h hdown, fun _ => hup⟩

theorem thread (hs : DownInv s) {env : Env} {s' : ConThread} (h : ThreadEffect cfg env s s') :
    DownInv s' := by
  have hgone {q : Plugin} (hlast : q.con.last_audit = .disconnected) {undestroyed : List Handle} :
      DownInv { s with plugin := q, undestroyed := undestroyed, pc := .checkDisconnect } :=
    disconnected hlast id
  cases h with
  | stays => exact hs
  | decides hpc h =>
    cases h with
    | switch =>
      obtain ⟨hdown, hup⟩ := s.plugin.con.switch_isDown env
      exact hs.keep id rfl rfl (fun h => .inr (hdown h)) fun h => .inr (hup h)
    | finish | disconnect | loop => exact hs.keep id rfl rfl False.elim False.elim
  | @takes purpose hpc | @destroys purpose _ hpc =>
    refine hs.keep ?_ ?_ rfl (fun h => .inl ?_) False.elim
    · cases purpose <;> exact id
    · cases purpose <;> rfl
    · rw [hpc]
      cases purpose <;> exact h
  | @destroyed _ purpose hpc =>
    refine hs.keep id rfl rfl (fun h => .inl ?_) False.elim
    rw [hpc]
    cases purpose <;> exact h
  | works hpc h =>
    have hkeeps := h.keepsSession
    cases h with
    | disconnected | finished => exact disconnected hkeeps.last id
    | inactive | active | gi =>
      exact hs.of_up (by rw [hpc]; trivial) hkeeps.connectionState id
  | creates hpc hnone hcreated =>
    have hlast := hs.pc (by rw [hpc]; trivial)
    exact hgone (by simpa [Plugin.prepare, hnone, hcreated] using hlast)
  | fails hpc | expires hpc =>
    refine hgone ?_
    exact hs.pc (by rw [hpc]; trivial)
  | loses =>
    refine hgone ?_
    rw [Plugin.closedSection, Plugin.sendConnectionStatusAudit_eq]

theorem of_effect (hs : DownInv s) {i : ConThreadInput} {s' : ConThread}
    (h : StepEffect cfg s i s') : DownInv s' := by
  cases h with
  | thread h => exact thread hs h
  | keeps _ h => exact hs.keep (fun hdown => h.connectionState ▸ hdown) h.last rfl .inl .inl
  | starts _ h =>
    exact hs.keep (fun hdown => h.connectionState ▸ hdown) h.last rfl False.elim False.elim
  | stops => exact hs.keep id rfl rfl .inl .inl
  | activates hinactive =>
    refine hs.keep ?_ ?_ rfl .inl .inl <;>
    simp [Plugin.handle, Plugin.emit, Connection.activate, hinactive, ConState.IsDown]
  | @event con event now hcon =>
    simp only [ConThread.connectionEvent, if_pos hcon]
    refine hs.keep ?_ ?_ rfl .inl .inl
    · cases event with
      | other => exact id
      | _ => exact False.elim
    · cases event <;> rfl

end DownInv

/-! ## Runs -/

section

variable (cfg : IEC104ClientConfig)

theorem conThreadStep_serves (s : ConThread) (i : ConThreadInput) :
    Serves (conThreadStep cfg) (·.plugin.con.last_audit) Effect.pathAudit? ConThread.reported
      s i := by
  have hstep : ReportStep s.clear (s.clear.reported i) (s.clear.handle cfg i) :=
    .of_effect rfl (s.clear.handle_effect cfg i)
  have hsame : s.clear.reported i = s.reported i := by cases i <;> rfl
  rw [hsame] at hstep
  exact ⟨hstep.audits, hstep.last⟩

theorem downInv_run (t : ExchangeTable) (self : ConId) (is : List ConThreadInput) :
    DownInv (run (conThreadStep cfg) (ConThread.init t self) is) := by
  refine run_of_always (always_of_invariant (I := DownInv) (fun s i hs => ?_) (fun _ hs => hs) ?_)
  · have hclear : DownInv s.clear := ⟨hs.state, hs.pc, hs.up⟩
    exact hclear.of_effect (s.clear.handle_effect cfg i)
  · exact .disconnected rfl id

/-- In every run of a connection: the audits of its path, after the first one, are the statuses that
the sections of its thread report, without repetitions. Who reads them knows the status that was
reported last, and knows the path to be disconnected in IDLE, CONNECTING, WAIT_FOR_RECONNECT and
FATAL_ERROR, and when the thread has ended. -/
theorem path_audits_destutter (t : ExchangeTable) (self : ConId) (is : List ConThreadInput) :
    let start := ConThread.init t self
    let s := run (conThreadStep cfg) start is
    let audits := pathAudits (trace (conThreadStep cfg) start is)
    .disconnected :: audits =
        (trace (asking (conThreadStep cfg) ConThread.reported) start is).destutter' (· ≠ ·)
          .disconnected ∧
      s.plugin.con.last_audit = audits.getLastD .disconnected ∧
      (s.plugin.con.connectionState.IsDown ∨ s.pc = .notRunning →
        audits.getLastD .disconnected = .disconnected) := by
  intro start s audits
  have hserves : Along (conThreadStep cfg) (Serves (conThreadStep cfg)
      (·.plugin.con.last_audit) Effect.pathAudit? ConThread.reported) start is :=
    along_of_forall_step (I := fun _ => True) (fun _ _ _ => trivial)
      (fun s i _ => conThreadStep_serves cfg s i) trivial
  obtain ⟨haudits, hlast⟩ := run_serves hserves
  have hdown : DownInv s := downInv_run cfg t self is
  have hknown : s.plugin.con.last_audit = audits.getLastD .disconnected := by
    rw [hlast, ← getLastD_changes, ← haudits]
    rfl
  refine ⟨?_, hknown, fun h => hknown ▸ h.elim hdown.state fun hpc => hdown.pc ?_⟩
  · rw [← cons_changes]
    exact congrArg _ haudits
  · rw [hpc]
    trivial

/-- A path becomes active, and is reported as disconnected when its session is lost. -/
example :
    pathAudits (trace (conThreadStep {}) (ConThread.init .empty 0)
      ([.start true, .conThread {}, .conThread {}, .conThread { created := some 1 },
        .connectionEvent 1 .opened 0, .call .activate] ++
          List.replicate 8 (.conThread {}) ++ [.connectionEvent 1 .closed 0] ++
          List.replicate 4 (.conThread {}))) = [.active, .disconnected] := by
  decide

end

/-! ## Fatal errors -/

/-- The sections of a thread that has nothing to do. -/
def Section.IsCalm : Section → Prop
  | .loop | .checkDisconnect | .take .disconnect | .taken .disconnect | .take .finish
  | .taken .finish | .notRunning => True
  | _ => False

/-- A connection that could not be prepared. -/
structure Failed (s : ConThread) : Prop where
  state : s.plugin.con.connectionState = .fatalError
  connection : s.plugin.con.connection = none
  undestroyed : s.undestroyed = []
  last : s.plugin.con.last_audit = .disconnected
  calm : s.pc.IsCalm

/-- The step leaves the connection failed, and does nothing to be seen. -/
structure FailedStep (s' : ConThread) : Prop where
  failed : Failed s'
  calls : handleCalls s'.plugin.client.out = []
  audits : pathAudits s'.plugin.client.out = []

namespace Failed

variable {cfg : IEC104ClientConfig} {s : ConThread}

theorem keep (hs : Failed s) (hout : s.plugin.client.out = []) {reported : List AuditType}
    {pc' : Section} {q : Plugin} (hq : KeepsSession pc' reported s.plugin q)
    (hreported : ∀ status ∈ reported, status = .disconnected) {started : Bool} {pc : Section}
    (hcalm : pc.IsCalm) : FailedStep { s with plugin := q, started := started, pc := pc } := by
  obtain ⟨hnone, hsame⟩ := changes_of_forall_eq hreported
  have hconnection := hq.connection.trans hs.connection
  have hstate := hq.connectionState.trans hs.state
  obtain ⟨-, hlast, out, hout', hfit, haudits⟩ := hq
  rw [hout, List.nil_append] at hout'
  rw [hs.last] at hlast haudits
  refine ⟨⟨hstate, hconnection, hs.undestroyed, hlast.trans hsame, hcalm⟩, ?_, ?_⟩
  · -- every call would be made for the handle
    refine List.filterMap_eq_nil_iff.mpr fun e he => ?_
    rw [hout'] at he
    exact (hfit e he).handleCall?_eq_none hs.connection
  · rw [hout', haudits, hnone]

theorem thread (hs : Failed s) (hout : s.plugin.client.out = []) {env : Env} {s' : ConThread}
    (h : ThreadEffect cfg env s s') : FailedStep s' := by
  have hcalm := hs.calm
  have hsame : KeepsSession s.pc [] s.plugin s.plugin := .refl _
  have hnext {pc : Section} (hpc : pc.IsCalm) : FailedStep { s with pc := pc } :=
    hs.keep hout hsame (by simp) hpc
  cases h with
  | stays => exact hnext hs.calm
  | decides hpc h =>
    cases h with
    | switch =>
      have hswitch : s.plugin.con.switch env = .checkDisconnect := by
        rw [Connection.switch, hs.state]
      rw [hswitch]
      exact hnext trivial
    | finish | disconnect | loop => exact hnext trivial
  | @takes purpose hpc hnone =>
    rw [hpc] at hcalm
    cases purpose with
    | reconnect => cases hcalm
    | disconnect | finish =>
      refine ⟨⟨hs.state, rfl, hs.undestroyed, hs.last, trivial⟩, ?_, ?_⟩ <;>
      simp [Plugin.takeHandle, hs.connection, hout, handleCalls, pathAudits]
  | destroys hpc hcon => cases hs.connection.symm.trans hcon
  | works hpc h =>
    have hkeeps := h.keepsSession
    rw [hpc] at hcalm
    cases h with
    | disconnected | finished => exact hs.keep hout hkeeps (by simp [Section.reported]) trivial
    | inactive | active | gi => cases hcalm
  | destroyed hpc | creates hpc | fails hpc | expires hpc | loses hpc =>
    rw [hpc] at hcalm
    cases hcalm

theorem of_effect (hs : Failed s) (hout : s.plugin.client.out = []) {i : ConThreadInput}
    {s' : ConThread} (h : StepEffect cfg s i s') : FailedStep s' := by
  cases h with
  | thread h => exact hs.thread hout h
  | keeps _ h => exact hs.keep hout h (by simp) hs.calm
  | starts _ h => exact hs.keep hout h (by simp) trivial
  | stops =>
    have hsame : KeepsSession s.pc [] s.plugin s.plugin := .refl _
    exact hs.keep hout hsame (by simp) hs.calm
  | activates hinactive => cases hs.state.symm.trans hinactive
  | event hcon =>
    rw [hs.undestroyed] at hcon
    cases hcon

end Failed

/-- A step in which the preparation fails is the only one that leads to the fatal error. -/
theorem fatal_cases {cfg : IEC104ClientConfig} {s s' : ConThread} (hhandles : HandleInv s)
    (hdown : DownInv s) {i : ConThreadInput} (h : StepEffect cfg s i s')
    (hfatal : s'.plugin.con.connectionState = .fatalError) :
    s.plugin.con.connectionState = .fatalError ∨ Failed s' := by
  cases h with
  | keeps _ h | starts _ h => exact .inl (h.connectionState.symm.trans hfatal)
  | stops => exact .inl hfatal
  | activates hinactive =>
    simp [Plugin.handle, Plugin.emit, Connection.activate, hinactive] at hfatal
  | @event con event now hcon =>
    simp only [ConThread.connectionEvent, if_pos hcon] at hfatal
    cases event with
    | other => exact .inl hfatal
    | _ => cases hfatal
  | thread h =>
    cases h with
    | stays | decides | destroyed => exact .inl hfatal
    | @takes purpose | @destroys purpose =>
      have hkept : KeepsSetUp s.plugin (s.plugin.takeHandle purpose) := .takeHandle purpose
      exact .inl (hkept.connectionState.symm.trans hfatal)
    | works _ h => exact .inl (h.keepsSession.connectionState.symm.trans hfatal)
    | creates _ hnone hcreated => simp [Plugin.prepare, hnone, hcreated] at hfatal
    | fails hpc =>
      obtain ⟨hnone, hempty⟩ := hhandles.taken hpc
      exact .inr ⟨rfl, hnone, hempty, hdown.pc (by rw [hpc]; trivial), trivial⟩
    | expires | loses => cases hfatal

section

variable (cfg : IEC104ClientConfig)

theorem Failed.step {s : ConThread} (hs : Failed s) (i : ConThreadInput) :
    FailedStep (conThreadStep cfg s i).1 := by
  have hclear : Failed s.clear := ⟨hs.state, hs.connection, hs.undestroyed, hs.last, hs.calm⟩
  obtain ⟨hfailed, hcalls, haudits⟩ : FailedStep (s.clear.handle cfg i) :=
    hclear.of_effect rfl (s.clear.handle_effect cfg i)
  exact ⟨hfailed, hcalls, haudits⟩

theorem Failed.run {s : ConThread} (hs : Failed s) (js : List ConThreadInput) :
    (run (conThreadStep cfg) s js).plugin.con.connectionState = .fatalError ∧
      handleCalls (trace (conThreadStep cfg) s js) = [] ∧
      pathAudits (trace (conThreadStep cfg) s js) = [] := by
  induction js generalizing s with
  | nil => exact ⟨hs.state, rfl, rfl⟩
  | cons j js ih =>
    obtain ⟨hnext, hcalls, haudits⟩ := hs.step cfg j
    obtain ⟨hstate, hlaterCalls, hlaterAudits⟩ := ih hnext
    refine ⟨hstate, ?_, ?_⟩
    · rw [trace, handleCalls_append, hlaterCalls, List.append_nil]
      exact hcalls
    · rw [trace, pathAudits_append, hlaterAudits, List.append_nil]
      exact haudits

/-- What is known of a connection in every run: after a fatal error it has failed. -/
structure FatalInv (s : ConThread) : Prop where
  handles : HandleInv s
  down : DownInv s
  failed : s.plugin.con.connectionState = .fatalError → Failed s

theorem FatalInv.step {s : ConThread} (hs : FatalInv s) (i : ConThreadInput) :
    FatalInv (conThreadStep cfg s i).1 := by
  have hhandles : HandleInv s.clear :=
    ⟨hs.handles.undestroyed, hs.handles.handleless, hs.handles.active, hs.handles.session⟩
  have hdown : DownInv s.clear := ⟨hs.down.state, hs.down.pc, hs.down.up⟩
  have heffect := s.clear.handle_effect cfg i
  refine ⟨(hs.handles.step cfg i).inv, hdown.of_effect heffect, fun hfatal => ?_⟩
  rcases fatal_cases hhandles hdown heffect hfatal with hbefore | hfailed
  · exact ((hs.failed hbefore).step cfg i).failed
  · exact hfailed

/-- In every run of a connection: after a fatal error, whatever happens later and also when the
thread is stopped, it stays in this state, calls no `CS104_Connection` function and audits nothing.
(The thread that is stopped may still call `TLSConfiguration_destroy`.) -/
theorem fatal_error_final (t : ExchangeTable) (self : ConId) (is js : List ConThreadInput)
    (hfatal : (run (conThreadStep cfg) (ConThread.init t self) is).plugin.con.connectionState =
      .fatalError) :
    let s := run (conThreadStep cfg) (ConThread.init t self) is
    (run (conThreadStep cfg) s js).plugin.con.connectionState = .fatalError ∧
      handleCalls (trace (conThreadStep cfg) s js) = [] ∧
      pathAudits (trace (conThreadStep cfg) s js) = [] := by
  intro s
  have hinit : FatalInv (ConThread.init t self) :=
    ⟨.init t self, .disconnected rfl id, nofun⟩
  have hinv : FatalInv s :=
    run_of_always (always_of_invariant (fun _ i hs => hs.step cfg i) (fun _ hs => hs) hinit)
  exact (hinv.failed hfatal).run cfg js

theorem fatal_error_final_stopped :
    let s := run (conThreadStep {}) (ConThread.init .empty 0)
      [.start true, .conThread {}, .conThread {}, .conThread {}]
    let js : List ConThreadInput :=
      [.call .activate, .stop] ++ List.replicate 5 (.conThread { created := some 1 })
    (run (conThreadStep {}) s js).plugin.con.connectionState = .fatalError ∧
      handleCalls (trace (conThreadStep {}) s js) = [] ∧
      pathAudits (trace (conThreadStep {}) s js) = [] :=
  fatal_error_final {} .empty 0 [.start true, .conThread {}, .conThread {}, .conThread {}] _
    (by decide)

end

end Iec104South
