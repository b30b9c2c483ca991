import Iec104South.Lib.Resource
import Iec104South.ThreadSections

/-!
# The handles of a connection

`handles_disciplined`: in every run each `CS104_Connection` is destroyed once, there are never two
that are not destroyed, and no function of lib60870 is called for a null pointer or for a handle
whose destruction has begun. The clock synchronisation command is sent without a look at the
handle; the thread gets there only from the active state, which is left when the session is
closed, and a handle with an open session is not destroyed before its session is closed.
-/

namespace Iec104South

open Reactive Resource

/-- What a call of lib60870 does with its handle. -/
def Effect.handleOp? : Effect → Option (Op Handle)
  | .create con => some (.acquire con)
  | .destroy con => some (.release con)
  | .connectAsync con | .close con | .sendStartDT con | .sendInterrogationCommand con _ _
  | .sendProcessCommandEx con _ _ _ _ => some (.use (some con))
  | .sendClockSyncCommand con _ _ => some (.use con)
  | .ingest .. | .connectionStatusAudit _ | .clientStatusAudit _ => none

/-- The calls of lib60870 in a list of effects. -/
def handleOps (out : List Effect) : List (Op Handle) := out.filterMap Effect.handleOp?

/-- The calls of lib60870 are made for the handle the connection holds. -/
def UsesHandle (con : Connection) (out : List Effect) : Prop :=
  ∀ op ∈ handleOps out, ∃ handle ∈ con.connection, op = .use (some handle)

/-- The effects that keep the session use the handle; the clock synchronisation, which is sent
without a look at it, in a section that is reached with a handle. -/
theorem usesHandle_of_fits {pc : Section} {con : Connection} {out : List Effect}
    (h : ∀ e ∈ out, e.Fits pc con) (hactive : pc = .active → con.connection.isSome) :
    UsesHandle con out := by
  intro op hop
  obtain ⟨e, he, hcall⟩ := List.mem_filterMap.mp hop
  have hfits := h e he
  cases e with
  | create | connectAsync | sendStartDT | destroy => exact hfits.elim
  | ingest | connectionStatusAudit | clientStatusAudit => cases hcall
  | sendInterrogationCommand handle | sendProcessCommandEx handle | close handle =>
    exact ⟨handle, hfits.1, (Option.some.inj hcall).symm⟩
  | sendClockSyncCommand con' =>
    obtain ⟨handle, hhandle⟩ := Option.isSome_iff_exists.mp (hactive hfits.2)
    refine ⟨handle, hhandle, (Option.some.inj hcall).symm.trans ?_⟩
    rw [← hfits.1, hhandle]

/-- The states that only the events of a session lead to. -/
def Connection.hasSession (con : Connection) : Prop :=
  con.connectionState = .connectedInactive ∨ con.connectionState = .connectedActive

/-- From `p` to `q` the handle is kept, no session is opened, and only that handle is used. -/
structure KeepsHandle (p q : Plugin) : Prop where
  connection : q.con.connection = p.con.connection
  session : q.con.hasSession → p.con.hasSession
  uses : ∃ out, q.client.out = p.client.out ++ out ∧ UsesHandle p.con out

theorem KeepsHandle.of_keepsSession {p q : Plugin} {pc : Section} {reported : List AuditType}
    (hq : KeepsSession pc reported p q) (hactive : pc = .active → p.con.connection.isSome) :
    KeepsHandle p q := by
  have hstate := hq.connectionState
  obtain ⟨out, hout, hfits, -⟩ := hq.calls
  refine ⟨hq.connection, fun hsession => ?_, out, hout, usesHandle_of_fits hfits hactive⟩
  unfold Connection.hasSession at hsession
  rwa [hstate] at hsession

/-! ## The invariant -/

/-- The sections in which the connection holds no handle. -/
def Section.handleless : Section → Prop
  | .destroying .. | .taken _ | .notRunning => True
  | _ => False

/-- The handles that are not destroyed are the one the connection holds and the one the thread
destroys, and there is only one of them; a state of a session has an open session. -/
structure HandleInv (s : ConThread) : Prop where
  undestroyed : s.undestroyed = s.pc.dying.toList ++ s.plugin.con.connection.toList
  handleless : s.pc.handleless → s.plugin.con.connection = none
  /-- after the switch has found the active state there is a handle -/
  active : s.pc = .active → s.plugin.con.connection.isSome
  session : s.plugin.con.hasSession → ∃ con ∈ s.undestroyed, con ∈ s.openSessions

/-- No handle is left when the thread has taken it. -/
theorem HandleInv.taken {s : ConThread} (hs : HandleInv s) {purpose : TakePurpose}
    (hpc : s.pc = .taken purpose) : s.plugin.con.connection = none ∧ s.undestroyed = [] := by
  have hnone : s.plugin.con.connection = none := hs.handleless (by rw [hpc]; trivial)
  refine ⟨hnone, ?_⟩
  rw [hs.undestroyed, hpc, hnone]
  rfl

/-- A step to `s'` that keeps the invariant and the discipline. -/
structure HandleStep (s s' : ConThread) : Prop where
  inv : HandleInv s'
  disciplined : Disciplined s.plugin.con.connection.toList (handleOps s'.plugin.client.out)
  held : after s.plugin.con.connection.toList (handleOps s'.plugin.client.out) =
    s'.plugin.con.connection.toList

/-- No case of the switch begins without the handle. -/
theorem Connection.switch_keeps (env : Env) (con : Connection) :
    (con.switch env).dying = none ∧ ¬ (con.switch env).handleless ∧
      (con.switch env = .active → con.connectionState = .connectedActive) := by
  unfold Connection.switch
  split <;> (try split_ifs) <;> simp_all [Section.dying, Section.handleless]

/-- The next section is another than those of a destruction, and the active one only in the active
state. -/
theorem ConThread.Decides.keeps {env : Env} {s : ConThread} {pc pc' : Section}
    (h : s.Decides env pc pc') :
    pc.dying = none ∧ pc'.dying = none ∧ ¬ pc'.handleless ∧
      (pc' = .active → s.plugin.con.connectionState = .connectedActive) := by
  cases h with
  | switch => exact ⟨rfl, s.plugin.con.switch_keeps env⟩
  | finish | disconnect | loop => exact ⟨rfl, rfl, id, nofun⟩

theorem Section.Works.keeps {cfg : IEC104ClientConfig} {env : Env} {p q : Plugin}
    {pc pc' : Section} (h : pc.Works cfg env p q pc') :
    pc'.dying = pc.dying ∧ (pc'.handleless → pc.handleless) ∧ pc' ≠ .active := by
  cases h with
  | finished => exact ⟨rfl, id, nofun⟩
  | _ => exact ⟨rfl, False.elim, nofun⟩

namespace HandleStep

variable {cfg : IEC104ClientConfig} {s : ConThread}

/-- Steps that keep the handle and use it. The thread may go on to another section, but not to
one that depends on the handle. -/
theorem of_keepsHandle (hs : HandleInv s) (hout : s.plugin.client.out = []) {q : Plugin}
    (hq : KeepsHandle s.plugin q) {started : Bool} {pc : Section}
    (hdying : pc.dying = s.pc.dying) (hless : pc.handleless → s.pc.handleless)
    (hactive : pc = .active → q.con.connection.isSome) :
    HandleStep s { s with plugin := q, started := started, pc := pc } := by
  obtain ⟨hsame, hsession, out, hq, huses⟩ := hq
  rw [hout, List.nil_append] at hq
  have hops : ∀ op ∈ handleOps q.client.out, ∃ con ∈ s.plugin.con.connection.toList,
      op = .use (some con) := by
    intro op hop
    rw [hq] at hop
    obtain ⟨con, hcon, rfl⟩ := huses op hop
    exact ⟨con, Option.mem_toList.mpr hcon, rfl⟩
  obtain ⟨hdisciplined, hafter⟩ := disciplined_of_uses hops
  refine ⟨⟨?_, fun h => ?_, hactive, fun h => hs.session (hsession h)⟩, hdisciplined, ?_⟩
  · show s.undestroyed = pc.dying.toList ++ q.con.connection.toList
    rw [hdying, hsame, hs.undestroyed]
  · exact hsame.trans (hs.handleless (hless h))
  · show after _ (handleOps q.client.out) = q.con.connection.toList
    rw [hafter, hsame]

theorem refl (hs : HandleInv s) (hout : s.plugin.client.out = []) : HandleStep s s :=
  of_keepsHandle hs hout (.of_keepsSession (.refl _) hs.active) rfl id hs.active

/-- The handle is taken, and its destruction begins. -/
theorem take (hs : HandleInv s) (hout : s.plugin.client.out = []) {purpose : TakePurpose}
    (hpc : s.pc = .take purpose) {pc : Section} (hless : pc.handleless)
    (hdying : pc.dying = s.plugin.con.connection) :
    HandleStep s { s with plugin := s.plugin.takeHandle purpose, pc := pc } := by
  have hheld : s.undestroyed = s.plugin.con.connection.toList := by
    rw [hs.undestroyed, hpc]
    rfl
  have htaken : (purpose.take s.plugin.con).connection = none ∧
      ((purpose.take s.plugin.con).hasSession → s.plugin.con.hasSession) := by
    cases purpose with
    | _ => exact ⟨rfl, id⟩
  have hinactive : pc ≠ .active := by
    rintro rfl
    exact hless
  refine ⟨⟨?_, fun _ => htaken.1, fun h => absurd h hinactive,
    fun h => hs.session (htaken.2 h)⟩, ?_, ?_⟩
  · simp [hheld, hdying, Plugin.takeHandle, htaken.1]
  · cases hcon : s.plugin.con.connection with
    | none => simp [Plugin.takeHandle, hcon, hout, handleOps, Disciplined]
    | some con =>
      simp [Plugin.takeHandle, hcon, hout, handleOps, Effect.handleOp?, Disciplined, Op.Allowed]
  · cases hcon : s.plugin.con.connection with
    | none => simp [Plugin.takeHandle, hcon, hout, handleOps, htaken.1]
    | some con =>
      simp [Plugin.takeHandle, hcon, hout, handleOps, Effect.handleOp?, Op.next, htaken.1]

/-- The destruction ends; the session is closed then. -/
theorem destroyed (hs : HandleInv s) (hout : s.plugin.client.out = []) {con : Handle}
    {purpose : TakePurpose} (hpc : s.pc = .destroying con purpose)
    (hclosed : con ∉ s.openSessions) :
    HandleStep s { s with undestroyed := s.undestroyed.erase con, pc := .taken purpose } := by
  have hnone : s.plugin.con.connection = none := hs.handleless (by rw [hpc]; trivial)
  have honly : s.undestroyed = [con] := by
    rw [hs.undestroyed, hpc, hnone]
    rfl
  refine ⟨⟨?_, fun _ => hnone, by simp, fun hsession => ?_⟩, ?_, ?_⟩
  · simp [honly, hnone, Section.dying]
  · obtain ⟨con', hcon', hopen'⟩ := hs.session hsession
    rw [honly, List.mem_singleton] at hcon'
    exact absurd (hcon' ▸ hopen') hclosed
  · simp [hout, handleOps, Disciplined]
  · simp [hout, handleOps]

/-- A handle is created when there is none. -/
theorem creates (hs : HandleInv s) (hout : s.plugin.client.out = [])
    (hpc : s.pc = .taken .reconnect) {env : Env} {con : Handle}
    (hcreated : env.created = some con) :
    HandleStep s
      { s with
        plugin := (s.plugin.prepare env).2
        undestroyed := con :: s.undestroyed
        pc := .checkDisconnect } := by
  obtain ⟨hnone, hempty⟩ := hs.taken hpc
  refine ⟨⟨?_, False.elim, by simp, ?_⟩, ?_, ?_⟩
  · simp [Plugin.prepare, hcreated, hnone, hempty, Section.dying]
  · simp [Plugin.prepare, hcreated, hnone, Connection.hasSession]
  · simp [Plugin.prepare, hcreated, hnone, hout, handleOps, Effect.handleOp?, Disciplined,
      Op.Allowed, Op.next]
  · simp [Plugin.prepare, hcreated, hnone, hout, handleOps, Effect.handleOp?, Op.next]

/-- The connection is left in a state without a session. -/
theorem leaves (hs : HandleInv s) (hout : s.plugin.client.out = []) {q : Plugin}
    (hconnection : q.con.connection = s.plugin.con.connection) (hsession : ¬ q.con.hasSession)
    {out : List Effect} (hq : q.client.out = s.plugin.client.out ++ out)
    (huses : UsesHandle s.plugin.con out) (hdying : s.pc.dying = none) :
    HandleStep s { s with plugin := q, pc := .checkDisconnect } :=
  of_keepsHandle hs hout ⟨hconnection, fun h => absurd h hsession, out, hq, huses⟩ hdying.symm
    False.elim nofun

theorem thread (hs : HandleInv s) (hout : s.plugin.client.out = []) {env : Env} {s' : ConThread}
    (h : ThreadEffect cfg env s s') : HandleStep s s' := by
  have hnothing : UsesHandle s.plugin.con [] := by simp [UsesHandle, handleOps]
  cases h with
  | stays => exact refl hs hout
  | decides hpc h =>
    obtain ⟨hdying, hdying', hless, hactive⟩ := h.keeps
    refine of_keepsHandle hs hout (.of_keepsSession (.refl _) hs.active) ?_
      (fun h => absurd h hless) fun h => ?_
    · rw [hpc, hdying, hdying']
    · obtain ⟨con, hcon, -⟩ := hs.session (.inr (hactive h))
      rw [hs.undestroyed, hpc, hdying] at hcon
      exact Option.isSome_of_mem (Option.mem_toList.mp hcon)
  | takes hpc hnone => exact take hs hout hpc trivial hnone.symm
  | destroys hpc hcon => exact take hs hout hpc trivial hcon.symm
  | destroyed hpc hclosed => exact destroyed hs hout hpc hclosed
  | works hpc h =>
    obtain ⟨hdying, hless, hactive⟩ := h.keeps
    subst hpc
    exact of_keepsHandle hs hout (.of_keepsSession h.keepsSession hs.active) hdying hless
      fun h => absurd h hactive
  | creates hpc hnone hcreated => exact creates hs hout hpc hcreated
  | fails hpc =>
    exact leaves hs hout rfl (by simp [Connection.hasSession]) (List.append_nil _).symm hnothing
      (by rw [hpc]; rfl)
  | expires hpc =>
    exact leaves hs hout rfl (by simp [Connection.hasSession]) (List.append_nil _).symm hnothing
      (by rw [hpc]; rfl)
  | loses hpc =>
    have haudit : KeepsSession .closed [.disconnected] s.plugin
        (s.plugin.sendConnectionStatusAudit .disconnected) :=
      s.plugin.sendConnectionStatusAudit_keepsSession .disconnected
    obtain ⟨out, hq, hfits, -⟩ := haudit.calls
    exact leaves hs hout haudit.connection (by simp [Connection.hasSession, Plugin.closedSection])
      hq (usesHandle_of_fits hfits nofun) (by rw [hpc]; rfl)

/-- An event opens the session it reports on, or closes it. -/
theorem connectionEvent (hs : HandleInv s) (hout : s.plugin.client.out = []) {con : Handle}
    (hcon : con ∈ s.undestroyed) (event : ConnectionEvent) (now : Nat) :
    HandleStep s (s.connectionEvent con event now) := by
  have hsame : (s.plugin.con.connectionHandler event now).connection =
      s.plugin.con.connection := by
    cases event <;> rfl
  unfold ConThread.connectionEvent
  rw [if_pos hcon]
  refine ⟨⟨?_, fun h => hsame.trans (hs.handleless h), fun h => ?_, fun hsession => ?_⟩, ?_, ?_⟩
  · rw [hsame]
    exact hs.undestroyed
  · rw [hsame]
    exact hs.active h
  · cases event with
    | closed => rcases hsession with h | h <;> cases h
    | opened | startdtConReceived | stopdtConReceived => exact ⟨con, hcon, List.mem_cons_self⟩
    | other => exact hs.session hsession
  · simp [hout, handleOps, Disciplined]
  · simp [hout, handleOps, hsame]

/-- STARTDT is sent on the handle. -/
theorem activate_keepsHandle (p : Plugin) : KeepsHandle p (p.handle cfg .activate) := by
  have hactivate : p.con.activate.2.connection = p.con.connection ∧
      (p.con.activate.2.hasSession → p.con.hasSession) ∧
      UsesHandle p.con p.con.activate.1 := by
    unfold Connection.activate
    split_ifs with hinactive
    · exact ⟨rfl, fun _ => .inl hinactive, by simp [UsesHandle, handleOps, Effect.handleOp?]⟩
    · exact ⟨rfl, id, by simp [UsesHandle, handleOps]⟩
  exact ⟨hactivate.1, hactivate.2.1, _, rfl, hactivate.2.2⟩

theorem of_effect (hs : HandleInv s) (hout : s.plugin.client.out = []) {i : ConThreadInput}
    {s' : ConThread} (h : StepEffect cfg s i s') : HandleStep s s' := by
  have hkeep {q : Plugin} (hq : KeepsHandle s.plugin q) : HandleStep s { s with plugin := q } := by
    refine of_keepsHandle hs hout hq rfl id fun hpc => ?_
    rw [hq.connection]
    exact hs.active hpc
  cases h with
  | thread h => exact thread hs hout h
  | keeps _ h => exact hkeep (.of_keepsSession h hs.active)
  | starts hpc h =>
    exact of_keepsHandle hs hout (.of_keepsSession h hs.active) (by rw [hpc]; rfl) False.elim nofun
  | stops => exact of_keepsHandle hs hout (.of_keepsSession (.refl _) hs.active) rfl id hs.active
  | activates => exact hkeep (activate_keepsHandle s.plugin)
  | event hcon => exact connectionEvent hs hout hcon _ _

end HandleStep

/-! ## Runs -/

theorem HandleInv.length_undestroyed {s : ConThread} (hs : HandleInv s) :
    s.undestroyed.length ≤ 1 := by
  rw [hs.undestroyed]
  cases hpc : s.pc with
  | destroying con purpose =>
    rw [hs.handleless (by rw [hpc]; trivial)]
    rfl
  | _ => exact Option.length_toList_le

theorem HandleInv.init (t : ExchangeTable) (self : ConId) : HandleInv (ConThread.init t self) :=
  ⟨rfl, fun _ => rfl, nofun, fun h => h.elim nofun nofun⟩

theorem HandleInv.step (cfg : IEC104ClientConfig) {s : ConThread} (hs : HandleInv s)
    (i : ConThreadInput) : HandleStep s (conThreadStep cfg s i).1 := by
  have hclear : HandleInv s.clear := ⟨hs.undestroyed, hs.handleless, hs.active, hs.session⟩
  obtain ⟨hinv, hdisciplined, hheld⟩ : HandleStep s.clear (s.clear.handle cfg i) :=
    HandleStep.of_effect hclear rfl (s.clear.handle_effect cfg i)
  exact ⟨hinv, hdisciplined, hheld⟩

/-- In every run of a connection: the calls of lib60870 are disciplined, so each is made for a
handle that is not destroyed; there are never two handles that are not destroyed; a handle was
destroyed as often as it was created, but for the one that the connection holds; and it holds
none when the thread has ended. -/
theorem handles_disciplined (cfg : IEC104ClientConfig) (t : ExchangeTable) (self : ConId)
    (is : List ConThreadInput) :
    let s := run (conThreadStep cfg) (ConThread.init t self) is
    let ops := handleOps (trace (conThreadStep cfg) (ConThread.init t self) is)
    Disciplined [] ops ∧ s.undestroyed.length ≤ 1 ∧
      (∀ con, ops.count (.acquire con) =
        ops.count (.release con) + s.plugin.con.connection.toList.count con) ∧
      (s.pc = .notRunning → s.undestroyed = [] ∧
        ∀ con, ops.count (.acquire con) = ops.count (.release con)) := by
  intro s ops
  have hinit : HandleInv (ConThread.init t self) := .init t self
  have hinv : HandleInv s :=
    run_of_always (always_of_invariant (fun _ i hs => (hs.step cfg i).inv) (fun _ => id) hinit)
  obtain ⟨hdisciplined, hafter⟩ := disciplined_trace Effect.handleOp?
    (fun s : ConThread => s.plugin.con.connection.toList) (fun _ i hs => (hs.step cfg i).inv)
    (fun _ i hs => ⟨(hs.step cfg i).disciplined, (hs.step cfg i).held⟩) hinit is
  have hcount (con : Handle) : ops.count (.acquire con) =
      ops.count (.release con) + s.plugin.con.connection.toList.count con := by
    have h := count_acquire_add hdisciplined con
    rw [hafter] at h
    exact h
  refine ⟨hdisciplined, hinv.length_undestroyed, hcount, fun hpc => ⟨?_, fun con => ?_⟩⟩
  · rw [hinv.undestroyed, hinv.handleless (by rw [hpc]; trivial), hpc]
    rfl
  · rw [hcount, hinv.handleless (by rw [hpc]; trivial)]
    rfl

/-- A connection is opened and stopped. Its session is closed while it is destroyed. -/
example :
    handleOps (trace (conThreadStep {}) (ConThread.init .empty 0)
      [.start true, .conThread {}, .conThread {}, .conThread { created := some 1 },
        .connectionEvent 1 .opened 0, .call .activate, .stop, .conThread {}, .conThread {},
        .conThread {}, .conThread {}, .connectionEvent 1 .closed 0, .call .activate,
        .conThread {}, .conThread {}]) =
      [.acquire 1, .use (some 1), .use (some 1), .release 1] := by
  decide

end Iec104South
