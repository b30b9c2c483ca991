import Iec104South.TlsImport
import Iec104South.HandleDiscipline

/-!
# The TLS configuration objects of a connection

`prepareConnection` creates a `TLSConfiguration` at each attempt, and `m_tlsConfig` takes it if
the connection can be created. `tls_objects_released_iff`: what is created and not destroyed is
what `m_tlsConfig` holds, in every state of a run, if and only if no attempt fails to load the
own key or certificate, and none succeeds while `m_tlsConfig` holds the object of an earlier one.
An object of a failed attempt is not destroyed, and a reconnect overwrites `m_tlsConfig`.
-/

namespace Iec104South

open Reactive Resource

/-- The connection thread with its configuration objects. -/
structure TlsThread where
  thread : ConThread
  /-- the number of objects so far, which is the identity of the next one -/
  created : Nat := 0
  /-- `m_tlsConfig` -/
  tlsConfig : Option Nat := none
  /-- the local variable with which the thread ends -/
  taken : Option Nat := none

namespace TlsThread

variable (c : ImportedConfig) (group : RedGroup) (con : RedGroupConnection)

/-- The TLS part of `prepareConnection`. -/
def prepareTls (tls : TlsEnv) (s : TlsThread) : TlsThread × List (Op Nat) :=
  if group.useTls then
    let tlsConfig := s.created
    let s := { s with created := s.created + 1 }
    if (tlsConfiguration tls c).isSome then
      if tls.created.isSome then ({ s with tlsConfig := some tlsConfig }, [.acquire tlsConfig])
      else (s, [.acquire tlsConfig, .release tlsConfig])
    else (s, [.acquire tlsConfig])
  else (s, [])

/-- The thread is about to create the handle of a connection. -/
def preparing (s : TlsThread) : Bool :=
  s.thread.pc = .taken .reconnect ∧ s.thread.plugin.con.connection = none

/-- What a section of the thread does with the objects. -/
def tlsSection (tls : TlsEnv) (s : TlsThread) : TlsThread × List (Op Nat) :=
  if s.preparing then s.prepareTls c group tls
  else if s.thread.pc = .take .finish then
    ({ s with tlsConfig := none, taken := s.tlsConfig }, [])
  else if s.thread.pc = .taken .finish then
    ({ s with taken := none }, s.taken.toList.map .release)
  else (s, [])

/-- The handle of a round is the one `prepareConnection` returns. -/
def roundEnv (env : Env) (tls : TlsEnv) : Env :=
  { env with created := (prepareConnection tls c group con).map (·.handle) }

def handle (s : TlsThread) (tls : TlsEnv) : ConThreadInput → TlsThread × List (Op Nat)
  | .conThread env =>
    let next := s.tlsSection c group tls
    ({ next.1 with
      thread := s.thread.clear.handle c.config (.conThread (roundEnv c group con env tls)) },
      next.2)
  | i => ({ s with thread := s.thread.clear.handle c.config i }, [])

/-- A connection as it is constructed. -/
def init (t : ExchangeTable) (self : ConId) : TlsThread where
  thread := ConThread.init t self

end TlsThread

/-- One step of a connection and its thread, with what happens to the objects. -/
def tlsStep (c : ImportedConfig) (group : RedGroup) (con : RedGroupConnection) :
    Machine TlsThread (ConThreadInput × TlsEnv) (Op Nat) :=
  fun s i => s.handle c group con i.2 i.1

/-- The creations and destructions of objects so far. -/
abbrev TlsHistory := List (Op Nat)

def noteTls (ops : TlsHistory) (_ : TlsThread) (_ : ConThreadInput × TlsEnv)
    (out : List (Op Nat)) : TlsHistory :=
  ops ++ out

/-! ## The phases of the thread -/

/-- Whether the thread runs its loop, destroys what it held, or has ended. -/
inductive ThreadPhase where
  | running
  | ending
  | ended
deriving DecidableEq, Repr

def Section.phase : Section → ThreadPhase
  | .destroying _ .finish | .taken .finish => .ending
  | .notRunning => .ended
  | _ => .running

theorem Connection.switch_phase (env : Env) (con : Connection) :
    (con.switch env).phase = .running := by
  unfold Connection.switch
  split <;> (try split_ifs) <;> rfl

/-- Only the two sections with which the thread ends change the phase. -/
theorem ThreadEffect.phase {cfg : IEC104ClientConfig} {env : Env} {s s' : ConThread}
    (h : ThreadEffect cfg env s s') (htake : s.pc ≠ .take .finish)
    (htaken : s.pc ≠ .taken .finish) : s'.pc.phase = s.pc.phase := by
  cases h with
  | stays => rfl
  | decides hpc h =>
    rw [hpc]
    cases h with
    | switch => exact Connection.switch_phase env s.plugin.con
    | finish | disconnect | loop => rfl
  | @takes purpose hpc | @destroys purpose _ hpc =>
    rw [hpc]
    cases purpose with
    | finish => exact absurd hpc htake
    | reconnect | disconnect => rfl
  | @destroyed _ purpose hpc =>
    rw [hpc]
    cases purpose <;> rfl
  | works hpc h =>
    cases h with
    | finished => exact absurd hpc htaken
    | disconnected | inactive | active | gi => rw [hpc]; rfl
  | creates hpc | fails hpc | expires hpc | loses hpc => rw [hpc]; rfl

theorem ConThread.nextSection_phase_take (cfg : IEC104ClientConfig) (env : Env) {s : ConThread}
    (h : s.pc = .take .finish) : (s.nextSection cfg env).pc.phase = .ending := by
  simp only [nextSection, h]
  split <;> rfl

/-- Other threads only start a thread that has ended. -/
theorem ConThread.handle_phase (cfg : IEC104ClientConfig) (s : ConThread) (i : ConThreadInput)
    (h : ∀ env, i ≠ .conThread env) :
    (s.handle cfg i).pc.phase = s.pc.phase ∨
      (s.pc.phase = .ended ∧ (s.handle cfg i).pc.phase = .running) := by
  cases i with
  | conThread env => exact absurd rfl (h env)
  | start conn =>
    simp only [handle, start]
    split_ifs with hstart
    · rw [hstart.2]
      exact .inr ⟨rfl, rfl⟩
    · exact .inl rfl
  | stop | sendCommand => exact .inl rfl
  | connectionEvent con event now =>
    simp only [handle, connectionEvent]
    split_ifs <;> exact .inl rfl
  | asdu con a now =>
    simp only [handle]
    split_ifs <;> exact .inl rfl
  | call i =>
    simp only [handle]
    split_ifs <;> exact .inl rfl

/-! ## When the objects are released -/

/-- What was created and not destroyed is what `m_tlsConfig` holds, but while the thread destroys
the last one; after its end every object was destroyed once. -/
structure TlsReleased (s : TlsThread) (ops : TlsHistory) : Prop where
  held : s.thread.pc.phase ≠ .ending →
    (after [] ops).length = if s.tlsConfig.isSome then 1 else 0
  ended : s.thread.pc = .notRunning →
    (after [] ops).length = 0 ∧ ∀ object, .acquire object ∈ ops → ops.count (.release object) = 1

/-- A TLS connection is only attempted with a key and a certificate that load, and only created
while `m_tlsConfig` is null. -/
def TlsAttempt (c : ImportedConfig) (group : RedGroup) (s : TlsThread × TlsHistory)
    (i : ConThreadInput × TlsEnv) : Prop :=
  match i.1 with
  | .conThread _ => s.1.preparing → group.useTls →
    (tlsConfiguration i.2 c).isSome ∧ (i.2.created.isSome → s.1.tlsConfig = none)
  | _ => True

/-- What such attempts keep. -/
structure TlsInv (s : TlsThread) (ops : TlsHistory) : Prop where
  held : after [] ops = s.tlsConfig.toList ++ s.taken.toList
  disciplined : Disciplined [] ops
  acquired : ∀ object, ops.count (.acquire object) = if object < s.created then 1 else 0
  taken : s.thread.pc.phase ≠ .ending → s.taken = none
  tlsConfig : s.thread.pc.phase ≠ .running → s.tlsConfig = none

namespace TlsInv

variable {c : ImportedConfig} {group : RedGroup} {con : RedGroupConnection} {s : TlsThread}
  {ops : TlsHistory}

theorem released (hs : TlsInv s ops) : TlsReleased s ops := by
  refine ⟨fun hphase => ?_, fun hpc => ?_⟩
  · rw [hs.held, hs.taken hphase]
    cases s.tlsConfig <;> rfl
  · have hphase : s.thread.pc.phase = .ended := by
      rw [hpc]
      rfl
    have hnone : after [] ops = [] := by
      rw [hs.held, hs.taken (by simp [hphase]), hs.tlsConfig (by simp [hphase])]
      rfl
    refine ⟨congrArg List.length hnone, fun object hobject => ?_⟩
    have hcount := count_acquire_add hs.disciplined object
    have honce := hs.acquired object
    have hpos : 0 < ops.count (.acquire object) := List.count_pos_iff.mpr hobject
    rw [hnone] at hcount
    simp only [List.count_nil, Nat.add_zero] at hcount
    split_ifs at honce <;> omega

theorem fresh (hs : TlsInv s ops) : s.created ∉ after [] ops := by
  intro hmem
  have hcount := count_acquire_add hs.disciplined s.created
  have hpos : 0 < (after [] ops).count s.created := List.count_pos_iff.mpr hmem
  rw [hs.acquired, if_neg (lt_irrefl _)] at hcount
  simp only [List.count_nil] at hcount
  omega

/-- A step that leaves the objects alone. -/
theorem of_thread (hs : TlsInv s ops) {thread : ConThread}
    (h : thread.pc.phase = s.thread.pc.phase ∨
      (s.thread.pc.phase = .ended ∧ thread.pc.phase = .running)) :
    TlsInv { s with thread := thread } ops := by
  refine ⟨hs.held, hs.disciplined, hs.acquired, fun hphase => hs.taken ?_,
    fun hphase => hs.tlsConfig ?_⟩
  · rcases h with h | ⟨h, -⟩
    · exact h ▸ hphase
    · simp [h]
  · rcases h with h | ⟨-, h⟩
    · exact h ▸ hphase
    · exact absurd h hphase

/-- The thread creates an object and keeps it. -/
theorem create (hs : TlsInv s ops) {thread : ConThread} (hnone : s.tlsConfig = none)
    (hbefore : s.thread.pc.phase = .running) (hphase : thread.pc.phase = .running) :
    TlsInv { s with
      thread := thread
      created := s.created + 1
      tlsConfig := some s.created } (ops ++ [.acquire s.created]) := by
  have htaken : s.taken = none := hs.taken (by simp [hbefore])
  have hheld : after [] ops = [] := by
    rw [hs.held, htaken, hnone]
    rfl
  refine ⟨?_, ?_, fun object => ?_, fun _ => htaken, fun h => absurd hphase h⟩
  · rw [after_append, hheld, htaken]
    rfl
  · rw [disciplined_append, hheld]
    exact ⟨hs.disciplined, by simp [Disciplined, Op.Allowed]⟩
  · simp only [List.count_append, hs.acquired, List.count_singleton, beq_iff_eq,
      Op.acquire.injEq]
    split_ifs <;> omega

/-- The library refuses the connection, and the object is destroyed at once. -/
theorem refuse (hs : TlsInv s ops) {thread : ConThread}
    (hphase : thread.pc.phase = s.thread.pc.phase) :
    TlsInv { s with thread := thread, created := s.created + 1 }
      (ops ++ [.acquire s.created, .release s.created]) := by
  refine ⟨?_, ?_, fun object => ?_, fun h => hs.taken (hphase ▸ h),
    fun h => hs.tlsConfig (hphase ▸ h)⟩
  · rw [after_append, hs.held]
    exact List.erase_cons_head s.created _
  · rw [disciplined_append]
    exact ⟨hs.disciplined, hs.fresh, List.mem_cons_self, trivial⟩
  · simp only [List.count_append, hs.acquired, List.count_cons, List.count_nil, beq_iff_eq,
      Op.acquire.injEq, reduceCtorEq, if_false]
    split_ifs <;> omega

/-- The thread takes what `m_tlsConfig` holds. -/
theorem take (hs : TlsInv s ops) {thread : ConThread} (hbefore : s.thread.pc.phase = .running)
    (hphase : thread.pc.phase = .ending) :
    TlsInv { s with thread := thread, tlsConfig := none, taken := s.tlsConfig } ops := by
  have htaken : s.taken = none := hs.taken (by simp [hbefore])
  refine ⟨?_, hs.disciplined, hs.acquired, fun h => absurd hphase h, fun _ => rfl⟩
  rw [hs.held, htaken]
  exact List.append_nil _

/-- The thread destroys what it has taken. -/
theorem release (hs : TlsInv s ops) {thread : ConThread}
    (hbefore : s.thread.pc.phase = .ending) :
    TlsInv { s with thread := thread, taken := none } (ops ++ s.taken.toList.map .release) := by
  have hnone : s.tlsConfig = none := hs.tlsConfig (by simp [hbefore])
  have hheld : after [] ops = s.taken.toList := by rw [hs.held, hnone]; rfl
  refine ⟨?_, ?_, fun object => ?_, fun _ => rfl, fun _ => hnone⟩
  · rw [after_append, hheld, hnone]
    cases s.taken <;> simp [Op.next]
  · rw [disciplined_append, hheld]
    refine ⟨hs.disciplined, ?_⟩
    cases s.taken <;> simp [Disciplined, Op.Allowed]
  · rw [List.count_append, hs.acquired]
    cases s.taken <;> simp

end TlsInv

section

variable (c : ImportedConfig) (group : RedGroup) (con : RedGroupConnection) (s : TlsThread)
  (ops : TlsHistory)

theorem TlsThread.handle_of_ne {input : ConThreadInput} (h : ∀ env, input ≠ .conThread env)
    (tls : TlsEnv) :
    s.handle c group con tls input =
      ({ s with thread := s.thread.clear.handle c.config input }, []) := by
  cases input with
  | conThread env => exact absurd rfl (h env)
  | _ => rfl

/-- The thread stays in its loop while it creates a connection. -/
theorem TlsThread.phase_of_preparing {s : TlsThread} (h : s.preparing)
    (cfg : IEC104ClientConfig) (env : Env) :
    s.thread.pc.phase = .running ∧ (s.thread.clear.nextSection cfg env).pc.phase = .running := by
  have hpc : s.thread.pc = .taken .reconnect := (of_decide_eq_true h).1
  have hrunning : s.thread.pc.phase = .running := by
    rw [hpc]
    rfl
  refine ⟨hrunning, ?_⟩
  rw [(s.thread.clear.nextSection_effect cfg env).phase]
  · exact hrunning
  · simp [ConThread.clear, hpc]
  · simp [ConThread.clear, hpc]

theorem TlsInv.step (hs : TlsInv s ops) (i : ConThreadInput × TlsEnv)
    (hattempt : TlsAttempt c group (s, ops) i) :
    TlsInv (tlsStep c group con s i).1 (ops ++ (tlsStep c group con s i).2) := by
  obtain ⟨input, tls⟩ := i
  by_cases hround : ∃ env, input = .conThread env
  · obtain ⟨env, rfl⟩ := hround
    simp only [tlsStep, TlsThread.handle, TlsThread.tlsSection]
    split_ifs with hprepare htake htaken
    · obtain ⟨hbefore, hphase⟩ := TlsThread.phase_of_preparing hprepare c.config
        (TlsThread.roundEnv c group con env tls)
      unfold TlsThread.prepareTls
      split_ifs with huse hok hcreated
      · exact hs.create ((hattempt hprepare huse).2 hcreated) hbefore hphase
      · exact hs.refuse (hphase.trans hbefore.symm)
      · exact absurd (hattempt hprepare huse).1 hok
      · rw [List.append_nil]
        exact hs.of_thread (.inl (hphase.trans hbefore.symm))
    · rw [List.append_nil]
      exact hs.take (by rw [htake]; rfl) (ConThread.nextSection_phase_take _ _ htake)
    · exact hs.release (by rw [htaken]; rfl)
    · rw [List.append_nil]
      exact hs.of_thread (.inl ((s.thread.clear.nextSection_effect ..).phase htake htaken))
  · have hne : ∀ env, input ≠ .conThread env := fun env h => hround ⟨env, h⟩
    rw [tlsStep, TlsThread.handle_of_ne c group con s hne, List.append_nil]
    exact hs.of_thread (ConThread.handle_phase c.config s.thread.clear input hne)

/-- Any other attempt leaves an object that nobody holds. -/
theorem TlsInv.leaks (hs : TlsInv s ops) (i : ConThreadInput × TlsEnv)
    (hattempt : ¬ TlsAttempt c group (s, ops) i) :
    ¬ TlsReleased (tlsStep c group con s i).1 (ops ++ (tlsStep c group con s i).2) := by
  obtain ⟨input, tls⟩ := i
  by_cases hround : ∃ env, input = .conThread env
  · obtain ⟨env, rfl⟩ := hround
    simp only [TlsAttempt, Classical.not_imp, not_and] at hattempt
    obtain ⟨hprepare, huse, hfails⟩ := hattempt
    obtain ⟨hbefore, hphase⟩ := TlsThread.phase_of_preparing hprepare c.config
      (TlsThread.roundEnv c group con env tls)
    have hheld : after [] ops = s.tlsConfig.toList := by
      rw [hs.held, hs.taken (by simp [hbefore])]
      exact List.append_nil _
    simp only [tlsStep, TlsThread.handle, TlsThread.tlsSection, if_pos hprepare,
      TlsThread.prepareTls, if_pos huse]
    by_cases hok : (tlsConfiguration tls c).isSome
    · obtain ⟨hcreated, hsome⟩ := hfails hok
      obtain ⟨object, hobject⟩ := Option.ne_none_iff_exists'.mp hsome
      rw [if_pos hok, if_pos hcreated]
      -- the object of the earlier attempt and the new one
      intro hreleased
      have hcount := hreleased.held fun hending =>
        absurd (hphase.symm.trans hending) (by decide)
      rw [after_append, hheld, hobject] at hcount
      simp [Op.next] at hcount
    · rw [if_neg hok]
      -- the object of this attempt, beside what `m_tlsConfig` holds
      intro hreleased
      have hcount := hreleased.held fun hending =>
        absurd (hphase.symm.trans hending) (by decide)
      rw [after_append, hheld] at hcount
      cases hconfig : s.tlsConfig <;> simp [Op.next, hconfig] at hcount
  · refine absurd ?_ hattempt
    unfold TlsAttempt
    cases input with
    | conThread env => exact absurd ⟨env, rfl⟩ hround
    | _ => trivial

/-- In every run of a connection what was created and not destroyed is what `m_tlsConfig` holds,
and everything is destroyed once when the thread has ended, if and only if every attempt to create
a TLS connection has a key and a certificate that load, and none succeeds while `m_tlsConfig`
still holds an object. -/
theorem tls_objects_released_iff (t : ExchangeTable) (self : ConId)
    (is : List (ConThreadInput × TlsEnv)) :
    Always (watch (tlsStep c group con) noteTls)
        (fun s : TlsThread × TlsHistory => TlsReleased s.1 s.2) (.init t self, []) is ↔
      Along (watch (tlsStep c group con) noteTls) (TlsAttempt c group) (.init t self, []) is := by
  refine always_iff_along_of_guarded (I := fun s : TlsThread × TlsHistory => TlsInv s.1 s.2)
    (fun s i hs hattempt => hs.step c group con s.1 s.2 i hattempt) (fun _ hs => hs.released)
    (fun s i hs hattempt => hs.leaks c group con s.1 s.2 i hattempt) ?_
  exact ⟨rfl, trivial, fun object => (if_neg (Nat.not_lt_zero object)).symm, fun _ => rfl,
    fun _ => rfl⟩

end

/-- A TLS connection is closed before it is opened, and created again. -/
def tlsReconnect : List (ConThreadInput × TlsEnv) :=
  let inputs : List ConThreadInput :=
    [.start true, .conThread {}, .conThread {}, .conThread {}, .connectionEvent 0 .closed 0] ++
      List.replicate 4 (.conThread {}) ++ List.replicate 7 (.conThread { delayTime := 10000 })
  inputs.map (·, .ideal)

/-- The object of the first connection is not destroyed at the reconnect. -/
theorem reconnect_leaks_tlsConfiguration :
    ¬ Always (watch (tlsStep { ownCertificate := "client.cer", privateKey := "client.key" }
        { name := "group", index := 0, useTls := true } { serverIp := "127.0.0.1" }) noteTls)
      (fun s : TlsThread × TlsHistory => TlsReleased s.1 s.2) (.init .empty 0, [])
      tlsReconnect := by
  intro h
  have hheld := (run_of_always h).held (by decide)
  revert hheld
  decide

end Iec104South
