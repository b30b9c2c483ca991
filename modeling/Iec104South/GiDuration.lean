import Iec104South.GiCycle
import Iec104South.GiTimeout

/-!
# The duration of a cycle

Every request of a cycle is ended by its ACT_TERM or by the timeout, and in the next round the
cycle goes on with the next CA. So a cycle does not hang: while the rounds of the connection
thread keep coming, the time it can still take is bounded by the CAs that are left.

* `dueTime`: the latest time of the round that ends the cycle, counted from its state.
* `CycleInTime.conThread`: no round puts it off.
* `cycle_duration`: so the cycle ends in time, whatever the station answers.
-/

namespace Iec104South

open Reactive

/-- The CAs that are still to be interrogated. -/
def casLeft (cfg : IEC104ClientConfig) (con : Connection) : Nat :=
  if cfg.giAllCa then cfg.listOfCAs.length - con.listOfCA_it else 0

/-- The time of a CA: the round that sends its request, the wait of `gi_time`, the round that looks
at it, and the round before the next one. -/
def timePerCa (cfg : IEC104ClientConfig) (period : Nat) : Nat := cfg.giTime * 1000 + 3 * period

/-- When the next round will have come, after the timeout of a pending request. -/
def nextRound (cfg : IEC104ClientConfig) (period last : Nat) (con : Connection) : Nat :=
  if con.interrogationRequestState = .idle then last + period
  else max last (con.interrogationRequestSent + cfg.giTime * 1000) + 2 * period

def dueTime (cfg : IEC104ClientConfig) (period last : Nat) (con : Connection) : Nat :=
  nextRound cfg period last con + casLeft cfg con * timePerCa cfg period

/-- The time of the last round. -/
def noteRound (last : Nat) (_ : Plugin) (i : Input) (_ : List Effect) : Nat :=
  match i with
  | .conThread env => env.currentTime
  | _ => last

/-- The rounds come, and end, within `period`, the last interrogation response is received at the
time `quiet`, and no new session is started. -/
def InTime (period quiet last : Nat) : Input → Prop
  | .conThread env =>
    env.currentTime ≤ last + period ∧ env.sentTime ≤ env.currentTime + period ∧
      env.sentTime < 2 ^ 63
  | .asdu a now => isInterrogationResponse a → now ≤ quiet
  | .connectionEvent event _ => event ≠ .startdtConReceived
  | _ => True

/-- A step in time while a cycle is in progress. -/
def InCycle (cfg : IEC104ClientConfig) (period quiet : Nat) (s : Plugin × Nat) (i : Input) :
    Prop :=
  (s.1.runsGiTasks cfg ∧ s.1.con.interrogationInProgress) ∧ InTime period quiet s.2 i

instance (period quiet last : Nat) : ∀ i, Decidable (InTime period quiet last i) := by
  unfold InTime
  exact Input.decidable

instance (cfg : IEC104ClientConfig) (period quiet : Nat) (s : Plugin × Nat) (i : Input) :
    Decidable (InCycle cfg period quiet s i) := inferInstanceAs (Decidable (_ ∧ _))

/-! ## Steps of a cycle -/

namespace Plugin

variable {cfg : IEC104ClientConfig} {env : Env} {p : Plugin}

/-- A round of a cycle looks at the pending request, or goes on to the next CA. -/
theorem conThread_of_cycle (hrun : p.runsGiTasks cfg) (hfirst : p.con.firstGISent)
    (hprogress : p.con.interrogationInProgress) :
    p.conThread cfg env =
      if p.con.interrogationRequestState ≠ .idle then (p.beforeGi cfg env).checkGiTimeout cfg env
      else (p.beforeGi cfg env).continueCycle cfg env := by
  obtain ⟨hfirst', hprogress', hstate', -⟩ := giView_eq_iff.mp (beforeGi_giView cfg env p)
  rw [conThread_connectedActive cfg env p (p.active_of_runsGiTasks hrun), if_pos hrun]
  simp [giTasks, hfirst', hfirst, hprogress', hprogress, hstate']

/-- A pending request is looked at for its timeout. -/
theorem conThread_of_pending (hrun : p.runsGiTasks cfg) (hfirst : p.con.firstGISent)
    (hprogress : p.con.interrogationInProgress)
    (hpending : p.con.interrogationRequestState ≠ .idle) :
    let con := (p.conThread cfg env).con
    con.firstGISent = p.con.firstGISent ∧ con.listOfCA_it = p.con.listOfCA_it ∧
      con.interrogationRequestSent = p.con.interrogationRequestSent ∧
      con.interrogationRequestState =
        if p.giTimedOut cfg env then .idle else p.con.interrogationRequestState := by
  obtain ⟨_, _, hbefore⟩ := p.beforeGi_eq cfg env
  have htimed : (p.beforeGi cfg env).giTimedOut cfg env = p.giTimedOut cfg env := by
    rw [hbefore]
    rfl
  rw [conThread_of_cycle hrun hfirst hprogress, if_pos hpending, checkGiTimeout, htimed]
  cases p.giTimedOut cfg env with
  | true =>
    rw [if_pos rfl, failGiRequest_con, hbefore]
    exact ⟨rfl, rfl, rfl, rfl⟩
  | false =>
    rw [if_neg Bool.false_ne_true, hbefore]
    exact ⟨rfl, rfl, rfl, rfl⟩

/-- Without a pending request the cycle goes on to the next CA, or it ends. -/
theorem conThread_of_idle (hrun : p.runsGiTasks cfg) (hfirst : p.con.firstGISent)
    (hprogress : p.con.interrogationInProgress)
    (hidle : p.con.interrogationRequestState = .idle) :
    let con := (p.conThread cfg env).con
    con.interrogationInProgress = false ∨
      con.firstGISent = p.con.firstGISent ∧ casLeft cfg p.con = casLeft cfg con + 1 ∧
        (con.interrogationRequestState ≠ .idle → con.interrogationRequestSent = env.sentTime) := by
  obtain ⟨_, _, hbefore⟩ := p.beforeGi_eq cfg env
  rw [conThread_of_cycle hrun hfirst hprogress, if_neg (not_not.mpr hidle), continueCycle]
  split_ifs with hall
  · have hit : (p.beforeGi cfg env).con.listOfCA_it = p.con.listOfCA_it := by
      rw [hbefore]
    rw [hit]
    cases hca : cfg.listOfCAs[p.con.listOfCA_it]? with
    | none => exact .inl rfl
    | some ca =>
      have hlt : p.con.listOfCA_it < cfg.listOfCAs.length :=
        (List.getElem?_eq_some_iff.mp hca).1
      dsimp only
      rw [sendGiToCa_con, hbefore]
      refine .inr ⟨rfl, ?_, fun hpending => ?_⟩
      · simp only [casLeft, if_pos hall]
        omega
      · dsimp only at hpending ⊢
        split_ifs at hpending ⊢ with hsent
        · rfl
        · exact absurd hidle hpending
  · exact .inl rfl

/-- An ASDU only restarts the wait for ACT_TERM, or ends the wait for a reply. -/
theorem asdu_of_pending (now : Nat) (a : ASDU) :
    let con := (p.asduReceivedHandler cfg now a).2.con
    con.firstGISent = p.con.firstGISent ∧ con.listOfCA_it = p.con.listOfCA_it ∧
      (con.interrogationRequestState ≠ .idle → p.con.interrogationRequestState ≠ .idle) ∧
      con.interrogationRequestSent =
        if isInterrogationResponse a ∧ p.con.interrogationRequestState = .waitActTerm then now
        else p.con.interrogationRequestSent := by
  obtain ⟨hstate, -, hfirst, hit⟩ := asduReceivedHandler_con cfg p now a
  refine ⟨hfirst, hit, hstate, ?_⟩
  obtain ⟨_, hschedule, -⟩ := p.asduReceivedHandler_giSchedule cfg now a
  rw [received_giSchedule] at hschedule
  exact congrArg GiSchedule.interrogationRequestSent hschedule

end Plugin

/-! ## The due time -/

section

variable {cfg : IEC104ClientConfig} {period last quiet bound : Nat} {con con' : Connection}

theorem next_le_dueTime : last + period ≤ dueTime cfg period last con := by
  unfold dueTime nextRound
  split_ifs <;> omega

theorem dueTime_mono (hnext : nextRound cfg period last con ≤ nextRound cfg period bound con')
    (hit : con.listOfCA_it = con'.listOfCA_it) :
    dueTime cfg period last con ≤ dueTime cfg period bound con' := by
  have hleft : casLeft cfg con = casLeft cfg con' := by
    rw [casLeft, casLeft, hit]
  rw [dueTime, dueTime, hleft]
  exact Nat.add_le_add_right hnext _

end

/-- The end of a cycle from a time at which neither a round nor a pending request is younger. -/
theorem dueTime_le {cfg : IEC104ClientConfig} {period last quiet : Nat} {con : Connection}
    (hlast : last ≤ quiet)
    (hsent : con.interrogationRequestState ≠ .idle → con.interrogationRequestSent ≤ quiet) :
    dueTime cfg period last con ≤ quiet + (casLeft cfg con + 1) * timePerCa cfg period := by
  have hnext : nextRound cfg period last con ≤ quiet + timePerCa cfg period := by
    unfold nextRound timePerCa
    split_ifs with hidle
    · omega
    · have hpending := hsent hidle
      omega
  rw [dueTime, Nat.succ_mul]
  omega

/-- What the wait for a reply says of its time, and what is left of the cycle. -/
structure CycleInTime (cfg : IEC104ClientConfig) (period quiet bound last : Nat) (p : Plugin) :
    Prop where
  firstGISent : p.con.firstGISent
  clock : p.con.interrogationRequestState ≠ .idle → p.con.interrogationRequestSent < 2 ^ 63
  due : dueTime cfg period last p.con ≤ bound
  /-- after the last response there is time for each CA, and for the one that sent it -/
  response : quiet + (casLeft cfg p.con + 1) * timePerCa cfg period ≤ bound

namespace CycleInTime

variable {cfg : IEC104ClientConfig} {period quiet bound last : Nat} {env : Env} {p q : Plugin}

/-- No round puts the end of the cycle off. -/
theorem conThread (hp : CycleInTime cfg period quiet bound last p) (hgi : cfg.giTime ≠ 0)
    (hfits : cfg.giTime * 1000 < 2 ^ 31) (hrun : p.runsGiTasks cfg)
    (hprogress : p.con.interrogationInProgress) (htime : env.currentTime ≤ last + period)
    (hsent : env.sentTime ≤ env.currentTime + period) (hclock : env.sentTime < 2 ^ 63) :
    (p.conThread cfg env).con.interrogationInProgress = false ∨
      CycleInTime cfg period quiet bound env.currentTime (p.conThread cfg env) := by
  by_cases hidle : p.con.interrogationRequestState = .idle
  · refine (Plugin.conThread_of_idle hrun hp.firstGISent hprogress hidle).imp_right ?_
    rintro ⟨hfirst, hleft, hsent'⟩
    have hnext : nextRound cfg period env.currentTime (p.conThread cfg env).con ≤
        last + period + timePerCa cfg period := by
      unfold nextRound timePerCa
      split_ifs with hstate
      · omega
      · rw [hsent' hstate]
        omega
    have hdue : last + period + casLeft cfg p.con * timePerCa cfg period ≤ bound := by
      have hdue := hp.due
      rwa [dueTime, nextRound, if_pos hidle] at hdue
    have hresponse := hp.response
    rw [hleft, Nat.succ_mul] at hdue hresponse
    refine ⟨hfirst.trans hp.firstGISent, fun hstate => (hsent' hstate).trans_lt hclock, ?_, ?_⟩
    · unfold dueTime
      omega
    · omega
  · obtain ⟨hfirst, hit, hsent', hstate⟩ :=
      @Plugin.conThread_of_pending cfg env p hrun hp.firstGISent hprogress hidle
    have hleft : casLeft cfg (p.conThread cfg env).con = casLeft cfg p.con := by
      rw [casLeft, casLeft, hit]
    have hsum : addSeconds p.con.interrogationRequestSent cfg.giTime =
        p.con.interrogationRequestSent + cfg.giTime * 1000 :=
      addSeconds_of_lt hfits (by have := hp.clock hidle; omega)
    refine .inr ⟨hfirst.trans hp.firstGISent, fun _ => hsent' ▸ hp.clock hidle,
      (dueTime_mono ?_ hit).trans hp.due, hleft ▸ hp.response⟩
    unfold nextRound
    rw [hstate, hsent', if_neg hidle]
    cases htimed : p.giTimedOut cfg env with
    | true =>
      rw [if_pos rfl, if_pos rfl]
      omega
    | false =>
      have hwaits : env.currentTime ≤ p.con.interrogationRequestSent + cfg.giTime * 1000 := by
        simpa [Plugin.giTimedOut, hgi, hsum] using htimed
      rw [if_neg Bool.false_ne_true, if_neg hidle]
      omega

/-- A step that leaves the request alone, or ends its wait. -/
theorem congr (hp : CycleInTime cfg period quiet bound last p)
    (hfirst : q.con.firstGISent = p.con.firstGISent)
    (hit : q.con.listOfCA_it = p.con.listOfCA_it)
    (hstate : q.con.interrogationRequestState ≠ .idle → p.con.interrogationRequestState ≠ .idle)
    (hsent : q.con.interrogationRequestSent = p.con.interrogationRequestSent) :
    CycleInTime cfg period quiet bound last q := by
  have hleft : casLeft cfg q.con = casLeft cfg p.con := by
    rw [casLeft, casLeft, hit]
  refine ⟨hfirst.trans hp.firstGISent, fun h => hsent ▸ hp.clock (hstate h),
    (dueTime_mono ?_ hit).trans hp.due, hleft ▸ hp.response⟩
  unfold nextRound
  rw [hsent]
  by_cases hq : q.con.interrogationRequestState = .idle
  · rw [if_pos hq]
    split_ifs <;> omega
  · rw [if_neg hq, if_neg (hstate hq)]

/-- A response postpones the timeout only, and there is time for that. -/
theorem asdu (hp : CycleInTime cfg period quiet bound last p) {a : ASDU} {now : Nat}
    (hnow : isInterrogationResponse a → now ≤ quiet) (hquiet : quiet < 2 ^ 63) :
    CycleInTime cfg period quiet bound last (p.asduReceivedHandler cfg now a).2 := by
  obtain ⟨hfirst, hit, hstate, hsent⟩ := @Plugin.asdu_of_pending cfg p now a
  split_ifs at hsent with hresponse
  · have hnow' := hnow hresponse.1
    have hleft : casLeft cfg (p.asduReceivedHandler cfg now a).2.con = casLeft cfg p.con := by
      rw [casLeft, casLeft, hit]
    refine ⟨hfirst.trans hp.firstGISent, fun _ => hsent.trans_lt (by omega), ?_,
      hleft ▸ hp.response⟩
    have hdue := hp.due
    have hlater := hp.response
    rw [dueTime, nextRound, if_neg (by simp [hresponse.2])] at hdue
    rw [Nat.succ_mul, timePerCa] at hlater
    rw [dueTime, nextRound, hleft, hsent, timePerCa]
    rw [timePerCa] at hdue
    split_ifs <;> omega
  · exact hp.congr hfirst hit hstate hsent

end CycleInTime

/-! ## Runs of a cycle -/

section

variable {cfg : IEC104ClientConfig} {period quiet bound : Nat} {s : Plugin × Nat}

/-- A step of a session keeps a cycle in its time, or ends it. -/
theorem CycleInTime.step (hs : CycleInTime cfg period quiet bound s.2 s.1) (hgi : cfg.giTime ≠ 0)
    (hfits : cfg.giTime * 1000 < 2 ^ 31) (hquiet : quiet < 2 ^ 63) {i : Input}
    (hi : InCycle cfg period quiet s i) :
    let s' := (watch (step cfg) noteRound s i).1
    s'.1.con.interrogationInProgress → CycleInTime cfg period quiet bound s'.2 s'.1 := by
  obtain ⟨p, last⟩ := s
  obtain ⟨⟨hrun, hprogress⟩, hi⟩ := hi
  have hclear : CycleInTime cfg period quiet bound last p.clear :=
    ⟨hs.firstGISent, hs.clock, hs.due, hs.response⟩
  have hother (hasdu : ∀ a now, i ≠ .asdu a now) (hround : ∀ env, i ≠ .conThread env)
      (hcon : i.isStartdtCon = false) :
      CycleInTime cfg period quiet bound last (p.clear.handle cfg i) := by
    obtain ⟨hfirst, hit⟩ := @Plugin.handle_iterator cfg p.clear i hround hcon
    obtain ⟨hschedule, -⟩ := p.clear.handle_giSchedule cfg hasdu hround
    refine hclear.congr hfirst hit ?_ (congrArg GiSchedule.interrogationRequestSent hschedule)
    rw [p.clear.handle_requestState cfg hasdu hround]
    exact id
  intro s' hprogress'
  cases i with
  | conThread env =>
    obtain ⟨htime, hsent, hclock⟩ := hi
    rcases hclear.conThread hgi hfits hrun hprogress htime hsent hclock with hended | hnext
    · exact absurd (hended.symm.trans hprogress') Bool.false_ne_true
    · exact hnext
  | asdu a now => exact hclear.asdu hi hquiet
  | connectionEvent event now =>
    refine hother (by simp) (by simp) ?_
    cases event with
    | startdtConReceived => exact absurd rfl hi
    | _ => rfl
  | _ => exact hother (by simp) (by simp) rfl

end

/-- In every run in which a cycle is in progress, its rounds come by the time that `gi_time` and
the rounds for each CA that is left, and for a pending request, take after the last interrogation
response, whatever else the station answers and the other threads do. -/
theorem cycle_duration (cfg : IEC104ClientConfig) (p : Plugin) (period last quiet : Nat)
    (is : List Input) (hgi : 0 < cfg.giTime) (hfits : cfg.giTime * 1000 < 2 ^ 31)
    (hquiet : quiet < 2 ^ 63) (hfirst : p.con.firstGISent) (hlast : last ≤ quiet)
    (hsent : p.con.interrogationRequestState ≠ .idle → p.con.interrogationRequestSent ≤ quiet)
    (his : Along (watch (step cfg) noteRound) (InCycle cfg period quiet) (p, last) is) {env : Env}
    (henv : .conThread env ∈ is) :
    env.currentTime ≤ quiet + (casLeft cfg p.con + 1) * timePerCa cfg period := by
  let bound := quiet + (casLeft cfg p.con + 1) * timePerCa cfg period
  have hstart : CycleInTime cfg period quiet bound last p :=
    ⟨hfirst, fun hpending => (hsent hpending).trans_lt hquiet, dueTime_le hlast hsent, le_rfl⟩
  have hrounds := along_of_invariant (m := watch (step cfg) noteRound)
    (I := fun s => s.1.con.interrogationInProgress → CycleInTime cfg period quiet bound s.2 s.1)
    (Q := fun _ i => ∀ env, i = .conThread env → env.currentTime ≤ bound)
    (fun s i hs hi => (hs hi.1.2).step (Nat.ne_of_gt hgi) hfits hquiet hi)
    (fun s i hs hi env h => ?_) (fun _ => hstart) his
  · exact forall_mem_of_along hrounds _ henv env rfl
  · subst h
    exact hi.2.1.trans (next_le_dueTime.trans (hs hi.1.2).due)

def twoCas : IEC104ClientConfig := { giTime := 5, giAllCa := true, listOfCAs := [1, 2] }

/-- A round every three seconds. -/
def slowRounds (times : List Nat) : List Input :=
  times.map fun t => .conThread { currentTime := t, sentTime := t }

def stationResponse : ASDU where
  typeId := M_SP_NA_1
  cot := CS101_COT_INTERROGATED_BY_STATION
  ca := 1
  elements := []

/-- The first station is silent after a response, the second one does not answer at all. -/
def silentStations : List Input :=
  slowRounds [3000] ++
    [.asdu (interrogationReply CS101_COT_ACTIVATION_CON 1 false) 3500,
      .asdu stationResponse 4000] ++
    slowRounds [6000, 9000, 12000, 15000, 18000, 21000, 24000]

/-- The last round ends the cycle. -/
theorem cycle_duration_silentStations :
    ({ currentTime := 24000, sentTime := 24000 } : Env).currentTime ≤ 4000 +
      (casLeft twoCas (run (step twoCas) (Plugin.init .empty 0) firstRequest).con + 1) *
        timePerCa twoCas 3000 :=
  cycle_duration twoCas (run (step twoCas) (Plugin.init .empty 0) firstRequest) 3000 0 4000
    silentStations (by decide) (by decide) (by decide) (by decide) (by decide) (by decide)
    (by decide) (by decide)

end Iec104South
