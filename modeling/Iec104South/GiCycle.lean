import Iec104South.GiAttempts
import Iec104South.ExchangeImport

/-!
# The CAs of a cycle over all common addresses

With `gi_all_ca` a cycle walks over `ListOfCAs` with an iterator, which moves on whenever
the request to its CA is attempted, while replies, timeouts and failed sends move the state
of the request. So what has been attempted is at any time the part of the list before the
iterator (`CycleInv`), and at the end of the cycle the whole list.
-/

namespace Iec104South

open Reactive

/-- A call of `sendInterrogationCommand` by `executePeriodicTasks`: the CA, the handle that the
connection has, and what the library returns if it is called. -/
structure GiAttempt where
  ca : Int
  handle : Option Handle
  accepted : Bool
deriving DecidableEq, Repr

/-- What the attempt passes to the library: the command, if there is a handle. -/
def GiAttempt.commands (attempt : GiAttempt) : List Effect :=
  attempt.handle.toList.map fun handle =>
    .sendInterrogationCommand handle attempt.ca attempt.accepted

/-- The attempts of the round. -/
def Plugin.giAttempts (cfg : IEC104ClientConfig) (env : Env) (p : Plugin) : List GiAttempt :=
  (p.attemptedCas cfg env).map fun ca =>
    { ca := ca, handle := p.con.connection, accepted := env.giAccepted }

@[simp] theorem Plugin.map_ca_giAttempts (cfg : IEC104ClientConfig) (env : Env) (p : Plugin) :
    (p.giAttempts cfg env).map (·.ca) = p.attemptedCas cfg env := by
  simp [giAttempts, Function.comp_def]

/-- The attempts of the rounds, and the interrogation commands that the rounds have passed to the
library. -/
structure AttemptWatch where
  attempts : List GiAttempt := []
  commands : List Effect := []
deriving DecidableEq, Repr

def noteAttempts (cfg : IEC104ClientConfig) (w : AttemptWatch) (p : Plugin) (i : Input)
    (out : List Effect) : AttemptWatch :=
  match i with
  | .conThread env =>
    { attempts := w.attempts ++ p.giAttempts cfg env
      commands := w.commands ++ interrogationCommands out }
  | _ => w

/-- What is attempted and sent in a run, in order. -/
def watchAttempts (cfg : IEC104ClientConfig) (p : Plugin) (is : List Input) : AttemptWatch :=
  (run (watch (step cfg) (noteAttempts cfg)) (p, {}) is).2

def Input.isStartdtCon : Input → Bool
  | .connectionEvent .startdtConReceived _ => true
  | _ => false

/-- A run from the round that starts a cycle to the round that ends it. -/
structure CycleRun (cfg : IEC104ClientConfig) (p : Plugin) (env : Env) (is : List Input)
    (env' : Env) : Prop where
  starts : p.startsCycle cfg env
  idle : p.con.interrogationRequestState = .idle
  noStartdtCon : ∀ i ∈ is, i.isStartdtCon = false
  inProgress : Always (step cfg) (fun q => q.con.interrogationInProgress)
    (step cfg p (.conThread env)).1 is
  ends :
    (run (step cfg) p (.conThread env :: is ++ [.conThread env'])).con.interrogationInProgress =
      false

/-! ## Rounds of a cycle -/

namespace Plugin

variable {cfg : IEC104ClientConfig} {p : Plugin}

/-- The start of a cycle puts the iterator to the beginning and attempts nothing. -/
theorem conThread_of_startsCycle {env : Env} (hall : cfg.giAllCa) (h : p.startsCycle cfg env) :
    (p.conThread cfg env).con.firstGISent ∧ (p.conThread cfg env).con.listOfCA_it = 0 ∧
      p.attemptedCas cfg env = [] := by
  have hrun := runsGiTasks_of_startsCycle h
  obtain ⟨q, _, -, hq⟩ := (p.beforeGi cfg env).giTasks_of_startsCycle cfg env
    (by rw [beforeGi_startsCycle]; exact h)
  rw [conThread_connectedActive cfg env p (active_of_runsGiTasks p hrun), if_pos hrun, hq,
    startNewInterrogationCycle_con]
  exact ⟨rfl, by simp [hall], by simp [attemptedCas, h, hall]⟩

/-- A timeout ends the request, and the cycle goes on. -/
theorem checkGiTimeout_cycle (cfg : IEC104ClientConfig) (env : Env) (p : Plugin) :
    (p.checkGiTimeout cfg env).con.firstGISent = p.con.firstGISent ∧
      (p.checkGiTimeout cfg env).con.listOfCA_it = p.con.listOfCA_it ∧
      (p.checkGiTimeout cfg env).con.interrogationInProgress = p.con.interrogationInProgress := by
  unfold checkGiTimeout
  split_ifs
  · exact ⟨rfl, rfl, rfl⟩
  · exact ⟨rfl, rfl, rfl⟩

/-- A round while a cycle is in progress attempts the CA of the iterator and moves on, or it
attempts nothing; it ends the cycle when there is no CA left. -/
theorem conThread_of_inProgress (env : Env) (hall : cfg.giAllCa) (hfirst : p.con.firstGISent)
    (hprogress : p.con.interrogationInProgress) :
    (p.conThread cfg env).con.firstGISent ∧
      ((p.attemptedCas cfg env = [] ∧
          (p.conThread cfg env).con.listOfCA_it = p.con.listOfCA_it ∧
          ((p.conThread cfg env).con.interrogationInProgress = false →
            cfg.listOfCAs[p.con.listOfCA_it]? = none)) ∨
        ∃ ca, cfg.listOfCAs[p.con.listOfCA_it]? = some ca ∧ p.attemptedCas cfg env = [ca] ∧
          (p.conThread cfg env).con.listOfCA_it = p.con.listOfCA_it + 1 ∧
          (p.conThread cfg env).con.interrogationInProgress) := by
  have hstarts : p.startsCycle cfg env = false := by
    simp [startsCycle, hfirst, hprogress]
  rcases conThread_cases cfg env p with ⟨hquiet, hview, -⟩ | ⟨hrun, hview, heq⟩
  · obtain ⟨hfirst', hprogress', -, hit, -⟩ := giView_eq_iff.mp hview
    refine ⟨hfirst'.trans hfirst, .inl ⟨?_, hit, fun hend => ?_⟩⟩
    · simp [attemptedCas, hstarts, hquiet]
    · rw [hprogress', hprogress] at hend
      cases hend
  · obtain ⟨hfirst', hprogress', hstate', hit, -⟩ := giView_eq_iff.mp hview
    have hrun' : (p.beforeGi cfg env).runsGiTasks cfg := by
      obtain ⟨_, _, hbefore⟩ := p.beforeGi_eq cfg env
      rw [hbefore]
      exact hrun
    have hbusy : (p.beforeGi cfg env).con.interrogationInProgress := hprogress'.trans hprogress
    rw [heq, giTasks_of_not_startsCycle cfg env _ hrun'
      ((beforeGi_startsCycle cfg env p).trans hstarts), if_pos hbusy]
    split_ifs with hpending
    · -- a pending request is only looked at for its timeout
      have hnone : p.attemptedCas cfg env = [] := by
        simp [attemptedCas, hstarts, ← hstate', hpending]
      obtain ⟨hfirst'', hit', hbusy'⟩ := (p.beforeGi cfg env).checkGiTimeout_cycle cfg env
      refine ⟨hfirst''.trans (hfirst'.trans hfirst),
        .inl ⟨hnone, hit'.trans hit, fun hend => ?_⟩⟩
      rw [hbusy', hbusy] at hend
      cases hend
    · have hidle : p.con.interrogationRequestState = .idle :=
        hstate'.symm.trans (not_not.mp hpending)
      have hattempt : p.attemptedCas cfg env = cfg.listOfCAs[p.con.listOfCA_it]?.toList := by
        simp [attemptedCas, hstarts, hrun, hprogress, hidle, hall]
      rw [continueCycle, if_pos hall, hit]
      cases hca : cfg.listOfCAs[p.con.listOfCA_it]? with
      | none =>
        rw [hca] at hattempt
        exact ⟨hfirst'.trans hfirst, .inl ⟨hattempt, hit, fun _ => rfl⟩⟩
      | some ca =>
        rw [hca] at hattempt
        dsimp only
        rw [sendGiToCa_con]
        exact ⟨hfirst'.trans hfirst, .inr ⟨ca, rfl, hattempt, congrArg (· + 1) hit, hbusy⟩⟩

/-- What is no round and no STARTDT_CON leaves the first GI and the iterator alone. -/
theorem handle_iterator {i : Input} (hround : ∀ env, i ≠ .conThread env)
    (hcon : i.isStartdtCon = false) :
    (p.handle cfg i).con.firstGISent = p.con.firstGISent ∧
      (p.handle cfg i).con.listOfCA_it = p.con.listOfCA_it := by
  cases htouch : i.touchesGi with
  | false =>
    obtain ⟨hfirst, -, -, hit, -⟩ := giView_eq_iff.mp (handle_giView cfg p htouch)
    exact ⟨hfirst, hit⟩
  | true =>
    cases i with
    | connectionEvent event now =>
      cases event with
      | startdtConReceived => cases hcon
      | _ => exact ⟨rfl, rfl⟩
    | asdu a now =>
      obtain ⟨-, -, hfirst, hit⟩ := asduReceivedHandler_con cfg p now a
      exact ⟨hfirst, hit⟩
    | conThread env => exact absurd rfl (hround env)
    | _ => cases htouch

end Plugin

/-! ## What the rounds send -/

/-- A round passes to the library what its attempts do. -/
theorem Plugin.step_commands (cfg : IEC104ClientConfig) (env : Env) (p : Plugin) :
    interrogationCommands (step cfg p (.conThread env)).2 =
      (p.giAttempts cfg env).flatMap GiAttempt.commands := by
  rw [step_interrogationCommands, sentTo, giAttempts, List.flatMap_map]
  by_cases hnone : p.attemptedCas cfg env = []
  · rw [hnone]
    rfl
  · have hactive := active_of_attemptedCas hnone
    refine congrArg (fun f => (p.attemptedCas cfg env).flatMap f) (funext fun ca => ?_)
    unfold Connection.sendInterrogationCommand GiAttempt.commands
    cases p.con.connection with
    | none => rfl
    | some handle => simp [hactive]

/-- In every run the rounds pass to the library what their attempts do. -/
theorem commands_of_watch (cfg : IEC104ClientConfig) (p : Plugin) (is : List Input) :
    (watchAttempts cfg p is).commands =
      (watchAttempts cfg p is).attempts.flatMap GiAttempt.commands := by
  refine run_of_always (I := fun s : Plugin × AttemptWatch =>
    s.2.commands = s.2.attempts.flatMap GiAttempt.commands)
    (always_of_invariant (fun s i hs => ?_) (fun _ hs => hs) rfl)
  cases i with
  | conThread env =>
    show s.2.commands ++ _ = (s.2.attempts ++ _).flatMap _
    rw [List.flatMap_append, ← Plugin.step_commands, hs]
  | _ => exact hs

/-! ## The invariant of a cycle -/

/-- The CAs before the iterator are those that have been attempted. -/
structure CycleInv (cfg : IEC104ClientConfig) (s : Plugin × AttemptWatch) : Prop where
  firstGISent : s.1.con.firstGISent
  inRange : s.1.con.listOfCA_it ≤ cfg.listOfCAs.length
  attempts : s.2.attempts.map (·.ca) = cfg.listOfCAs.take s.1.con.listOfCA_it

namespace CycleInv

variable {cfg : IEC104ClientConfig} {s : Plugin × AttemptWatch}

theorem start {p : Plugin} {env : Env} (hall : cfg.giAllCa) (h : p.startsCycle cfg env) :
    CycleInv cfg (watch (step cfg) (noteAttempts cfg) (p, {}) (.conThread env)).1 := by
  obtain ⟨hfirst, hit, hnone⟩ := Plugin.conThread_of_startsCycle (p := p.clear) hall h
  refine ⟨hfirst, ?_, ?_⟩
  · exact hit.le.trans (Nat.zero_le _)
  · show ([] ++ p.giAttempts cfg env).map GiAttempt.ca =
      cfg.listOfCAs.take (p.clear.conThread cfg env).con.listOfCA_it
    rw [List.nil_append, Plugin.map_ca_giAttempts, hit]
    exact hnone

theorem round (hs : CycleInv cfg s) (hall : cfg.giAllCa)
    (hprogress : s.1.con.interrogationInProgress)
    (env : Env) : CycleInv cfg (watch (step cfg) (noteAttempts cfg) s (.conThread env)).1 := by
  obtain ⟨p, w⟩ := s
  have hattempts : w.attempts.map (·.ca) = cfg.listOfCAs.take p.con.listOfCA_it := hs.attempts
  obtain ⟨hfirst, ⟨hnone, hit, -⟩ | ⟨ca, hca, hattempted, hit, -⟩⟩ :=
    Plugin.conThread_of_inProgress (p := p.clear) env hall hs.firstGISent hprogress
  · refine ⟨hfirst, hit.le.trans hs.inRange, ?_⟩
    show (w.attempts ++ p.clear.giAttempts cfg env).map (·.ca) =
      cfg.listOfCAs.take (p.clear.conThread cfg env).con.listOfCA_it
    rw [List.map_append, Plugin.map_ca_giAttempts, hnone, hit, List.append_nil]
    exact hattempts
  · have hlt : p.con.listOfCA_it < cfg.listOfCAs.length :=
      (List.getElem?_eq_some_iff.mp hca).1
    refine ⟨hfirst, hit.le.trans hlt, ?_⟩
    show (w.attempts ++ p.clear.giAttempts cfg env).map (·.ca) =
      cfg.listOfCAs.take (p.clear.conThread cfg env).con.listOfCA_it
    rw [List.map_append, Plugin.map_ca_giAttempts, hattempted, hit, List.take_add_one, hca,
      hattempts]
    rfl

theorem step (hs : CycleInv cfg s) (hall : cfg.giAllCa)
    (hprogress : s.1.con.interrogationInProgress) {i : Input} (hcon : i.isStartdtCon = false) :
    CycleInv cfg (watch (Iec104South.step cfg) (noteAttempts cfg) s i).1 := by
  by_cases hround : ∃ env, i = .conThread env
  · obtain ⟨env, rfl⟩ := hround
    exact hs.round hall hprogress env
  · have hother : ∀ env, i ≠ .conThread env := fun env h => hround ⟨env, h⟩
    obtain ⟨hfirst, hit⟩ := @Plugin.handle_iterator cfg s.1.clear i hother hcon
    have hnote : noteAttempts cfg s.2 s.1 i (Iec104South.step cfg s.1 i).2 = s.2 := by
      cases i with
      | conThread env => exact absurd rfl (hother env)
      | _ => rfl
    refine ⟨hfirst.trans hs.firstGISent, hit.le.trans hs.inRange, ?_⟩
    show (noteAttempts cfg s.2 s.1 i (Iec104South.step cfg s.1 i).2).attempts.map (·.ca) =
      cfg.listOfCAs.take (s.1.clear.handle cfg i).con.listOfCA_it
    rw [hnote, hit]
    exact hs.attempts

theorem run {is : List Input} (hs : CycleInv cfg s) (hall : cfg.giAllCa)
    (hcon : ∀ i ∈ is, i.isStartdtCon = false)
    (hprogress : Always (Iec104South.step cfg) (fun q => q.con.interrogationInProgress) s.1 is) :
    CycleInv cfg (run (watch (Iec104South.step cfg) (noteAttempts cfg)) s is) := by
  induction is generalizing s with
  | nil => exact hs
  | cons i is ih =>
    have hnext := hs.step hall hprogress.1 (hcon i List.mem_cons_self)
    exact ih hnext (fun j hj => hcon j (List.mem_cons_of_mem _ hj)) hprogress.2

/-- At the round that ends the cycle the iterator is at the end of the list. -/
theorem attempts_of_end (hs : CycleInv cfg s) (hall : cfg.giAllCa)
    (hprogress : s.1.con.interrogationInProgress) {env : Env}
    (hend : (Iec104South.step cfg s.1 (.conThread env)).1.con.interrogationInProgress = false) :
    (noteAttempts cfg s.2 s.1 (.conThread env)
      (Iec104South.step cfg s.1 (.conThread env)).2).attempts.map (·.ca) = cfg.listOfCAs := by
  obtain ⟨-, ⟨hnone, -, hlast⟩ | ⟨ca, -, -, -, hbusy⟩⟩ :=
    Plugin.conThread_of_inProgress (p := s.1.clear) env hall hs.firstGISent hprogress
  · have hlength : cfg.listOfCAs.length ≤ s.1.con.listOfCA_it :=
      List.getElem?_eq_none_iff.mp (hlast hend)
    show (s.2.attempts ++ s.1.clear.giAttempts cfg env).map (·.ca) = cfg.listOfCAs
    rw [List.map_append, Plugin.map_ca_giAttempts, hnone, List.append_nil, hs.attempts,
      List.take_of_length_le hlength]
  · exact absurd (hbusy.symm.trans hend) (by simp)

end CycleInv

/-! ## The list of CAs -/

/-- A completed import into a fresh object lists the CAs of the table in map order. -/
theorem listOfCAs_of_completed {document : Option Json} {c : ImportedConfig}
    (h : (importExchangeConfig document c.fresh).exchangeConfigComplete) :
    (importExchangeConfig document c.fresh).config.listOfCAs =
      (importExchangeConfig document c.fresh).exchangeDefinitions.cas := by
  have hempty (l : List Entry) :
      (addAll (deleteExchangeDefinitions { c.fresh with exchangeConfigComplete := false })
        l).config.listOfCAs = [] := by
    rw [addAll_eq]
    rfl
  rw [importExchangeConfig_complete] at h
  rw [importExchangeConfig_eq]
  dsimp only
  rw [if_pos h]
  show collectCAs _ _ = _
  rw [hempty, collectCAs_nil]

theorem mem_listOfCAs_of_completed {document : Option Json} {c : ImportedConfig}
    (h : (importExchangeConfig document c.fresh).exchangeConfigComplete) (ca : Int) :
    ca ∈ (importExchangeConfig document c.fresh).config.listOfCAs ↔
      ∃ ioa dp,
        (importExchangeConfig document c.fresh).exchangeDefinitions.find? ca ioa = some dp := by
  rw [importExchangeConfig_complete] at h
  rw [mem_listOfCAs_of_fresh, and_iff_right h, exists_find?_importExchangeConfig]

/-! ## The attempts of a cycle -/

/-- A cycle over all CAs attempts each CA of the imported table once, in the order of
`ListOfCAs`, whatever replies, failed sends and timeouts come in between; and what its rounds pass
to the library is the command of each attempt, for which there is a handle. -/
theorem attempts_of_cycleRun (c : ImportedConfig) (document : Option Json)
    (hcomplete : (importExchangeConfig document c.fresh).exchangeConfigComplete)
    (hall : (importExchangeConfig document c.fresh).config.giAllCa) (p : Plugin) (env : Env)
    (is : List Input) (env' : Env)
    (h : CycleRun (importExchangeConfig document c.fresh).config p env is env') :
    let w := watchAttempts (importExchangeConfig document c.fresh).config p
      (.conThread env :: is ++ [.conThread env'])
    w.attempts.map (·.ca) = (importExchangeConfig document c.fresh).config.listOfCAs ∧
      w.commands = w.attempts.flatMap GiAttempt.commands ∧
      (importExchangeConfig document c.fresh).config.listOfCAs.Nodup ∧
      ∀ ca, ca ∈ (importExchangeConfig document c.fresh).config.listOfCAs ↔
        ∃ ioa dp,
          (importExchangeConfig document c.fresh).exchangeDefinitions.find? ca ioa = some dp := by
  refine ⟨?_, commands_of_watch _ _ _, ?_, mem_listOfCAs_of_completed hcomplete⟩
  · generalize (importExchangeConfig document c.fresh).config = cfg at hall h
    have hrun := (CycleInv.start hall h.starts).run hall h.noStartdtCon h.inProgress
    have hlast : (run (watch (step cfg) (noteAttempts cfg)) (p, {})
        (.conThread env :: is)).1 = run (step cfg) p (.conThread env :: is) :=
      run_watch_fst ..
    have hbusy : (run (step cfg) p (.conThread env :: is)).con.interrogationInProgress :=
      run_of_always h.inProgress
    have hend := h.ends
    rw [run_append] at hend
    rw [watchAttempts, run_append]
    refine hrun.attempts_of_end hall ?_ ?_
    · exact hlast ▸ hbusy
    · exact hlast ▸ hend
  · rw [listOfCAs_of_completed hcomplete]
    exact OrdMap.keys_nodup _

/-- Two datapoints in the stations 1 and 2. -/
def twoStationsText : Option Json :=
  some (exchangedData [datapointAt "TS1" "2-10" [], datapointAt "TS2" "1-10" []])

/-- A cycle over two stations: the first one confirms and terminates, the request to the second
one is refused by the library. -/
theorem attempts_of_cycleRun_twoStations :
    let w := watchAttempts (importExchangeConfig twoStationsText
        (ImportedConfig.fresh { config := { giAllCa := true } })).config
      { Plugin.init .empty 0 with
        con := { connection := some 1, connectionState := .connectedActive } }
      [.conThread {}, .conThread {}, .asdu (interrogationReply CS101_COT_ACTIVATION_CON 1 false) 0,
        .asdu (interrogationReply CS101_COT_ACTIVATION_TERMINATION 1 false) 0,
        .conThread { giAccepted := false }, .conThread {}]
    w.attempts.map (·.ca) = [1, 2] ∧
      w.commands = [.sendInterrogationCommand 1 1 true, .sendInterrogationCommand 1 2 false] := by
  intro w
  have hcycle := attempts_of_cycleRun { config := { giAllCa := true } } twoStationsText (by decide)
    (by decide)
    { Plugin.init .empty 0 with
      con := { connection := some 1, connectionState := .connectedActive } } {}
    [.conThread {}, .asdu (interrogationReply CS101_COT_ACTIVATION_CON 1 false) 0,
      .asdu (interrogationReply CS101_COT_ACTIVATION_TERMINATION 1 false) 0,
      .conThread { giAccepted := false }] {}
    ⟨by decide, rfl, by decide, by decide, by decide⟩
  exact ⟨hcycle.1.trans (by decide), hcycle.2.1.trans (by decide)⟩

end Iec104South
