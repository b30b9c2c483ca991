import Iec104South.Commands

/-!
# Confirmations of identical commands

Several commands of one type for one address can be outstanding on one connection. An ACT_CON
names the type and the address only, so it can confirm any of them, and as many ACT_CONs as
commands confirm all. The lookup finds the oldest of them every time, confirmed or not: the
first ACT_CON confirms it, every other one restarts its timer, and the commands behind it stay
unconfirmed (`OldestConfirmed`).
-/

namespace Iec104South

open Reactive

/-- What an ACT_CON tells of the command it answers, and the connection on which it comes. -/
structure CommandKey where
  typeId : Int
  ca : Int
  ioa : Int
  connection : ConId
deriving DecidableEq, Repr

namespace CommandKey

/-- A reply with this key answers the command. -/
def answers (k : CommandKey) (command : OutstandingCommand) : Bool :=
  Client.answers k.typeId k.ca k.ioa k.connection command

/-- The element of the ASDU carries the key. -/
def carriedBy (k : CommandKey) (connection : ConId) (a : ASDU) :
    Option InformationObject → Bool
  | none => false
  | some io =>
    a.typeId = k.typeId ∧ a.ca = k.ca ∧ io.objectAddress = k.ioa ∧ connection = k.connection

/-- The element is an ACT_CON with the key. -/
def confirmedBy (k : CommandKey) (connection : ConId) (a : ASDU)
    (e : Option InformationObject) : Bool :=
  a.cot == CS101_COT_ACTIVATION_CON && k.carriedBy connection a e

/-- How many ACT_CONs with the key the ASDU carries. -/
def confirmations (k : CommandKey) (connection : ConId) (a : ASDU) : Nat :=
  a.elements.countP (k.confirmedBy connection a)

end CommandKey

namespace Client

/-- The outstanding commands with the key. -/
def identical (k : CommandKey) (c : Client) : List OutstandingCommand :=
  c.outstandingCommands.filter k.answers

/-- The commands that `checkOutstandingCommandTimeouts` removes as 'ACT-CON timeout'. -/
def actConTimeouts (cfg : IEC104ClientConfig) (currentTime : Nat) (c : Client) :
    List OutstandingCommand :=
  c.outstandingCommands.filter fun command =>
    !command.actConReceived && timedOut cfg currentTime command

end Client

/-- When the ACT_CONs of the key came. -/
def noteConfirmations (k : CommandKey) (times : List Nat) (_ : CommandSystem) (i : CommandInput)
    (_ : List Bool) : List Nat :=
  match i with
  | .handleASDU connection a now => times ++ List.replicate (k.confirmations connection a) now
  | _ => times

/-- No ACT_TERM and no timeout of a command with the key, and no ACT_CON without a command that
it can confirm. -/
def KeepsIdentical (cfg : IEC104ClientConfig) (k : CommandKey) (s : CommandSystem × List Nat) :
    CommandInput → Prop
  | .handleASDU connection a _ =>
    (a.cot = CS101_COT_ACTIVATION_TERMINATION → ∀ e ∈ a.elements, ¬k.carriedBy connection a e) ∧
      s.2.length + k.confirmations connection a ≤ (s.1.client.identical k).length
  | .checkOutstandingCommandTimeouts currentTime =>
    ∀ command ∈ s.1.client.identical k, ¬Client.timedOut cfg currentTime command
  | _ => True

instance (cfg : IEC104ClientConfig) (k : CommandKey) (s : CommandSystem × List Nat) :
    ∀ i, Decidable (KeepsIdentical cfg k s i)
  | .handleASDU .. => inferInstanceAs (Decidable (_ ∧ _))
  | .checkOutstandingCommandTimeouts _ => inferInstanceAs (Decidable (∀ _ ∈ _, _))
  | .send .. | .connections .. => inferInstanceAs (Decidable True)

/-- The command is confirmed, with a timer restarted at one of the times, and no sweep will
remove it as 'ACT-CON timeout'. -/
structure ConfirmedAt (cfg : IEC104ClientConfig) (times : List Nat) (c : Client)
    (command : OutstandingCommand) : Prop where
  actConReceived : command.actConReceived
  timeout : command.timeout ∈ times
  kept : ∀ currentTime, command ∉ c.actConTimeouts cfg currentTime

/-! ## The oldest command -/

/-- The commands with the key, in their order, after ACT_CONs at these times: those behind the
oldest are not confirmed, and the oldest is from the first of the times on. -/
def OldestConfirmed (times : List Nat) : List UnansweredCommand → Prop
  | [] => times = []
  | u :: rest =>
    (times = [] ∧ ¬u.actConReceived ∨ u.actConReceived ∧ u.timeout ∈ times) ∧
      ∀ v ∈ rest, ¬v.actConReceived

theorem OldestConfirmed.confirm {times : List Nat} {l : List UnansweredCommand}
    (h : OldestConfirmed times l) (hl : l ≠ []) (now : Nat) :
    OldestConfirmed (times ++ [now]) (l.modifyHead (UnansweredCommand.confirm now)) := by
  cases l with
  | nil => exact absurd rfl hl
  | cons u rest =>
    refine ⟨.inr ⟨rfl, ?_⟩, h.2⟩
    exact List.mem_append_right _ (List.mem_singleton_self now)

theorem OldestConfirmed.append {times : List Nat} {l : List UnansweredCommand}
    (h : OldestConfirmed times l) {v : UnansweredCommand} (hv : ¬v.actConReceived) :
    OldestConfirmed times (l ++ [v]) := by
  cases l with
  | nil => exact ⟨.inl ⟨h, hv⟩, fun _ hmem => absurd hmem List.not_mem_nil⟩
  | cons u rest =>
    refine ⟨h.1, fun w hw => ?_⟩
    rcases List.mem_append.mp hw with hold | hnew
    · exact h.2 w hold
    · rwa [List.mem_singleton.mp hnew]

/-! ## Replies -/

namespace CommandKey

/-- The key for the list without identities. -/
def answered (k : CommandKey) : UnansweredCommand → Bool :=
  UnansweredCommand.answeredBy k.typeId k.ca k.ioa k.connection

variable {k : CommandKey} {now : Nat} {connection : ConId} {a : ASDU}

theorem map_identical (c : Client) :
    (c.identical k).map OutstandingCommand.unanswered = c.unanswered.filter k.answered := by
  rw [Client.unanswered, List.filter_map]
  rfl

/-- A reply for another key leaves the commands with the key alone. -/
theorem filter_specReply_of_ne {typeId ca ioa : Int}
    (h : ¬(typeId = k.typeId ∧ ca = k.ca ∧ ioa = k.ioa ∧ connection = k.connection))
    (kind : ReplyKind) (cot : Int) (l : List UnansweredCommand) :
    (specReply kind now cot (UnansweredCommand.answeredBy typeId ca ioa connection) l).filter
      k.answered = l.filter k.answered := by
  have hdisjoint : ∀ u, UnansweredCommand.answeredBy typeId ca ioa connection u →
      ¬k.answered u := by
    intro u hu hk
    simp only [answered, UnansweredCommand.answeredBy, Bool.and_eq_true, beq_iff_eq] at hu hk
    refine h ⟨hu.1.1.1.symm.trans hk.1.1.1, hu.1.1.2.symm.trans hk.1.1.2,
      hu.1.2.symm.trans hk.1.2, Option.some.inj (hu.2.symm.trans hk.2)⟩
  cases kind with
  | none => rfl
  | command =>
    simp only [specReply]
    split_ifs
    · exact Keyed.filter_updateFirst_of_disjoint (f := UnansweredCommand.confirm now)
        (fun u hu => ⟨hdisjoint u hu, hdisjoint u hu⟩) l
    · exact Keyed.filter_eraseP_of_disjoint hdisjoint l
    · rfl
  | setpoint =>
    simp only [specReply]
    split_ifs
    · exact Keyed.filter_eraseP_of_disjoint hdisjoint l
    · rfl

/-- An ACT_CON with the key confirms the oldest of the commands. -/
theorem filter_specReply_confirm (l : List UnansweredCommand) :
    (specReply .command now CS101_COT_ACTIVATION_CON k.answered l).filter k.answered =
      (l.filter k.answered).modifyHead (UnansweredCommand.confirm now) :=
  Keyed.filter_updateFirst (p := k.answered) (f := UnansweredCommand.confirm now)
    (fun _ h => h) l

/-- So does an element that is one. -/
theorem filter_specElement_confirm (hkind : replyKind k.typeId = .command)
    {e : Option InformationObject} (h : k.confirmedBy connection a e)
    (l : List UnansweredCommand) :
    (specElement now connection a l e).filter k.answered =
      (l.filter k.answered).modifyHead (UnansweredCommand.confirm now) := by
  obtain ⟨hcon, hcarried⟩ := Bool.and_eq_true_iff.mp h
  cases e with
  | none => cases hcarried
  | some io =>
    obtain ⟨htype, hca, hioa, rfl⟩ := of_decide_eq_true hcarried
    rw [specElement, htype, hca, hioa, hkind, beq_iff_eq.mp hcon]
    exact filter_specReply_confirm l

/-- An element for another key, or with a cause that is neither ACT_CON nor ACT_TERM, leaves the
commands with the key alone. -/
theorem filter_specElement_other (hkind : replyKind k.typeId = .command)
    {e : Option InformationObject} (h : k.confirmedBy connection a e = false)
    (hterm : a.cot = CS101_COT_ACTIVATION_TERMINATION → ¬k.carriedBy connection a e)
    (l : List UnansweredCommand) :
    (specElement now connection a l e).filter k.answered = l.filter k.answered := by
  cases e with
  | none => rfl
  | some io =>
    by_cases hcarried : k.carriedBy connection a (some io)
    · have hcon : a.cot ≠ CS101_COT_ACTIVATION_CON := by
        rintro hcon
        rw [confirmedBy, hcarried, hcon] at h
        cases h
      have hterm' : a.cot ≠ CS101_COT_ACTIVATION_TERMINATION := fun h => hterm h hcarried
      obtain ⟨htype, -, -, -⟩ := of_decide_eq_true hcarried
      rw [specElement, htype, hkind, specReply, if_neg hcon, if_neg hterm']
    · refine filter_specReply_of_ne (fun hkey => hcarried ?_) ..
      exact decide_eq_true hkey

/-- What the elements of an ASDU that is no ACT_TERM do to the commands with the key. -/
theorem filter_specElements (hkind : replyKind k.typeId = .command)
    (elements : List (Option InformationObject)) :
    ∀ (times : List Nat) (l : List UnansweredCommand),
      (a.cot = CS101_COT_ACTIVATION_TERMINATION →
        ∀ e ∈ elements, ¬k.carriedBy connection a e) →
      OldestConfirmed times (l.filter k.answered) →
      times.length + elements.countP (k.confirmedBy connection a) ≤
        (l.filter k.answered).length →
      OldestConfirmed
          (times ++ List.replicate (elements.countP (k.confirmedBy connection a)) now)
          ((elements.foldl (specElement now connection a) l).filter k.answered) ∧
        ((elements.foldl (specElement now connection a) l).filter k.answered).length =
          (l.filter k.answered).length := by
  induction elements with
  | nil =>
    intro times l _ hl _
    simpa using hl
  | cons e elements ih =>
    intro times l hterm hl hcount
    have hrest : a.cot = CS101_COT_ACTIVATION_TERMINATION →
        ∀ e ∈ elements, ¬k.carriedBy connection a e :=
      fun h e he => hterm h e (List.mem_cons_of_mem _ he)
    rw [List.foldl_cons]
    cases hconfirmed : k.confirmedBy connection a e with
    | true =>
      have hconfirm : (specElement now connection a l e).filter k.answered =
          (l.filter k.answered).modifyHead (UnansweredCommand.confirm now) :=
        filter_specElement_confirm hkind hconfirmed l
      have hlength : ((l.filter k.answered).modifyHead
          (UnansweredCommand.confirm now)).length = (l.filter k.answered).length :=
        List.length_modifyHead
      rw [List.countP_cons_of_pos hconfirmed] at hcount ⊢
      have hne : l.filter k.answered ≠ [] := by
        intro hnil
        rw [hnil, List.length_nil] at hcount
        omega
      have hnext := ih (times ++ [now]) _ hrest (hconfirm ▸ hl.confirm hne now)
        (by rw [hconfirm, hlength, List.length_append, List.length_singleton]; omega)
      rw [hconfirm, hlength, List.append_assoc] at hnext
      exact hnext
    | false =>
      have hsame : (specElement now connection a l e).filter k.answered = l.filter k.answered :=
        filter_specElement_other hkind hconfirmed (fun h => hterm h e List.mem_cons_self) l
      rw [List.countP_cons_of_neg (by rw [hconfirmed]; exact Bool.false_ne_true)] at hcount ⊢
      rw [← hsame] at hl hcount ⊢
      exact ih times _ hrest hl hcount

end CommandKey

/-! ## Runs -/

/-- A step that keeps the commands with the key confirms at most the oldest of them. -/
theorem commandStep_oldestConfirmed (cfg : IEC104ClientConfig) {k : CommandKey}
    (hkind : replyKind k.typeId = .command) {s : CommandSystem} {times : List Nat}
    (hbooked : s.client.Booked) {i : CommandInput} (hkeeps : KeepsIdentical cfg k (s, times) i)
    (hs : OldestConfirmed times (s.client.unanswered.filter k.answered)) :
    OldestConfirmed (noteConfirmations k times s i (commandStep cfg s i).2)
      ((commandStep cfg s i).1.client.unanswered.filter k.answered) := by
  rw [(commandStep_unanswered cfg hbooked i).1]
  cases i with
  | send op now accepted =>
    simp only [specStep, specSend]
    split_ifs
    · rw [List.filter_append, List.filter_cons]
      split_ifs
      · exact hs.append Bool.false_ne_true
      · rwa [List.filter_nil, List.append_nil]
    · exact hs
  | handleASDU connection a now =>
    obtain ⟨hterm, hcount⟩ := hkeeps
    have hlength : (s.client.identical k).length =
        (s.client.unanswered.filter k.answered).length := by
      rw [← CommandKey.map_identical, List.length_map]
    rw [hlength] at hcount
    exact (CommandKey.filter_specElements hkind a.elements times _ hterm hs hcount).1
  | checkOutstandingCommandTimeouts currentTime =>
    have hkept : (specTimeouts cfg currentTime s.client.unanswered).filter k.answered =
        s.client.unanswered.filter k.answered := by
      rw [specTimeouts, List.filter_filter]
      refine List.filter_congr fun u hu => ?_
      obtain ⟨command, hcommand, rfl⟩ := List.mem_map.mp hu
      cases hanswered : k.answered command.unanswered with
      | false => rfl
      | true =>
        have hmem : command ∈ s.client.identical k :=
          List.mem_filter.mpr ⟨hcommand, hanswered⟩
        have htime : UnansweredCommand.timedOut cfg currentTime command.unanswered = false :=
          Bool.eq_false_iff.mpr (hkeeps command hmem)
        rw [htime]
        rfl
    exact hkept ▸ hs
  | connections activeConnection cons => exact hs

/-- A run that keeps the commands with the key confirms at most the oldest of them. -/
theorem run_oldestConfirmed (cfg : IEC104ClientConfig) {k : CommandKey}
    (hkind : replyKind k.typeId = .command) {s : CommandSystem × List Nat}
    (hbooked : s.1.client.Booked)
    (hs : OldestConfirmed s.2 (s.1.client.unanswered.filter k.answered)) {is : List CommandInput}
    (hkeeps : Along (watch (commandStep cfg) (noteConfirmations k)) (KeepsIdentical cfg k) s is) :
    OldestConfirmed (run (watch (commandStep cfg) (noteConfirmations k)) s is).2
      ((run (watch (commandStep cfg) (noteConfirmations k)) s is).1.client.unanswered.filter
        k.answered) := by
  refine (run_of_always (always_of_along (I := fun s : CommandSystem × List Nat =>
    s.1.client.Booked ∧ OldestConfirmed s.2 (s.1.client.unanswered.filter k.answered))
    ?_ (fun s hs => hs.2) ⟨hbooked, hs⟩ hkeeps))
  rintro s i ⟨hbooked, hs⟩ hstep
  exact ⟨(commandStep_unanswered cfg hbooked i).2,
    commandStep_oldestConfirmed cfg hkind hbooked hstep hs⟩

/-- Commands that are not confirmed are as they were before the first ACT_CON. -/
theorem oldestConfirmed_nil {l : List UnansweredCommand} (h : ∀ u ∈ l, ¬u.actConReceived) :
    OldestConfirmed [] l := by
  cases l with
  | nil => rfl
  | cons u rest =>
    exact ⟨.inl ⟨rfl, h u List.mem_cons_self⟩, fun v hv => h v (List.mem_cons_of_mem _ hv)⟩

/-- A confirmed command is not removed as 'ACT-CON timeout'. -/
theorem notMem_actConTimeouts {cfg : IEC104ClientConfig} {currentTime : Nat} {c : Client}
    {command : OutstandingCommand} (h : command.actConReceived) :
    command ∉ c.actConTimeouts cfg currentTime := by
  intro hmem
  simp [Client.actConTimeouts, h] at hmem

/-- As many ACT_CONs as commands with the key came, and nothing removed a command: all of them
are confirmed if and only if there is at most one. -/
theorem all_confirmed_iff (cfg : IEC104ClientConfig) (t : ExchangeTable)
    (cons : ConId → Connection) (before is : List CommandInput) (k : CommandKey)
    (hkind : replyKind k.typeId = .command) (s : CommandSystem)
    (hs : s = run (commandStep cfg)
      { client := { exchangeDefinitions := t }, cons := cons } before)
    (hunconfirmed : ∀ command ∈ s.client.identical k, ¬command.actConReceived)
    (hkeeps : Along (watch (commandStep cfg) (noteConfirmations k)) (KeepsIdentical cfg k) (s, [])
      is)
    (s' : CommandSystem) (times : List Nat)
    (hs' : (s', times) = run (watch (commandStep cfg) (noteConfirmations k)) (s, []) is)
    (hcount : times.length = (s'.client.identical k).length) :
    (∀ command ∈ s'.client.identical k, ConfirmedAt cfg times s'.client command) ↔
      (s'.client.identical k).length ≤ 1 := by
  have hbooked : s.client.Booked := by
    rw [hs]
    exact run_of_always (always_of_invariant (I := fun s : CommandSystem => s.client.Booked)
      (fun s i h => (commandStep_unanswered cfg h i).2) (fun _ h => h) (.empty t))
  have hstart : OldestConfirmed [] (s.client.unanswered.filter k.answered) := by
    rw [← CommandKey.map_identical]
    refine oldestConfirmed_nil fun u hu => ?_
    obtain ⟨command, hcommand, rfl⟩ := List.mem_map.mp hu
    exact hunconfirmed command hcommand
  have hlast := run_oldestConfirmed cfg hkind (s := (s, [])) hbooked hstart hkeeps
  rw [← hs', ← CommandKey.map_identical] at hlast
  cases hl : s'.client.identical k with
  | nil => exact iff_of_true (fun _ h => absurd h List.not_mem_nil) (Nat.zero_le 1)
  | cons command rest =>
    rw [hl] at hlast hcount
    obtain ⟨holdest, hrest⟩ := hlast
    cases rest with
    | nil =>
      have htimes : times ≠ [] := by
        rintro rfl
        cases hcount
      obtain ⟨hconfirmed, htimeout⟩ := holdest.resolve_left fun h => htimes h.1
      refine iff_of_true (fun other hother => ?_) le_rfl
      rw [List.mem_singleton.mp hother]
      exact ⟨hconfirmed, htimeout, fun _ => notMem_actConTimeouts hconfirmed⟩
    | cons other rest =>
      -- the command behind the oldest
      refine iff_of_false (fun h => ?_) (by simp)
      exact hrest other.unanswered List.mem_cons_self
        (h other (List.mem_cons_of_mem _ List.mem_cons_self)).actConReceived

/-! ## Two identical commands -/

/-- A `C_SC_NA_1` to the point 1-10. -/
def singleCommand : CommandOperation := .sendSingleCommand 1 10 true false false 0

/-- An open and active connection, and a table with the point 1-10. -/
def commandSystem : CommandSystem where
  client :=
    { exchangeDefinitions :=
        .ofDatapoints [{ ca := 1, ioa := 10, typeId := C_SC_NA_1, label := "p" }] }
  cons := fun _ => { connection := some 1, connectionState := .connectedActive }

/-- A positive ACT_CON for the point 1-10. -/
def singleCommandConfirmation : ASDU where
  typeId := C_SC_NA_1
  cot := CS101_COT_ACTIVATION_CON
  ca := 1
  elements := [some
    { objectAddress := 10, value := .int 1, quality := 0, timestamp := ⟨0, false, false, false⟩ }]

/-- A single command with one ACT_CON is confirmed. -/
theorem all_confirmed_one :
    let s := run (commandStep {}) commandSystem
      [.connections (some 0) commandSystem.cons, .send singleCommand 0 true,
        .handleASDU 0 singleCommandConfirmation 100]
    (s.client.identical ⟨C_SC_NA_1, 1, 10, 0⟩).length = 1 ∧
      ∀ command ∈ s.client.identical ⟨C_SC_NA_1, 1, 10, 0⟩,
        ConfirmedAt {} [100] s.client command :=
  ⟨by decide, (all_confirmed_iff {} _ commandSystem.cons
    [.connections (some 0) commandSystem.cons, .send singleCommand 0 true]
    [.handleASDU 0 singleCommandConfirmation 100] ⟨C_SC_NA_1, 1, 10, 0⟩ rfl _ rfl (by decide)
    (by decide) _ [100] rfl (by decide)).mpr (by decide)⟩

/-- Two commands, confirmed at 100 and at 200. -/
def twoIdenticalCommands : List CommandInput :=
  [.connections (some 0) commandSystem.cons, .send singleCommand 0 true,
    .send singleCommand 10 true, .handleASDU 0 singleCommandConfirmation 100,
    .handleASDU 0 singleCommandConfirmation 200]

/-- Both commands are confirmed by the station in time; the second one is removed as
'ACT-CON timeout' after its 1000 ms. -/
theorem second_confirmation_merged :
    let s := run (commandStep {}) commandSystem twoIdenticalCommands
    (s.client.identical ⟨C_SC_NA_1, 1, 10, 0⟩).map (fun e => (e.actConReceived, e.timeout)) =
        [(true, 200), (false, 10)] ∧
      (s.client.actConTimeouts {} 1011).map (·.timeout) = [10] ∧
      (s.client.checkOutstandingCommandTimeouts {} 1011).outstandingCommands.map (·.timeout) =
        [200] := by
  decide

end Iec104South
