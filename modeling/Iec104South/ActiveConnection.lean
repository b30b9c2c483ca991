import Iec104South.ClientMachine

/-!
# The active connection

`single_active_of_along`: in every run of the client at most one connection is open and in the
active state, that one is `m_activeConnection`, and on the session of an open active connection
a STARTDT was sent. The run is one of the environment the client is written for: lib60870 keeps
the order of the events of a session (`LibraryOrder`), and the monitoring thread runs a round
between a CLOSED event of a connection and its next OPENED event (`RoundBetweenSessions`).

The invariant (`LinkInv`) is one of each connection for itself: what the monitoring thread
knows of it, what it is asked for, and the session it is on.
-/

namespace Iec104South

open Reactive

/-- A session: what lib60870 has delivered on it, and whether a STARTDT was sent on it. -/
structure Session where
  opened : Bool := false
  startDtSent : Bool := false
  closed : Bool := false
deriving DecidableEq, Repr

namespace Session

def note (event : ConnectionEvent) (ses : Session) : Session :=
  match event with
  | .opened => { ses with opened := true }
  | .closed => { ses with closed := true }
  | _ => ses

/-- The session is open: ASDUs arrive on it. -/
def isOpen (ses : Session) : Bool := ses.opened && !ses.closed

/-- The order of the events of a session: OPENED, then STARTDT_CON once a STARTDT was sent,
then CLOSED and nothing after it. -/
def allows (event : ConnectionEvent) (ses : Session) : Bool :=
  match event with
  | .opened => !ses.opened && !ses.closed
  | .startdtConReceived => ses.isOpen && ses.startDtSent
  | .stopdtConReceived => ses.isOpen
  | .closed => !ses.closed
  | .other => true

end Session

/-- The current session of each connection, and whether the monitoring thread has still to run
a round after the last CLOSED event of the connection. -/
structure SessionsWatch where
  session : ConId → Option Session := fun _ => none
  awaitsRound : ConId → Bool := fun _ => false

def noteSessions (w : SessionsWatch) (s : System) (i : ClientInput) (out : List Effect) :
    SessionsWatch :=
  match i with
  | .connectionEvent con event _ =>
    { session := Function.update w.session con ((w.session con).map (·.note event))
      awaitsRound :=
        if event = .closed then Function.update w.awaitsRound con true else w.awaitsRound }
  -- a round in IDLE that connects destroys the old session before it creates the next one
  | .conThread con env =>
    if con ∈ s.connections ∧ (s.cons con).connectionState = .idle ∧ (s.cons con).connect then
      { w with session := Function.update w.session con (env.created.map fun _ => {}) }
    else w
  | .monitoringThread _ _ =>
    { session :=
        match s.activates with
        | some con =>
          Function.update w.session con ((w.session con).map fun ses =>
            { ses with startDtSent := ses.startDtSent || sendsStartDT out })
        | none => w.session
      awaitsRound := fun _ => false }
  | _ => w

/-- lib60870 delivers the events of a session in order, and ASDUs while it is open. -/
def LibraryOrder (s : System × SessionsWatch) : ClientInput → Prop
  | .connectionEvent con event _ => (s.2.session con).any (·.allows event)
  | .asdu con _ _ => (s.2.session con).any (·.isOpen)
  | _ => True

/-- Between a CLOSED event of a connection and its next OPENED event the monitoring thread has
run a round. -/
def RoundBetweenSessions (s : System × SessionsWatch) : ClientInput → Prop
  | .connectionEvent con .opened _ => s.2.awaitsRound con = false
  | _ => True

instance (s : System × SessionsWatch) : ∀ i, Decidable (LibraryOrder s i) := by
  unfold LibraryOrder
  exact ClientInput.decidable

instance (s : System × SessionsWatch) : ∀ i, Decidable (RoundBetweenSessions s i) := by
  unfold RoundBetweenSessions
  exact ClientInput.decidable

/-- The connection is open and in the active state. -/
def System.isActive (s : System) (con : ConId) : Bool :=
  (s.cons con).connected && (s.cons con).connectionState == .connectedActive

/-- At most one connection is active, it is `m_activeConnection`, and if that one is open then
a STARTDT was sent on its session. -/
structure SingleActive (s : System × SessionsWatch) : Prop where
  unique : ∀ a b, s.1.isActive a → s.1.isActive b → a = b
  active : ∀ con, s.1.isActive con → s.1.client.activeConnection = some con
  startDtSent : ∀ con, s.1.client.activeConnection = some con → (s.1.cons con).connected →
    ∃ ses, s.2.session con = some ses ∧ ses.startDtSent

/-! ## The invariant of one connection -/

namespace Link

/-- The state of an open connection. -/
def isOpen (l : Link) : Prop :=
  l.connectionState = .connectedInactive ∨ l.connectionState = .connectedActive

end Link

/-- What holds of one connection between steps: `active` tells that it is `m_activeConnection`,
`awaits` that the monitoring thread has still to notice its last CLOSED event. -/
structure LinkInv (active : Bool) (l : Link) (session : Option Session) (awaits : Bool) :
    Prop where
  /-- a connection is not asked to connect and to disconnect -/
  requests : l.connect → l.disconnect = false
  /-- nothing asks for a disconnection before a session is opened -/
  unopened : ∀ ses, session = some ses → ses.opened = false → ses.closed = false →
    l.connection.isSome ∧ l.disconnect = false
  unsent : ∀ ses, session = some ses → ses.opened = false → ses.startDtSent = false
  connected : l.connected →
    l.connection.isSome ∧ l.isOpen ∧ ∃ ses, session = some ses ∧ ses.isOpen
  /-- the connection stays the active one as long as it is open -/
  kept : ∀ ses, session = some ses → l.connected → ses.startDtSent → active
  started : active → l.connected → ∃ ses, session = some ses ∧ ses.startDtSent
  running : l.connected → l.connectionState = .connectedActive → active
  /-- a lost connection is not opened again before the monitoring thread has noticed the loss -/
  lost : active → awaits = false → l.isOpen ∧ ∃ ses, session = some ses ∧ ses.isOpen

namespace LinkInv

variable {active awaits : Bool} {l : Link} {session : Option Session} {ses : Session}

theorem isOpen_iff : ses.isOpen ↔ ses.opened ∧ ses.closed = false := by
  simp [Session.isOpen]

/-- Nothing is known of a connection that is not started. -/
theorem init (l : Link) (hrequests : l.connect → l.disconnect = false)
    (hclosed : l.connected = false) : LinkInv false l none false where
  requests := hrequests
  unopened := (fun _ h => nomatch h)
  unsent := (fun _ h => nomatch h)
  connected := (fun h => by simp [hclosed] at h)
  kept := (fun _ h => nomatch h)
  started := (fun h => nomatch h)
  running := (fun h => by simp [hclosed] at h)
  lost := (fun h => nomatch h)

/-- OPENED: the connection is not the active one, because no open session was lost since. -/
theorem opened (h : LinkInv active l (some ses) awaits) (horder : ses.allows .opened)
    (hround : awaits = false) :
    LinkInv active { l with connected := true, connectionState := .connectedInactive }
      (some (ses.note .opened)) awaits := by
  obtain ⟨hunopened, hunclosed⟩ : ses.opened = false ∧ ses.closed = false := by
    simpa [Session.allows] using horder
  have hinactive : active = false := by
    refine Bool.eq_false_iff.mpr fun hactive => ?_
    obtain ⟨-, ses', hses, hopen⟩ := h.lost hactive hround
    cases hses
    simp [Session.isOpen, hunopened] at hopen
  obtain ⟨hconnection, -⟩ := h.unopened ses rfl hunopened hunclosed
  refine ⟨h.requests, ?_, ?_, ?_, ?_, ?_, ?_, ?_⟩
  · intro ses' hses hnot
    cases hses
    cases hnot
  · intro ses' hses hnot
    cases hses
    cases hnot
  · intro _
    refine ⟨hconnection, .inl rfl, _, rfl, ?_⟩
    simp [Session.isOpen, Session.note, hunclosed]
  · intro ses' hses _ hsent
    cases hses
    rw [show (ses.note .opened).startDtSent = ses.startDtSent from rfl,
      h.unsent ses rfl hunopened] at hsent
    cases hsent
  · intro hactive
    simp [hinactive] at hactive
  · intro _ hstate
    cases hstate
  · intro hactive
    simp [hinactive] at hactive

/-- STARTDT_CON and STOPDT_CON move the connection between the two states of an open one. -/
theorem setState (h : LinkInv active l (some ses) awaits) (hopen : ses.isOpen)
    {state : ConState} (hstate : state = .connectedInactive ∨
      state = .connectedActive ∧ ses.startDtSent) :
    LinkInv active { l with connectionState := state } (some ses) awaits := by
  have hnext : Link.isOpen { l with connectionState := state } := hstate.imp id And.left
  refine ⟨h.requests, h.unopened, h.unsent, ?_, h.kept, h.started, ?_, ?_⟩
  · intro hconnected
    exact ⟨(h.connected hconnected).1, hnext, ses, rfl, hopen⟩
  · intro hconnected hactive
    rcases hstate with hstate | ⟨-, hsent⟩
    · rw [hstate] at hactive
      cases hactive
    · exact h.kept ses rfl hconnected hsent
  · exact fun _ _ => ⟨hnext, ses, rfl, hopen⟩

/-- CLOSED: from now on the monitoring thread has a loss to notice. -/
theorem closed (h : LinkInv active l (some ses) awaits) :
    LinkInv active { l with connected := false, connectionState := .closed }
      (some (ses.note .closed)) true := by
  refine ⟨h.requests, ?_, ?_, (fun h => nomatch h), (fun _ _ h => nomatch h),
    (fun _ h => nomatch h), (fun h => nomatch h), (fun _ h => nomatch h)⟩
  · intro ses' hses _ hunclosed
    cases hses
    cases hunclosed
  · intro ses' hses hunopened
    cases hses
    exact h.unsent ses rfl hunopened

/-- A disconnect request, which only an open session can give rise to. -/
theorem disonnect (h : LinkInv active l session awaits)
    (hopen : ∃ ses, session = some ses ∧ ses.isOpen) :
    LinkInv active { l with disconnect := true, connect := false } session awaits := by
  obtain ⟨ses, rfl, hopen⟩ := hopen
  refine ⟨(fun h => nomatch h), ?_, h.unsent, h.connected, h.kept, h.started, h.running, h.lost⟩
  intro ses' hses hunopened
  cases hses
  simp [Session.isOpen, hunopened] at hopen

theorem requestConnect (h : LinkInv active l session awaits) :
    LinkInv active { l with disconnect := false, connect := true } session awaits := by
  refine ⟨fun _ => rfl, ?_, h.unsent, h.connected, h.kept, h.started, h.running, h.lost⟩
  exact fun ses hses hunopened hunclosed => ⟨(h.unopened ses hses hunopened hunclosed).1, rfl⟩

/-- The connection thread serves a disconnect request. -/
theorem conThreadDisconnect (h : LinkInv active l session awaits) (hrequest : l.disconnect) :
    LinkInv active { l with connected := false, disconnect := false, connection := none } session
      awaits := by
  refine ⟨fun _ => rfl, ?_, h.unsent, (fun h => nomatch h), (fun _ _ h => nomatch h),
    (fun _ h => nomatch h), (fun h => nomatch h), h.lost⟩
  intro ses hses hunopened hunclosed
  simp [(h.unopened ses hses hunopened hunclosed).2] at hrequest

/-- The connection thread moves a connection that is not open to another such state. -/
theorem moved (h : LinkInv active l session awaits) (hbefore : ¬ l.isOpen) (state : ConState)
    (connection : Option Handle) (session' : Option Session)
    (hsession : session' = session ∧ connection = l.connection ∨
      session' = connection.map (fun _ => {}) ∧ l.disconnect = false) :
    LinkInv active { l with connection := connection, connectionState := state } session'
      awaits := by
  have hclosed : l.connected = false := by
    refine Bool.eq_false_iff.mpr fun hconnected => hbefore (h.connected hconnected).2.1
  have hlost : active → awaits = false → False := fun hactive hround =>
    hbefore (h.lost hactive hround).1
  refine ⟨h.requests, ?_, ?_, (fun h => by simp [hclosed] at h),
    (fun _ _ h => by simp [hclosed] at h), (fun _ h => by simp [hclosed] at h),
    (fun h => by simp [hclosed] at h),
    fun hactive hround => (hlost hactive hround).elim⟩
  · intro ses hses hunopened hunclosed
    rcases hsession with ⟨rfl, rfl⟩ | ⟨rfl, hrequest⟩
    · exact h.unopened ses hses hunopened hunclosed
    · obtain ⟨handle, hhandle, -⟩ := Option.map_eq_some_iff.mp hses
      exact ⟨by simp [hhandle], hrequest⟩
  · intro ses hses hunopened
    rcases hsession with ⟨rfl, -⟩ | ⟨rfl, -⟩
    · exact h.unsent ses hses hunopened
    · obtain ⟨-, -, rfl⟩ := Option.map_eq_some_iff.mp hses
      rfl

/-- A round of the connection thread. -/
theorem conThread {con : Connection} (h : LinkInv active con.link session awaits) (env : Env) :
    LinkInv active (Plugin.conThreadLink env con)
      (if con.connectionState = .idle ∧ con.connect then env.created.map fun _ => {} else session)
      awaits := by
  unfold Plugin.conThreadLink
  cases hstate : con.connectionState with
  | idle =>
    have hbefore : ¬ con.link.isOpen := by simp [Link.isOpen, Connection.link, hstate]
    cases hconnect : con.connect with
    | true =>
      simp only [true_and, if_true]
      exact h.moved hbefore _ _ _ (.inr ⟨rfl, h.requests hconnect⟩)
    | false =>
      simp only [Bool.false_eq_true, and_false, if_false]
      exact h
  | connecting | waitForReconnect =>
    have hbefore : ¬ con.link.isOpen := by simp [Link.isOpen, Connection.link, hstate]
    simp only [reduceCtorEq, false_and, if_false]
    split_ifs
    · exact h.moved hbefore _ con.connection session (.inl ⟨rfl, rfl⟩)
    · exact h
  | closed =>
    have hbefore : ¬ con.link.isOpen := by simp [Link.isOpen, Connection.link, hstate]
    simp only [reduceCtorEq, false_and, if_false]
    exact h.moved hbefore _ con.connection session (.inl ⟨rfl, rfl⟩)
  | connectedInactive | connectedActive | fatalError =>
    simp only [reduceCtorEq, false_and, if_false]
    exact h

/-- The monitoring thread activates an open connection while there is no active one: it is in
the inactive state and has a handle, so a STARTDT is sent. -/
theorem activate (h : LinkInv false l session awaits) (hconnected : l.connected) :
    l.connectionState = .connectedInactive ∧ l.connection.isSome ∧
      LinkInv true { l with connectionState := .connectedActive }
        (session.map fun ses => { ses with startDtSent := true }) false := by
  obtain ⟨hconnection, hopen, ses, rfl, hses⟩ := h.connected hconnected
  have hinactive : l.connectionState = .connectedInactive := by
    refine hopen.resolve_right fun hactive => ?_
    cases h.running hconnected hactive
  refine ⟨hinactive, hconnection, h.requests, ?_, ?_, ?_, ?_, ?_, fun _ _ => rfl, ?_⟩
  · intro ses' hses' hunopened
    cases hses'
    have hopened : ses.opened = true := (isOpen_iff.mp hses).1
    simp [hopened] at hunopened
  · intro ses' hses' hunopened
    cases hses'
    have hopened : ses.opened = true := (isOpen_iff.mp hses).1
    simp [hopened] at hunopened
  · exact fun _ => ⟨hconnection, .inr rfl, _, rfl, hses⟩
  · exact fun _ _ _ _ => rfl
  · exact fun _ _ => ⟨_, rfl, rfl⟩
  · exact fun _ _ => ⟨.inr rfl, _, rfl, hses⟩

/-- A round of the monitoring thread that finds the active connection open, or leaves another
one alone. -/
theorem noticed (h : LinkInv active l session awaits) (hactive : active → l.connected) :
    LinkInv active l session false := by
  refine ⟨h.requests, h.unopened, h.unsent, h.connected, h.kept, h.started, h.running, ?_⟩
  exact fun h' _ => (h.connected (hactive h')).2

/-- The monitoring thread forgets a connection it has lost. -/
theorem forgotten (h : LinkInv active l session awaits) (hclosed : l.connected = false) :
    LinkInv false l session false := by
  refine ⟨h.requests, h.unopened, h.unsent, h.connected, ?_, (fun h => nomatch h), ?_,
    (fun h => nomatch h)⟩
  · intro _ _ hconnected
    simp [hclosed] at hconnected
  · intro hconnected
    simp [hclosed] at hconnected

end LinkInv

/-! ## The invariant of the client -/

/-- What holds between the steps of the client. -/
structure SetUpInv (s : System × SessionsWatch) : Prop where
  link : ∀ con, LinkInv (s.1.client.activeConnection == some con) (s.1.cons con).link
    (s.2.session con) (s.2.awaitsRound con)
  /-- only the connections of the client have sessions -/
  member : ∀ con ses, s.2.session con = some ses → con ∈ s.1.connections

theorem activate_connectedInactive {con : Connection} {handle : Handle}
    (hstate : con.connectionState = .connectedInactive) (hhandle : con.connection = some handle) :
    con.activate = ([.sendStartDT handle],
      { con with startDtSent := true, connectionState := .connectedActive }) := by
  rw [Connection.activate, if_pos hstate, hhandle]
  rfl

namespace SetUpInv

variable {cfg : IEC104ClientConfig} {redGroup : ConId → RedGroupCon} {s : System}
  {w : SessionsWatch} {i : ClientInput}

/-- A step of one connection leaves the others alone. -/
theorem onConnection (hs : SetUpInv (s, w)) {con : ConId} {f : Plugin → Plugin}
    (hmem : con ∈ s.connections)
    (hactive : (f (s.plugin con)).client.activeConnection = s.client.activeConnection)
    {session : Option Session} {awaits : Bool}
    (hlink : LinkInv (s.client.activeConnection == some con) (f (s.plugin con)).con.link session
      awaits) :
    SetUpInv (s.onConnection con f,
      { session := Function.update w.session con session
        awaitsRound := Function.update w.awaitsRound con awaits }) where
  link := by
    intro other
    simp only [System.onConnection, hactive]
    rcases eq_or_ne other con with rfl | hne
    · simpa using hlink
    · simpa [hne] using hs.link other
  member := by
    intro other ses hses
    rcases eq_or_ne other con with rfl | hne
    · exact hmem
    · exact hs.member other ses (by simpa [hne] using hses)

theorem connectionEvent (hs : SetUpInv (s, w)) (con : ConId) (event : ConnectionEvent) (now : Nat)
    (horder : LibraryOrder (s, w) (.connectionEvent con event now))
    (hround : RoundBetweenSessions (s, w) (.connectionEvent con event now)) (out : List Effect) :
    SetUpInv (s.connectionStep cfg con (.connectionEvent event now),
      noteSessions w s (.connectionEvent con event now) out) := by
  obtain ⟨ses, hses, hallows⟩ : ∃ ses, w.session con = some ses ∧ ses.allows event := by
    simpa [LibraryOrder, Option.any_eq_true] using horder
  have hmem := hs.member con ses hses
  have hlink := hs.link con
  simp only [hses] at hlink
  have hupdate : w.awaitsRound = Function.update w.awaitsRound con (w.awaitsRound con) := by simp
  have hstep : s.connectionStep cfg con (.connectionEvent event now) =
      s.onConnection con fun p => { p with con := p.con.connectionHandler event now } :=
    if_pos hmem
  rw [hstep]
  simp only [noteSessions, hses, Option.map_some]
  cases event with
  | opened =>
    rw [if_neg (by simp), hupdate]
    exact hs.onConnection hmem rfl (hlink.opened hallows hround)
  | closed =>
    rw [if_pos rfl]
    exact hs.onConnection hmem rfl hlink.closed
  | startdtConReceived =>
    obtain ⟨hopen, hsent⟩ := Bool.and_eq_true_iff.mp hallows
    rw [if_neg (by simp), hupdate]
    exact hs.onConnection hmem rfl (hlink.setState hopen (.inr ⟨rfl, hsent⟩))
  | stopdtConReceived =>
    rw [if_neg (by simp), hupdate]
    exact hs.onConnection hmem rfl (hlink.setState hallows (.inl rfl))
  | other =>
    rw [if_neg (by simp), hupdate]
    exact hs.onConnection hmem rfl hlink

theorem asdu (hs : SetUpInv (s, w)) (con : ConId) (a : ASDU) (now : Nat)
    (horder : LibraryOrder (s, w) (.asdu con a now)) :
    SetUpInv (s.connectionStep cfg con (.asdu a now), w) := by
  obtain ⟨ses, hses, hopen⟩ : ∃ ses, w.session con = some ses ∧ ses.isOpen := by
    simpa [LibraryOrder, Option.any_eq_true] using horder
  have hstep : s.connectionStep cfg con (.asdu a now) =
      s.onConnection con fun p => (p.asduReceivedHandler cfg now a).2 :=
    if_pos (hs.member con ses hses)
  obtain ⟨hlink, hactive⟩ := (s.plugin con).asduReceivedHandler_link cfg now a
  rw [hstep, show w = ⟨Function.update w.session con (w.session con),
    Function.update w.awaitsRound con (w.awaitsRound con)⟩ by simp]
  refine hs.onConnection (hs.member con ses hses) hactive ?_
  rw [hlink]
  split_ifs
  · exact (hs.link con).disonnect ⟨ses, hses, hopen⟩
  · exact hs.link con

theorem conThread (hs : SetUpInv (s, w)) (con : ConId) (env : Env) (out : List Effect) :
    SetUpInv (s.connectionStep cfg con (.conThread env),
      noteSessions w s (.conThread con env) out) := by
  by_cases hmem : con ∈ s.connections
  · have hstep : s.connectionStep cfg con (.conThread env) =
        s.onConnection con (·.conThread cfg env) := if_pos hmem
    have hnote : noteSessions w s (.conThread con env) out =
        { session := Function.update w.session con
            (if (s.cons con).connectionState = .idle ∧ (s.cons con).connect then
              env.created.map fun _ => {} else w.session con)
          awaitsRound := Function.update w.awaitsRound con (w.awaitsRound con) } := by
      simp only [noteSessions, hmem, true_and]
      split_ifs <;> simp
    obtain ⟨hlink, hactive⟩ := (s.plugin con).conThread_link cfg env
    rw [hstep, hnote]
    refine hs.onConnection hmem hactive ?_
    rw [hlink]
    exact (hs.link con).conThread env
  · simpa [System.connectionStep, noteSessions, hmem] using hs

theorem conThreadDisconnect (hs : SetUpInv (s, w)) (con : ConId) :
    SetUpInv (s.connectionStep cfg con .conThreadDisconnect, w) := by
  unfold System.connectionStep
  split_ifs with hmem
  · obtain ⟨hlink, hactive⟩ := (s.plugin con).conThreadDisconnect_link
    rw [show w = ⟨Function.update w.session con (w.session con),
      Function.update w.awaitsRound con (w.awaitsRound con)⟩ by simp]
    refine hs.onConnection hmem hactive ?_
    show LinkInv _ (s.plugin con).conThreadDisconnect.con.link _ _
    rw [hlink]
    split_ifs with hrequest
    · exact (hs.link con).conThreadDisconnect hrequest
    · exact hs.link con
  · exact hs

/-- A round of the monitoring thread that activates no connection. -/
theorem quietRound {s' : System} (hs : SetUpInv (s, w)) (hactivates : s.activates = none)
    (hconnections : s'.connections = s.connections)
    (hlink : ∀ con, LinkInv (s'.client.activeConnection == some con) (s'.cons con).link
      (w.session con) false) {timeInMs monotonicTimeInMs : Nat} {out : List Effect} :
    SetUpInv (s', noteSessions w s (.monitoringThread timeInMs monotonicTimeInMs) out) := by
  simp only [noteSessions, hactivates]
  exact ⟨hlink, fun con ses hses => hconnections ▸ hs.member con ses hses⟩

/-- No connection is the active one, so the monitoring thread has no lost one to notice. -/
theorem noticed_of_none (hs : SetUpInv (s, w)) (hnone : s.client.activeConnection = none)
    (con : ConId) : LinkInv false (s.cons con).link (w.session con) false := by
  have hlink := hs.link con
  rw [hnone] at hlink
  exact hlink.noticed fun h => absurd h Bool.false_ne_true

/-- A connection that is not the active one has not been lost as the active one. -/
theorem noticed_of_ne (hs : SetUpInv (s, w)) {active con : ConId}
    (hactive : s.client.activeConnection = some active) (hne : con ≠ active) :
    LinkInv false (s.cons con).link (w.session con) false := by
  have hlink := hs.link con
  rw [hactive, beq_false_of_ne fun h => hne (Option.some.inj h).symm] at hlink
  exact hlink.noticed fun h => absurd h Bool.false_ne_true

/-- The round of the monitoring thread that activates a connection sends its STARTDT. -/
theorem activates {s' : System} {active : ConId} (hs : SetUpInv (s, w))
    (hactivates : s.activates = some active)
    (hcons : s'.cons = Function.update s.cons active (s.cons active).activate.2)
    (hactive : s'.client.activeConnection = some active)
    (hconnections : s'.connections = s.connections) {out : List Effect}
    (hout : sendsStartDT out =
      (sendsStartDT s.client.out || sendsStartDT (s.cons active).activate.1))
    {timeInMs monotonicTimeInMs : Nat} :
    SetUpInv (s', noteSessions w s (.monitoringThread timeInMs monotonicTimeInMs) out) := by
  obtain ⟨hnone, hmem, hconnected⟩ := s.activates_eq_some hactivates
  obtain ⟨hstate, hhandle, hnext⟩ :=
    LinkInv.activate (hs.noticed_of_none hnone active) hconnected
  obtain ⟨handle, hhandle⟩ := Option.isSome_iff_exists.mp hhandle
  have hactivate := @activate_connectedInactive (s.cons active) _ hstate hhandle
  have hsent : sendsStartDT out = true := by
    rw [hout, hactivate]
    simp [sendsStartDT]
  refine ⟨fun con => ?_, fun con ses hses => ?_⟩
  · simp only [noteSessions, hactivates, hactive, hcons, hsent, Bool.or_true]
    rcases eq_or_ne con active with rfl | hne
    · simp only [Function.update_self, beq_self_eq_true, hactivate]
      exact hnext
    · rw [Function.update_of_ne hne, Function.update_of_ne hne,
        beq_false_of_ne fun h => hne (Option.some.inj h).symm]
      exact hs.noticed_of_none hnone con
  · rw [hconnections]
    rcases eq_or_ne con active with rfl | hne
    · exact hmem
    · exact hs.member con ses (by simpa [noteSessions, hactivates, hne] using hses)

theorem monitoringThread (hs : SetUpInv (s, w)) (timeInMs monotonicTimeInMs : Nat) :
    SetUpInv (s.monitoringThread cfg redGroup timeInMs monotonicTimeInMs,
      noteSessions w s (.monitoringThread timeInMs monotonicTimeInMs)
        (s.monitoringThread cfg redGroup timeInMs monotonicTimeInMs).client.out) := by
  have hconnections := monitoringThread_connections cfg redGroup s timeInMs monotonicTimeInMs
  cases monitoringThread_cases cfg redGroup s timeInMs monotonicTimeInMs with
  | activates active hactivates hcons hactive hout =>
    exact hs.activates hactivates hcons hactive hconnections hout
  | waits hnone hactivates hcons hactive =>
    refine hs.quietRound hactivates hconnections fun con => ?_
    have hnoticed := hs.noticed_of_none hnone con
    rw [hactive]
    rcases hcons con with h | h
    · rw [h]
      exact hnoticed
    · rw [h]
      exact hnoticed.requestConnect
  | loses active hbefore hlost hcons hactive =>
    refine hs.quietRound (by rw [System.activates, hbefore]) hconnections fun con => ?_
    rw [hactive, hcons]
    rcases eq_or_ne con active with rfl | hne
    · exact (hs.link con).forgotten hlost
    · exact hs.noticed_of_ne hbefore hne
  | keeps active hbefore hconnected hcons hactive =>
    refine hs.quietRound (by rw [System.activates, hbefore]) hconnections fun con => ?_
    have hlink := hs.link con
    rw [hbefore] at hlink
    have hnoticed : LinkInv (some active == some con) (s.cons con).link (w.session con) false := by
      refine hlink.noticed fun hsame => ?_
      exact (Option.some.inj (beq_iff_eq.mp hsame)) ▸ hconnected
    rw [hactive]
    rcases hcons con with h | ⟨-, hopen, h⟩
    · rw [h]
      exact hnoticed
    · rw [h]
      exact hnoticed.disonnect (hnoticed.connected hopen).2.2

/-- One step of the client in the environment it is written for. -/
theorem step (hs : SetUpInv (s, w)) (horder : LibraryOrder (s, w) i)
    (hround : RoundBetweenSessions (s, w) i) :
    SetUpInv (watch (clientStep cfg redGroup) noteSessions (s, w) i).1 := by
  have hclear : SetUpInv (s.clear, w) := ⟨hs.link, hs.member⟩
  cases hnorth : i.isNorth with
  | true =>
    obtain ⟨hcons, -, hactive⟩ := handle_north cfg redGroup s.clear hnorth
    have hnote (out : List Effect) : noteSessions w s i out = w := by
      cases i with
      | monitoringThread | connectionEvent | asdu | conThread | conThreadDisconnect => cases hnorth
      | _ => rfl
    show SetUpInv (s.clear.handle cfg redGroup i, noteSessions w s i _)
    rw [hnote]
    refine ⟨fun con => ?_, fun con ses hses => ?_⟩
    · rw [hcons, hactive]
      exact hclear.link con
    · rw [handle_connections]
      exact hclear.member con ses hses
  | false =>
    cases i with
    | monitoringThread => exact hclear.monitoringThread _ _
    | connectionEvent con event now => exact hclear.connectionEvent con event now horder hround []
    | asdu con a now => exact hclear.asdu con a now horder
    | conThread con env => exact hclear.conThread con env []
    | conThreadDisconnect con => exact hclear.conThreadDisconnect con
    | _ => cases hnorth

theorem started (cfg : IEC104ClientConfig) (redGroup : ConId → RedGroupCon) (t : ExchangeTable)
    (connections : List ConId) (timeInMs : Nat) :
    SetUpInv (System.started cfg redGroup t connections timeInMs, {}) where
  link := by
    intro con
    have hnone : (System.started cfg redGroup t connections timeInMs).client.activeConnection =
        none := by
      simp [System.started, System.monitoringThreadStart, System.init,
        Client.updateQualityForAllDataObjects, Client.sendQualityUpdates_eq]
    rw [hnone]
    refine LinkInv.init _ (fun _ => ?_) ?_
    · show Connection.disconnect (if con ∈ connections then _ else _) = false
      split_ifs <;> rfl
    · show Connection.connected (if con ∈ connections then _ else _) = false
      split_ifs <;> rfl
  member := fun _ _ h => by cases h

/-- What the invariants of the connections say together. -/
theorem singleActive {s : System × SessionsWatch} (hs : SetUpInv s) : SingleActive s := by
  have hactive : ∀ con, s.1.isActive con → s.1.client.activeConnection = some con := by
    intro con h
    obtain ⟨hconnected, hstate⟩ := Bool.and_eq_true_iff.mp h
    exact beq_iff_eq.mp ((hs.link con).running hconnected (beq_iff_eq.mp hstate))
  refine ⟨fun a b ha hb => ?_, hactive, fun con h hconnected => ?_⟩
  · exact Option.some.inj ((hactive a ha).symm.trans (hactive b hb))
  · exact (hs.link con).started (beq_iff_eq.mpr h) hconnected

end SetUpInv

/-- For any number of redundancy groups and connections, in every run of the client in which
lib60870 keeps the order of its events and the monitoring thread runs a round between two
sessions of a connection, there is never more than one active connection. -/
theorem single_active_of_along (cfg : IEC104ClientConfig) (redGroup : ConId → RedGroupCon)
    (t : ExchangeTable) (connections : List ConId) (timeInMs : Nat) (is : List ClientInput)
    (horder : Along (watch (clientStep cfg redGroup) noteSessions) LibraryOrder
      (System.started cfg redGroup t connections timeInMs, {}) is)
    (hround : Along (watch (clientStep cfg redGroup) noteSessions) RoundBetweenSessions
      (System.started cfg redGroup t connections timeInMs, {}) is) :
    Always (watch (clientStep cfg redGroup) noteSessions) SingleActive
      (System.started cfg redGroup t connections timeInMs, {}) is :=
  always_of_along (fun _ _ hs hi => SetUpInv.step hs hi.1 hi.2) (fun _ hs => hs.singleActive)
    (SetUpInv.started cfg redGroup t connections timeInMs) (along_and.mpr ⟨horder, hround⟩)

/-- Two connections; the active one is lost, the other one takes over, and the first one comes
back. -/
theorem single_active_failover :
    Always (watch (clientStep {} fun _ => {}) noteSessions) SingleActive
      (System.started {} (fun _ => {}) .empty [0, 1] 0, {})
      [.conThread 0 { created := some 1 }, .conThread 1 { created := some 2 },
        .connectionEvent 0 .opened 0, .connectionEvent 1 .opened 0, .monitoringThread 0 0,
        .connectionEvent 0 .startdtConReceived 0, .connectionEvent 0 .closed 0,
        .monitoringThread 100 100, .monitoringThread 200 200,
        .connectionEvent 1 .startdtConReceived 200, .conThread 0 {},
        .conThread 0 { delayTime := 10000 }, .conThread 0 { delayTime := 10000, created := some 3 },
        .connectionEvent 0 .opened 10000, .monitoringThread 10000 10000] :=
  single_active_of_along {} (fun _ => {}) .empty [0, 1] 0 _ (by decide) (by decide)

end Iec104South
