import Iec104South.Service
import Iec104South.UnknownLookups

/-!
# The life of the plugin

* `one_client_iff`: only the client of the handle runs, if and only if no client with connections
  is replaced by a start.
* `replaced_runs_on`: a client that is replaced is not stopped by any later call.
* `client_refines`: the client of the handle is a run of `clientStep`, from its start with the
  configuration that was imported last.
-/

namespace Iec104South

open Reactive

/-- The client of the handle is the only one that runs. -/
def Service.OnlyCurrent (s : Service) : Prop := ∀ id, s.clients id ≠ none → s.current = some id

/-- The call does not replace a client that has connections. -/
def replacesNone (s : Service) : PluginInput → Bool
  | .start _ => s.currentClient.all (·.system.connections.isEmpty)
  | _ => true

namespace Service

variable {s : Service}

theorem OnlyCurrent.stop (h : s.OnlyCurrent) (id : ClientId) : s.stop.1.clients id = none := by
  rw [stop_eq]
  show s.stoppedClients id = none
  unfold stoppedClients
  split_ifs with hid
  · rfl
  · by_contra hrunning
    exact hid (h id hrunning)

theorem onlyCurrent_of_none (h : ∀ id, s.clients id = none) : s.OnlyCurrent :=
  fun id hid => absurd (h id) hid

theorem OnlyCurrent.store (h : s.OnlyCurrent) {id : ClientId} (hid : s.clients id ≠ none)
    (config : ConfigId) (system : System) : (s.store id config system).OnlyCurrent := by
  intro id' hid'
  by_cases hsame : id' = id
  · subst hsame
    exact h id' hid
  · exact h id' fun hnone => hid' ((Function.update_of_ne hsame _ s.clients).trans hnone)

/-- After a start the new client runs alone, if no other client ran, or the one before had no
connections. -/
theorem onlyCurrent_start (hs : s.Valid) (h : s.OnlyCurrent) (timeInMs : Nat) :
    (s.start timeInMs).1.OnlyCurrent ↔
      s.handle = none ∨ s.currentClient.all (·.system.connections.isEmpty) := by
  cases hhandle : s.handle with
  | none =>
    rw [s.start_of_none hhandle]
    exact iff_of_true h (.inl rfl)
  | some iec104 =>
    rw [s.start_eq hhandle, or_iff_right (by simp)]
    have hcurrent : s.current = iec104.client := by
      rw [Service.current, hhandle, Option.bind_some]
    constructor
    · intro honly
      unfold currentClient
      cases hclient : iec104.client with
      | none => simp [hcurrent, hclient]
      | some old =>
        obtain ⟨system, hrunning⟩ := hs.current iec104 old hhandle hclient
        have hlt := (hs.client old _ hrunning).1
        by_contra hfull
        -- the old client has connections, so it is kept
        have hkept : s.keptClients old = some ⟨iec104.config, system⟩ := by
          unfold keptClients
          rw [if_neg ?_, hrunning]
          rintro ⟨-, hempty⟩
          exact hfull (by simpa [hcurrent, hclient, hrunning] using hempty)
        have hstill := honly old (by
          dsimp only
          rw [Function.update_of_ne hlt.ne, hkept]
          exact Option.some_ne_none _)
        have hnew : s.nextClient = old := Option.some.inj hstill
        exact hlt.ne hnew.symm
    · intro hempty id hid
      by_cases hnew : id = s.nextClient
      · rw [hnew]
        rfl
      · exfalso
        have hkept : s.keptClients id ≠ none := by
          dsimp only at hid
          rwa [Function.update_of_ne hnew] at hid
        obtain ⟨r, hr⟩ := Option.ne_none_iff_exists'.mp hkept
        have hrunning := clients_of_keptClients hr
        have hold : s.current = some id := h id (by simp [hrunning])
        simp [currentClient, hold, hrunning] at hempty
        simp [keptClients, hold, hrunning, hempty] at hkept

/-- Only the client of the handle runs, after every step that does not replace one. -/
theorem step_onlyCurrent (env : PluginEnv) (hs : s.Valid) (h : s.OnlyCurrent) (i : PluginInput) :
    (pluginStep env s i).1.OnlyCurrent ↔ replacesNone s i := by
  have hstart {s' : Service} (hstopped : s'.Stopped) (hnone : ∀ id, s'.clients id = none)
      (timeInMs : Nat) : (s'.start timeInMs).1.OnlyCurrent := by
    refine (onlyCurrent_start hstopped.valid (onlyCurrent_of_none hnone) timeInMs).mpr (.inr ?_)
    simp [currentClient, hstopped.current]
  cases i with
  | init config =>
    refine iff_of_true ?_ rfl
    rcases init_cases hs env config with hsame | ⟨hhandle, -, hclients⟩
    · rw [pluginStep, hsame]
      exact h
    · refine onlyCurrent_of_none fun id => ?_
      by_contra hid
      rw [pluginStep, hclients] at hid
      have hsome := h id hid
      rw [current_eq_none_of_handle hhandle] at hsome
      cases hsome
  | registerIngest =>
    exact iff_of_true (fun id hid => (current_map
      (f := fun iec104 : IEC104 => { iec104 with ingestRegistered := true })
      fun _ => rfl).trans (h id hid)) rfl
  | start timeInMs =>
    refine (onlyCurrent_start hs h timeInMs).trans (or_iff_right_of_imp fun hhandle => ?_)
    simp [currentClient, current_eq_none_of_handle hhandle]
  | reconfigure newConfig timeInMs =>
    refine iff_of_true ?_ rfl
    rcases reconfigure_cases hs env newConfig timeInMs with
      ⟨-, hsame⟩ | ⟨s', hstopped, hclients, hstep | hstep⟩
    · rw [pluginStep, hsame]
      exact h
    · rw [pluginStep, hstep]
      exact onlyCurrent_of_none fun id => by rw [hclients, h.stop id]
    · rw [pluginStep, hstep]
      exact hstart hstopped (fun id => by rw [hclients, h.stop id]) timeInMs
  | shutdown => exact iff_of_true (onlyCurrent_of_none h.stop) rfl
  | operation operation params now accepted =>
    refine iff_of_true ?_ rfl
    rcases store_cases env (.operation operation params now accepted) (.inl ⟨_, _, _, _, rfl⟩) with
      hsame | ⟨id, client, system, hrunning, hstep⟩
    · rw [hsame]
      exact h
    · rw [hstep]
      exact h.store (by simp [hrunning]) client.config system
  | client id j =>
    refine iff_of_true ?_ rfl
    rcases store_cases env (.client id j) (.inr ⟨_, _, rfl⟩) with
      hsame | ⟨id, client, system, hrunning, hstep⟩
    · rw [hsame]
      exact h
    · rw [hstep]
      exact h.store (by simp [hrunning]) client.config system

end Service

/-- The references are valid, and only the client of the handle runs. -/
structure Service.OneClient (s : Service) : Prop where
  valid : s.Valid
  only : s.OnlyCurrent

theorem Service.OneClient.init : Service.OneClient {} :=
  ⟨⟨fun _ _ h => (by cases h), fun _ h => (by cases h), fun _ _ h => (by cases h)⟩,
    fun _ h => absurd rfl h⟩

theorem Service.OneClient.step {s : Service} (env : PluginEnv) (hs : s.OneClient) (i : PluginInput)
    (hi : replacesNone s i) : (pluginStep env s i).1.OneClient :=
  ⟨Service.step_valid env hs.valid i, (Service.step_onlyCurrent env hs.valid hs.only i).mpr hi⟩

/-- In every run of the plugin: the client of the handle is always the only one that runs, if and
only if no call replaces a client that has connections. -/
theorem one_client_iff (env : PluginEnv) (is : List PluginInput) :
    Always (pluginStep env) Service.OnlyCurrent {} is ↔
      Along (pluginStep env) (fun s i => replacesNone s i) {} is :=
  always_iff_along_of_guarded (I := Service.OneClient) (fun _ i hs hi => hs.step env i hi)
    (fun _ hs => hs.only)
    (fun _ i hs hi hnext => hi ((Service.step_onlyCurrent env hs.valid hs.only i).mp hnext)) .init

/-- The client runs, and the handle has no reference to it. -/
structure Service.Left (s : Service) (id : ClientId) : Prop where
  valid : s.Valid
  running : s.clients id ≠ none
  other : s.current ≠ some id

namespace Service

variable {s : Service} {id : ClientId}

theorem Left.lt (h : s.Left id) : id < s.nextClient :=
  have ⟨r, hr⟩ := Option.ne_none_iff_exists'.mp h.running
  (h.valid.client id r hr).1

/-- A start replaces the client of the handle, if it has connections, by another one. -/
theorem left_start (hs : s.Valid) {client : RunningClient} (hid : s.current = some id)
    (hrunning : s.clients id = some client) (hconnections : client.system.connections ≠ [])
    (timeInMs : Nat) : (s.start timeInMs).1.Left id := by
  obtain ⟨iec104, hhandle, -⟩ := current_eq_some.mp hid
  have hlt := (hs.client id client hrunning).1
  refine ⟨hs.start timeInMs, ?_, ?_⟩
  · rw [s.start_eq hhandle]
    simp [Function.update_of_ne hlt.ne, keptClients, hrunning, hconnections]
  · rw [s.start_eq hhandle]
    exact fun hsame => hlt.ne (Option.some.inj hsame).symm

theorem Left.start (h : s.Left id) (timeInMs : Nat) : (s.start timeInMs).1.Left id := by
  cases hhandle : s.handle with
  | none =>
    rw [s.start_of_none hhandle]
    exact h
  | some iec104 =>
    refine ⟨h.valid.start timeInMs, ?_, ?_⟩
    · rw [s.start_eq hhandle]
      simpa [Function.update_of_ne h.lt.ne, keptClients, h.other] using h.running
    · rw [s.start_eq hhandle]
      exact fun hsame => h.lt.ne (Option.some.inj hsame).symm

theorem Left.stop (h : s.Left id) : s.stop.1.clients id ≠ none := by
  rw [stop_eq]
  simpa [stoppedClients, h.other] using h.running

theorem Stopped.left {s' : Service} (hs' : s'.Stopped) (hrunning : s'.clients id ≠ none) :
    s'.Left id :=
  ⟨hs'.valid, hrunning, by rw [hs'.current]; exact (Option.some_ne_none id).symm⟩

/-- Nothing stops a client that the handle has left. -/
theorem step_left (env : PluginEnv) (h : s.Left id) (i : PluginInput) :
    (pluginStep env s i).1.Left id := by
  have hstored (hi : (∃ operation params now accepted,
      i = .operation operation params now accepted) ∨ ∃ id j, i = .client id j) :
      (pluginStep env s i).1.Left id := by
    rcases store_cases env i hi with hsame | ⟨id', client, system, hrunning, hstep⟩
    · rwa [hsame]
    · rw [hstep]
      refine ⟨h.valid.store hrunning system, ?_, h.other⟩
      by_cases hid : id = id'
      · subst hid
        simp [Service.store]
      · simpa [Service.store, Function.update_of_ne hid] using h.running
  cases i with
  | init config =>
    rcases init_cases h.valid env config with hsame | ⟨-, hstopped, hclients⟩
    · rwa [pluginStep, hsame]
    · exact hstopped.left (by rw [hclients]; exact h.running)
  | registerIngest =>
    refine ⟨h.valid.map (fun _ => rfl) fun _ => rfl, h.running, ?_⟩
    rw [pluginStep,
      current_map (f := fun iec104 : IEC104 => { iec104 with ingestRegistered := true })
        fun _ => rfl]
    exact h.other
  | start timeInMs => exact h.start timeInMs
  | reconfigure newConfig timeInMs =>
    rcases reconfigure_cases h.valid env newConfig timeInMs with
      ⟨-, hsame⟩ | ⟨s', hstopped, hclients, hstep | hstep⟩
    · rwa [pluginStep, hsame]
    · rw [pluginStep, hstep]
      exact hstopped.left (by rw [hclients]; exact h.stop)
    · rw [pluginStep, hstep]
      exact (hstopped.left (by rw [hclients]; exact h.stop)).start timeInMs
  | shutdown => exact ⟨step_valid env h.valid .shutdown, h.stop, (Option.some_ne_none id).symm⟩
  | operation operation params now accepted => exact hstored (.inl ⟨_, _, _, _, rfl⟩)
  | client id j => exact hstored (.inr ⟨_, _, rfl⟩)

theorem run_left (env : PluginEnv) (h : s.Left id) (is : List PluginInput) :
    (run (pluginStep env) s is).Left id :=
  run_of_always (always_of_invariant (I := fun s : Service => s.Left id)
    (fun _ i h => step_left env h i) (fun _ h => h) h)

end Service

/-- A client with connections that a start replaces runs on, whatever the service calls later. -/
theorem replaced_runs_on (env : PluginEnv) (is js : List PluginInput) {id : ClientId}
    {client : RunningClient} (hid : (run (pluginStep env) {} is).current = some id)
    (hrunning : (run (pluginStep env) {} is).clients id = some client)
    (hconnections : client.system.connections ≠ []) (timeInMs : Nat) :
    (run (pluginStep env) {} (is ++ .start timeInMs :: js)).Left id := by
  have hvalid : (run (pluginStep env) {} is).Valid :=
    run_of_always (always_of_invariant (fun _ i hs => Service.step_valid env hs i) (fun _ hs => hs)
      Service.OneClient.init.valid)
  rw [run_append, run]
  exact Service.run_left env (Service.left_start hvalid hid hrunning hconnections timeInMs) js

/-- A stack with one connection. -/
def oneConnectionStack : Json :=
  .object [("protocol_stack", .object
    [("transport_layer", .object [("redundancy_groups", .array
      [.object [("rg_name", .string "red-group1"), ("connections", .array
        [.object [("srv_ip", .string "127.0.0.1"), ("port", .int 2404)]])]])]),
      ("application_layer", .object [])])]

def stationConfig : ConfigCategory where
  name := "south"
  items := [("asset", "iec 104"), ("protocol_stack", "stack"), ("exchanged_data", "data"),
    ("tls", "tls")]

def stationEnv : PluginEnv where
  parse text := if text = "stack" then some oneConnectionStack else none
  readFloat _ := 0
  defaultConfig := stationConfig

theorem replaced_runs_on_station :
    (run (pluginStep stationEnv) {} [.init (some stationConfig), .start 0, .start 5,
      .reconfigure stationConfig 10, .shutdown]).Left 0 :=
  replaced_runs_on stationEnv [.init (some stationConfig), .start 0]
    [.reconfigure stationConfig 10, .shutdown] rfl rfl (by decide) 5

/-! ## The client of the handle -/

/-- `c` is read as `c₀`: its table holds the definitions of `c₀`. -/
structure ImportedConfig.ReadAs (c₀ c : ImportedConfig) : Prop where
  eq : c = { c₀ with exchangeDefinitions := c.exchangeDefinitions }
  holds : c₀.exchangeDefinitions.Holds c.exchangeDefinitions

theorem ImportedConfig.ReadAs.refl (c : ImportedConfig) : c.ReadAs c := ⟨rfl, .refl _⟩

/-- The configuration that the calls of the service imported last, if there is a handle. -/
def lastImported (env : PluginEnv) : Option ImportedConfig → PluginInput → Option ImportedConfig
  | none, .init config => some ((env.imported (config.getD env.defaultConfig)).getD {})
  | some c, .reconfigure newConfig _ => some ((env.imported newConfig).getD c)
  | _, .shutdown => none
  | c, _ => c

/-- What a call or a step is for the client `id`. -/
def clientInput (env : PluginEnv) (id : ClientId) : PluginInput → Option ClientInput
  | .operation operation params now accepted =>
    operationInput env.readFloat operation params now accepted
  | .client id' i => if id' = id then some i else none
  | _ => none

/-- The time of a start, when the call may start a client. -/
def PluginInput.startTime? : PluginInput → Option Nat
  | .start timeInMs => some timeInMs
  | .reconfigure _ timeInMs => some timeInMs
  | _ => none

/-- What the client `id` emits, as far as the service gets it. -/
def PluginEffect.client? (id : ClientId) : PluginEffect → Option Effect
  | .client id' e => if id' = id then some e else none
  | _ => none

namespace Service

variable {s : Service}

/-- The configuration of the handle. -/
def imported (s : Service) : Option ImportedConfig :=
  s.handle.map fun iec104 => s.configs iec104.config

theorem imported_map {f : IEC104 → IEC104} (hconfig : ∀ iec104, (f iec104).config =
    iec104.config) : imported { s with handle := s.handle.map f } = s.imported := by
  unfold imported
  cases s.handle with
  | none => rfl
  | some iec104 => simp only [Option.map_some, hconfig]

theorem imported_importConfig (env : PluginEnv) (config : ConfigCategory) :
    (s.importConfig env config).imported =
      s.imported.map fun c => (env.imported config).getD c := by
  unfold importConfig
  cases himported : env.imported config with
  | none => simp
  | some c =>
    unfold setConfig imported
    cases s.handle with
    | none => rfl
    | some iec104 => simp

theorem imported_stop : s.stop.1.imported = s.imported := by
  rw [stop_eq]
  unfold imported
  cases s.handle <;> rfl

theorem imported_start (timeInMs : Nat) : (s.start timeInMs).1.imported = s.imported := by
  cases hhandle : s.handle with
  | none => rw [s.start_of_none hhandle]
  | some iec104 =>
    rw [s.start_eq hhandle]
    simp only [imported, hhandle, Option.map_some]

/-- A client that has taken a step: its table is read as before. -/
theorem imported_store {c₀ : Option ImportedConfig} (id : ClientId) (config : ConfigId)
    {system : System} (h : Option.Rel ImportedConfig.ReadAs c₀ s.imported)
    (htable : (s.configs config).exchangeDefinitions.Holds system.client.exchangeDefinitions) :
    Option.Rel ImportedConfig.ReadAs c₀ (s.store id config system).imported := by
  unfold imported at h ⊢
  cases hhandle : s.handle with
  | none => simpa [store, hhandle] using h
  | some iec104 =>
    rw [hhandle, Option.map_some] at h
    obtain ⟨hread⟩ := h
    simp only [store, hhandle, Option.map_some]
    refine .some ?_
    by_cases hconfig : iec104.config = config
    · subst hconfig
      rw [Function.update_self]
      exact ⟨by rw [hread.eq], hread.holds.trans htable⟩
    · rw [Function.update_of_ne hconfig]
      exact hread

/-- The calls import what `lastImported` says, and no step of a client changes how it is read. -/
theorem imported_step (env : PluginEnv) {c₀ : Option ImportedConfig}
    (h : Option.Rel ImportedConfig.ReadAs c₀ s.imported) (i : PluginInput) :
    Option.Rel ImportedConfig.ReadAs (lastImported env c₀ i) (pluginStep env s i).1.imported := by
  cases i with
  | init config =>
    cases hhandle : s.handle with
    | some iec104 =>
      rw [pluginStep, s.init_of_some env config hhandle]
      unfold imported at h ⊢
      rw [hhandle] at h ⊢
      cases h with
      | some hread => exact .some hread
    | none =>
      have hnone : c₀ = none := by
        rw [imported, hhandle] at h
        cases h
        rfl
      subst hnone
      simp only [pluginStep, Service.init, hhandle, imported_importConfig, lastImported]
      simp only [imported, Option.map_some, Function.update_self]
      exact .some (.refl _)
  | registerIngest =>
    have hsame : (pluginStep env s .registerIngest).1.imported = s.imported :=
      imported_map (f := fun iec104 : IEC104 => { iec104 with ingestRegistered := true })
        fun _ => rfl
    rw [hsame]
    cases c₀ <;> exact h
  | start timeInMs =>
    rw [pluginStep, imported_start]
    cases c₀ <;> exact h
  | reconfigure newConfig timeInMs =>
    have hstep : (pluginStep env s (.reconfigure newConfig timeInMs)).1.imported =
        s.imported.map fun c => (env.imported newConfig).getD c := by
      cases hhandle : s.handle with
      | none => simp [pluginStep, reconfigure, imported, hhandle]
      | some iec104 =>
        simp only [pluginStep, reconfigure, hhandle]
        split_ifs
        · rw [imported_start]
          refine (imported_map (f := IEC104.setAssetName (newConfig.getValue "asset"))
            fun _ => rfl).trans ?_
          rw [imported_importConfig, imported_stop]
        · rw [imported_importConfig, imported_stop]
    rw [hstep]
    generalize s.imported = c₁ at h
    cases h with
    | none => exact .none
    | some hread =>
      rw [Option.map_some]
      refine .some ?_
      cases env.imported newConfig with
      | none => exact hread
      | some c => exact .refl c
  | shutdown => cases c₀ <;> exact .none
  | operation operation params now accepted =>
    have hlast : lastImported env c₀ (.operation operation params now accepted) = c₀ := by
      cases c₀ <;> rfl
    rw [hlast]
    simp only [pluginStep, Service.operation]
    split
    · exact h
    · next id _ =>
      split
      · exact h
      · next client _ =>
        refine imported_store id client.config h ?_
        rw [operation_handle env.readFloat _ (s.configs client.config).redGroupCon]
        cases operationInput env.readFloat operation params now accepted with
        | none => exact .refl _
        | some j => exact System.handle_holds _ _ (s.load client).clear j
  | client id j =>
    have hlast : lastImported env c₀ (.client id j) = c₀ := by cases c₀ <;> rfl
    rw [hlast]
    cases hrunning : s.clients id with
    | none => simpa only [pluginStep, stepClient, hrunning] using h
    | some client =>
      simp only [pluginStep, stepClient, hrunning]
      exact imported_store id client.config h
        (System.handle_holds _ _ (s.load client).clear j)

end Service

/-- The client `id` of the handle, started at this time with the configuration `c`, after these
inputs. -/
structure Service.Session (s : Service) (id : ClientId) (c : ImportedConfig) (timeInMs : Nat)
    (is : List ClientInput) : Prop where
  current : s.current = some id
  client : ∃ config system, s.clients id = some ⟨config, system⟩ ∧
    s.configs config = { c with exchangeDefinitions := system.client.exchangeDefinitions } ∧
    system.clear = (run c.clientStep (c.startClient timeInMs) is).clear

namespace Service

variable {s : Service}

theorem startClient_table (c : ImportedConfig) (timeInMs : Nat) :
    (c.startClient timeInMs).client.exchangeDefinitions = c.exchangeDefinitions := by
  simp [ImportedConfig.startClient, System.started, System.monitoringThreadStart, System.init]

/-- A start begins a session. -/
theorem session_start {iec104 : IEC104} (h : s.handle = some iec104) (timeInMs : Nat) :
    (s.start timeInMs).1.Session s.nextClient (s.configs iec104.config) timeInMs [] := by
  rw [s.start_eq h]
  refine ⟨rfl, iec104.config, _, Function.update_self .., ?_, rfl⟩
  rw [startClient_table]

/-- A step of the client of the handle is a step of its session. -/
theorem Session.store {id : ClientId} {c : ImportedConfig} {timeInMs : Nat}
    {is : List ClientInput} (h : s.Session id c timeInMs is) {client : RunningClient}
    (hrunning : s.clients id = some client) {system : System} {j : Option ClientInput}
    (hsystem : system.clear = ((j.map ((s.load client).clear.handle c.config c.redGroupCon)).getD
      (s.load client).clear).clear) :
    (s.store id client.config system).Session id c timeInMs (is ++ j.toList) := by
  obtain ⟨hcurrent, config, before, hbefore, hconfig, hrun⟩ := h
  rw [hbefore] at hrunning
  obtain rfl := Option.some.inj hrunning
  refine ⟨hcurrent, config, system, Function.update_self .., ?_, ?_⟩
  · simp only [Service.store, Function.update_self, hconfig]
  · -- the table of the object is that of the client
    have hload : (s.load ⟨config, before⟩).clear = before.clear := by
      simp only [load, hconfig]
    rw [hsystem, hload, hrun]
    cases j with
    | none =>
      simp only [Option.map_none, Option.getD_none, Option.toList, List.append_nil]
      rfl
    | some j =>
      simp only [Option.map_some, Option.getD_some, Option.toList, run_append]
      rfl

theorem imported_run (env : PluginEnv) {c₀ : Option ImportedConfig}
    (h : Option.Rel ImportedConfig.ReadAs c₀ s.imported) (is : List PluginInput) :
    Option.Rel ImportedConfig.ReadAs (is.foldl (lastImported env) c₀)
      (run (pluginStep env) s is).imported := by
  induction is generalizing s c₀ with
  | nil => exact h
  | cons i is ih => exact ih (imported_step env h i)

/-- A call that may start a client leaves the handle without one, or it has started it. -/
theorem session_of_start (env : PluginEnv) (hs : s.Valid) {i : PluginInput} {timeInMs : Nat}
    (hi : i.startTime? = some timeInMs) {id : ClientId}
    (hid : (pluginStep env s i).1.current = some id) :
    ∃ c, (pluginStep env s i).1.imported = some c ∧
      (pluginStep env s i).1.Session id c timeInMs [] := by
  have hstart {s' : Service} (hid' : (s'.start timeInMs).1.current = some id)
      (hhandle : s'.handle ≠ none) : ∃ c, (s'.start timeInMs).1.imported = some c ∧
        (s'.start timeInMs).1.Session id c timeInMs [] := by
    obtain ⟨iec104, hhandle⟩ := Option.ne_none_iff_exists'.mp hhandle
    have hsession := session_start hhandle timeInMs
    obtain rfl : s'.nextClient = id := Option.some.inj (hsession.current.symm.trans hid')
    refine ⟨_, ?_, hsession⟩
    rw [imported_start, imported, hhandle, Option.map_some]
  have hnone {s' : Service} (hid' : s'.current = some id) : s'.handle ≠ none :=
    fun hhandle => by rw [current_eq_none_of_handle hhandle] at hid'; cases hid'
  cases i with
  | start timeInMs' =>
    obtain rfl : timeInMs' = timeInMs := Option.some.inj hi
    refine hstart hid fun hhandle => hnone hid ?_
    rw [pluginStep, s.start_of_none hhandle]
    exact hhandle
  | reconfigure newConfig timeInMs' =>
    obtain rfl : timeInMs' = timeInMs := Option.some.inj hi
    rcases reconfigure_cases hs env newConfig timeInMs' with
      ⟨hhandle, hsame⟩ | ⟨s', hstopped, -, hstep | hstep⟩
    · rw [pluginStep, hsame] at hid
      exact absurd hhandle (hnone hid)
    · rw [pluginStep, hstep, hstopped.current] at hid
      cases hid
    · rw [pluginStep, hstep] at hid ⊢
      refine hstart hid fun hhandle => hnone hid ?_
      rw [s'.start_of_none hhandle]
      exact hhandle
  | init | registerIngest | shutdown | operation | client => cases hi

/-- Without a call that may start a client, the client of the handle was there before. -/
theorem current_before (env : PluginEnv) (hs : s.Valid) {i : PluginInput}
    (hi : i.startTime? = none) {id : ClientId} (hid : (pluginStep env s i).1.current = some id) :
    s.current = some id ∧ i ≠ .shutdown := by
  have hstored (hi : (∃ operation params now accepted,
      i = .operation operation params now accepted) ∨ ∃ id j, i = .client id j) :
      s.current = some id := by
    rcases store_cases env i hi with hsame | ⟨id, client, system, -, hstep⟩
    · rwa [hsame] at hid
    · rwa [hstep] at hid
  cases i with
  | init config =>
    refine ⟨?_, by simp⟩
    rcases init_cases hs env config with hsame | ⟨-, hstopped, -⟩
    · rwa [pluginStep, hsame] at hid
    · rw [pluginStep, hstopped.current] at hid
      cases hid
  | registerIngest =>
    exact ⟨(current_map (f := fun iec104 : IEC104 => { iec104 with ingestRegistered := true })
      fun _ => rfl).symm.trans hid, by simp⟩
  | shutdown => cases hid
  | operation operation params now accepted => exact ⟨hstored (.inl ⟨_, _, _, _, rfl⟩), by simp⟩
  | client id j => exact ⟨hstored (.inr ⟨_, _, rfl⟩), by simp⟩
  | start | reconfigure => cases hi

/-- The callback is registered. -/
def isRegistered (s : Service) : Bool := s.handle.any (·.ingestRegistered)

/-- With a callback the service gets everything. -/
theorem deliver_client? (h : s.isRegistered) (id : ClientId) (out : List Effect) :
    (s.deliver id out).filterMap (PluginEffect.client? id) = out := by
  induction out with
  | nil => rfl
  | cons e out ih =>
    have hfirst : (s.deliver id [e]).filterMap (PluginEffect.client? id) = [e] := by
      unfold isRegistered at h
      cases e <;> simp [deliver, PluginEffect.client?, h]
    have hsplit : s.deliver id (e :: out) = s.deliver id [e] ++ s.deliver id out :=
      List.filterMap_append (l := [e])
    rw [hsplit, List.filterMap_append, hfirst, ih]
    rfl

/-- A step that starts and stops nothing: the session goes on, and with a callback the service gets
what it emits. -/
theorem session_step (env : PluginEnv) (h : s.OnlyCurrent) {id : ClientId} {c : ImportedConfig}
    {timeInMs : Nat} {is : List ClientInput} (hsession : s.Session id c timeInMs is)
    {i : PluginInput} (hi : i.startTime? = none) (hshutdown : i ≠ .shutdown) :
    (pluginStep env s i).1.Session id c timeInMs (is ++ (clientInput env id i).toList) ∧
      (s.isRegistered → (pluginStep env s i).1.isRegistered ∧
        (pluginStep env s i).2.filterMap (PluginEffect.client? id) =
          trace c.clientStep (run c.clientStep (c.startClient timeInMs) is)
            (clientInput env id i).toList) := by
  obtain ⟨config, system, hrunning, hconfig, hrun⟩ := hsession.client
  have hload : (s.load ⟨config, system⟩).clear =
      (run c.clientStep (c.startClient timeInMs) is).clear := by
    rw [← hrun]
    simp only [load, hconfig]
  obtain ⟨iec104, hhandle, hclient⟩ := current_eq_some.mp hsession.current
  cases i with
  | init configCategory =>
    rw [pluginStep, s.init_of_some env configCategory hhandle]
    simp only [clientInput, Option.toList, List.append_nil]
    exact ⟨hsession, fun hregistered => ⟨hregistered, rfl⟩⟩
  | registerIngest =>
    simp only [clientInput, Option.toList, List.append_nil]
    refine ⟨⟨(current_map (f := fun iec104 : IEC104 => { iec104 with ingestRegistered := true })
      fun _ => rfl).trans hsession.current, hsession.client⟩, fun hregistered => ⟨?_, rfl⟩⟩
    simp [isRegistered, pluginStep, hhandle]
  | operation operation params now accepted =>
    have hhandled := operation_handle env.readFloat (s.configs config).config
      (s.configs config).redGroupCon (s.load ⟨config, system⟩).clear operation params now accepted
    simp only [pluginStep, Service.operation, hsession.current, hrunning]
    refine ⟨hsession.store hrunning ?_, fun hregistered => ⟨hregistered, ?_⟩⟩
    · rw [hhandled, hconfig]
      rfl
    · rw [List.filterMap_append, deliver_client? hregistered]
      have hout := congrArg (fun s : System => s.client.out) hhandled
      dsimp only at hout
      rw [hout, hload, hconfig]
      simp only [clientInput]
      cases operationInput env.readFloat operation params now accepted with
      | none => rfl
      | some j => rfl
  | client id' j =>
    by_cases hid : id' = id
    · subst hid
      simp only [pluginStep, stepClient, hrunning, clientInput, if_pos]
      refine ⟨hsession.store (j := some j) hrunning ?_, fun hregistered => ⟨hregistered, ?_⟩⟩
      · rw [hconfig]
        rfl
      · rw [deliver_client? hregistered, hconfig]
        show ((s.load ⟨config, system⟩).clear.handle c.config c.redGroupCon j).client.out = _
        rw [hload, Option.toList, trace, trace, List.append_nil]
        rfl
    · have hnone : s.clients id' = none := by
        by_contra hother
        exact hid (Option.some.inj ((h id' hother).symm.trans hsession.current))
      simp only [pluginStep, stepClient, hnone, clientInput, if_neg hid, Option.toList,
        List.append_nil]
      exact ⟨hsession, fun hregistered => ⟨hregistered, rfl⟩⟩
  | shutdown => exact absurd rfl hshutdown
  | start | reconfigure => cases hi

end Service

/-- After these calls the client `id` of the handle is a run of `clientStep` over its inputs since
its start, with the configuration that was imported last. If the callback was registered by then,
the service got what this run emits. -/
def RunsSinceStart (env : PluginEnv) (is : List PluginInput) (id : ClientId) : Prop :=
  ∃ before start after timeInMs c₀ c, is = before ++ start :: after ∧
    start.startTime? = some timeInMs ∧
    (before ++ [start]).foldl (lastImported env) none = some c₀ ∧ c₀.ReadAs c ∧
    (run (pluginStep env) {} is).Session id c timeInMs (after.filterMap (clientInput env id)) ∧
    ((run (pluginStep env) {} (before ++ [start])).isRegistered →
      (run (pluginStep env) {} is).isRegistered ∧
      (trace (pluginStep env) (run (pluginStep env) {} (before ++ [start])) after).filterMap
        (PluginEffect.client? id) = trace c.clientStep (c.startClient timeInMs)
          (after.filterMap (clientInput env id)))

/-- As long as no client with connections is replaced, the client of the handle is a run of the
client since its start. The service got what this run emits if the callback was registered when
the client was started. -/
theorem client_refines (env : PluginEnv) (is : List PluginInput)
    (h : Along (pluginStep env) (fun s i => replacesNone s i) {} is) {id : ClientId}
    (hid : (run (pluginStep env) {} is).current = some id) : RunsSinceStart env is id := by
  induction is using List.reverseRecOn with
  | nil => cases hid
  | append_singleton is i ih =>
    have hsteps := along_append.mp h
    have hone : (run (pluginStep env) {} is).OneClient :=
      run_of_always (always_of_along (I := Service.OneClient)
        (fun _ i hs hi => hs.step env i hi) (fun _ hs => hs) .init hsteps.1)
    have hinput : [i].filterMap (clientInput env id) = (clientInput env id i).toList := by
      cases hinput : clientInput env id i <;> simp [hinput]
    unfold RunsSinceStart
    rw [run_append, run, run] at hid ⊢
    cases hi : i.startTime? with
    | some timeInMs =>
      obtain ⟨c, himported, hsession⟩ := Service.session_of_start env hone.valid hi hid
      have hfresh : Option.Rel ImportedConfig.ReadAs none (Service.imported {}) := .none
      have hread := Service.imported_run env hfresh (is ++ [i])
      rw [run_append, run, run, himported] at hread
      generalize hlast : (is ++ [i]).foldl (lastImported env) none = last at hread
      cases hread with
      | @some c₀ _ hread =>
        exact ⟨is, i, [], timeInMs, c₀, c, rfl, hi, hlast, hread, hsession,
          fun hregistered => ⟨by rwa [run_append] at hregistered, rfl⟩⟩
    | none =>
      obtain ⟨hcurrent, hshutdown⟩ := Service.current_before env hone.valid hi hid
      obtain ⟨before, start, after, timeInMs, c₀, c, rfl, hstart, hlast, hread, hsession, hemits⟩ :=
        ih hsteps.1 hcurrent
      obtain ⟨hnext, hout⟩ := Service.session_step env hone.only hsession hi hshutdown
      refine ⟨before, start, after ++ [i], timeInMs, c₀, c, by simp, hstart, hlast, hread, ?_,
        fun hregistered => ?_⟩
      · rw [List.filterMap_append, hinput]
        exact hnext
      · obtain ⟨hstill, htrace⟩ := hemits hregistered
        obtain ⟨hthen, hlastOut⟩ := hout hstill
        refine ⟨hthen, ?_⟩
        rw [trace_append, List.filterMap_append, htrace, List.filterMap_append, trace_append,
          hinput, ← hlastOut, ← run_append]
        simp [trace]

theorem client_refines_station :
    RunsSinceStart stationEnv [.init (some stationConfig), .registerIngest, .start 0,
      .client 0 (.connectionEvent 0 .opened 5), .reconfigure stationConfig 10,
      .operation "request_connection_status" [] 15 true,
      .client 1 (.conThread 0 { created := some 1 })] 1 :=
  client_refines stationEnv _ (by decide) (by decide)

end Iec104South
