import EdgeSensor.Agent.NorthboundMqtt
import Mathlib.Data.List.DropRight

/-!
# Registration and the northbound client (`runtime/registration.py`)

The answer to a registration may bring credentials for the broker. The main thread lands them
with `_apply_mqtt_credentials`, while any thread may be publishing.

`registration_keeps_client`: whatever the answer says and however the threads interleave, a
client that is there stays. The configuration that `_apply_mqtt_credentials` writes is the one
the client compares with, so `update_credentials` finds nothing new; and the endpoint is only
looked at where the client is enabled, that is, where there is a host already. So nothing ever
gets past the comparison (`Rebuild.Skipping`), and nobody is ever on the way to tear down.

Mirroring notes:
- The answer is what `_apply_mqtt_credentials` reads of it: `port` is what `int` makes of
  `mqtt_port`, or `None`.
- Only the main thread registers, and only until a registration has succeeded. An attempt that
  fails touches neither the configuration nor the client.
- Left out: the copies in `config.policy_sync`, the file that keeps the credentials for the next
  boot, the tenant, and the subscribers.
-/

namespace EdgeSensor.Agent

open EdgeSensor.Lib EdgeSensor.Py

/-- What `_apply_mqtt_credentials` reads of the answer. -/
structure RegisterReply where
  username : String
  stripped : strip username = username
  password : String
  host : String
  port : Option Int
deriving DecidableEq

/-- The fields of `reg`. -/
def RegisterReply.read (repr : Json → String) (reg : Obj) (port : Option Int) : RegisterReply where
  username := strip (Json.toStrOr repr "" (Obj.get reg "mqtt_username"))
  stripped := strip_strip_text _
  password := Json.toStrOr repr "" (Obj.get reg "mqtt_password")
  host := strip (Json.toStrOr repr "" (Obj.get reg "mqtt_host"))
  port := port

/-- Where the main thread is in `_apply_mqtt_credentials`. -/
inductive RegistrationPhase where
  | idle
  /-- `config.northbound_mqtt.username = username` comes next. -/
  | username (reply : RegisterReply)
  | password (reply : RegisterReply)
  /-- `if mqtt.enabled: mqtt.update_credentials(...)` -/
  | credentials (reply : RegisterReply)
  /-- `if host: mqtt.update_endpoint_if_unset(...)` -/
  | endpoint (reply : RegisterReply)

structure RegistrationRun where
  mqtt : NorthboundMqttClient
  complete : Bool := false
  phase : RegistrationPhase := .idle

inductive RegistrationStep where
  /-- A registration succeeds. -/
  | register (reg : Obj) (port : Option Int)
  /-- The main thread goes on in `_apply_mqtt_credentials`. -/
  | main
  /-- A thread publishes. -/
  | publish (thread : Nat)
  /-- A thread takes its next step in the client. -/
  | next (thread : Nat)

/-- The main thread. -/
def mainThread : Nat := 0

instance {κ σ : Type} : (pc : RebuildPc κ σ) → Decidable (pc = .idle)
  | .idle => .isTrue rfl
  | .checking _ _ | .writing _ | .waiting | .dropping | .asking | .building _ | .leaving =>
    .isFalse fun h => by cases h

namespace RegistrationRun

variable (repr : Json → String) (starts : MqttClient → Bool)

def call (w : RegistrationRun) (x : MqttStep) : NorthboundMqttClient :=
  NorthboundMqttClient.step starts w.mqtt x

/-- What the main thread does next; it waits for the client to return. -/
def nextMain (w : RegistrationRun) : RegistrationRun :=
  if w.mqtt.pc mainThread = .idle then
    match w.phase with
    | .idle => w
    | .username reply =>
      { w with mqtt.config.username := reply.username, phase := .password reply }
    | .password reply =>
      { w with mqtt.config.password := reply.password, phase := .credentials reply }
    | .credentials reply =>
      if w.mqtt.config.isEnabled then
        { w with
          mqtt := w.call starts (.updateCredentials mainThread reply.username reply.password)
          phase := .endpoint reply }
      else { w with phase := .idle }
    | .endpoint reply =>
      { w with
        mqtt :=
          if reply.host = "" then w.mqtt
          else w.call starts (.updateEndpointIfUnset mainThread reply.host reply.port)
        phase := .idle }
  else w

def step (w : RegistrationRun) : RegistrationStep → RegistrationRun
  | .register reg port =>
    match w.phase with
    | .idle =>
      if w.mqtt.pc mainThread = .idle ∧ w.complete = false then
        let reply := RegisterReply.read repr reg port
        { w with
          complete := true
          phase := if reply.username = "" then .idle else .username reply }
      else w
    | _ => w
  | .main => w.nextMain starts
  | .publish thread =>
    match w.phase with
    | .idle => { w with mqtt := w.call starts (.ensureClient thread) }
    | _ =>
      -- the main thread is busy
      if thread = mainThread then w
      else { w with mqtt := w.call starts (.ensureClient thread) }
  | .next thread => { w with mqtt := w.call starts (.next thread) }

def run (cfg : NorthboundMqttConfig) (steps : List RegistrationStep) : RegistrationRun :=
  steps.foldl (step repr starts) { mqtt := { config := cfg } }

/-- Before the main thread is in the client, the comparison is going to find nothing new. -/
def Landed (w : RegistrationRun) : Prop :=
  match w.phase with
  | .idle => True
  | .username _ => w.mqtt.pc mainThread = .idle
  | .password reply => w.mqtt.pc mainThread = .idle ∧ w.mqtt.config.username = reply.username
  | .credentials reply => w.mqtt.pc mainThread = .idle ∧ w.mqtt.config.username = reply.username ∧
      w.mqtt.config.password = reply.password
  | .endpoint _ => w.mqtt.config.isEnabled = true

/-- What every step preserves. -/
structure Inv (cfg : NorthboundMqttConfig) (w : RegistrationRun) : Prop where
  exclusive : w.mqtt.Exclusive
  skipping : w.mqtt.Skipping
  /-- Only the main thread compares. -/
  checking : ∀ t skips writes, w.mqtt.pc t = .checking skips writes → t = mainThread
  endpoint : w.mqtt.config.enabled = cfg.enabled ∧ w.mqtt.config.host = cfg.host ∧
    w.mqtt.config.port = cfg.port
  landed : w.Landed

variable {repr starts} {cfg : NorthboundMqttConfig} {w : RegistrationRun}

/-- A thread begins something in the client. -/
theorem Inv.begin (h : w.Inv cfg) (t : Nat) {pc : RebuildPc NorthboundMqttConfig BuildStage}
    (hlocked : ¬ pc.Locked) (hpending : ¬ pc.Pending)
    (hskips : ∀ skips writes, pc = .checking skips writes →
      t = mainThread ∧ ∀ skip ∈ skips, skip w.mqtt.config = true)
    (phase : RegistrationPhase)
    (hlanded : Landed { w with mqtt := Rebuild.begin w.mqtt t pc, phase := phase }) :
    Inv cfg { w with mqtt := Rebuild.begin w.mqtt t pc, phase := phase } := by
  refine ⟨h.exclusive.begin hlocked, ?_, ?_, ?_, hlanded⟩
  · show (Rebuild.begin w.mqtt t pc).Skipping
    unfold Rebuild.begin
    split
    next => exact h.skipping.goto hpending (fun skips writes heq => (hskips skips writes heq).2) rfl rfl
    next => exact h.skipping
  · show ∀ t' skips writes, (Rebuild.begin w.mqtt t pc).pc t' = .checking skips writes → t' = mainThread
    unfold Rebuild.begin
    intro t' skips writes ht'
    split at ht'
    next =>
      by_cases heq : t' = t
      · subst heq
        rw [Rebuild.goto_self] at ht'
        exact (hskips skips writes ht').1
      · rw [Rebuild.goto_ne heq] at ht'
        exact h.checking t' skips writes ht'
    next => exact h.checking t' skips writes ht'
  · show (Rebuild.begin w.mqtt t pc).config.enabled = _ ∧ (Rebuild.begin w.mqtt t pc).config.host = _ ∧
      (Rebuild.begin w.mqtt t pc).config.port = _
    rw [Rebuild.begin_config]
    exact h.endpoint

/-- The main thread writes a field that the endpoint does not depend on, while it is not in the
client. -/
theorem Inv.assign (h : w.Inv cfg) (hidle : w.mqtt.pc mainThread = .idle)
    (config : NorthboundMqttConfig) (henabled : config.enabled = w.mqtt.config.enabled)
    (hhost : config.host = w.mqtt.config.host) (hport : config.port = w.mqtt.config.port)
    (phase : RegistrationPhase)
    (hlanded : Landed { w with mqtt := { w.mqtt with config := config }, phase := phase }) :
    Inv cfg { w with mqtt := { w.mqtt with config := config }, phase := phase } := by
  obtain ⟨henabled', hhost', hport'⟩ := h.endpoint
  refine ⟨⟨h.exclusive.lock, h.exclusive.empty⟩, ⟨h.skipping.quiet, fun t skips writes ht => ?_⟩,
    h.checking, ⟨henabled.trans henabled', hhost.trans hhost', hport.trans hport'⟩, hlanded⟩
  -- nobody compares now
  rw [h.checking t skips writes ht, hidle] at ht
  cases ht

/-- The main thread goes to another phase and does nothing in the client. -/
theorem Inv.enter (h : w.Inv cfg) (complete : Bool) (phase : RegistrationPhase)
    (hlanded : Landed { w with complete := complete, phase := phase }) :
    Inv cfg { w with complete := complete, phase := phase } :=
  ⟨h.exclusive, h.skipping, h.checking, h.endpoint, hlanded⟩

/-- A thread goes on in the client. -/
theorem Inv.next (h : w.Inv cfg) (starts : MqttClient → Bool) (t : Nat) :
    Inv cfg { w with mqtt := w.call starts (.next t) } := by
  obtain ⟨hskipping, hconfig⟩ := h.skipping.next (clientBuilder starts) t
  have hmain : w.mqtt.pc mainThread = .idle →
      (Rebuild.next (clientBuilder starts) w.mqtt t).pc mainThread = .idle := by
    intro hidle
    by_cases heq : mainThread = t
    · rw [← heq]
      unfold Rebuild.next
      rw [hidle]
      exact hidle
    · rw [Rebuild.next_pc_ne _ heq]
      exact hidle
  refine ⟨h.exclusive.next _ t, hskipping, fun t' skips writes ht' => ?_, ?_, ?_⟩
  · by_cases heq : t' = t
    · subst heq
      obtain ⟨skips', hbefore⟩ := Rebuild.checking_of_next _ ht'
      exact h.checking t' skips' writes hbefore
    · refine h.checking t' skips writes ?_
      rw [← Rebuild.next_pc_ne (clientBuilder starts) heq]
      exact ht'
  · show (Rebuild.next (clientBuilder starts) w.mqtt t).config.enabled = _ ∧
      (Rebuild.next (clientBuilder starts) w.mqtt t).config.host = _ ∧
      (Rebuild.next (clientBuilder starts) w.mqtt t).config.port = _
    rw [hconfig]
    exact h.endpoint
  · have hlanded := h.landed
    have hcall : (w.call starts (.next t)).config = w.mqtt.config := hconfig
    unfold Landed at hlanded ⊢
    simp only [hcall]
    split at hlanded
    next => trivial
    next => exact hmain hlanded
    next => exact ⟨hmain hlanded.1, hlanded.2⟩
    next => exact ⟨hmain hlanded.1, hlanded.2⟩
    next => exact hlanded

/-- The two comparisons of `update_credentials`, after the credentials have been assigned. -/
theorem Inv.credentials (h : w.Inv cfg) {reply : RegisterReply} (hphase : w.phase = .credentials reply)
    (henabled : w.mqtt.config.isEnabled = true) :
    Inv cfg { w with
      mqtt := w.call starts (.updateCredentials mainThread reply.username reply.password)
      phase := .endpoint reply } := by
  have hlanded := h.landed
  unfold Landed at hlanded
  rw [hphase] at hlanded
  obtain ⟨_, husername, hpassword⟩ := hlanded
  rw [call, NorthboundMqttClient.step_updateCredentials, reply.stripped]
  by_cases hempty : reply.username = ""
  · rw [if_pos hempty]
    exact h.enter w.complete _ henabled
  · rw [if_neg hempty]
    refine h.begin mainThread id id (fun skips writes heq => ⟨rfl, fun skip hskip => ?_⟩) _ ?_
    · cases heq
      rcases List.mem_cons.mp hskip with rfl | hskip
      · exact decide_eq_true husername
      · rw [List.mem_singleton.mp hskip]
        exact decide_eq_true hpassword
    · show NorthboundMqttConfig.isEnabled (Rebuild.begin ..).config = true
      rw [Rebuild.begin_config]
      exact henabled

/-- The comparison of `update_endpoint_if_unset`: an enabled client has a host. -/
theorem Inv.updateEndpoint (h : w.Inv cfg) {reply : RegisterReply} (hphase : w.phase = .endpoint reply) :
    Inv cfg { w with
      mqtt := w.call starts (.updateEndpointIfUnset mainThread reply.host reply.port)
      phase := .idle } := by
  have hlanded := h.landed
  unfold Landed at hlanded
  rw [hphase] at hlanded
  have hhost : decide (w.mqtt.config.host ≠ "") = true := (Bool.and_eq_true_iff.mp hlanded).2
  rw [call, NorthboundMqttClient.step_updateEndpointIfUnset]
  by_cases hempty : strip reply.host = ""
  · rw [if_pos hempty]
    exact h.enter w.complete _ trivial
  · rw [if_neg hempty]
    refine h.begin mainThread id id (fun skips writes heq => ⟨rfl, fun skip hskip => ?_⟩) _ trivial
    cases heq
    rw [List.mem_singleton.mp hskip]
    exact hhost

theorem Inv.nextMain (h : w.Inv cfg) (starts : MqttClient → Bool) : (w.nextMain starts).Inv cfg := by
  have hlanded := h.landed
  unfold Landed at hlanded
  unfold RegistrationRun.nextMain
  split
  next hidle =>
    split
    next => exact h
    next reply hphase =>
      exact h.assign hidle { w.mqtt.config with username := reply.username } rfl rfl rfl
        (.password reply) ⟨hidle, rfl⟩
    next reply hphase =>
      rw [hphase] at hlanded
      exact h.assign hidle { w.mqtt.config with password := reply.password } rfl rfl rfl
        (.credentials reply) ⟨hidle, hlanded.2, rfl⟩
    next reply hphase =>
      split
      next henabled => exact h.credentials hphase henabled
      next => exact h.enter w.complete _ trivial
    next reply hphase =>
      split
      next => exact h.enter w.complete _ trivial
      next => exact h.updateEndpoint hphase
  next => exact h

/-- A publish, of a thread that is not in the middle of the registration. -/
theorem Inv.publish (h : w.Inv cfg) {thread : Nat} (hthread : w.phase = .idle ∨ thread ≠ mainThread) :
    Inv cfg { w with mqtt := w.call starts (.ensureClient thread) } := by
  rw [call, NorthboundMqttClient.step_ensureClient]
  by_cases henabled : w.mqtt.config.isEnabled = true
  · rw [if_pos henabled]
    refine h.begin thread id id (fun _ _ heq => by cases heq) w.phase ?_
    have hlanded := h.landed
    rcases hthread with hphase | hne
    · unfold Landed
      rw [hphase]
      trivial
    · -- the main thread stays where it is
      have hmain : (Rebuild.begin w.mqtt thread .asking).pc mainThread = w.mqtt.pc mainThread :=
        Rebuild.begin_pc_ne fun heq => hne heq.symm
      unfold Landed at hlanded ⊢
      simp only [hmain, Rebuild.begin_config]
      exact hlanded
  · rw [if_neg henabled]
    exact h

/-- The step lemma. -/
theorem Inv.step (h : w.Inv cfg) (x : RegistrationStep) : (w.step repr starts x).Inv cfg := by
  cases x with
  | register reg port =>
    unfold RegistrationRun.step
    simp only
    split
    next hphase =>
      split
      next hidle =>
        refine h.enter true _ ?_
        unfold Landed
        by_cases hempty : (RegisterReply.read repr reg port).username = ""
        · simp only [if_pos hempty]
        · simp only [if_neg hempty]
          exact hidle.1
      next => exact h
    next => exact h
  | main => exact h.nextMain starts
  | publish thread =>
    unfold RegistrationRun.step
    simp only
    split
    next hphase => exact h.publish (.inl hphase)
    next =>
      split
      next => exact h
      next hne => exact h.publish (.inr hne)
  | next thread => exact h.next starts thread

theorem inv_run (cfg : NorthboundMqttConfig) (steps : List RegistrationStep) :
    (run repr starts cfg steps).Inv cfg := by
  induction steps using List.reverseRecOn with
  | nil =>
    exact ⟨⟨fun _ h => h.elim, fun _ _ h => (by cases h)⟩, ⟨fun _ h => h, fun _ _ _ h => (by cases h)⟩,
      fun _ _ _ h => (by cases h), ⟨rfl, rfl, rfl⟩, trivial⟩
  | append_singleton steps x ih =>
    rw [run, List.foldl_concat]
    exact ih.step x

/-! ## The client stays -/

theorem call_resource (w : RegistrationRun) {x : MqttStep} (hx : ∀ t, x ≠ .next t) :
    (w.call starts x).resource = w.mqtt.resource := by
  unfold call
  cases x with
  | updateCredentials thread username password =>
    rw [NorthboundMqttClient.step_updateCredentials, apply_ite Rebuild.resource,
      Rebuild.begin_resource, ite_self]
  | updateEndpointIfUnset thread host port =>
    rw [NorthboundMqttClient.step_updateEndpointIfUnset, apply_ite Rebuild.resource,
      Rebuild.begin_resource, ite_self]
  | ensureClient thread =>
    rw [NorthboundMqttClient.step_ensureClient, apply_ite Rebuild.resource,
      Rebuild.begin_resource, ite_self]
  | close thread => exact Rebuild.begin_resource ..
  | next thread => exact absurd rfl (hx thread)

/-- What the main thread does, unless it is a step in the client, keeps the client. -/
theorem resource_nextMain {client : MqttClient} (hclient : w.mqtt.resource = some client) :
    (w.nextMain starts).mqtt.resource = some client := by
  have hcall : ∀ {y : MqttStep}, (∀ t, y ≠ .next t) → (w.call starts y).resource = some client :=
    fun hy => (call_resource w hy).trans hclient
  unfold nextMain
  split
  next =>
    split
    next => exact hclient
    next => exact hclient
    next => exact hclient
    next =>
      split
      next => exact hcall (by simp)
      next => exact hclient
    next =>
      show (if _ then _ else _ : NorthboundMqttClient).resource = some client
      split
      next => exact hclient
      next => exact hcall (by simp)
  next => exact hclient

/-- One step keeps the client. -/
theorem resource_step (h : w.Inv cfg) {client : MqttClient} (hclient : w.mqtt.resource = some client)
    (x : RegistrationStep) : (w.step repr starts x).mqtt.resource = some client := by
  cases x with
  | register reg port =>
    unfold step
    simp only
    split
    next =>
      split
      next => exact hclient
      next => exact hclient
    next => exact hclient
  | main => exact resource_nextMain hclient
  | publish thread =>
    have hasked : (w.call starts (.ensureClient thread)).resource = some client :=
      (call_resource w (by simp)).trans hclient
    unfold step
    simp only
    split
    next => exact hasked
    next =>
      split
      next => exact hclient
      next => exact hasked
  | next thread =>
    refine Rebuild.kept_of_no_drop h.exclusive hclient fun t ht => ?_
    cases ht
    intro hdrop
    have hquiet := h.skipping.quiet thread
    rw [hdrop] at hquiet
    exact hquiet trivial

/-- **New credentials do not reach a client that is there.** Whatever a registration answers, and
however the main thread and the threads that publish interleave: a client, once it is built,
stays, with the credentials and the address that it was built with; and the address of the
configuration never changes. -/
theorem registration_keeps_client (repr : Json → String) (starts : MqttClient → Bool)
    (cfg : NorthboundMqttConfig) (before after : List RegistrationStep) {client : MqttClient}
    (h : (run repr starts cfg before).mqtt.resource = some client) :
    (run repr starts cfg (before ++ after)).mqtt.resource = some client ∧
      (run repr starts cfg (before ++ after)).mqtt.config.host = cfg.host ∧
      (run repr starts cfg (before ++ after)).mqtt.config.port = cfg.port := by
  refine ⟨?_, (inv_run cfg _).endpoint.2⟩
  induction after using List.reverseRecOn with
  | nil =>
    rw [List.append_nil]
    exact h
  | append_singleton after x ih =>
    rw [← List.append_assoc, run, List.foldl_concat]
    exact resource_step (inv_run cfg _) ih x

/-- A sensor without credentials publishes; only then does a registration succeed. -/
def lateBefore : List RegistrationStep :=
  [.publish 1, .next 1, .next 1, .next 1, .next 1, .next 1]

def lateAfter : List RegistrationStep :=
  [.register [("mqtt_username", .str "sensor-7"), ("mqtt_password", .str "secret"),
    ("mqtt_host", .str "other")] none,
   .main, .main, .publish 1, .next 1, .main, .next 0, .next 0, .next 0, .next 1, .main, .next 0,
   .publish 1, .next 1, .next 1]

theorem registration_keeps_client_late :
    ((run (fun _ => "") (fun _ => true) ⟨true, "broker", 1883, "", ""⟩
        (lateBefore ++ lateAfter)).mqtt.resource = some ⟨none, "broker", 1883⟩ ∧
      (run (fun _ => "") (fun _ => true) ⟨true, "broker", 1883, "", ""⟩
        (lateBefore ++ lateAfter)).mqtt.config.host = "broker" ∧
      (run (fun _ => "") (fun _ => true) ⟨true, "broker", 1883, "", ""⟩
        (lateBefore ++ lateAfter)).mqtt.config.port = 1883) ∧
    (run (fun _ => "") (fun _ => true) ⟨true, "broker", 1883, "", ""⟩
        (lateBefore ++ lateAfter)).mqtt.config.auth = some ("sensor-7", some "secret") :=
  ⟨registration_keeps_client (fun _ => "") (fun _ => true) ⟨true, "broker", 1883, "", ""⟩ lateBefore
    lateAfter (by decide +kernel), by decide +kernel⟩

end RegistrationRun

end EdgeSensor.Agent
