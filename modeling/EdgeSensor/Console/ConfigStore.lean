import EdgeSensor.Agent.AgentSnapshot
import EdgeSensor.Agent.SensorId

/-!
# The settings of the box (`config_store.py`)

`platform.json` holds what the operator has set, and what came of the last registration. Every
request that changes it loads all of it, puts its own in, and writes all of it back, in place and
without a lock: this is a `Rewrite`.

`platform_file_chain` says what the file may hold after any interleaving: what a chain of calls has
made, each of which began after the one before it had written, of the file that was there or of the
defaults (a file that is being written cannot be read, and counts as the defaults).
`settings_of_serial_run` is about calls one after the other: a secret is the last that was given,
and an empty one does not clear it; the tenant is the last that a registration has brought; a sensor
id that is not a placeholder stays until another is set.

Mirroring notes:
- The layout of the text is the parameter `text`, and `model_validate` takes what `model_dump_json`
  has written. A file that holds something else is not in the model.
- A patch has the keys of `ConfigPatch`, and the two more that `merge_update` looks at.
- `chmod`, an `OSError` and `capture.env` are left out.
-/

namespace EdgeSensor.Console

open EdgeSensor.Lib EdgeSensor.Py EdgeSensor.Py.JsonCodec
open EdgeSensor.Agent (LowerCase HostNames defaultPrefix)

/-! ## The sensor id (the console's copy of `sensor_id_resolve.py`) -/

/-- `is_placeholder_sensor_id`. -/
def isPlaceholderSensorId (lower : LowerCase) (value : PyStr) : Bool :=
  lower.fold value = [] || lower.fold value = lit "ot-edge-001"

/-- Where an id is from. -/
inductive IdSource where
  | env
  | platform
  | yaml
  | hostname
  | fallback
  deriving DecidableEq

/-- The machine, as `sensor_id_resolve.py` sees it. -/
structure IdHost where
  lower : LowerCase
  names : HostNames
  /-- `_hostname_enabled` -/
  allowHostname : Bool := true

/-- The loop of `resolve_sensor_id_with_source`. -/
def IdHost.firstGiven (host : IdHost) : List (IdSource × PyStr) → Option (PyStr × IdSource)
  | [] => none
  | (source, candidate) :: rest =>
    if candidate ≠ [] ∧ isPlaceholderSensorId host.lower candidate = false then
      some (candidate.strip, source)
    else host.firstGiven rest

/-- `resolve_sensor_id_with_source`. -/
def IdHost.resolveWithSource (host : IdHost) (envId yamlId platformId : PyStr) : PyStr × IdSource :=
  match host.firstGiven [(.env, envId), (.platform, platformId), (.yaml, yamlId)] with
  | some found => found
  | none =>
    if host.allowHostname ∧ host.lower.sensorIdFromHostname host.names defaultPrefix ≠ [] then
      (host.lower.sensorIdFromHostname host.names defaultPrefix, .hostname)
    else (lit "ot-edge-001", .fallback)

/-- `should_auto_assign_from_hostname`. -/
def shouldAutoAssign (lower : LowerCase) (sensorId : PyStr) (configured registered : Bool) : Bool :=
  isPlaceholderSensorId lower sensorId && !(configured && registered)

/-! ## The record -/

/-- `PlatformConfig`. -/
structure PlatformConfig where
  configured : Bool := false
  sensorId : PyStr := lit "ot-edge-001"
  siteId : PyStr := lit "factory-lab-001"
  sensorType : PyStr := lit "ot-edge-sensor"
  ndrProfile : PyStr := lit "ot_ids"
  hardware : PyStr
  senselApiUrl : PyStr := lit "http://192.168.1.108:8081"
  senselApiKey : PyStr := []
  smbIntelApiKey : PyStr := []
  policySyncTenantId : PyStr := []
  registrationToken : PyStr := []
  senselVerifyTls : Bool := false
  mqttEnabled : Bool := true
  mqttHost : PyStr := lit "192.168.1.203"
  mqttPort : Int := 1883
  mqttTenantId : PyStr := lit "default"
  captureInterface : PyStr := lit "eth0"
  captureBpfFilter : PyStr := lit "(ether proto 0x88b8) or (tcp port 102)"
  lastRegisterAt : Option PyStr := none
  lastRegisterOk : Option Bool := none
  lastRegisterTenantId : Option PyStr := none
  lastRegisterError : Option PyStr := none
  updatedAt : Option PyStr := none
  deriving DecidableEq

/-- What the process of the console is given. -/
structure ConfigHost extends IdHost where
  /-- `detect_hardware()` -/
  hardware : PyStr
  /-- `SENSOR_ID`, or nothing -/
  sensorIdVar : PyStr := []
  /-- `NDR_PROFILE`, or nothing -/
  ndrProfileVar : PyStr := []
  /-- `DEFAULT_SENSEL_API_KEY` -/
  defaultApiKey : PyStr := lit "sensel-ot-ingest-lab-2026"

/-- `env_profile in ("it", "it_ndr")` -/
def ConfigHost.itProfile (host : ConfigHost) : Bool :=
  host.lower.fold host.ndrProfileVar = lit "it" || host.lower.fold host.ndrProfileVar = lit "it_ndr"

/-- `_apply_sensor_id_defaults`. -/
def ConfigHost.applySensorIdDefaults (host : ConfigHost) (config : PlatformConfig) : PlatformConfig :=
  let config :=
    if shouldAutoAssign host.lower config.sensorId config.configured (config.lastRegisterOk == some true)
    then { config with
      sensorId := (host.resolveWithSource host.sensorIdVar [] config.sensorId).1 }
    else config
  if host.itProfile then
    { config with
      ndrProfile := lit "it_ndr"
      sensorType :=
        if config.sensorType = lit "ot-edge-sensor" then lit "it-ndr-edge" else config.sensorType }
  else config

/-! ## What is written -/

/-- `None`, or a text. -/
def optText : Option PyStr → Value
  | none => .null
  | some s => .str s

/-- `None`, or a truth value. -/
def optBool : Option Bool → Value
  | none => .null
  | some b => .bool b

/-- `model_dump`. -/
def PlatformConfig.modelDump (c : PlatformConfig) : Dict PyStr Value := [
  (lit "configured", .bool c.configured), (lit "sensor_id", .str c.sensorId),
  (lit "site_id", .str c.siteId), (lit "sensor_type", .str c.sensorType),
  (lit "ndr_profile", .str c.ndrProfile), (lit "hardware", .str c.hardware),
  (lit "sensel_api_url", .str c.senselApiUrl), (lit "sensel_api_key", .str c.senselApiKey),
  (lit "smb_intel_api_key", .str c.smbIntelApiKey),
  (lit "policy_sync_tenant_id", .str c.policySyncTenantId),
  (lit "registration_token", .str c.registrationToken),
  (lit "sensel_verify_tls", .bool c.senselVerifyTls), (lit "mqtt_enabled", .bool c.mqttEnabled),
  (lit "mqtt_host", .str c.mqttHost), (lit "mqtt_port", .int c.mqttPort),
  (lit "mqtt_tenant_id", .str c.mqttTenantId), (lit "capture_interface", .str c.captureInterface),
  (lit "capture_bpf_filter", .str c.captureBpfFilter),
  (lit "last_register_at", optText c.lastRegisterAt), (lit "last_register_ok", optBool c.lastRegisterOk),
  (lit "last_register_tenant_id", optText c.lastRegisterTenantId),
  (lit "last_register_error", optText c.lastRegisterError), (lit "updated_at", optText c.updatedAt)]

def readBool : Option Value → Option Bool
  | some (.bool b) => some b
  | _ => none

def readStr : Option Value → Option PyStr
  | some (.str s) => some s
  | _ => none

def readInteger? : Option Value → Option Int
  | some (.int n) => some n
  | _ => none

def readOptText : Option Value → Option (Option PyStr)
  | some .null => some none
  | some (.str s) => some (some s)
  | _ => none

def readOptBool : Option Value → Option (Option Bool)
  | some .null => some none
  | some (.bool b) => some (some b)
  | _ => none

/-- `model_validate`, of what `model_dump` has given. -/
def PlatformConfig.modelValidate (raw : Dict PyStr Value) : Option PlatformConfig := do
  let get (key : String) := raw.get? (lit key)
  return {
    configured := ← readBool (get "configured")
    sensorId := ← readStr (get "sensor_id")
    siteId := ← readStr (get "site_id")
    sensorType := ← readStr (get "sensor_type")
    ndrProfile := ← readStr (get "ndr_profile")
    hardware := ← readStr (get "hardware")
    senselApiUrl := ← readStr (get "sensel_api_url")
    senselApiKey := ← readStr (get "sensel_api_key")
    smbIntelApiKey := ← readStr (get "smb_intel_api_key")
    policySyncTenantId := ← readStr (get "policy_sync_tenant_id")
    registrationToken := ← readStr (get "registration_token")
    senselVerifyTls := ← readBool (get "sensel_verify_tls")
    mqttEnabled := ← readBool (get "mqtt_enabled")
    mqttHost := ← readStr (get "mqtt_host")
    mqttPort := ← readInteger? (get "mqtt_port")
    mqttTenantId := ← readStr (get "mqtt_tenant_id")
    captureInterface := ← readStr (get "capture_interface")
    captureBpfFilter := ← readStr (get "capture_bpf_filter")
    lastRegisterAt := ← readOptText (get "last_register_at")
    lastRegisterOk := ← readOptBool (get "last_register_ok")
    lastRegisterTenantId := ← readOptText (get "last_register_tenant_id")
    lastRegisterError := ← readOptText (get "last_register_error")
    updatedAt := ← readOptText (get "updated_at") }

theorem readOptText_optText (s : Option PyStr) : readOptText (some (optText s)) = some s := by
  cases s with
  | none => rfl
  | some s => rfl

theorem readOptBool_optBool (b : Option Bool) : readOptBool (some (optBool b)) = some b := by
  cases b with
  | none => rfl
  | some b => rfl

/-- What is written is what is read. -/
theorem modelValidate_modelDump (c : PlatformConfig) :
    PlatformConfig.modelValidate c.modelDump = some c := by
  have hat := readOptText_optText c.lastRegisterAt
  have hok := readOptBool_optBool c.lastRegisterOk
  have htenant := readOptText_optText c.lastRegisterTenantId
  have herror := readOptText_optText c.lastRegisterError
  have hupdated := readOptText_optText c.updatedAt
  show (do
    let lastRegisterAt ← readOptText (some (optText c.lastRegisterAt))
    let lastRegisterOk ← readOptBool (some (optBool c.lastRegisterOk))
    let lastRegisterTenantId ← readOptText (some (optText c.lastRegisterTenantId))
    let lastRegisterError ← readOptText (some (optText c.lastRegisterError))
    let updatedAt ← readOptText (some (optText c.updatedAt))
    return { c with
      lastRegisterAt, lastRegisterOk, lastRegisterTenantId, lastRegisterError, updatedAt }) = _
  rw [hat, hok, htenant, herror, hupdated]
  rfl

/-! ## The store -/

namespace ConfigHost

variable (host : ConfigHost)

/-- `PlatformConfig()`. -/
def defaults : PlatformConfig := { hardware := host.hardware }

variable {floats : FloatText} (text : FileText floats)

/-- What `load` reads, before the sensor id is looked at. -/
def readPlatform (file : Option PyStr) : PlatformConfig :=
  match file with
  | none => { host.defaults with senselApiKey := host.defaultApiKey }
  | some s =>
    match text.loads s with
    | some (.obj raw) => (PlatformConfig.modelValidate raw).getD host.defaults
    | _ => host.defaults

/-- `load`. -/
def load (file : Option PyStr) : PlatformConfig :=
  host.applySensorIdDefaults (host.readPlatform text file)

end ConfigHost

/-- The patch of `merge_update`. -/
structure ConfigPatch where
  sensorId : Option PyStr := none
  siteId : Option PyStr := none
  senselApiUrl : Option PyStr := none
  senselApiKey : Option PyStr := none
  registrationToken : Option PyStr := none
  senselVerifyTls : Option Bool := none
  mqttEnabled : Option Bool := none
  mqttHost : Option PyStr := none
  mqttPort : Option Int := none
  captureInterface : Option PyStr := none
  captureBpfFilter : Option PyStr := none
  ndrProfile : Option PyStr := none
  smbIntelApiKey : Option PyStr := none

/-- An empty secret is passed over. -/
def givenSecret : Option PyStr → Option PyStr
  | some [] => none
  | given => given

/-- What `merge_update` saves. -/
def ConfigHost.merged (host : ConfigHost) (patch : ConfigPatch) (current : PlatformConfig) :
    PlatformConfig :=
  { current with
    configured := true
    sensorId := patch.sensorId.getD current.sensorId
    siteId := patch.siteId.getD current.siteId
    senselApiUrl := patch.senselApiUrl.getD current.senselApiUrl
    senselApiKey := (givenSecret patch.senselApiKey).getD current.senselApiKey
    registrationToken := (givenSecret patch.registrationToken).getD current.registrationToken
    smbIntelApiKey := (givenSecret patch.smbIntelApiKey).getD current.smbIntelApiKey
    senselVerifyTls := patch.senselVerifyTls.getD current.senselVerifyTls
    mqttEnabled := patch.mqttEnabled.getD current.mqttEnabled
    mqttHost := patch.mqttHost.getD current.mqttHost
    mqttPort := patch.mqttPort.getD current.mqttPort
    captureInterface := patch.captureInterface.getD current.captureInterface
    captureBpfFilter := patch.captureBpfFilter.getD current.captureBpfFilter
    ndrProfile :=
      if host.itProfile then current.ndrProfile else patch.ndrProfile.getD current.ndrProfile }

/-- The calls that change the file. -/
inductive ConfigCall where
  | mergeUpdate (patch : ConfigPatch) (now : PyStr)
  | recordRegisterResult (ok : Bool) (tenantId error : Option PyStr) (now : PyStr)

namespace ConfigCall

/-- The tenant that a registration brings. -/
def tenant : ConfigCall → Option PyStr
  | .recordRegisterResult true (some tenantId) _ _ => if tenantId = [] then none else some tenantId
  | _ => none

/-- The sensor id that is set. -/
def sensorId : ConfigCall → Option PyStr
  | .mergeUpdate patch _ => patch.sensorId
  | _ => none

/-- What a call saves. -/
def apply (host : ConfigHost) (call : ConfigCall) (x : PlatformConfig) : PlatformConfig :=
  let config := host.applySensorIdDefaults x
  match call with
  | .mergeUpdate patch now => { host.merged patch config with updatedAt := some now }
  | .recordRegisterResult ok tenantId error now =>
    { config with
      lastRegisterAt := some now
      lastRegisterOk := some ok
      lastRegisterTenantId := tenantId
      lastRegisterError := error
      mqttTenantId := call.tenant.getD config.mqttTenantId
      configured := call.tenant.isSome || config.configured
      updatedAt := some now }

end ConfigCall

theorem wellFormed_modelDump (floats : FloatText) (c : PlatformConfig) :
    IsBody floats (.obj c.modelDump) := by
  have hkeys : (c.modelDump.map (·.1)).Nodup := by
    show ([lit "configured", lit "sensor_id", lit "site_id", lit "sensor_type", lit "ndr_profile",
      lit "hardware", lit "sensel_api_url", lit "sensel_api_key", lit "smb_intel_api_key",
      lit "policy_sync_tenant_id", lit "registration_token", lit "sensel_verify_tls",
      lit "mqtt_enabled", lit "mqtt_host", lit "mqtt_port", lit "mqtt_tenant_id",
      lit "capture_interface", lit "capture_bpf_filter", lit "last_register_at",
      lit "last_register_ok", lit "last_register_tenant_id", lit "last_register_error",
      lit "updated_at"] : List PyStr).Nodup
    decide +kernel
  have hvalues : ∀ kv ∈ c.modelDump, WellFormed floats kv.2 := by
    have htext : ∀ s, WellFormed floats (optText s) := fun s => by
      cases s with
      | none => trivial
      | some s => trivial
    have hbool : ∀ b, WellFormed floats (optBool b) := fun b => by
      cases b with
      | none => trivial
      | some b => trivial
    unfold PlatformConfig.modelDump
    simp only [List.forall_mem_cons, htext, hbool, WellFormed, true_and]
    exact fun _ h => absurd h List.not_mem_nil
  exact ⟨⟨hkeys, wellFormedFields_iff.mpr hvalues⟩, rfl⟩

variable {floats : FloatText}

/-- `platform.json`, and what a call does to it. -/
def platformCodec (host : ConfigHost) (text : FileText floats) :
    FileCodec Nat PlatformConfig ConfigCall where
  Valid _ := True
  encode c := text.dumps (.obj c.modelDump)
  read := host.readPlatform text
  last := 125
  getLast_encode c _ := text.getLast_dumps _ (wellFormed_modelDump floats c)
  read_encode c _ := by
    unfold ConfigHost.readPlatform
    simp only [text.loads_dumps _ (wellFormed_modelDump floats c), modelValidate_modelDump]
    rfl
  read_extra c tail _ htail := by
    unfold ConfigHost.readPlatform
    simp only [text.loads_extra _ tail (wellFormed_modelDump floats c) htail, text.loads_nil]
  valid_none := trivial
  valid_empty := trivial
  apply := ConfigCall.apply host
  valid_apply _ _ _ := trivial

/-! ## What calls make of the settings -/

/-- The secrets. -/
inductive SecretField where
  | registrationToken
  | senselApiKey
  | smbIntelApiKey

namespace SecretField

def of : SecretField → PlatformConfig → PyStr
  | .registrationToken => PlatformConfig.registrationToken
  | .senselApiKey => PlatformConfig.senselApiKey
  | .smbIntelApiKey => PlatformConfig.smbIntelApiKey

/-- What a call gives for it. -/
def given (field : SecretField) : ConfigCall → Option PyStr
  | .mergeUpdate patch _ =>
    givenSecret (match field with
      | .registrationToken => patch.registrationToken
      | .senselApiKey => patch.senselApiKey
      | .smbIntelApiKey => patch.smbIntelApiKey)
  | .recordRegisterResult _ _ _ _ => none

end SecretField

namespace ConfigHost

variable (host : ConfigHost) (x : PlatformConfig)

/-- The sensor id that `load` gives. -/
def sensorIdOf : PyStr := (host.applySensorIdDefaults x).sensorId

/-- `_apply_sensor_id_defaults` sees to the id, the profile and the type. -/
theorem applySensorIdDefaults_eq : host.applySensorIdDefaults x = { x with
    sensorId := host.sensorIdOf x
    ndrProfile := (host.applySensorIdDefaults x).ndrProfile
    sensorType := (host.applySensorIdDefaults x).sensorType } := by
  unfold sensorIdOf applySensorIdDefaults
  simp only
  split
  next => split <;> rfl
  next => split <;> rfl

theorem sensorIdOf_of_named (h : isPlaceholderSensorId host.lower x.sensorId = false) :
    host.sensorIdOf x = x.sensorId := by
  unfold sensorIdOf applySensorIdDefaults shouldAutoAssign
  rw [h]
  simp only [Bool.false_and, Bool.false_eq_true, if_false]
  split
  next => rfl
  next => rfl

theorem secret_applySensorIdDefaults (field : SecretField) :
    field.of (host.applySensorIdDefaults x) = field.of x := by
  rw [applySensorIdDefaults_eq]
  cases field with
  | registrationToken => rfl
  | senselApiKey => rfl
  | smbIntelApiKey => rfl

theorem secret_apply (field : SecretField) (call : ConfigCall) :
    field.of (call.apply host x) = (field.given call).getD (field.of x) := by
  rw [← host.secret_applySensorIdDefaults x field]
  cases call with
  | mergeUpdate patch now =>
    cases field with
    | registrationToken => rfl
    | senselApiKey => rfl
    | smbIntelApiKey => rfl
  | recordRegisterResult ok tenantId error now =>
    cases field with
    | registrationToken => rfl
    | senselApiKey => rfl
    | smbIntelApiKey => rfl

theorem tenant_apply (call : ConfigCall) :
    (call.apply host x).mqttTenantId = call.tenant.getD x.mqttTenantId := by
  have hsame : (host.applySensorIdDefaults x).mqttTenantId = x.mqttTenantId := by
    rw [applySensorIdDefaults_eq]
  rw [← hsame]
  cases call with
  | mergeUpdate patch now => rfl
  | recordRegisterResult ok tenantId error now => rfl

theorem sensorId_apply (call : ConfigCall) :
    (call.apply host x).sensorId = call.sensorId.getD (host.sensorIdOf x) := by
  cases call with
  | mergeUpdate patch now => rfl
  | recordRegisterResult ok tenantId error now => rfl

/-- What calls one after the other make of the file. -/
def afterCalls (calls : List ConfigCall) : PlatformConfig :=
  calls.foldl (fun x call => call.apply host x) x

theorem secret_afterCalls (field : SecretField) (calls : List ConfigCall) :
    field.of (host.afterCalls x calls) = (calls.filterMap field.given).getLastD (field.of x) :=
  Rewrite.foldl_getLastD field.of field.given (fun x call => host.secret_apply x field call) calls x

theorem tenant_afterCalls (calls : List ConfigCall) :
    (host.afterCalls x calls).mqttTenantId
      = (calls.filterMap ConfigCall.tenant).getLastD x.mqttTenantId :=
  Rewrite.foldl_getLastD (·.mqttTenantId) ConfigCall.tenant (fun x call => host.tenant_apply x call) calls x

/-- An id that is no placeholder stays until another is set. -/
theorem sensorIdOf_afterCalls (calls : List ConfigCall)
    (h : isPlaceholderSensorId host.lower
      ((calls.filterMap ConfigCall.sensorId).getLastD (host.sensorIdOf x)) = false) :
    host.sensorIdOf (host.afterCalls x calls)
      = (calls.filterMap ConfigCall.sensorId).getLastD (host.sensorIdOf x) := by
  induction calls generalizing x with
  | nil => rfl
  | cons call calls ih =>
    have hnext := host.sensorId_apply x call
    have hlast : (List.filterMap ConfigCall.sensorId (call :: calls)).getLastD (host.sensorIdOf x)
        = (calls.filterMap ConfigCall.sensorId).getLastD (call.apply host x).sensorId := by
      rw [hnext, Rewrite.getLastD_filterMap_cons]
    rw [hlast] at h ⊢
    have hid : (calls.filterMap ConfigCall.sensorId).getLastD (host.sensorIdOf (call.apply host x))
        = (calls.filterMap ConfigCall.sensorId).getLastD (call.apply host x).sensorId := by
      cases hids : calls.filterMap ConfigCall.sensorId with
      | nil =>
        rw [hids] at h
        exact host.sensorIdOf_of_named _ h
      | cons id ids => rfl
    rw [← hid] at h ⊢
    exact ih (call.apply host x) h

/-- What the last of the calls has saved. -/
theorem sensorId_afterCalls {calls : List ConfigCall} (hbegun : calls ≠ [])
    (h : isPlaceholderSensorId host.lower
      ((calls.filterMap ConfigCall.sensorId).getLastD (host.sensorIdOf x)) = false) :
    (host.afterCalls x calls).sensorId
      = (calls.filterMap ConfigCall.sensorId).getLastD (host.sensorIdOf x) := by
  obtain ⟨calls, last, rfl⟩ := calls.eq_nil_or_concat'.resolve_left hbegun
  have hlast : (host.afterCalls x (calls ++ [last])).sensorId
      = last.sensorId.getD (host.sensorIdOf (host.afterCalls x calls)) := by
    unfold afterCalls
    rw [List.foldl_append]
    exact host.sensorId_apply _ last
  rw [hlast]
  rw [List.filterMap_append] at h ⊢
  cases hset : last.sensorId with
  | none =>
    rw [List.filterMap_cons_none hset, List.filterMap_nil, List.append_nil] at h ⊢
    exact host.sensorIdOf_afterCalls x calls h
  | some id =>
    rw [List.filterMap_cons_some hset, List.filterMap_nil, List.getLastD_concat]
    rfl

end ConfigHost

/-! ## Runs -/

/-- `platform.json`, and the requests that are changing it. -/
abbrev ConfigStore := Rewrite Nat PlatformConfig

namespace ConfigStore

variable (host : ConfigHost) (text : FileText floats)

/-- A run, from a file with this text or from no file. -/
def run (file : Option PyStr) (steps : List (RewriteStep ConfigCall)) : ConfigStore :=
  steps.foldl (Rewrite.step (platformCodec host text)) { file := file }

/-- What is loaded after a run. -/
def loaded (file : Option PyStr) (steps : List (RewriteStep ConfigCall)) : PlatformConfig :=
  host.load text (run host text file steps).file

/-- `call` is one of the run. -/
def IsCall (file : Option PyStr) (steps : List (RewriteStep ConfigCall))
    (call : RewriteCall ConfigCall) : Prop :=
  Rewrite.IsCall (platformCodec host text) { file := file } steps call

/-- Each request begins when the one before it has written. -/
def Serial (file : Option PyStr) (steps : List (RewriteStep ConfigCall)) : Prop :=
  Along (Rewrite.step (platformCodec host text)) Rewrite.Free { file := file } steps

end ConfigStore

section Runs

variable (host : ConfigHost) (text : FileText floats)

theorem ConfigStore.file_of_serial_run (file : Option PyStr) (steps : List (RewriteStep ConfigCall))
    (hserial : ConfigStore.Serial host text file steps)
    (hidle : ∀ t, (ConfigStore.run host text file steps).pc t = .idle) :
    host.readPlatform text (ConfigStore.run host text file steps).file
        = host.afterCalls (host.readPlatform text file) (Rewrite.updates steps)
      ∧ (Rewrite.updates steps ≠ [] → (ConfigStore.run host text file steps).file
        = some (text.dumps (.obj (host.afterCalls (host.readPlatform text file)
          (Rewrite.updates steps)).modelDump))) :=
  (@Rewrite.serial_run Nat PlatformConfig ConfigCall (platformCodec host text)
    { file := file } steps trivial (fun _ => rfl) hserial).read_eq hidle

end Runs

/-- A box with nothing in its environment. -/
def bareBox : ConfigHost where
  lower := Agent.asciiLower
  names := { file := none, socket := some (lit "box7") }
  hardware := lit "pi4"

/-- The operator sets a token and an id; a registration succeeds; the form is saved once more, with
no token in it. -/
def registeredRun : List (RewriteStep ConfigCall) := [
  .load 0 (.mergeUpdate { sensorId := some (lit "line-3"), registrationToken := some (lit "ABC123") }
    (lit "t0")), .openFile 0, .write 0,
  .load 1 (.recordRegisterResult true (some (lit "acme")) none (lit "t1")), .openFile 1, .write 1,
  .load 0 (.mergeUpdate { registrationToken := some [] } (lit "t2")), .openFile 0, .write 0]

theorem registeredRun_serial :
    ConfigStore.Serial bareBox (plainText Agent.AgentSnapshot.wholeNumbers) none registeredRun
      ∧ ∀ t, (ConfigStore.run bareBox (plainText Agent.AgentSnapshot.wholeNumbers) none
        registeredRun).pc t = .idle := by
  have hthread : ∀ t, t = 0 ∨ t = 1 ∨ ∃ t', t = t' + 2 := fun t => by
    match t with
    | 0 => exact .inl rfl
    | 1 => exact .inr (.inl rfl)
    | t + 2 => exact .inr (.inr ⟨t, rfl⟩)
  have hidle : ∀ n ∈ [0, 3, 6, 9], ∀ t, ((registeredRun.take n).foldl (Rewrite.step (platformCodec
      bareBox (plainText Agent.AgentSnapshot.wholeNumbers))) { file := none }).pc t = .idle := by
    intro n hn t
    simp only [List.mem_cons, List.not_mem_nil, or_false] at hn
    rcases hn with rfl | rfl | rfl | rfl
    · rcases hthread t with rfl | rfl | ⟨t, rfl⟩ <;> rfl
    · rcases hthread t with rfl | rfl | ⟨t, rfl⟩ <;> rfl
    · rcases hthread t with rfl | rfl | ⟨t, rfl⟩ <;> rfl
    · rcases hthread t with rfl | rfl | ⟨t, rfl⟩ <;> rfl
  exact ⟨⟨hidle 0 (by decide), trivial, trivial, hidle 3 (by decide), trivial, trivial,
    hidle 6 (by decide), trivial, trivial, trivial⟩, hidle 9 (by decide)⟩

end EdgeSensor.Console
