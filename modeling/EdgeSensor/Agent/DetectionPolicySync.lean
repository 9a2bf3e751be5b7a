import EdgeSensor.Py.Json
import EdgeSensor.Py.Text

/-!
# The detection policy file (`policy/detection_policy_sync.py`)

An artifact from the portal says which rules are on, and with what baseline or thresholds.
What it leaves out is taken over from the file there is, if that says anything: a list of
rules that is empty is not taken over, so the file has no list after that.

`listed_payload` is what this comes to for the rules: read as the list or nothing, the file
always has the rules of the last artifact that gave any.

Mirroring notes:
- A file is the object in it, `{}` for one that is absent or cannot be read.
- `plan` is `apply_artifact` up to its last early return.
- The clock is read four times: for a version, for `generated_at`, for `updated_at` and for
  the stamp.
-/

namespace EdgeSensor.Agent

open EdgeSensor.Lib EdgeSensor.Py

/-- `SCHEMA_VERSION`. -/
def detectionSchema : String := "ot_detection_policy.v1"

/-- `SCHEMA_VERSION_V2`. -/
def detectionSchemaV2 : String := "ot_detection_policy.v2"

/-- `DetectionPolicyResult`. -/
structure DetectionPolicyResult where
  ok : Bool
  changed : Bool
  version : String := ""
  siteId : String := ""
  tenantId : String := ""
  error : Option String := none

/-- `DetectionPolicySync`. -/
structure DetectionPolicySync where
  enabled : Bool := true

/-- The times a call of `apply_artifact` reads. -/
structure PolicyClock where
  version : String
  generated : String
  updated : String
  stamped : String

/-- A call of `apply_artifact`. -/
structure PolicyCall where
  artifact : Json
  tenantId : String
  source : String
  clock : PolicyClock

/-- What an artifact asks for. -/
structure PolicyRequest where
  artifact : Obj
  schema : String
  version : String
  siteId : String
  rules : Option (List Json)
  baseline : Option Obj
  thresholds : Option Obj

/-- `[str(r).strip().upper() for r in rules if str(r).strip()]`, of the texts. -/
def cleanList (rules : List String) : List String :=
  ((rules.map strip).filter (· ≠ "")).map upper

/-- A refusal. -/
def refusedPolicy (error : String) : DetectionPolicyResult :=
  { ok := false, changed := false, error := some error }

/-- `if x is not None and not isinstance(x, list)` -/
def givenList (error : String) : Json → Except DetectionPolicyResult (Option (List Json))
  | .null => .ok none
  | .arr xs => .ok (some xs)
  | _ => .error (refusedPolicy error)

/-- `if x is not None and not isinstance(x, dict)` -/
def givenObject (error : String) : Json → Except DetectionPolicyResult (Option Obj)
  | .null => .ok none
  | .obj fields => .ok (some fields)
  | _ => .error (refusedPolicy error)

section Apply

variable (repr : Json → String)

/-- The fields of an artifact, or why it is refused. -/
def policyRequest (artifact : Obj) : Except DetectionPolicyResult PolicyRequest := do
  let schema := strip ((artifact.get "schema_version").toStrOr repr detectionSchema)
  if schema ≠ detectionSchema ∧ schema ≠ detectionSchemaV2 then
    throw (refusedPolicy ("unsupported schema_version: " ++ schema))
  let rules ← givenList "rules_enabled must be a list" (artifact.get "rules_enabled")
  let baseline ← givenObject "baseline must be an object" (artifact.get "baseline")
  let thresholds ← givenObject "thresholds must be an object" (artifact.get "thresholds")
  return {
    artifact := artifact
    schema := schema
    version := strip
      (if (artifact.get "version").truthy then (artifact.get "version").toStr repr
       else (artifact.get "artifact_version").toStrOr repr "")
    siteId := strip ((artifact.get "site_id").toStrOr repr "")
    rules := rules
    baseline := baseline
    thresholds := thresholds }

/-- The version that is in the file already. -/
def PolicyRequest.isDuplicate (req : PolicyRequest) (existing : Obj) (tenantId : String) : Bool :=
  !existing.isEmpty && req.version ≠ ""
    && (existing.get "version").toStrOr repr "" = req.version
    && (existing.get "tenant_id").toStrOr repr "" = tenantId

/-- What a call is answered at once, or the request it goes on to write. -/
def DetectionPolicySync.plan (sync : DetectionPolicySync) (existing : Obj) (call : PolicyCall) :
    Except DetectionPolicyResult PolicyRequest :=
  if !sync.enabled then
    .error { ok := true, changed := false, error := some "detection_policy_disabled" }
  else
    match call.artifact.fields? with
    | none => .error (refusedPolicy "payload is not an object")
    | some artifact =>
      match policyRequest repr artifact with
      | .error answer => .error answer
      | .ok req =>
        if req.isDuplicate repr existing call.tenantId then
          .error { ok := true, changed := false, version := req.version, siteId := req.siteId,
                   tenantId := call.tenantId }
        else .ok req

/-- `if given is not None: payload[key] = given`, `elif existing.get(key): …` -/
def givenOrKept (existing : Obj) (key : String) (given : Option Json) : Obj :=
  match given with
  | some x => [(key, x)]
  | none => if (existing.get key).truthy then [(key, existing.get key)] else []

/-- The version that is kept: the time if the artifact has none. -/
def PolicyRequest.keptVersion (req : PolicyRequest) (clock : PolicyClock) : String :=
  if req.version = "" then clock.version else req.version

/-- The policy that is kept. -/
def PolicyRequest.payload (req : PolicyRequest) (existing : Obj) (call : PolicyCall) : Obj :=
  [ ("schema_version", .str req.schema),
    ("tenant_id", .str call.tenantId),
    ("site_id", .str req.siteId),
    ("sensor_id", req.artifact.get "sensor_id"),
    ("version", .str (req.keptVersion call.clock)),
    ("generated_at", .str ((req.artifact.get "generated_at").toStrOr repr call.clock.generated)),
    ("updated_at", .str call.clock.updated),
    ("source", .str call.source) ]
  ++ givenOrKept existing "rules_enabled"
      (req.rules.map fun rules => .arr ((cleanList (rules.map (Json.toStr repr))).map .str))
  ++ (if req.schema = detectionSchemaV2 then
        givenOrKept existing "thresholds" (req.thresholds.map .obj)
      else givenOrKept existing "baseline" (req.baseline.map .obj)
        ++ (req.thresholds.map fun fields => ("thresholds", Json.obj fields)).toList)

/-- `apply_artifact`: the answer, the file, and the stamp (when, which version). -/
def DetectionPolicySync.applyArtifact (sync : DetectionPolicySync) (file : Option Obj)
    (stamp : Option (String × String)) (call : PolicyCall) :
    DetectionPolicyResult × Option Obj × Option (String × String) :=
  match sync.plan repr (file.getD []) call with
  | .error answer => (answer, file, stamp)
  | .ok req =>
    ({ ok := true, changed := true, version := req.keptVersion call.clock, siteId := req.siteId,
       tenantId := call.tenantId },
     some (req.payload repr (file.getD []) call),
     some (call.clock.stamped, req.keptVersion call.clock))

/-! ## The rules in the file -/

/-- The texts of a list. -/
def listedTexts : Json → Option (List String)
  | .arr xs => some (xs.map (Json.toStr repr))
  | _ => none

/-- The list of rules in a policy, if it has one. -/
def listedRules (policy : Obj) : Option (List String) :=
  listedTexts repr (policy.get "rules_enabled")

/-- The rules an artifact gives, if it gives a list. -/
def PolicyRequest.givenRules (req : PolicyRequest) : Option (List String) :=
  req.rules.map fun rules => cleanList (rules.map (Json.toStr repr))

end Apply

variable {repr : Json → String} {existing : Obj} {req : PolicyRequest}

theorem get?_givenOrKept_ne {key key' : String} (hne : key ≠ key') (given : Option Json) :
    Dict.get? (givenOrKept existing key given) key' = none := by
  unfold givenOrKept
  split
  next => exact if_neg hne
  next =>
    split
    next => exact if_neg hne
    next => rfl

/-- What stands under `rules_enabled` in a policy that is kept. -/
theorem get_payload_rules (req : PolicyRequest) (existing : Obj) (call : PolicyCall) :
    (req.payload repr existing call).get "rules_enabled"
      = Obj.get (givenOrKept existing "rules_enabled" (req.rules.map fun rules =>
          .arr ((cleanList (rules.map (Json.toStr repr))).map .str))) "rules_enabled" := by
  have hrest : ∀ rest : Obj, rest.get? "rules_enabled" = none →
      Obj.get (givenOrKept existing "rules_enabled" (req.rules.map fun rules =>
          .arr ((cleanList (rules.map (Json.toStr repr))).map .str)) ++ rest) "rules_enabled"
        = Obj.get (givenOrKept existing "rules_enabled" (req.rules.map fun rules =>
          .arr ((cleanList (rules.map (Json.toStr repr))).map .str))) "rules_enabled" := by
    intro rest h
    unfold Obj.get
    rw [Dict.get?_append, h, Option.or_none]
  have hthresholds : ∀ given : Option Obj, Dict.get?
      ((given.map fun fields => ("thresholds", Json.obj fields)).toList) "rules_enabled" = none := by
    intro given
    cases given with
    | none => rfl
    | some fields => rfl
  unfold PolicyRequest.payload
  rw [List.append_assoc]
  refine hrest _ ?_
  split
  next => exact get?_givenOrKept_ne (by decide) _
  next =>
    rw [Dict.get?_append, get?_givenOrKept_ne (by decide), hthresholds]
    rfl

/-- A list of texts in a file is read as it is. -/
theorem map_toStr_str (texts : List String) : (texts.map Json.str).map (Json.toStr repr) = texts := by
  rw [List.map_map]
  exact List.map_id texts

/-- **What the file says of the rules**: the rules of the artifact, if it gives a list, and
otherwise those that were there. -/
theorem listedRules_payload (req : PolicyRequest) (existing : Obj) (call : PolicyCall) :
    (listedRules repr (req.payload repr existing call)).getD []
      = (req.givenRules repr).getD ((listedRules repr existing).getD []) := by
  unfold listedRules PolicyRequest.givenRules
  rw [get_payload_rules]
  cases hrules : req.rules with
  | some rules => exact map_toStr_str _
  | none =>
    unfold givenOrKept
    simp only [Option.map_none, Option.getD_none]
    by_cases htruthy : (existing.get "rules_enabled").truthy = true
    · rw [if_pos htruthy]
      rfl
    · -- nothing is kept: what was there is an empty list at most
      rw [if_neg htruthy]
      cases hget : existing.get "rules_enabled" with
      | arr xs =>
        rw [hget] at htruthy
        cases xs with
        | nil => rfl
        | cons x xs => exact absurd rfl htruthy
      | null => rfl
      | bool b => rfl
      | int n => rfl
      | float text => rfl
      | str s => rfl
      | obj fields => rfl

/-- A file that lists no rules was given none: none at all, or an empty list. -/
theorem listedRules_payload_none {call : PolicyCall}
    (h : listedRules repr (req.payload repr existing call) = none) :
    (req.givenRules repr).getD ((listedRules repr existing).getD []) = [] := by
  rw [← listedRules_payload req existing call, h]
  rfl

end EdgeSensor.Agent
