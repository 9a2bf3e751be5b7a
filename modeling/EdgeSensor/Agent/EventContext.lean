import EdgeSensor.Py.Json

/-!
# Event enrichment (`upload/event_context.py`)

Before an event goes northbound the agent merges the operational mode, the
baseline profile and the detection policy version into it. The same event can be
enriched more than once: a buffered one is again when it is flushed. Whatever the
context files say, the event keeps its id (`enrich_eventId`).

Mirroring notes:
- `_read_json` is the answer of an operation: three objects, empty for a file that is
  missing or unreadable (`ContextFiles`).
- `a or b` on JSON values is `Json.orElse`.
-/

namespace EdgeSensor.Agent

open EdgeSensor.Lib EdgeSensor.Py

/-- The operational-mode, detection-policy and baseline-profile files, parsed. -/
structure ContextFiles where
  op : Obj := []
  policy : Obj := []
  profile : Obj := []

/-- `a or b`. -/
def orElse (a b : Json) : Json := if a.truthy then a else b

/-- `out[key] = value if value` -/
def setIfTruthy (out : Obj) (key : String) (value : Json) : Obj :=
  if value.truthy then Dict.set out key value else out

/-- `enrich_security_event`. -/
def enrichSecurityEvent (repr : Json → String) (files : ContextFiles) (event : Obj) : Obj :=
  let mode := Json.str ((Obj.get files.op "mode").toStrOr repr "listen")
  let baselineProfileId :=
    orElse (Obj.get files.op "baseline_profile_id") (Obj.get files.profile "profile_id")
  let baselineProfileVersion :=
    orElse (Obj.get files.op "baseline_profile_version") (Obj.get files.profile "version")
  let detectionPolicyVersion := Json.str ((Obj.get files.policy "version").toStrOr repr "")
  let ctx := (Obj.get event "context").fields?.getD []
  let mergedCtx := Dict.update ctx [
    ("operational_mode", mode),
    ("baseline_profile_id", baselineProfileId),
    ("baseline_profile_version", baselineProfileVersion),
    ("detection_policy_version", orElse detectionPolicyVersion .null)]
  let out := Dict.set event "context" (.obj (mergedCtx.filter fun kv => !kv.2.isNull))
  let out := setIfTruthy out "baseline_profile_id" baselineProfileId
  let out := setIfTruthy out "baseline_profile_version" baselineProfileVersion
  let out := setIfTruthy out "detection_policy_version" detectionPolicyVersion
  Dict.set out "operational_mode" mode

/-- `str(event.get("event_id") or "")`, the id an upload goes by. -/
def eventId (repr : Json → String) (event : Obj) : String :=
  (Obj.get event "event_id").toStrOr repr ""

theorem get_setIfTruthy_ne (out : Obj) {key key' : String} (value : Json) (hne : key ≠ key') :
    Obj.get (setIfTruthy out key value) key' = Obj.get out key' := by
  unfold setIfTruthy
  split
  next => exact Obj.get_set_ne out value hne
  next => rfl

/-- The fields enrichment writes. -/
def contextKeys : List String :=
  ["context", "baseline_profile_id", "baseline_profile_version", "detection_policy_version",
    "operational_mode"]

/-- Enrichment leaves every other field as it was. -/
theorem enrich_get (repr : Json → String) (files : ContextFiles) (event : Obj) {key : String}
    (hkey : key ∉ contextKeys) :
    Obj.get (enrichSecurityEvent repr files event) key = Obj.get event key := by
  simp only [contextKeys, List.mem_cons, List.not_mem_nil, or_false, not_or] at hkey
  obtain ⟨hcontext, hid, hversion, hpolicy, hmode⟩ := hkey
  unfold enrichSecurityEvent
  rw [Obj.get_set_ne _ _ (Ne.symm hmode), get_setIfTruthy_ne _ _ (Ne.symm hpolicy),
    get_setIfTruthy_ne _ _ (Ne.symm hversion), get_setIfTruthy_ne _ _ (Ne.symm hid),
    Obj.get_set_ne _ _ (Ne.symm hcontext)]

/-- An event keeps its id field, whatever the context files say. -/
theorem enrich_get_eventId (repr : Json → String) (files : ContextFiles) (event : Obj) :
    Obj.get (enrichSecurityEvent repr files event) "event_id" = Obj.get event "event_id" :=
  enrich_get repr files event (by decide)

/-! ## Enriching again -/

/-- What the files say of the context. -/
structure EventContext where
  mode : String
  baselineProfileId : Json
  baselineProfileVersion : Json
  detectionPolicyVersion : String

/-- The context the files give. -/
def contextOf (repr : Json → String) (files : ContextFiles) : EventContext where
  mode := (Obj.get files.op "mode").toStrOr repr "listen"
  baselineProfileId :=
    orElse (Obj.get files.op "baseline_profile_id") (Obj.get files.profile "profile_id")
  baselineProfileVersion :=
    orElse (Obj.get files.op "baseline_profile_version") (Obj.get files.profile "version")
  detectionPolicyVersion := (Obj.get files.policy "version").toStrOr repr ""

/-- The fields a context has in an event's `context`. -/
def EventContext.pairs (c : EventContext) : Obj := [
  ("operational_mode", .str c.mode),
  ("baseline_profile_id", c.baselineProfileId),
  ("baseline_profile_version", c.baselineProfileVersion),
  ("detection_policy_version", orElse (.str c.detectionPolicyVersion) .null)]

/-- An event's `context`, written over. -/
def EventContext.overlay (c : EventContext) (ctx : Obj) : Obj :=
  (Dict.update ctx c.pairs).filter fun kv => !kv.2.isNull

/-- The fields a context has in the event itself. -/
def EventContext.top (c : EventContext) (event : Obj) : Obj :=
  let out := setIfTruthy event "baseline_profile_id" c.baselineProfileId
  let out := setIfTruthy out "baseline_profile_version" c.baselineProfileVersion
  let out := setIfTruthy out "detection_policy_version" (.str c.detectionPolicyVersion)
  Dict.set out "operational_mode" (.str c.mode)

/-- The `context` of an event, empty if it is no object. -/
def contextField (event : Obj) : Obj := (Obj.get event "context").fields?.getD []

theorem enrich_eq (repr : Json → String) (files : ContextFiles) (event : Obj) :
    enrichSecurityEvent repr files event
      = (contextOf repr files).top
          (Dict.set event "context" (.obj ((contextOf repr files).overlay (contextField event)))) :=
  rfl

namespace EventContext

variable {c c' : EventContext}

theorem pairs_nodup (c : EventContext) : (c.pairs.map (·.1)).Nodup := by
  unfold pairs
  simp

/-- The four fields of an overlay are those of the context, left out where it has none. -/
theorem get?_overlay {ctx : Obj} (h : (ctx.map (·.1)).Nodup) {kv : String × Json}
    (hkv : kv ∈ c.pairs) :
    Dict.get? (c.overlay ctx) kv.1 = if !kv.2.isNull then some kv.2 else none := by
  unfold overlay
  rw [Dict.get?_filter (Dict.nodup_update h _), Dict.get?_update_of_mem c.pairs_nodup hkv,
    Option.filter_some]

/-- Overlaying the same context again changes nothing. -/
theorem overlay_overlay {ctx : Obj} (h : (ctx.map (·.1)).Nodup) :
    c.overlay (c.overlay ctx) = c.overlay ctx := by
  have hagain := Dict.filter_update (p := fun kv => !kv.2.isNull) c.pairs_nodup
    fun kv hkv => get?_overlay h hkv
  refine hagain.trans ?_
  unfold overlay
  rw [List.filter_filter]
  simp only [Bool.and_self]

/-- A context is told by what it overlays. -/
theorem eq_of_overlay {ctx ctx' : Obj} (h : (ctx.map (·.1)).Nodup) (h' : (ctx'.map (·.1)).Nodup)
    (heq : c.overlay ctx = c'.overlay ctx') : c = c' := by
  have hfield : ∀ (key : String) {v v' : Json}, (key, v) ∈ c.pairs → (key, v') ∈ c'.pairs →
      v = v' := by
    intro key v v' hv hv'
    have hget := get?_overlay h hv
    have hget' := get?_overlay h' hv'
    rw [heq, hget'] at hget
    cases hnull : v.isNull with
    | true =>
      cases hnull' : v'.isNull with
      | true => rw [Json.isNull_iff.mp hnull, Json.isNull_iff.mp hnull']
      | false => simp [hnull, hnull'] at hget
    | false =>
      cases hnull' : v'.isNull with
      | true => simp [hnull, hnull'] at hget
      | false =>
        simp only [hnull, hnull', Bool.not_false, if_true, Option.some.injEq] at hget
        exact hget.symm
  obtain ⟨mode, id, version, policy⟩ := c
  obtain ⟨mode', id', version', policy'⟩ := c'
  have hmode : Json.str mode = .str mode' := hfield "operational_mode" (by simp [pairs]) (by simp [pairs])
  have hid : id = id' := hfield "baseline_profile_id" (by simp [pairs]) (by simp [pairs])
  have hversion : version = version' :=
    hfield "baseline_profile_version" (by simp [pairs]) (by simp [pairs])
  have hpolicy : orElse (.str policy) .null = orElse (.str policy') .null :=
    hfield "detection_policy_version" (by simp [pairs]) (by simp [pairs])
  have hsame : policy = policy' := by
    unfold orElse Json.truthy at hpolicy
    by_cases he : policy = ""
    · by_cases he' : policy' = ""
      · rw [he, he']
      · simp [he, he'] at hpolicy
    · by_cases he' : policy' = ""
      · simp [he, he'] at hpolicy
      · simpa [he, he'] using hpolicy
  cases hmode
  rw [hid, hversion, hsame]

theorem get?_setIfTruthy_ne (out : Obj) {key key' : String} (value : Json) (hne : key ≠ key') :
    Dict.get? (setIfTruthy out key value) key' = Dict.get? out key' := by
  unfold setIfTruthy
  split
  next => exact Dict.get?_set_ne out value hne
  next => rfl

/-- Only the four fields change. -/
theorem get?_top_context (c : EventContext) (event : Obj) :
    Dict.get? (c.top event) "context" = Dict.get? event "context" := by
  unfold top
  rw [Dict.get?_set_ne _ _ (by decide), get?_setIfTruthy_ne _ _ (by decide),
    get?_setIfTruthy_ne _ _ (by decide), get?_setIfTruthy_ne _ _ (by decide)]

theorem setIfTruthy_of_get? {out : Obj} {key : String} {value : Json}
    (h : value.truthy = true → Dict.get? out key = some value) : setIfTruthy out key value = out := by
  unfold setIfTruthy
  split
  next htruthy => exact Dict.set_of_get? (h htruthy)
  next => rfl

theorem get?_setIfTruthy_self {out : Obj} {key : String} {value : Json} (h : value.truthy = true) :
    Dict.get? (setIfTruthy out key value) key = some value := by
  unfold setIfTruthy
  rw [if_pos h, Dict.get?_set_self]

/-- Writing the same context again changes nothing. -/
theorem top_top (c : EventContext) (event : Obj) : c.top (c.top event) = c.top event := by
  have hid : c.baselineProfileId.truthy = true →
      Dict.get? (c.top event) "baseline_profile_id" = some c.baselineProfileId := by
    intro h
    unfold top
    rw [Dict.get?_set_ne _ _ (by decide), get?_setIfTruthy_ne _ _ (by decide),
      get?_setIfTruthy_ne _ _ (by decide), get?_setIfTruthy_self h]
  have hversion : c.baselineProfileVersion.truthy = true →
      Dict.get? (c.top event) "baseline_profile_version" = some c.baselineProfileVersion := by
    intro h
    unfold top
    rw [Dict.get?_set_ne _ _ (by decide), get?_setIfTruthy_ne _ _ (by decide),
      get?_setIfTruthy_self h]
  have hpolicy : (Json.str c.detectionPolicyVersion).truthy = true →
      Dict.get? (c.top event) "detection_policy_version" = some (.str c.detectionPolicyVersion) := by
    intro h
    unfold top
    rw [Dict.get?_set_ne _ _ (by decide), get?_setIfTruthy_self h]
  have hmode : Dict.get? (c.top event) "operational_mode" = some (.str c.mode) :=
    Dict.get?_set_self _ _ _
  generalize c.top event = out at hid hversion hpolicy hmode
  unfold top
  simp only
  rw [setIfTruthy_of_get? hid, setIfTruthy_of_get? hversion, setIfTruthy_of_get? hpolicy,
    Dict.set_of_get? hmode]

end EventContext

/-- **When enriching again changes nothing**: when the files give the context they gave. -/
theorem enrich_enrich_iff {repr : Json → String} {files files' : ContextFiles} {event : Obj}
    (hctx : ((contextField event).map (·.1)).Nodup) :
    enrichSecurityEvent repr files' (enrichSecurityEvent repr files event)
        = enrichSecurityEvent repr files event
      ↔ contextOf repr files' = contextOf repr files := by
  have hget : ∀ (c : EventContext) (event : Obj) (ctx : Obj),
      Dict.get? (c.top (Dict.set event "context" (.obj ctx))) "context" = some (.obj ctx) := by
    intro c event ctx
    rw [EventContext.get?_top_context, Dict.get?_set_self]
  have hfield : contextField (enrichSecurityEvent repr files event)
      = (contextOf repr files).overlay (contextField event) := by
    unfold contextField Obj.get
    rw [enrich_eq, hget]
    rfl
  have hnodup : (((contextOf repr files).overlay (contextField event)).map (·.1)).Nodup := by
    unfold EventContext.overlay
    exact (Dict.nodup_update hctx _).sublist ((List.filter_sublist).map _)
  constructor
  · intro heq
    have hsame := congrArg (Dict.get? · "context") heq
    rw [enrich_eq repr files', hfield, enrich_eq repr files event] at hsame
    simp only [hget, Option.some.injEq, Json.obj.injEq] at hsame
    exact EventContext.eq_of_overlay hnodup hctx hsame
  · intro hsame
    rw [enrich_eq repr files', hfield, hsame, EventContext.overlay_overlay hctx, Dict.set_of_get?,
      enrich_eq, EventContext.top_top]
    rw [enrich_eq, hget]

/-- An event as it may look on its way north: enriched any number of times. -/
inductive Enriched (repr : Json → String) (event : Obj) : Obj → Prop where
  | plain : Enriched repr event event
  | again {payload : Obj} (files : ContextFiles) (h : Enriched repr event payload) :
      Enriched repr event (enrichSecurityEvent repr files payload)

/-- All versions of an event have its id field. -/
theorem Enriched.get_eventId {repr : Json → String} {event payload : Obj}
    (h : Enriched repr event payload) : Obj.get payload "event_id" = Obj.get event "event_id" := by
  induction h with
  | plain => rfl
  | again files _ ih => rw [enrich_get_eventId, ih]

theorem Enriched.eventId_eq {repr : Json → String} {event payload : Obj}
    (h : Enriched repr event payload) : eventId repr payload = eventId repr event := by
  unfold eventId
  rw [h.get_eventId]

end EdgeSensor.Agent
