import EdgeSensor.Py.Value
import Mathlib.Data.List.Nodup

/-!
# Topology overrides on the agent (`policy/topology_override_sync.py`)

The portal corrects what the sensor says of an asset: an artifact has a patch for an asset, and the
store file keeps what all the patches have made of it. Every call reads the document, merges the
patch into the asset's entry and writes the document anew, in place. Where it cannot be encoded the
file has been emptied by then, and all the overrides are gone; the other caches of the agent are
written beside the file and put in its place.

`applyArtifact_spec` says what one call makes of a value, and `overrides_last_writer` what a run
makes of all: the last text that was accepted.

Mirroring notes:
- An artifact is a dict of anybody's JSON. What could be parsed can be printed by `str`;
  `json.dumps` with an indent goes less deep, `OverrideText.maxDepth`.
- The store file is one that this class wrote, or empty, or none; it is kept as the object in it.
- `write_text` empties the file before it encodes the text.
-/

namespace EdgeSensor.Agent

open EdgeSensor.Lib EdgeSensor.Py

/-- `SCHEMA_VERSION`. -/
def overrideSchema : PyStr := lit "sensel.ot_topology.override.v1"

/-- `STORE_SCHEMA`. -/
def overrideStoreSchema : PyStr := lit "sensel.ot_topology.override_store.v1"

/-- Texts, and how many containers within one another `json.dumps` can write. -/
structure OverrideText extends Value.Text where
  maxDepth : Nat

/-- `TopologyOverrideResult`. -/
structure TopologyOverrideResult where
  ok : Bool
  changed : Bool
  assetId : PyStr := []
  tenantId : PyStr := []
  error : Option PyStr := none
  deriving DecidableEq

/-! ## The store -/

/-- An asset's entry. -/
structure OverrideEntry where
  assetId : PyStr
  tenantId : PyStr
  sensorId : PyStr
  patch : Dict PyStr PyStr
  issuedAt : PyStr
  issuedByUserId : Value
  source : PyStr
  distinct : (patch.map Prod.fst).Nodup

def OverrideEntry.toValue (entry : OverrideEntry) : Value :=
  .obj [
    (lit "asset_id", .str entry.assetId),
    (lit "tenant_id", .str entry.tenantId),
    (lit "sensor_id", .str entry.sensorId),
    (lit "patch", .obj (entry.patch.map fun kv => (kv.1, .str kv.2))),
    (lit "manual_override", .bool true),
    (lit "evidence_sources", .arr [.str (lit "manual_tag")]),
    (lit "issued_at", .str entry.issuedAt),
    (lit "issued_by_user_id", entry.issuedByUserId),
    (lit "source", .str entry.source),
    (lit "schema", .str overrideSchema)]

/-- `out_doc`. -/
structure OverrideDoc where
  tenantId : PyStr
  sensorId : PyStr
  updatedAt : PyStr
  overrides : Dict PyStr OverrideEntry

def OverrideDoc.toValue (doc : OverrideDoc) : Value :=
  .obj [
    (lit "schema", .str overrideStoreSchema),
    (lit "tenant_id", .str doc.tenantId),
    (lit "sensor_id", .str doc.sensorId),
    (lit "updated_at", .str doc.updatedAt),
    (lit "overrides", .obj (doc.overrides.map fun kv => (kv.1, kv.2.toValue)))]

/-- The store file. -/
inductive OverrideFile where
  | absent
  | empty
  | doc (doc : OverrideDoc)

/-- The store file, and the stamp: when, and which version. -/
structure OverrideStore where
  file : OverrideFile := .absent
  stamp : Option (PyStr × PyStr) := none

namespace OverrideStore

/-- `read_state`, the overrides of it. -/
def readState (store : OverrideStore) : Dict PyStr OverrideEntry :=
  match store.file with
  | .absent => []
  | .empty => []
  | .doc doc => doc.overrides

/-- `get_override`. -/
def getOverride (store : OverrideStore) (assetId : PyStr) : Option OverrideEntry :=
  Dict.get? store.readState assetId

/-- The stored value of a patch. -/
def patchValue (store : OverrideStore) (assetId key : PyStr) : Option PyStr :=
  (store.getOverride assetId).bind fun entry => Dict.get? entry.patch key

end OverrideStore

/-! ## One call -/

/-- `TopologyOverrideSync`. -/
structure TopologyOverrideSync where
  enabled : Bool := true
  sensorId : PyStr

/-- A call of `apply_artifact`, and what the clock says in it: for `issued_at`, for `updated_at` and
for the stamp. -/
structure OverrideCall where
  artifact : List (PyStr × Value)
  tenantId : PyStr
  source : PyStr := lit "mqtt"
  issued : PyStr
  updated : PyStr
  stamped : PyStr

/-- What an artifact asks for. -/
structure OverrideRequest where
  assetId : PyStr
  payloadSensor : PyStr
  patch : List (PyStr × Value)

section Apply

variable (text : OverrideText)

/-- `str(artifact.get(key) or default)`. -/
def OverrideCall.field (call : OverrideCall) (key : String) (default : PyStr) : PyStr :=
  if ((Value.obj call.artifact).get key).truthy then text.str ((Value.obj call.artifact).get key)
  else default

/-- The checks of `apply_artifact`. -/
def TopologyOverrideSync.request (sync : TopologyOverrideSync) (call : OverrideCall) :
    Except TopologyOverrideResult OverrideRequest :=
  if !sync.enabled then
    .error { ok := true, changed := false, error := some (lit "topology_override_disabled") }
  else
    let schema := (call.field text "schema" []).strip
    if schema ≠ [] ∧ schema ≠ overrideSchema then
      .error { ok := false, changed := false, error := some (lit "unsupported schema " ++ schema) }
    else
      let assetId := (call.field text "asset_id" []).strip
      if assetId = [] then
        .error { ok := false, changed := false, error := some (lit "asset_id required") }
      else
        let payloadSensor := (call.field text "sensor_id" []).strip
        if payloadSensor ≠ [] ∧ payloadSensor ≠ sync.sensorId then
          .error { ok := false, changed := false,
                   error := some (lit "sensor mismatch payload=" ++ payloadSensor ++ lit " local="
                     ++ sync.sensorId) }
        else
          match (Value.obj call.artifact).get "patch" with
          | .obj (field :: patch) => .ok ⟨assetId, payloadSensor, field :: patch⟩
          | _ => .error { ok := false, changed := false, assetId, error := some (lit "patch required") }

/-- What a field of a patch sets its key to, if it does. -/
def patchText : Value → Option PyStr
  | .null => none
  | value => if (text.str value).strip = [] then none else some (text.str value).strip

/-- The loop over `patch.items()`: what is set. -/
def OverrideRequest.settings (req : OverrideRequest) : Dict PyStr PyStr :=
  req.patch.filterMap fun kv => (patchText text kv.2).map fun value => (kv.1, value)

/-- `entry`. -/
def TopologyOverrideSync.entry (sync : TopologyOverrideSync) (existing : Option OverrideEntry)
    (req : OverrideRequest) (call : OverrideCall) : OverrideEntry where
  assetId := req.assetId
  tenantId := if call.tenantId = [] then call.field text "tenant_id" [] else call.tenantId
  sensorId := if req.payloadSensor = [] then sync.sensorId else req.payloadSensor
  patch := Dict.update ((existing.map OverrideEntry.patch).getD []) (req.settings text)
  issuedAt := call.field text "issued_at" call.issued
  issuedByUserId := (Value.obj call.artifact).get "issued_by_user_id"
  source := call.source
  distinct := by
    refine Dict.nodup_update ?_ _
    cases existing with
    | none => exact .nil
    | some entry => exact entry.distinct

/-- `existing == entry`. -/
def TopologyOverrideSync.isUnchanged (existing : Option OverrideEntry) (entry : OverrideEntry) :
    Bool :=
  match existing with
  | none => false
  | some existing => existing.toValue.equal entry.toValue

/-- `apply_artifact`: the files afterwards, and what is returned. -/
def TopologyOverrideSync.applyArtifact (sync : TopologyOverrideSync) (store : OverrideStore)
    (call : OverrideCall) : OverrideStore × Except PyErr TopologyOverrideResult :=
  match sync.request text call with
  | .error result => (store, .ok result)
  | .ok req =>
    let existing := store.getOverride req.assetId
    let entry := sync.entry text existing req call
    if TopologyOverrideSync.isUnchanged existing entry then
      (store, .ok { ok := true, changed := false, assetId := req.assetId, tenantId := entry.tenantId })
    else
      let doc : OverrideDoc := {
        tenantId := entry.tenantId
        sensorId := sync.sensorId
        updatedAt := call.updated
        overrides := Dict.set store.readState req.assetId entry }
      if text.maxDepth < doc.toValue.depth then
        (store, .error (.recursionError "maximum recursion depth exceeded"))
      else if doc.toValue.encodable then
        ({ file := .doc doc, stamp := some (call.stamped, req.assetId ++ lit ":" ++ entry.issuedAt) },
          .ok { ok := true, changed := true, assetId := req.assetId, tenantId := entry.tenantId })
      else
        ({ store with file := .empty }, .error (.unicodeEncodeError "surrogates not allowed"))

/-- The files after some calls. -/
def TopologyOverrideSync.run (sync : TopologyOverrideSync) (store : OverrideStore)
    (calls : List OverrideCall) : OverrideStore :=
  calls.foldl (fun store call => (sync.applyArtifact text store call).1) store

end Apply

/-! ## An entry that is as it was -/

theorem equalFields_iff {fields other : List (PyStr × Value)} :
    Value.equalFields fields other = true
      ↔ ∀ kv ∈ fields, ∃ y, Dict.get? other kv.1 = some y ∧ kv.2.equal y = true := by
  induction fields with
  | nil => exact ⟨fun _ kv h => absurd h List.not_mem_nil, fun _ => rfl⟩
  | cons kv fields ih =>
    rw [Value.equalFields, Bool.and_eq_true, List.forall_mem_cons, ih]
    refine and_congr ?_ Iff.rfl
    cases Dict.get? other kv.1 with
    | none => simp
    | some y => simp

/-- A field of an equal dict is equal. -/
theorem equal_of_get? {fields other : List (PyStr × Value)} {x : Value} (key : PyStr)
    (h : (Value.obj fields).equal (.obj other) = true) (hx : Dict.get? fields key = some x) :
    ∃ y, Dict.get? other key = some y ∧ x.equal y = true := by
  rw [Value.equal, Bool.and_eq_true, equalFields_iff] at h
  exact h.2 (key, x) (Dict.mem_of_get? hx)

/-- What is equal to a text is that text. -/
theorem eq_str_of_equal {s : PyStr} {y : Value} (h : (Value.str s).equal y = true) : y = .str s := by
  cases y with
  | str t =>
    rw [Value.equal, decide_eq_true_iff] at h
    rw [h]
  | _ => cases h

/-- An entry that is the same says the same of every key. -/
theorem patch_of_isUnchanged {existing entry : OverrideEntry}
    (h : existing.toValue.equal entry.toValue = true) (key : PyStr) :
    Dict.get? existing.patch key = Dict.get? entry.patch key := by
  obtain ⟨y, hy, hequal⟩ := equal_of_get? (lit "patch") h rfl
  obtain rfl : Value.obj (entry.patch.map fun kv => (kv.1, .str kv.2)) = y := Option.some.inj hy
  rw [Value.equal, Bool.and_eq_true, equalFields_iff, decide_eq_true_iff, List.length_map,
    List.length_map] at hequal
  refine Dict.get?_eq_of_forall_mem existing.distinct hequal.1 (fun kv hkv => ?_) key
  obtain ⟨y, hy, hval⟩ := hequal.2 _ (List.mem_map_of_mem hkv)
  rw [eq_str_of_equal hval] at hy
  have hget : Dict.get? (entry.patch.map fun kv => (kv.1, Value.str kv.2)) kv.1
      = (Dict.get? entry.patch kv.1).map Value.str :=
    Dict.get?_mapValues Value.str entry.patch kv.1
  rw [hget] at hy
  obtain ⟨v, hv, hstr⟩ := Option.map_eq_some_iff.mp hy
  rw [hv, Value.str.inj hstr]

/-! ## What can be written -/

theorem OverrideEntry.encodable_iff {entry : OverrideEntry} : entry.toValue.encodable = true
    ↔ PyStr.encodable entry.assetId = true ∧ PyStr.encodable entry.tenantId = true
      ∧ PyStr.encodable entry.sensorId = true
      ∧ (∀ kv ∈ entry.patch, PyStr.encodable kv.1 = true ∧ PyStr.encodable kv.2 = true)
      ∧ PyStr.encodable entry.issuedAt = true ∧ entry.issuedByUserId.encodable = true
      ∧ PyStr.encodable entry.source = true := by
  have hpatch : Value.encodableFields (entry.patch.map fun kv => (kv.1, .str kv.2)) = true
      ↔ ∀ kv ∈ entry.patch, PyStr.encodable kv.1 = true ∧ PyStr.encodable kv.2 = true := by
    rw [Value.encodableFields_iff, List.forall_mem_map]
    exact Iff.rfl
  rw [← hpatch]
  simp only [toValue, Value.encodable, Value.encodableFields, Value.encodableList, encodable_lit,
    overrideSchema, Bool.and_eq_true, and_true, true_and]

theorem OverrideDoc.encodable_iff {doc : OverrideDoc} : doc.toValue.encodable = true
    ↔ PyStr.encodable doc.tenantId = true ∧ PyStr.encodable doc.sensorId = true
      ∧ PyStr.encodable doc.updatedAt = true
      ∧ ∀ kv ∈ doc.overrides, PyStr.encodable kv.1 = true ∧ kv.2.toValue.encodable = true := by
  have hall : Value.encodableFields (doc.overrides.map fun kv => (kv.1, kv.2.toValue)) = true
      ↔ ∀ kv ∈ doc.overrides, PyStr.encodable kv.1 = true ∧ kv.2.toValue.encodable = true := by
    rw [Value.encodableFields_iff, List.forall_mem_map]
  rw [← hall]
  simp only [toValue, Value.encodable, Value.encodableFields, encodable_lit,
    overrideStoreSchema, Bool.and_eq_true, and_true, true_and]

/-- What is stored could be encoded. -/
def OverrideStore.Encodable (store : OverrideStore) : Prop :=
  ∀ kv ∈ store.readState, PyStr.encodable kv.1 = true ∧ kv.2.toValue.encodable = true

section Runs

variable (text : OverrideText) (sync : TopologyOverrideSync)

/-- The texts that an accepted artifact brings to the store. -/
def OverrideRequest.texts (req : OverrideRequest) (call : OverrideCall) : List PyStr :=
  [sync.sensorId, call.updated, call.source, req.assetId, req.payloadSensor,
    if call.tenantId = [] then call.field text "tenant_id" [] else call.tenantId,
    call.field text "issued_at" call.issued]
    ++ (req.settings text).flatMap fun kv => [kv.1, kv.2]

/-- No text of a call that gets to the store holds half a surrogate pair. -/
def OverrideCall.Clean (call : OverrideCall) : Prop :=
  ∀ req, sync.request text call = .ok req →
    (∀ s ∈ req.texts text sync call, PyStr.encodable s = true)
      ∧ ((Value.obj call.artifact).get "issued_by_user_id").encodable = true

/-- The entry of a clean call can be encoded. -/
theorem entry_encodable {call : OverrideCall} (hclean : call.Clean text sync) {req : OverrideRequest}
    (hreq : sync.request text call = .ok req) {existing : Option OverrideEntry}
    (hexisting : ∀ entry, existing = some entry → entry.toValue.encodable = true) :
    (sync.entry text existing req call).toValue.encodable = true := by
  obtain ⟨htexts, hissuedBy⟩ := hclean req hreq
  simp only [OverrideRequest.texts, List.forall_mem_append, List.forall_mem_cons] at htexts
  obtain ⟨⟨hsensor, -, hsource, hasset, hpayload, htenant, hissued, -⟩, hsettings⟩ := htexts
  have hset : ∀ kv ∈ req.settings text,
      PyStr.encodable kv.1 = true ∧ PyStr.encodable kv.2 = true := by
    intro kv hkv
    exact ⟨hsettings _ (List.mem_flatMap.mpr ⟨kv, hkv, List.mem_cons_self⟩),
      hsettings _ (List.mem_flatMap.mpr ⟨kv, hkv, List.mem_cons_of_mem _ List.mem_cons_self⟩)⟩
  rw [OverrideEntry.encodable_iff]
  refine ⟨hasset, htenant, ?_, fun kv hkv => ?_, hissued, hissuedBy, hsource⟩
  · show PyStr.encodable (if req.payloadSensor = [] then _ else _) = true
    split
    next => exact hsensor
    next => exact hpayload
  · rcases Dict.mem_update hkv with hkv | hkv
    · cases existing with
      | none => exact absurd hkv List.not_mem_nil
      | some entry =>
        exact (OverrideEntry.encodable_iff.mp (hexisting entry rfl)).2.2.2.1 kv hkv
    · exact hset kv hkv

/-! ## One call, by cases -/

/-- The document of a call. -/
def TopologyOverrideSync.outDoc (store : OverrideStore) (req : OverrideRequest)
    (call : OverrideCall) : OverrideDoc where
  tenantId := (sync.entry text (store.getOverride req.assetId) req call).tenantId
  sensorId := sync.sensorId
  updatedAt := call.updated
  overrides := Dict.set store.readState req.assetId
    (sync.entry text (store.getOverride req.assetId) req call)

/-- An artifact is rejected, or changes nothing, or gives a document that is too deep, or one that
is written, or one that empties the file. -/
theorem applyArtifact_cases (store : OverrideStore) (call : OverrideCall) :
    (∃ result, sync.request text call = .error result
      ∧ sync.applyArtifact text store call = (store, .ok result))
    ∨ ∃ req, sync.request text call = .ok req
      ∧ ((TopologyOverrideSync.isUnchanged (store.getOverride req.assetId)
            (sync.entry text (store.getOverride req.assetId) req call) = true
          ∧ ∃ tenantId, sync.applyArtifact text store call
            = (store, .ok { ok := true, changed := false, assetId := req.assetId, tenantId }))
        ∨ (∃ e, sync.applyArtifact text store call = (store, .error e))
        ∨ (∃ stamp tenantId, sync.applyArtifact text store call
            = ({ file := .doc (sync.outDoc text store req call), stamp },
              .ok { ok := true, changed := true, assetId := req.assetId, tenantId }))
        ∨ ((sync.outDoc text store req call).toValue.encodable = false
          ∧ ∃ e, sync.applyArtifact text store call = ({ store with file := .empty }, .error e))) := by
  unfold TopologyOverrideSync.applyArtifact
  cases hreq : sync.request text call with
  | error result => exact .inl ⟨result, rfl, rfl⟩
  | ok req =>
    refine .inr ⟨req, rfl, ?_⟩
    dsimp only
    split
    next hsame => exact .inl ⟨hsame, _, rfl⟩
    next =>
      split
      next => exact .inr (.inl ⟨_, rfl⟩)
      next =>
        split
        next => exact .inr (.inr (.inl ⟨_, _, rfl⟩))
        next henc => exact .inr (.inr (.inr ⟨Bool.eq_false_iff.mpr henc, _, rfl⟩))

/-- What is returned says that the artifact has been taken. -/
def isAccepted : Except PyErr TopologyOverrideResult → Bool
  | .ok result => result.ok && result.error.isNone
  | .error _ => false

/-- An artifact that is rejected is not accepted. -/
theorem not_ok_of_request {call : OverrideCall} {result : TopologyOverrideResult}
    (h : sync.request text call = .error result) :
    result.changed = false ∧ isAccepted (.ok result) = false := by
  unfold TopologyOverrideSync.request at h
  dsimp only at h
  repeat' split at h
  all_goals cases h
  all_goals exact ⟨rfl, rfl⟩

/-- The texts of an artifact for an asset and a key. -/
def TopologyOverrideSync.offers (call : OverrideCall) (assetId key : PyStr) : List PyStr :=
  match sync.request text call with
  | .error _ => []
  | .ok req => if req.assetId = assetId then Dict.settings (req.settings text) key else []

/-- What is accepted of a call for an asset and a key. -/
def TopologyOverrideSync.acceptedOf (store : OverrideStore) (call : OverrideCall)
    (assetId key : PyStr) : List PyStr :=
  if isAccepted (sync.applyArtifact text store call).2 then sync.offers text call assetId key else []

/-- What is accepted in a run for an asset and a key, in its order. -/
def TopologyOverrideSync.accepted (assetId key : PyStr) :
    OverrideStore → List OverrideCall → List PyStr
  | _, [] => []
  | store, call :: calls =>
    sync.acceptedOf text store call assetId key
      ++ TopologyOverrideSync.accepted assetId key (sync.applyArtifact text store call).1 calls

/-- The document of a clean call can be encoded. -/
theorem outDoc_encodable {store : OverrideStore} (hstore : store.Encodable) {call : OverrideCall}
    (hclean : call.Clean text sync) {req : OverrideRequest} (hreq : sync.request text call = .ok req) :
    (sync.outDoc text store req call).toValue.encodable = true := by
  have hentry : (sync.entry text (store.getOverride req.assetId) req call).toValue.encodable = true :=
    entry_encodable text sync hclean hreq fun entry hget => (hstore _ (Dict.mem_of_get? hget)).2
  have hparts := OverrideEntry.encodable_iff.mp hentry
  rw [OverrideDoc.encodable_iff]
  refine ⟨hparts.2.1, ?_, ?_, fun kv hkv => ?_⟩
  · exact (hclean req hreq).1 _ List.mem_cons_self
  · exact (hclean req hreq).1 _ (List.mem_cons_of_mem _ List.mem_cons_self)
  · rcases Dict.mem_set hkv with rfl | hkv
    · exact ⟨hparts.1, hentry⟩
    · exact hstore kv hkv

/-- What a call that does not raise the wrong way makes of a store. -/
structure Kept (store after : OverrideStore) (call : OverrideCall) : Prop where
  encodable : after.Encodable
  value : ∀ assetId key, after.patchValue assetId key
    = (sync.acceptedOf text store call assetId key).getLast?.or (store.patchValue assetId key)
  others : ∀ assetId, (∀ req, sync.request text call = .ok req → req.assetId ≠ assetId) →
    after.getOverride assetId = store.getOverride assetId

/-- Without anything accepted, the store that stays is kept. -/
theorem Kept.of_not_accepted {store : OverrideStore} {call : OverrideCall} (hstore : store.Encodable)
    {returned : Except PyErr TopologyOverrideResult}
    (happly : sync.applyArtifact text store call = (store, returned))
    (h : isAccepted returned = false) :
    Kept text sync store (sync.applyArtifact text store call).1 call := by
  rw [happly]
  refine ⟨hstore, fun assetId key => ?_, fun _ _ => rfl⟩
  rw [TopologyOverrideSync.acceptedOf, happly, h]
  rfl

/-- The value of the entry that a request makes. -/
theorem entry_patch (existing : Option OverrideEntry) (req : OverrideRequest) (call : OverrideCall)
    (key : PyStr) : Dict.get? (sync.entry text existing req call).patch key
      = (Dict.settings (req.settings text) key).getLast?.or
        (existing.bind fun entry => Dict.get? entry.patch key) := by
  show Dict.get? (Dict.update _ _) key = _
  rw [Dict.get?_update]
  cases existing with
  | none => rfl
  | some entry => rfl

/-- An entry that is as it was has the values that are offered. -/
theorem value_of_isUnchanged {store : OverrideStore} {req : OverrideRequest} {call : OverrideCall}
    (h : TopologyOverrideSync.isUnchanged (store.getOverride req.assetId)
      (sync.entry text (store.getOverride req.assetId) req call) = true) (key : PyStr) :
    store.patchValue req.assetId key = (Dict.settings (req.settings text) key).getLast?.or
      (store.patchValue req.assetId key) := by
  unfold OverrideStore.patchValue
  cases hexisting : store.getOverride req.assetId with
  | none =>
    rw [hexisting] at h
    cases h
  | some existing =>
    rw [hexisting] at h
    have hpatch := patch_of_isUnchanged h key
    rw [entry_patch] at hpatch
    exact hpatch

theorem acceptedOf_eq {store : OverrideStore} {call : OverrideCall} {req : OverrideRequest}
    (hreq : sync.request text call = .ok req)
    (h : isAccepted (sync.applyArtifact text store call).2 = true) (assetId key : PyStr) :
    sync.acceptedOf text store call assetId key
      = if req.assetId = assetId then Dict.settings (req.settings text) key else [] := by
  rw [TopologyOverrideSync.acceptedOf, if_pos h, TopologyOverrideSync.offers, hreq]

/-- **One call.** A clean call keeps what can be encoded, sets the values that it accepts and none
other, and touches no other asset. -/
theorem applyArtifact_spec {store : OverrideStore} (hstore : store.Encodable) {call : OverrideCall}
    (hclean : call.Clean text sync) :
    Kept text sync store (sync.applyArtifact text store call).1 call := by
  rcases applyArtifact_cases text sync store call with ⟨result, hreq, happly⟩
    | ⟨req, hreq, ⟨hsame, tenantId, happly⟩ | ⟨e, happly⟩ | ⟨stamp, tenantId, happly⟩ | ⟨henc, -⟩⟩
  · exact .of_not_accepted text sync hstore happly (not_ok_of_request text sync hreq).2
  · -- what is accepted is there already
    have haccepted := acceptedOf_eq text sync hreq (congrArg (isAccepted ·.2) happly)
    rw [happly]
    refine ⟨hstore, fun assetId key => ?_, fun _ _ => rfl⟩
    rw [haccepted]
    split
    next hasset => exact hasset ▸ value_of_isUnchanged text sync hsame key
    next => rfl
  · exact .of_not_accepted text sync hstore happly rfl
  · have henc := OverrideDoc.encodable_iff.mp (outDoc_encodable text sync hstore hclean hreq)
    have hget : ∀ assetId, (OverrideStore.mk (.doc (sync.outDoc text store req call)) stamp).getOverride
        assetId = if req.assetId = assetId then
            some (sync.entry text (store.getOverride req.assetId) req call)
          else store.getOverride assetId := fun assetId => Dict.get?_set _ _ _ _
    have haccepted := acceptedOf_eq text sync hreq (congrArg (isAccepted ·.2) happly)
    rw [happly]
    refine ⟨henc.2.2.2, fun assetId key => ?_, fun assetId hother => ?_⟩
    · rw [haccepted, OverrideStore.patchValue, hget]
      split
      next hasset =>
        rw [Option.bind_some, entry_patch, hasset]
        rfl
      next => rfl
    · rw [hget, if_neg (hother req hreq)]
  · rw [outDoc_encodable text sync hstore hclean hreq] at henc
    cases henc

/-! ## Runs -/

/-- **One run.** -/
theorem run_spec {store : OverrideStore} (hstore : store.Encodable) {calls : List OverrideCall}
    (hclean : ∀ call ∈ calls, call.Clean text sync) :
    (sync.run text store calls).Encodable
      ∧ ∀ assetId key, (sync.run text store calls).patchValue assetId key
        = (sync.accepted text assetId key store calls).getLast?.or (store.patchValue assetId key) := by
  induction calls generalizing store with
  | nil => exact ⟨hstore, fun assetId key => rfl⟩
  | cons call calls ih =>
    rw [List.forall_mem_cons] at hclean
    have hstep := applyArtifact_spec text sync hstore hclean.1
    obtain ⟨henc, hvalue⟩ := ih hstep.encodable hclean.2
    refine ⟨henc, fun assetId key => ?_⟩
    rw [TopologyOverrideSync.accepted, List.getLast?_append, Option.or_assoc, ← hstep.value]
    exact hvalue assetId key

/-- What a run of calls from no store on, the last of them singled out, makes of the store: every
value is the last that was accepted, the last call has left the other assets alone, and the file too
if it says that nothing has changed. -/
structure KeepsOverrides (calls : List OverrideCall) (call : OverrideCall) : Prop where
  last : ∀ assetId key, (sync.run text {} (calls ++ [call])).patchValue assetId key
    = (sync.accepted text assetId key {} (calls ++ [call])).getLast?
  others : ∀ assetId, (∀ req, sync.request text call = .ok req → req.assetId ≠ assetId) →
    (sync.run text {} (calls ++ [call])).getOverride assetId
      = (sync.run text {} calls).getOverride assetId
  same : ∀ result, (sync.applyArtifact text (sync.run text {} calls) call).2 = .ok result →
    result.changed = false →
    (sync.run text {} (calls ++ [call])).file = (sync.run text {} calls).file

theorem run_concat (calls : List OverrideCall) (call : OverrideCall) :
    sync.run text {} (calls ++ [call]) = (sync.applyArtifact text (sync.run text {} calls) call).1 :=
  List.foldl_concat ..

/-- A call that says that nothing has changed has left the file alone. -/
theorem file_of_not_changed {store : OverrideStore} {call : OverrideCall}
    {result : TopologyOverrideResult} (hreturned : (sync.applyArtifact text store call).2 = .ok result)
    (hchanged : result.changed = false) : (sync.applyArtifact text store call).1.file = store.file := by
  rcases applyArtifact_cases text sync store call with ⟨_, -, happly⟩
    | ⟨_, -, ⟨-, _, happly⟩ | ⟨_, happly⟩ | ⟨_, _, happly⟩ | ⟨-, _, happly⟩⟩
  · rw [happly]
  · rw [happly]
  · rw [happly]
  · rw [happly] at hreturned
    rw [← Except.ok.inj hreturned] at hchanged
    cases hchanged
  · rw [happly] at hreturned
    cases hreturned

/-- **The last writer wins**, in every run of clean calls. -/
theorem overrides_last_writer (calls : List OverrideCall) (call : OverrideCall)
    (hclean : ∀ c ∈ calls ++ [call], c.Clean text sync) : KeepsOverrides text sync calls call := by
  have hempty : OverrideStore.Encodable {} := fun kv hkv => absurd hkv List.not_mem_nil
  rw [List.forall_mem_append] at hclean
  have hbefore := (run_spec text sync hempty hclean.1).1
  have hcall := applyArtifact_spec text sync hbefore (hclean.2 call (List.mem_singleton_self call))
  refine ⟨fun assetId key => ?_, fun assetId hother => ?_, fun result hreturned hchanged => ?_⟩
  · have hvalue := (run_spec text sync hempty (List.forall_mem_append.mpr hclean)).2 assetId key
    rw [hvalue]
    exact Option.or_none
  · rw [run_concat]
    exact hcall.others assetId hother
  · rw [run_concat]
    exact file_of_not_changed text sync hreturned hchanged

end Runs

/-- The texts of an artifact of strings. -/
def plainOverrideText : OverrideText where
  repr _ := []
  lower s := s
  maxDepth := 900

/-- A patch of the Purdue level of an asset. -/
def levelCall (assetId : String) (level : PyStr) : OverrideCall where
  artifact := [(lit "asset_id", .str (lit assetId)),
    (lit "patch", .obj [(lit "purdue_level", .str level)])]
  tenantId := lit "t1"
  issued := lit "2026-06-14T09:30:00Z"
  updated := lit "2026-06-14T09:30:01Z"
  stamped := lit "2026-06-14T09:30:02Z"

/-- Two artifacts for one asset, of which the second stays. -/
theorem overrides_last_writer_twice :
    KeepsOverrides plainOverrideText { sensorId := lit "ot-edge-001" }
      [levelCall "a1" (lit "L1")] (levelCall "a1" (lit " L2 ")) := by
  refine overrides_last_writer plainOverrideText { sensorId := lit "ot-edge-001" }
    [levelCall "a1" (lit "L1")] (levelCall "a1" (lit " L2 ")) fun c hc req hreq => ?_
  rcases List.mem_cons.mp hc with rfl | hc
  · cases hreq
    exact ⟨by decide, rfl⟩
  · cases List.mem_singleton.mp hc
    cases hreq
    exact ⟨by decide, rfl⟩

/-- Half a surrogate pair in a patch for one asset loses the override of another. -/
theorem surrogate_loses_overrides :
    ¬ ∀ (text : OverrideText) (sync : TopologyOverrideSync) (calls : List OverrideCall)
      (call : OverrideCall), KeepsOverrides text sync calls call := by
  intro hclaim
  have hothers := (hclaim plainOverrideText { sensorId := lit "ot-edge-001" }
    [levelCall "a1" (lit "L1")] (levelCall "a2" [0xD800])).others (lit "a1") (by
      intro req hreq
      cases hreq
      decide)
  have hlost := congrArg Option.isNone hothers
  exact absurd hlost (by decide)

end EdgeSensor.Agent
