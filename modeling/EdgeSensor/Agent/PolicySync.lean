import EdgeSensor.Agent.SightingBudget
import EdgeSensor.Agent.SightingPayload

/-!
# The blacklist on the agent (`policy/ioc_cache.py`, `policy/sync.py`)

A feed artifact becomes a cache with three maps of indicators, which replaces the one before.
The loop over the items has no handler: a field that is not what it should be raises, and then
no item of the artifact is applied. `apply_isolated_iff` says of every artifact whether the
well-formed items come through.

Mirroring notes:
- The artifact is anybody's JSON. What could be parsed can be printed by `str`; `json.dumps`
  with an indent goes less deep, `FeedText.maxDepth`.
- Times are in microseconds since 1970. A date after the year 9999 is an `OverflowError`.
- The cache file is one that this class wrote, or none; it is kept as the object it holds. The
  disk does what it is told.
-/

namespace EdgeSensor.Agent.Blacklist

open EdgeSensor.Lib EdgeSensor.Py EdgeSensor.Agent

/-- The text functions, and how many containers within one another `json.dumps` can write. -/
structure FeedText extends SightingText where
  maxDepth : Nat
  three_le : 3 ≤ maxDepth

/-- The maps of the cache. -/
inductive IocKind where
  | ipv4
  | domain
  | hash
  deriving DecidableEq, Repr

/-- `IP_IOC_TYPES`, `DOMAIN_IOC_TYPE`, `HASH_IOC_TYPE`. -/
def IocKind.ofText (s : PyStr) : Option IocKind :=
  if s = lit "ipv4" ∨ s = lit "ip" then some .ipv4
  else if s = lit "domain" then some .domain
  else if s = lit "hash" then some .hash
  else none

/-- An entry of a map; `revoke` is always false in one. -/
structure IocEntry where
  itemId : PyStr
  confidence : Value
  expiresAt : PyStr

def IocEntry.toValue (entry : IocEntry) : Value :=
  .obj [
    (lit "item_id", .str entry.itemId),
    (lit "confidence", entry.confidence),
    (lit "expires_at", .str entry.expiresAt),
    (lit "revoke", .bool false)]

abbrev IocMaps := IocKind → Dict PyStr IocEntry

/-- `ipv4[value] = entry`, and the like. -/
def IocMaps.put (maps : IocMaps) (x : IocKind × PyStr × IocEntry) : IocMaps :=
  Function.update maps x.1 ((maps x.1).set x.2.1 x.2.2)

/-- `datetime.max`. -/
def maxDatetime : Int := 253402300799999999

section Build

variable (text : FeedText)

/-- `int(x or default)`. -/
def intOr (x : Value) (default : Int) : Except PyErr Int :=
  if x.truthy then intOf text.toSightingText x else .ok default

/-- `(now + timedelta(seconds=max(ttl_seconds, 60))).isoformat()`. -/
def expiresAt (now ttl : Int) : Except PyErr PyStr :=
  if maxDatetime < now + max ttl 60 * 1000000 then .error (.overflowError "date value out of range")
  else .ok (text.iso (now + max ttl 60 * 1000000))

/-- `str(item.get("value") or "").strip()`. -/
def valueOf (item : Value) : PyStr := PyStr.strip (strOrNone text.toSightingText (item.get "value"))

/-- The key of a value in its map. -/
def IocKind.key (value : PyStr) : IocKind → PyStr
  | .ipv4 => value
  | .domain => text.text.lower value
  | .hash => text.text.lower value

/-- One round of the loop over the items. -/
def addItem (now defaultTtl : Int) (maps : IocMaps) (item : Value) : Except PyErr IocMaps :=
  if !item.isObj then .ok maps
  else if (item.get "revoke").truthy then .ok maps
  else if valueOf text item = [] then .ok maps
  else do
    let ttl ← intOr text (item.get "ttl_seconds") defaultTtl
    let expires ← expiresAt text now ttl
    let entry : IocEntry :=
      ⟨strOrNone text.toSightingText (item.get "item_id"), item.get "confidence", expires⟩
    -- an item of another type is left out here, after its fields were read
    match IocKind.ofText (text.text.word (item.get "ioc_type")) with
    | none => .ok maps
    | some kind => .ok (maps.put (kind, kind.key text (valueOf text item), entry))

/-- `ioc-cache.json`. -/
structure IocCache where
  tenantId : PyStr
  artifactVersion : PyStr
  updatedAt : PyStr
  etag : PyStr
  maps : IocMaps

def IocCache.itemCount (cache : IocCache) : Nat :=
  (cache.maps .ipv4).length + (cache.maps .domain).length + (cache.maps .hash).length

def mapToValue (map : Dict PyStr IocEntry) : Value := .obj (map.map fun kv => (kv.1, kv.2.toValue))

def IocCache.toValue (cache : IocCache) : Value :=
  .obj [
    (lit "schema_version", .str (lit "1.0")),
    (lit "tenant_id", .str cache.tenantId),
    (lit "artifact_version", .str cache.artifactVersion),
    (lit "updated_at", .str cache.updatedAt),
    (lit "etag", .str cache.etag),
    (lit "ipv4", mapToValue (cache.maps .ipv4)),
    (lit "domain", mapToValue (cache.maps .domain)),
    (lit "hash", mapToValue (cache.maps .hash)),
    (lit "item_count", .int cache.itemCount)]

/-- `etag or str((artifact.get("manifest") or {}).get("sha256") or "")`. -/
def resolveEtag (artifact : Value) (etag : PyStr) : Except PyErr PyStr :=
  if etag ≠ [] then .ok etag
  else if (artifact.get "manifest").truthy then
    if (artifact.get "manifest").isObj then
      .ok (strOrNone text.toSightingText ((artifact.get "manifest").get "sha256"))
    else .error (.attributeError "object has no attribute 'get'")
  else .ok []

/-- `build_cache_from_artifact`. -/
def buildCache (artifact : Value) (tenantId etag : PyStr) (now : Int) : Except PyErr IocCache := do
  let defaultTtl ← intOr text (artifact.get "ttl_default_seconds") 86400
  let items ← (artifact.get "items").itemsOrNone
  let maps ← items.foldlM (addItem text now defaultTtl) fun _ => []
  let etag ← resolveEtag text artifact etag
  .ok {
    tenantId := if tenantId = [] then strOrNone text.toSightingText (artifact.get "tenant_id")
      else tenantId
    artifactVersion := strOrNone text.toSightingText (artifact.get "version")
    updatedAt := text.iso now
    etag := etag
    maps := maps }

/-! ## Applying an artifact -/

/-- `PolicySyncResult`. -/
structure PolicySyncResult where
  ok : Bool
  changed : Bool
  statusCode : Nat
  itemCount : Nat := 0
  artifactVersion : PyStr := []
  tenantId : PyStr := []
  error : Option String := none

/-- `PolicySync`, with the cache file and the stamp. -/
structure PolicySync where
  enabled : Bool := true
  cacheFile : Option IocCache := none
  stamp : Option PyStr := none
  lastEtag : PyStr := []

/-- `write_cache`: `json.dumps`, then UTF-8; nothing is replaced by what cannot be written. -/
def PolicySync.writeCache (s : PolicySync) (cache : IocCache) : Except PyErr PolicySync :=
  if text.maxDepth < cache.toValue.depth then
    .error (.recursionError "maximum recursion depth exceeded")
  else if cache.toValue.encodable then .ok { s with cacheFile := some cache }
  else .error (.unicodeEncodeError "surrogates not allowed")

/-- The cache was made from this artifact, by its etag and its version. -/
def IocCache.IsOf (existing : IocCache) (artifact : Value) (resolved : PyStr) : Prop :=
  resolved ≠ [] ∧ existing.etag = resolved
    ∧ existing.artifactVersion = strOrNone text.toSightingText (artifact.get "version")

instance (existing : IocCache) (artifact : Value) (resolved : PyStr) :
    Decidable (existing.IsOf text artifact resolved) := inferInstanceAs (Decidable (_ ∧ _ ∧ _))

/-- `apply_artifact`. -/
def PolicySync.applyArtifact (s : PolicySync) (artifact : Value) (tenantId etag : PyStr)
    (statusCode : Nat) (now : Int) : Except PyErr (PolicySync × PolicySyncResult) :=
  if s.enabled then do
    let resolved ← resolveEtag text artifact etag
    match s.cacheFile.filter fun existing => existing.IsOf text artifact resolved with
    | some existing =>
      .ok (s, { ok := true, changed := false, statusCode := statusCode, tenantId := tenantId,
                artifactVersion := existing.artifactVersion, itemCount := existing.itemCount })
    | none => do
      let cache ← buildCache text artifact tenantId resolved now
      let stored ← s.writeCache text cache
      .ok ({ stored with
              stamp := some cache.updatedAt
              lastEtag := if resolved ≠ [] then resolved else stored.lastEtag },
        { ok := true, changed := true, statusCode := statusCode, tenantId := tenantId,
          artifactVersion := cache.artifactVersion, itemCount := cache.itemCount })
  else
    .ok (s, { ok := true, changed := false, statusCode := statusCode,
              error := some "policy_sync_disabled" })

end Build

/-! ## What an artifact stands for -/

section Spec

variable (text : FeedText) (now : Int)

/-- The item is looked at: an object that is not revoked and has a value. -/
def Listed (item : Value) : Prop :=
  item.isObj = true ∧ (item.get "revoke").truthy = false ∧ valueOf text item ≠ []

instance (item : Value) : Decidable (Listed text item) := inferInstanceAs (Decidable (_ ∧ _ ∧ _))

/-- What a well-formed item stands for: its map, its key and its entry. It has one of the known
types, and a time to live that leads to a date. -/
def itemOf (defaultTtl : Int) (item : Value) : Option (IocKind × PyStr × IocEntry) :=
  if Listed text item then do
    let kind ← IocKind.ofText (text.text.word (item.get "ioc_type"))
    let ttl ← (intOr text (item.get "ttl_seconds") defaultTtl).toOption
    let expires ← (expiresAt text now ttl).toOption
    some (kind, kind.key text (valueOf text item),
      ⟨strOrNone text.toSightingText (item.get "item_id"), item.get "confidence", expires⟩)
  else none

/-- The last entry for a key. -/
def lastEntry (entries : List (IocKind × PyStr × IocEntry)) (kind : IocKind) (key : PyStr) :
    Option IocEntry :=
  ((entries.filter fun x => x.1 = kind ∧ x.2.1 = key).getLast?).map (·.2.2)

/-- The default time to live; one that is no number counts as absent. -/
def defaultTtl (artifact : Value) : Int :=
  (intOr text (artifact.get "ttl_default_seconds") 86400).toOption.getD 86400

/-- The items; what cannot be gone through has none. -/
def feedItems (artifact : Value) : List Value := (artifact.get "items").itemsOrNone.toOption.getD []

/-- The entry of an artifact for a key: that of the last well-formed item for it. -/
def expected (artifact : Value) (kind : IocKind) (key : PyStr) : Option IocEntry :=
  lastEntry ((feedItems artifact).filterMap (itemOf text now (defaultTtl text artifact))) kind key

/-- `apply_artifact` returns, and a cache that it stores has just what the artifact stands for. -/
def AppliesWellFormed (s : PolicySync) (artifact : Value) (tenantId etag : PyStr)
    (statusCode : Nat) : Prop :=
  ∃ stored result, s.applyArtifact text artifact tenantId etag statusCode now = .ok (stored, result)
    ∧ (result.changed = true → ∃ cache, stored.cacheFile = some cache
      ∧ ∀ kind key, (cache.maps kind).get? key = expected text now artifact kind key)

/-- The time to live of an item that is looked at is a number, and leads to a date. -/
def UsableTtl (defaultTtl : Int) (item : Value) : Prop :=
  Listed text item → ∃ ttl, intOr text (item.get "ttl_seconds") defaultTtl = .ok ttl
    ∧ now + max ttl 60 * 1000000 ≤ maxDatetime

/-- The fields of the artifact are what the loop takes them for. -/
structure ReadableFeed (artifact : Value) : Prop where
  default : ∃ n, intOr text (artifact.get "ttl_default_seconds") 86400 = .ok n
  items : ∃ items, (artifact.get "items").itemsOrNone = .ok items
  item : ∀ item ∈ feedItems artifact, UsableTtl text now (defaultTtl text artifact) item

/-- The texts that go into the cache can be encoded, and the confidences be printed. -/
structure WritableFeed (artifact : Value) (tenantId resolved : PyStr) : Prop where
  tenantId : PyStr.encodable (if tenantId = []
    then strOrNone text.toSightingText (artifact.get "tenant_id") else tenantId) = true
  version : PyStr.encodable (strOrNone text.toSightingText (artifact.get "version")) = true
  etag : PyStr.encodable resolved = true
  entry : ∀ kind key entry, expected text now artifact kind key = some entry →
    PyStr.encodable key = true ∧ PyStr.encodable entry.itemId = true
      ∧ entry.confidence.encodable = true ∧ entry.confidence.depth + 3 ≤ text.maxDepth

/-- The condition: nothing is to be done, or every field that is read is of a kind that the code
can read, and what is to be written can be written. -/
def WellBehaved (s : PolicySync) (artifact : Value) (tenantId etag : PyStr) : Prop :=
  s.enabled = false ∨ ∃ resolved, resolveEtag text artifact etag = .ok resolved
    ∧ ((∃ existing, s.cacheFile = some existing ∧ existing.IsOf text artifact resolved)
      ∨ ReadableFeed text now artifact ∧ WritableFeed text now artifact tenantId resolved)

end Spec

/-! ## The loop -/

section Loop

variable {text : FeedText} {now : Int} {ttl : Int} {maps : IocMaps} {item : Value}

theorem expiresAt_of_le (h : now + max ttl 60 * 1000000 ≤ maxDatetime) :
    expiresAt text now ttl = .ok (text.iso (now + max ttl 60 * 1000000)) :=
  if_neg (not_lt.mpr h)

theorem addItem_of_not_listed (h : ¬ Listed text item) :
    addItem text now ttl maps item = .ok maps := by
  unfold addItem
  by_cases hobj : item.isObj = true
  · by_cases hrevoke : (item.get "revoke").truthy = true
    · rw [hobj, if_neg (by decide), if_pos hrevoke]
    · have hvalue : valueOf text item = [] := by
        by_contra hvalue
        exact h ⟨hobj, Bool.eq_false_iff.mpr hrevoke, hvalue⟩
      rw [hobj, if_neg (by decide), if_neg hrevoke, if_pos hvalue]
  · rw [if_pos (by simp [hobj])]

/-- An item that can be used adds what it stands for. -/
theorem addItem_usable (h : UsableTtl text now ttl item) :
    addItem text now ttl maps item
      = .ok (((itemOf text now ttl item).elim maps maps.put)) := by
  unfold itemOf
  by_cases hlisted : Listed text item
  · obtain ⟨n, hn, hdate⟩ := h hlisted
    obtain ⟨hobj, hrevoke, hvalue⟩ := hlisted
    rw [if_pos ⟨hobj, hrevoke, hvalue⟩]
    unfold addItem
    rw [hobj, hrevoke, if_neg (by decide), if_neg Bool.false_ne_true, if_neg hvalue, hn]
    simp only [bind, Except.bind, expiresAt_of_le hdate, Except.toOption]
    cases IocKind.ofText (text.text.word (item.get "ioc_type")) with
    | none => rfl
    | some kind =>
      simp only [Option.bind, expiresAt_of_le hdate]
      rfl
  · rw [if_neg hlisted, addItem_of_not_listed hlisted]
    rfl

/-- Any other raises. -/
theorem addItem_unusable (h : ¬ UsableTtl text now ttl item) :
    ∃ e, addItem text now ttl maps item = .error e := by
  unfold UsableTtl at h
  rw [Classical.not_imp] at h
  obtain ⟨⟨hobj, hrevoke, hvalue⟩, hnone⟩ := h
  unfold addItem
  rw [hobj, hrevoke, if_neg (by decide), if_neg Bool.false_ne_true, if_neg hvalue]
  cases hn : intOr text (item.get "ttl_seconds") ttl with
  | error e => exact ⟨e, rfl⟩
  | ok n =>
    have hdate : maxDatetime < now + max n 60 * 1000000 :=
      not_le.mp fun hle => hnone ⟨n, hn, hle⟩
    refine ⟨.overflowError "date value out of range", ?_⟩
    simp only [bind, Except.bind, expiresAt, if_pos hdate]

/-- The loop over usable items puts in what they stand for, in order. -/
theorem foldlM_usable {items : List Value} (h : ∀ item ∈ items, UsableTtl text now ttl item) :
    items.foldlM (addItem text now ttl) maps
      = .ok ((items.filterMap (itemOf text now ttl)).foldl IocMaps.put maps) := by
  induction items generalizing maps with
  | nil => rfl
  | cons item items ih =>
    rw [List.foldlM_cons, addItem_usable (h item List.mem_cons_self)]
    have hrest := fun maps => @ih maps fun item hmem => h item (List.mem_cons_of_mem _ hmem)
    cases hitem : itemOf text now ttl item with
    | none =>
      rw [List.filterMap_cons_none hitem]
      exact hrest maps
    | some x =>
      rw [List.filterMap_cons_some hitem]
      exact hrest (maps.put x)

theorem foldlM_unusable {items : List Value} (h : ¬ ∀ item ∈ items, UsableTtl text now ttl item) :
    ∃ e, items.foldlM (addItem text now ttl) maps = .error e := by
  induction items generalizing maps with
  | nil => exact absurd (fun _ hmem => absurd hmem List.not_mem_nil) h
  | cons item items ih =>
    rw [List.foldlM_cons]
    by_cases hitem : UsableTtl text now ttl item
    · rw [addItem_usable hitem]
      refine ih fun hrest => h fun item' hmem => ?_
      rcases List.mem_cons.mp hmem with rfl | hmem
      · exact hitem
      · exact hrest item' hmem
    · obtain ⟨e, he⟩ := @addItem_unusable _ _ _ maps _ hitem
      rw [he]
      exact ⟨e, rfl⟩

theorem get?_put (x : IocKind × PyStr × IocEntry) (kind : IocKind) (key : PyStr) :
    ((maps.put x) kind).get? key
      = if x.1 = kind ∧ x.2.1 = key then some x.2.2 else (maps kind).get? key := by
  unfold IocMaps.put
  by_cases hkind : x.1 = kind
  · subst hkind
    rw [Function.update_self, Dict.get?_set]
    simp
  · rw [Function.update_of_ne (Ne.symm hkind), if_neg fun h => hkind h.1]

/-- Of the entries for a key the last stays. -/
theorem get?_foldl_put (entries : List (IocKind × PyStr × IocEntry)) (kind : IocKind)
    (key : PyStr) :
    ((entries.foldl IocMaps.put maps) kind).get? key
      = (lastEntry entries kind key).or ((maps kind).get? key) := by
  induction entries using List.reverseRecOn with
  | nil => rfl
  | append_singleton entries x ih =>
    rw [List.foldl_append, List.foldl_cons, List.foldl_nil, get?_put, ih]
    unfold lastEntry
    rw [List.filter_append]
    by_cases hx : x.1 = kind ∧ x.2.1 = key
    · simp [hx]
    · simp [hx]

theorem nodup_foldl_put (entries : List (IocKind × PyStr × IocEntry)) (kind : IocKind)
    (h : ∀ kind, ((maps kind).map (·.1)).Nodup) :
    (((entries.foldl IocMaps.put maps) kind).map (·.1)).Nodup := by
  induction entries generalizing maps with
  | nil => exact h kind
  | cons x entries ih =>
    refine @ih (maps.put x) fun kind' => ?_
    unfold IocMaps.put
    by_cases hkind : kind' = x.1
    · subst hkind
      rw [Function.update_self]
      exact Dict.nodup_set (h _) _ _
    · rw [Function.update_of_ne hkind]
      exact h kind'

end Loop

/-! ## What can be written -/

section Write

variable {text : FeedText} {cache : IocCache}

/-- An entry can be printed and encoded. -/
def PlainEntry (text : FeedText) (key : PyStr) (entry : IocEntry) : Prop :=
  PyStr.encodable key = true ∧ PyStr.encodable entry.itemId = true
    ∧ entry.confidence.encodable = true ∧ entry.confidence.depth + 3 ≤ text.maxDepth

theorem depth_entry (entry : IocEntry) : entry.toValue.depth = entry.confidence.depth + 1 := by
  simp [IocEntry.toValue, Value.depth, Value.depthFields]

theorem depth_mapToValue {map : Dict PyStr IocEntry} {n : Nat} :
    (mapToValue map).depth ≤ n + 2 ↔ ∀ kv ∈ map, kv.2.confidence.depth ≤ n := by
  unfold mapToValue
  rw [Value.depth_obj_le, List.forall_mem_map]
  exact forall₂_congr fun kv _ => by rw [depth_entry, Nat.add_le_add_iff_right]

theorem depth_cache {n : Nat} :
    cache.toValue.depth ≤ n + 3 ↔ ∀ kind, ∀ kv ∈ cache.maps kind, kv.2.confidence.depth ≤ n := by
  unfold IocCache.toValue
  rw [Value.depth_obj_le]
  simp only [List.forall_mem_cons, depth_mapToValue]
  constructor
  · rintro ⟨-, -, -, -, -, hipv4, hdomain, hhash, -⟩ kind
    cases kind with
    | ipv4 => exact hipv4
    | domain => exact hdomain
    | hash => exact hhash
  · intro h
    refine ⟨?_, ?_, ?_, ?_, ?_, h .ipv4, h .domain, h .hash, ?_,
      fun _ hmem => absurd hmem List.not_mem_nil⟩
    all_goals exact Nat.zero_le _

theorem encodable_mapToValue {map : Dict PyStr IocEntry}
    (hexpires : ∀ kv ∈ map, PyStr.encodable kv.2.expiresAt = true) :
    (mapToValue map).encodable = true ↔ ∀ kv ∈ map, PyStr.encodable kv.1 = true
      ∧ PyStr.encodable kv.2.itemId = true ∧ kv.2.confidence.encodable = true := by
  unfold mapToValue
  rw [Value.encodable, Value.encodableFields_iff, List.forall_mem_map]
  refine forall₂_congr fun kv hkv => and_congr_right fun _ => ?_
  simp only [IocEntry.toValue, Value.encodable, Value.encodableFields, encodable_lit,
    hexpires kv hkv, Bool.true_and, Bool.and_true, Bool.and_eq_true]

theorem encodable_cache (hupdated : PyStr.encodable cache.updatedAt = true)
    (hexpires : ∀ kind, ∀ kv ∈ cache.maps kind, PyStr.encodable kv.2.expiresAt = true) :
    cache.toValue.encodable = true ↔ PyStr.encodable cache.tenantId = true
      ∧ PyStr.encodable cache.artifactVersion = true ∧ PyStr.encodable cache.etag = true
      ∧ ∀ kind, ∀ kv ∈ cache.maps kind, PyStr.encodable kv.1 = true
        ∧ PyStr.encodable kv.2.itemId = true ∧ kv.2.confidence.encodable = true := by
  unfold IocCache.toValue
  simp only [Value.encodable, Value.encodableFields, encodable_lit, hupdated, Bool.true_and,
    Bool.and_true, Bool.and_eq_true, encodable_mapToValue (hexpires _)]
  constructor
  · rintro ⟨htenant, hversion, hetag, hipv4, hdomain, hhash⟩
    refine ⟨htenant, hversion, hetag, fun kind => ?_⟩
    cases kind with
    | ipv4 => exact hipv4
    | domain => exact hdomain
    | hash => exact hhash
  · rintro ⟨htenant, hversion, hetag, h⟩
    exact ⟨htenant, hversion, hetag, h .ipv4, h .domain, h .hash⟩

theorem encodable_iso (text : FeedText) (t : Int) : PyStr.encodable (text.iso t) = true :=
  (Bool.and_eq_true _ _ ▸ @plain_iso text.toSightingText t).1

/-- The file can be written if its texts can be, and those of every entry. -/
theorem writeCache_iff (s : PolicySync) (hupdated : PyStr.encodable cache.updatedAt = true)
    (hexpires : ∀ kind, ∀ kv ∈ cache.maps kind, PyStr.encodable kv.2.expiresAt = true) :
    s.writeCache text cache = .ok { s with cacheFile := some cache }
        ∧ PyStr.encodable cache.tenantId = true ∧ PyStr.encodable cache.artifactVersion = true
        ∧ PyStr.encodable cache.etag = true
        ∧ (∀ kind, ∀ kv ∈ cache.maps kind, PlainEntry text kv.1 kv.2)
      ∨ (∃ e, s.writeCache text cache = .error e)
        ∧ ¬ (PyStr.encodable cache.tenantId = true ∧ PyStr.encodable cache.artifactVersion = true
          ∧ PyStr.encodable cache.etag = true
          ∧ ∀ kind, ∀ kv ∈ cache.maps kind, PlainEntry text kv.1 kv.2) := by
  obtain ⟨n, hn⟩ := Nat.exists_eq_add_of_le' text.three_le
  have hdeep := @depth_cache cache n
  have henc := encodable_cache hupdated hexpires
  unfold PolicySync.writeCache PlainEntry
  rw [hn]
  by_cases hdepth : n + 3 < cache.toValue.depth
  · rw [if_pos hdepth]
    refine .inr ⟨⟨_, rfl⟩, fun ⟨_, _, _, hentry⟩ => not_le.mpr hdepth (hdeep.mpr ?_)⟩
    intro kind kv hkv
    exact Nat.le_of_add_le_add_right (hentry kind kv hkv).2.2.2
  · rw [if_neg hdepth]
    have hall := hdeep.mp (not_lt.mp hdepth)
    by_cases hencodable : cache.toValue.encodable = true
    · rw [if_pos hencodable]
      obtain ⟨htenant, hversion, hetag, hentry⟩ := henc.mp hencodable
      refine .inl ⟨rfl, htenant, hversion, hetag, fun kind kv hkv => ?_⟩
      obtain ⟨hkey, hid, hconfidence⟩ := hentry kind kv hkv
      exact ⟨hkey, hid, hconfidence, Nat.add_le_add_right (hall kind kv hkv) 3⟩
    · rw [if_neg hencodable]
      refine .inr ⟨⟨_, rfl⟩, fun ⟨htenant, hversion, hetag, hentry⟩ => hencodable (henc.mpr ?_)⟩
      refine ⟨htenant, hversion, hetag, fun kind kv hkv => ?_⟩
      obtain ⟨hkey, hid, hconfidence, _⟩ := hentry kind kv hkv
      exact ⟨hkey, hid, hconfidence⟩

end Write

/-! ## Every artifact -/

section Apply

variable {text : FeedText} {now : Int} {artifact : Value}

/-- The maps that the entries of an artifact lead to. -/
def feedMaps (text : FeedText) (now : Int) (artifact : Value) : IocMaps :=
  ((feedItems artifact).filterMap (itemOf text now (defaultTtl text artifact))).foldl IocMaps.put
    fun _ => []

theorem get?_feedMaps (kind : IocKind) (key : PyStr) :
    (feedMaps text now artifact kind).get? key = expected text now artifact kind key := by
  unfold feedMaps
  rw [get?_foldl_put, Dict.get?_nil, Option.or_none]
  rfl

theorem forall_mem_feedMaps {P : PyStr → IocEntry → Prop} :
    (∀ kind, ∀ kv ∈ feedMaps text now artifact kind, P kv.1 kv.2)
      ↔ ∀ kind key entry, expected text now artifact kind key = some entry → P key entry := by
  have hnodup (kind) : ((feedMaps text now artifact kind).map (·.1)).Nodup :=
    nodup_foldl_put _ kind fun _ => List.nodup_nil
  constructor
  · intro h kind key entry hentry
    rw [← get?_feedMaps] at hentry
    exact h kind (key, entry) (Dict.mem_of_get? hentry)
  · intro h kind kv hkv
    refine h kind kv.1 kv.2 ?_
    rw [← get?_feedMaps]
    exact Dict.get?_of_mem (hnodup kind) hkv

theorem expiresAt_itemOf {ttl : Int} {item : Value} {x : IocKind × PyStr × IocEntry}
    (h : itemOf text now ttl item = some x) : ∃ t, x.2.2.expiresAt = text.iso t := by
  unfold itemOf at h
  split at h
  · obtain ⟨kind, -, h⟩ := Option.bind_eq_some_iff.mp h
    obtain ⟨n, -, h⟩ := Option.bind_eq_some_iff.mp h
    obtain ⟨expires, hexpires, h⟩ := Option.bind_eq_some_iff.mp h
    rw [← Option.some.inj h]
    unfold expiresAt at hexpires
    split at hexpires
    · exact absurd hexpires nofun
    · exact ⟨_, (Option.some.inj hexpires).symm⟩
  · exact absurd h nofun

theorem expiresAt_expected {kind : IocKind} {key : PyStr} {entry : IocEntry}
    (h : expected text now artifact kind key = some entry) :
    PyStr.encodable entry.expiresAt = true := by
  obtain ⟨x, hlast, rfl⟩ := Option.map_eq_some_iff.mp h
  obtain ⟨item, -, hitem⟩ :=
    List.mem_filterMap.mp (List.mem_filter.mp (List.mem_of_getLast? hlast)).1
  obtain ⟨t, ht⟩ := expiresAt_itemOf hitem
  rw [ht]
  exact encodable_iso text t

/-- An etag that was resolved stays as it is. -/
theorem resolveEtag_resolved {etag resolved : PyStr}
    (h : resolveEtag text artifact etag = .ok resolved) :
    resolveEtag text artifact resolved = .ok resolved := by
  by_cases hnil : resolved = []
  · unfold resolveEtag at h
    split at h
    · next hetag => exact absurd ((Except.ok.inj h).trans hnil) hetag
    · next hetag =>
      subst hnil
      unfold resolveEtag
      rw [if_neg (not_not.mpr rfl)]
      exact h
  · exact if_pos hnil

theorem defaultTtl_of_ok {n : Int}
    (h : intOr text (artifact.get "ttl_default_seconds") 86400 = .ok n) :
    defaultTtl text artifact = n := by
  unfold defaultTtl
  rw [h]
  rfl

theorem feedItems_of_ok {items : List Value} (h : (artifact.get "items").itemsOrNone = .ok items) :
    feedItems artifact = items := by
  unfold feedItems
  rw [h]
  rfl

/-- The cache of an artifact whose fields can be read. -/
def cacheOf (text : FeedText) (now : Int) (artifact : Value) (tenantId resolved : PyStr) :
    IocCache where
  tenantId := if tenantId = [] then strOrNone text.toSightingText (artifact.get "tenant_id")
    else tenantId
  artifactVersion := strOrNone text.toSightingText (artifact.get "version")
  updatedAt := text.iso now
  etag := resolved
  maps := feedMaps text now artifact

theorem buildCache_readable {etag resolved : PyStr} (tenantId : PyStr)
    (hetag : resolveEtag text artifact etag = .ok resolved) (h : ReadableFeed text now artifact) :
    buildCache text artifact tenantId resolved now
      = .ok (cacheOf text now artifact tenantId resolved) := by
  obtain ⟨⟨n, hn⟩, ⟨items, hitems⟩, hitem⟩ := h
  rw [defaultTtl_of_ok hn, feedItems_of_ok hitems] at hitem
  unfold buildCache cacheOf feedMaps
  rw [hn, hitems, resolveEtag_resolved hetag, defaultTtl_of_ok hn, feedItems_of_ok hitems]
  simp only [bind, Except.bind, foldlM_usable hitem]

theorem buildCache_unreadable (tenantId resolved : PyStr) (h : ¬ ReadableFeed text now artifact) :
    ∃ e, buildCache text artifact tenantId resolved now = .error e := by
  unfold buildCache
  cases hn : intOr text (artifact.get "ttl_default_seconds") 86400 with
  | error e => exact ⟨e, rfl⟩
  | ok n =>
    cases hitems : (artifact.get "items").itemsOrNone with
    | error e => exact ⟨e, rfl⟩
    | ok items =>
      obtain ⟨e, he⟩ := @foldlM_unusable text now n (fun _ => []) items fun hall =>
        h ⟨⟨n, hn⟩, ⟨items, hitems⟩, feedItems_of_ok hitems ▸ defaultTtl_of_ok hn ▸ hall⟩
      refine ⟨e, ?_⟩
      simp only [bind, Except.bind, he]

/-- A cache that was made is either stored, or not to be written. -/
theorem writeCache_cacheOf (text : FeedText) (now : Int) (artifact : Value) (s : PolicySync)
    (tenantId resolved : PyStr) :
    (s.writeCache text (cacheOf text now artifact tenantId resolved)
          = .ok { s with cacheFile := some (cacheOf text now artifact tenantId resolved) }
        ∧ WritableFeed text now artifact tenantId resolved)
      ∨ (∃ e, s.writeCache text (cacheOf text now artifact tenantId resolved) = .error e)
        ∧ ¬ WritableFeed text now artifact tenantId resolved := by
  have hexpires : ∀ kind, ∀ kv ∈ (cacheOf text now artifact tenantId resolved).maps kind,
      PyStr.encodable kv.2.expiresAt = true :=
    forall_mem_feedMaps.mpr fun _ _ _ => expiresAt_expected
  have hentry := @forall_mem_feedMaps text now artifact (PlainEntry text)
  rcases writeCache_iff s (encodable_iso text now) hexpires with
    ⟨hok, htenant, hversion, hetag, hall⟩ | ⟨herror, hnot⟩
  · exact .inl ⟨hok, htenant, hversion, hetag, hentry.mp hall⟩
  · refine .inr ⟨herror, fun ⟨htenant, hversion, hetag, hall⟩ => hnot ?_⟩
    exact ⟨htenant, hversion, hetag, hentry.mpr hall⟩

/-- An artifact is applied, with just the well-formed items of it in the cache, if every field is
of a kind that the code can read and write; any other raises. -/
theorem apply_isolated_iff (text : FeedText) (now : Int) (s : PolicySync) (artifact : Value)
    (tenantId etag : PyStr) (statusCode : Nat) :
    AppliesWellFormed text now s artifact tenantId etag statusCode
      ↔ WellBehaved text now s artifact tenantId etag := by
  unfold AppliesWellFormed WellBehaved PolicySync.applyArtifact
  by_cases henabled : s.enabled = true
  · rw [if_pos henabled]
    simp only [henabled, Bool.true_eq_false, false_or]
    cases hetag : resolveEtag text artifact etag with
    | error e => simp [bind, Except.bind]
    | ok resolved =>
      simp only [bind, Except.bind, Except.ok.injEq, exists_eq_left']
      cases hfile : s.cacheFile.filter fun existing => existing.IsOf text artifact resolved with
      | some existing =>
        obtain ⟨hexisting, hsame⟩ := Option.filter_eq_some_iff.mp hfile
        refine iff_of_true ⟨_, _, rfl, fun happlied => ?_⟩
          (.inl ⟨existing, hexisting, of_decide_eq_true hsame⟩)
        cases happlied
      | none =>
        have hfresh : ¬ ∃ existing, s.cacheFile = some existing
            ∧ existing.IsOf text artifact resolved := by
          rintro ⟨existing, hexisting, hsame⟩
          rw [hexisting, Option.filter_some, if_pos (decide_eq_true hsame)] at hfile
          cases hfile
        rw [or_iff_right hfresh]
        by_cases hreadable : ReadableFeed text now artifact
        · simp only [buildCache_readable tenantId hetag hreadable]
          rcases writeCache_cacheOf text now artifact s tenantId resolved with
            ⟨hok, hwritable⟩ | ⟨⟨e, he⟩, hnot⟩
          · simp only [hok]
            refine iff_of_true ⟨_, _, rfl, fun _ => ⟨_, rfl, get?_feedMaps⟩⟩ ⟨hreadable, hwritable⟩
          · simp only [he]
            refine iff_of_false ?_ fun h => hnot h.2
            rintro ⟨_, _, herror, -⟩
            cases herror
        · obtain ⟨e, he⟩ := buildCache_unreadable tenantId resolved hreadable
          simp only [he]
          refine iff_of_false ?_ fun h => hreadable h.1
          rintro ⟨_, _, herror, -⟩
          cases herror
  · rw [if_neg henabled]
    refine iff_of_true ⟨_, _, rfl, fun happlied => ?_⟩ (.inl (Bool.eq_false_iff.mpr henabled))
    cases happlied

end Apply

/-- The second of two items has its time to live as a text, and the first is not applied. -/
def sampleFeed : Value :=
  .obj [(lit "version", .str (lit "7")), (lit "items", .arr [
    .obj [(lit "ioc_type", .str (lit "ip")), (lit "value", .str (lit "203.0.113.9"))],
    .obj [(lit "ioc_type", .str (lit "ip")), (lit "value", .str (lit "203.0.113.10")),
      (lit "ttl_seconds", .str (lit "1h"))]])]

def sampleFeedText : FeedText := { sampleSightingText with maxDepth := 900, three_le := by decide }

theorem item_spoils_feed :
    ¬ AppliesWellFormed sampleFeedText 0 {} sampleFeed (lit "t1") [] 200
      ∧ expected sampleFeedText 0 sampleFeed .ipv4 (lit "203.0.113.9") ≠ none := by
  have herror : (PolicySync.applyArtifact sampleFeedText {} sampleFeed (lit "t1") [] 200
      0).toOption.isNone = true := by decide +kernel
  refine ⟨?_, ?_⟩
  · rintro ⟨stored, result, hok, -⟩
    rw [hok] at herror
    exact absurd herror Bool.false_ne_true
  · have hsome : (expected sampleFeedText 0 sampleFeed .ipv4 (lit "203.0.113.9")).isSome
        = true := by decide +kernel
    exact Option.isSome_iff_ne_none.mp hsome

end EdgeSensor.Agent.Blacklist
