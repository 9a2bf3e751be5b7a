import EdgeSensor.Py.Value

/-!
# Managed lists on the agent

`src/policy/listfile_sync.py`: an artifact of black and white lists becomes a cache with
two buckets for each kind of entry, `deny` and `allow`. A list whose kind is unknown is
left out; a list whose type is not `blacklist`, whatever it is, goes to `allow`
(`mem_allow_iff`).

Mirroring notes:
- The artifact is anybody's JSON. Where the code goes through something that cannot be
  gone through, it raises, and so does `buildCacheFromArtifact`.
- The cache file is written with what `json.dumps` makes of the cache and read back with
  `json.loads`; it is kept as the object. A text with half a surrogate pair cannot be
  encoded, and then nothing is written.
- The existing cache is one that this class wrote, or none.
-/

namespace EdgeSensor.Agent

open EdgeSensor.Lib EdgeSensor.Py

/-- `ENTRY_KINDS`. -/
inductive EntryKind where
  | ip
  | cidr
  | domain
  | hash
  deriving DecidableEq, Repr

def EntryKind.name : EntryKind → String
  | .ip => "ip"
  | .cidr => "cidr"
  | .domain => "domain"
  | .hash => "hash"

def EntryKind.all : List EntryKind := [.ip, .cidr, .domain, .hash]

/-- `kind in ENTRY_KINDS`. -/
def EntryKind.ofText (s : PyStr) : Option EntryKind := EntryKind.all.find? fun kind => lit kind.name = s

/-- `{k: [] for k in ENTRY_KINDS}`, filled. -/
abbrev Buckets := EntryKind → List PyStr

def Buckets.empty : Buckets := fun _ => []

/-- `bucket[kind].append(value)` for each value. -/
def Buckets.append (b : Buckets) (kind : EntryKind) (values : List PyStr) : Buckets :=
  fun k => if k = kind then b k ++ values else b k

/-- The bucket, each kind without repetitions. -/
def Buckets.dedup (b : Buckets) : Buckets := fun k => (b k).eraseDups

def Buckets.toValue (b : Buckets) : Value :=
  .obj (EntryKind.all.map fun kind => (lit kind.name, .arr ((b kind).map .str)))

def Buckets.count (b : Buckets) : Nat := (EntryKind.all.map fun kind => (b kind).length).sum

/-- The two buckets while they are filled. -/
structure Split where
  deny : Buckets := Buckets.empty
  allow : Buckets := Buckets.empty

section Build

variable (text : Value.Text)

/-- The kind of a list, if it is one of the four. -/
def listKind (lst : Value) : Option EntryKind := EntryKind.ofText (text.word (lst.get "entry_kind"))

/-- `str(lst.get("list_type") or "").strip().lower() == …`. -/
def hasListType (name : String) (lst : Value) : Bool := text.word (lst.get "list_type") == lit name

/-- The entries of a list, trimmed, the empty ones left out. -/
def listValues (lst : Value) : Except PyErr (List PyStr) :=
  (lst.get "entries").itemsOrNone.map fun entries =>
    (entries.map fun entry => PyStr.strip (text.str entry)).filter (· ≠ [])

/-- One round of the loop over the lists. -/
def addList (split : Split) (lst : Value) : Except PyErr Split :=
  if !lst.isObj then .ok split
  else
    match listKind text lst with
    | none => .ok split
    | some kind =>
      (listValues text lst).map fun values =>
        if hasListType text "blacklist" lst then
          { split with deny := split.deny.append kind values }
        else { split with allow := split.allow.append kind values }

/-- The loop. -/
def splitLists (artifact : Value) : Except PyErr Split := do
  let lists ← (artifact.get "lists").itemsOrNone
  lists.foldlM (addList text) {}

end Build

/-- `managed-listfiles.json`. -/
structure ManagedCache where
  tenantId : PyStr
  artifactVersion : PyStr
  updatedAt : PyStr
  etag : PyStr
  deny : Buckets
  allow : Buckets
  itemCount : Nat

def ManagedCache.toValue (cache : ManagedCache) : Value :=
  .obj [
    (lit "schema_version", .str (lit "ot_managed_listfile.v1")),
    (lit "tenant_id", .str cache.tenantId),
    (lit "artifact_version", .str cache.artifactVersion),
    (lit "updated_at", .str cache.updatedAt),
    (lit "etag", .str cache.etag),
    (lit "deny", cache.deny.toValue),
    (lit "allow", cache.allow.toValue),
    (lit "item_count", .int cache.itemCount)]

/-- `str(x or "")`. -/
def strOrEmpty (text : Value.Text) (x : Value) : PyStr := if x.truthy then text.str x else []

/-- `build_cache_from_artifact`. -/
def buildCacheFromArtifact (text : Value.Text) (artifact : Value) (tenantId etag now : PyStr) :
    Except PyErr ManagedCache :=
  (splitLists text artifact).map fun split =>
    { tenantId := if tenantId = [] then strOrEmpty text (artifact.get "tenant_id") else tenantId
      artifactVersion := strOrEmpty text (artifact.get "version")
      updatedAt := now
      etag := etag
      deny := split.deny.dedup
      allow := split.allow.dedup
      itemCount := split.deny.dedup.count + split.allow.dedup.count }

/-! ## Applying an artifact -/

/-- `ListfileSyncResult`. -/
structure ListfileSyncResult where
  ok : Bool
  changed : Bool
  statusCode : Nat := 0
  itemCount : Nat := 0
  artifactVersion : PyStr := []
  tenantId : PyStr := []
  error : Option String := none

/-- `ListfileSync`, and the cache file. -/
structure ListfileSync where
  enabled : Bool := true
  cacheFile : Option ManagedCache := none

/-- `_write_cache`: nothing is replaced by what cannot be written. -/
def ListfileSync.writeCache (s : ListfileSync) (cache : ManagedCache) : Except PyErr ListfileSync :=
  if cache.toValue.encodable then .ok { s with cacheFile := some cache }
  else .error (.unicodeEncodeError "surrogates not allowed")

/-- `apply_artifact` from the resolved etag on: nothing to do for the artifact in place. -/
def ListfileSync.applyResolved (s : ListfileSync) (text : Value.Text) (artifact : Value)
    (tenantId resolved now : PyStr) (statusCode : Nat) :
    Except PyErr (ListfileSync × ListfileSyncResult) :=
  match s.cacheFile.filter fun existing =>
      existing.etag = resolved
        ∧ existing.artifactVersion = strOrEmpty text (artifact.get "version") with
  | some existing =>
    .ok (s, { ok := true, changed := false, statusCode := statusCode, tenantId := tenantId,
              artifactVersion := existing.artifactVersion, itemCount := existing.itemCount })
  | none => do
    let cache ← buildCacheFromArtifact text artifact tenantId resolved now
    let stored ← s.writeCache cache
    .ok (stored, { ok := true, changed := true, statusCode := statusCode,
                   itemCount := cache.itemCount, artifactVersion := cache.artifactVersion,
                   tenantId := tenantId })

/-- `apply_artifact`; `digest` is the hash of the artifact's text, `now` the clock. -/
def ListfileSync.applyArtifact (s : ListfileSync) (text : Value.Text) (artifact : Value)
    (tenantId etag : PyStr) (digest : Except PyErr PyStr) (now : PyStr) (statusCode : Nat) :
    Except PyErr (ListfileSync × ListfileSyncResult) :=
  if s.enabled then
    (if etag = [] then digest else .ok etag).bind fun resolved =>
      s.applyResolved text artifact tenantId resolved now statusCode
  else
    .ok (s, { ok := true, changed := false, statusCode := statusCode,
              error := some "listfile_disabled" })

/-! ## What ends up in the buckets -/

section Buckets

variable {text : Value.Text} {kind : EntryKind} {v : PyStr}

theorem mem_append {b : Buckets} {k : EntryKind} {values : List PyStr} :
    v ∈ b.append k values kind ↔ v ∈ b kind ∨ (k = kind ∧ v ∈ values) := by
  unfold Buckets.append
  by_cases hk : kind = k
  · rw [if_pos hk, List.mem_append]
    exact or_congr_right ⟨fun h => ⟨hk.symm, h⟩, fun h => h.2⟩
  · rw [if_neg hk]
    exact ⟨.inl, fun h => h.resolve_right fun h => hk h.1.symm⟩

/-- A list has the value among its entries of this kind. -/
def Lists (text : Value.Text) (kind : EntryKind) (v : PyStr) (lst : Value) : Prop :=
  lst.isObj = true ∧ listKind text lst = some kind ∧ ∃ values, listValues text lst = .ok values ∧ v ∈ values

/-- One round puts the entries of a list in the bucket that is not `deny` unless its type
is `blacklist`. -/
theorem mem_allow_addList {split split' : Split} {lst : Value}
    (h : addList text split lst = .ok split') :
    v ∈ split'.allow kind
      ↔ v ∈ split.allow kind ∨ (Lists text kind v lst ∧ hasListType text "blacklist" lst = false) := by
  unfold addList at h
  unfold Lists
  cases hobj : lst.isObj with
  | false =>
    rw [hobj] at h
    cases h
    exact ⟨.inl, fun h => h.resolve_right fun h => Bool.false_ne_true h.1.1⟩
  | true =>
    simp only [hobj, Bool.not_true, Bool.false_eq_true, if_false] at h
    cases hkind : listKind text lst with
    | none =>
      rw [hkind] at h
      cases h
      exact ⟨.inl, fun h => h.resolve_right fun h => by cases h.1.2.1⟩
    | some k =>
      rw [hkind] at h
      cases hvalues : listValues text lst with
      | error e =>
        rw [hvalues] at h
        cases h
      | ok values =>
        rw [hvalues] at h
        cases htype : hasListType text "blacklist" lst with
        | true =>
          simp only [Except.map, htype, if_true] at h
          cases h
          exact ⟨.inl, fun h => h.resolve_right fun h => by cases h.2⟩
        | false =>
          simp only [Except.map, htype, Bool.false_eq_true, if_false] at h
          cases h
          show v ∈ split.allow.append k values kind ↔ _
          rw [mem_append]
          refine or_congr_right ⟨fun h => ⟨⟨rfl, congrArg some h.1, values, rfl, h.2⟩, rfl⟩, ?_⟩
          intro ⟨⟨_, hk, values', hvalues', hv⟩, _⟩
          cases hvalues'
          exact ⟨Option.some.inj hk, hv⟩

theorem mem_allow_foldlM {lists : List Value} {split split' : Split}
    (h : lists.foldlM (addList text) split = .ok split') :
    v ∈ split'.allow kind
      ↔ v ∈ split.allow kind
        ∨ ∃ lst ∈ lists, Lists text kind v lst ∧ hasListType text "blacklist" lst = false := by
  induction lists generalizing split with
  | nil =>
    cases h
    exact ⟨.inl, fun h => h.resolve_right fun ⟨_, hmem, _⟩ => List.not_mem_nil hmem⟩
  | cons lst lists ih =>
    rw [List.foldlM_cons] at h
    cases hstep : addList text split lst with
    | error e =>
      rw [hstep] at h
      cases h
    | ok next =>
      rw [hstep] at h
      rw [ih h, mem_allow_addList hstep, or_assoc, List.exists_mem_cons_iff]

/-- **What the `allow` bucket holds**: the entries of this kind of every list that is not
a blacklist. -/
theorem mem_allow_iff {artifact : Value} {tenantId etag now : PyStr} {cache : ManagedCache}
    (h : buildCacheFromArtifact text artifact tenantId etag now = .ok cache) :
    v ∈ cache.allow kind
      ↔ ∃ lists, (artifact.get "lists").itemsOrNone = .ok lists
        ∧ ∃ lst ∈ lists, Lists text kind v lst ∧ hasListType text "blacklist" lst = false := by
  unfold buildCacheFromArtifact splitLists at h
  obtain ⟨split, h, hcache⟩ := map_eq_ok.mp h
  obtain ⟨lists, hlists, hsplit⟩ := bind_eq_ok.mp h
  rw [← hcache]
  show v ∈ (split.allow kind).eraseDups ↔ _
  rw [List.mem_eraseDups, mem_allow_foldlM hsplit]
  constructor
  · intro h
    exact ⟨lists, hlists, h.resolve_left List.not_mem_nil⟩
  · intro ⟨lists', heq, h⟩
    cases hlists.symm.trans heq
    exact .inr h

end Buckets

end EdgeSensor.Agent
