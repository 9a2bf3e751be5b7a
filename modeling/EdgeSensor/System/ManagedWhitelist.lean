import EdgeSensor.Agent.ListfileSync
import EdgeSensor.Sensor.ManagedListfile

/-!
# The managed whitelist from end to end

An artifact of lists goes through three hands: the agent's builder, the cache file, the
enforcer (of either process). What comes out is `isIpWhitelisted_iff_listed`: an address
is whitelisted exactly if a list matches it that is not a blacklist.

That is not what a whitelist is. A list whose type is missing or misspelled is none, and
its entries are let through all the same (`misspelled_type_whitelists`).
`managed_whitelist_iff` says for which addresses this makes no difference.
-/

namespace EdgeSensor.System

open EdgeSensor.Lib EdgeSensor.Py EdgeSensor.Agent EdgeSensor.Sensor

/-- The text of an address, without white space around it. -/
def IpLiteral (ip : PyStr) : Prop := PyStr.strip ip = ip ∧ (ipAddress ip).isSome

/-- The list names the address, or a network that contains it. Entries count trimmed. -/
def MatchesIp (text : Value.Text) (ip : PyStr) (lst : Value) : Prop :=
  Lists text .ip ip lst
    ∨ ∃ entry, Lists text .cidr entry lst ∧ ∃ net ∈ ipNetwork entry, ∃ addr ∈ ipAddress ip,
      net.contains addr = true

/-- Some list of the artifact that satisfies `p` matches the address. -/
def MatchedBy (text : Value.Text) (artifact : Value) (ip : PyStr) (p : Value → Prop) : Prop :=
  ∃ lists, (artifact.get "lists").itemsOrNone = .ok lists ∧ ∃ lst ∈ lists, p lst ∧ MatchesIp text ip lst

/-- A list whose type is `whitelist`. -/
def IsWhitelist (text : Value.Text) (lst : Value) : Prop := hasListType text "whitelist" lst = true

/-- A list whose type is neither. -/
def IsNeither (text : Value.Text) (lst : Value) : Prop :=
  hasListType text "whitelist" lst = false ∧ hasListType text "blacklist" lst = false

/-! ## Through the file -/

section File

variable {text : Value.Text}

/-- The entries of a list are stripped, and none is empty. -/
theorem listed_strip {kind : EntryKind} {v : PyStr} {lst : Value} (h : Lists text kind v lst) :
    PyStr.strip v = v ∧ v ≠ [] := by
  obtain ⟨-, -, values, hvalues, hv⟩ := h
  unfold listValues at hvalues
  cases hitems : (lst.get "entries").itemsOrNone with
  | error e =>
    rw [hitems] at hvalues
    cases hvalues
  | ok entries =>
    rw [hitems] at hvalues
    cases hvalues
    obtain ⟨hmem, hne⟩ := List.mem_filter.mp hv
    obtain ⟨entry, -, rfl⟩ := List.mem_map.mp hmem
    exact ⟨strip_strip _, of_decide_eq_true hne⟩

theorem get_toValue (b : Buckets) (kind : EntryKind) :
    b.toValue.get kind.name = .arr ((b kind).map .str) := by
  cases kind <;> rfl

theorem get_allow (cache : ManagedCache) : cache.toValue.get "allow" = cache.allow.toValue := rfl

/-- What the enforcer reads of a kind is what the bucket holds of it. -/
theorem allowed_toValue (b : Buckets) (kind : EntryKind) :
    ∃ values, ManagedListfileEnforcer.allowed text b.toValue kind.name = .ok values
      ∧ (∀ v ∈ values, PyStr.strip v = v ∧ v ≠ [])
      ∧ ∀ v, PyStr.strip v = v → v ≠ [] → (∀ w ∈ b kind, PyStr.strip w = w) →
        (v ∈ values ↔ v ∈ b kind) := by
  unfold ManagedListfileEnforcer.allowed
  rw [get_toValue, Value.itemsOrNone_arr]
  refine ⟨_, rfl, fun v hv => ?_, fun v hstrip hne hall => ?_⟩
  · obtain ⟨hmem, hne⟩ := List.mem_filter.mp hv
    obtain ⟨item, -, rfl⟩ := List.mem_map.mp hmem
    exact ⟨strip_strip _, of_decide_eq_true hne⟩
  rw [List.mem_filter, List.map_map, List.mem_map]
  constructor
  · intro ⟨⟨w, hw, heq⟩, _⟩
    have hvw : w = v := (hall w hw).symm.trans heq
    rw [← hvw]
    exact hw
  · intro hv
    exact ⟨⟨v, hv, hstrip⟩, decide_eq_true hne⟩

/-- The enforcer can read every cache. -/
theorem load_cache (e : ManagedListfileEnforcer) (cache : ManagedCache) :
    ∃ e', e.load text (some cache.toValue) = .ok e' := by
  obtain ⟨ips, hips, -⟩ := @allowed_toValue text cache.allow .ip
  obtain ⟨cidrs, hcidrs, -⟩ := @allowed_toValue text cache.allow .cidr
  obtain ⟨domains, hdomains, -⟩ := @allowed_toValue text cache.allow .domain
  obtain ⟨hashes, hhashes, -⟩ := @allowed_toValue text cache.allow .hash
  have hobj : cache.toValue.isObj = true := rfl
  have hallow : cache.allow.toValue.isObj = true := rfl
  unfold ManagedListfileEnforcer.load
  simp only [Option.filter_some, hobj, if_true, get_allow, hallow]
  rw [show "ip" = EntryKind.ip.name from rfl, show "cidr" = EntryKind.cidr.name from rfl,
    show "domain" = EntryKind.domain.name from rfl, show "hash" = EntryKind.hash.name from rfl,
    hips, hcidrs, hdomains, hhashes]
  exact ⟨_, rfl⟩

end File

/-! ## End to end -/

section EndToEnd

variable {text : Value.Text} {artifact : Value} {cache : ManagedCache}

/-- **What is whitelisted**: the addresses that a list matches which is not a blacklist. -/
theorem isIpWhitelisted_iff_listed {tenantId etag now : PyStr}
    (hbuild : buildCacheFromArtifact text artifact tenantId etag now = .ok cache)
    {e e' : ManagedListfileEnforcer} (hload : e.load text (some cache.toValue) = .ok e') {ip : PyStr}
    (hip : IpLiteral ip) :
    e'.isIpWhitelisted (some ip) = true
      ↔ MatchedBy text artifact ip fun lst => hasListType text "blacklist" lst = false := by
  have hne : ip ≠ [] := by
    rintro rfl
    have hsome := hip.2
    revert hsome
    decide
  have hbucket : ∀ kind w, w ∈ cache.allow kind → PyStr.strip w = w ∧ w ≠ [] := by
    intro kind w hw
    obtain ⟨_, -, lst, -, hlists, -⟩ := (mem_allow_iff hbuild).mp hw
    exact listed_strip hlists
  obtain ⟨hips, cidrs, hcidrs, hnets⟩ := ManagedListfileEnforcer.load_obj rfl rfl hload
  obtain ⟨ips, hips', -, hipMem⟩ := @allowed_toValue text cache.allow .ip
  obtain ⟨cidrs', hcidrs', hstripped, hcidrMem⟩ := @allowed_toValue text cache.allow .cidr
  have hipsEq : e'.allowIps = ips := Except.ok.inj (hips.symm.trans hips')
  have hcidrsEq : cidrs = cidrs' := Except.ok.inj (hcidrs.symm.trans hcidrs')
  have hnamed : ip ∈ e'.allowIps ↔ ip ∈ cache.allow .ip := by
    rw [hipsEq]
    exact hipMem ip hip.1 hne fun w hw => (hbucket _ w hw).1
  have hcontained : ∀ net, net ∈ e'.allowCidrs
      ↔ ∃ entry ∈ cache.allow .cidr, ipNetwork entry = some net := by
    intro net
    rw [hnets, hcidrsEq, List.mem_filterMap]
    constructor
    · intro ⟨entry, hentry, hnet⟩
      obtain ⟨hstrip, hne'⟩ := hstripped entry hentry
      exact ⟨entry, (hcidrMem entry hstrip hne' fun w hw => (hbucket _ w hw).1).mp hentry, hnet⟩
    · intro ⟨entry, hentry, hnet⟩
      obtain ⟨hstrip, hne'⟩ := hbucket _ entry hentry
      exact ⟨entry, (hcidrMem entry hstrip hne' fun w hw => (hbucket _ w hw).1).mpr hentry, hnet⟩
  rw [ManagedListfileEnforcer.isIpWhitelisted_iff (by rw [hip.1]; exact hne), hip.1, hnamed]
  constructor
  · intro h
    rcases h with h | ⟨net, hnet, addr, haddr, hin⟩
    · obtain ⟨lists, hlists, lst, hmem, hlst, htype⟩ := (mem_allow_iff hbuild).mp h
      exact ⟨lists, hlists, lst, hmem, htype, .inl hlst⟩
    · obtain ⟨entry, hentry, hnetwork⟩ := (hcontained net).mp hnet
      obtain ⟨lists, hlists, lst, hmem, hlst, htype⟩ := (mem_allow_iff hbuild).mp hentry
      exact ⟨lists, hlists, lst, hmem, htype, .inr ⟨entry, hlst, net, hnetwork, addr, haddr, hin⟩⟩
  · intro ⟨lists, hlists, lst, hmem, htype, hmatch⟩
    rcases hmatch with hlst | ⟨entry, hlst, net, hnetwork, addr, haddr, hin⟩
    · exact .inl ((mem_allow_iff hbuild).mpr ⟨lists, hlists, lst, hmem, hlst, htype⟩)
    · refine .inr ⟨net, (hcontained net).mpr ⟨entry, ?_, hnetwork⟩, addr, haddr, hin⟩
      exact (mem_allow_iff hbuild).mpr ⟨lists, hlists, lst, hmem, hlst, htype⟩

/-- A whitelist is no blacklist. -/
theorem IsWhitelist.not_blacklist {lst : Value} (h : IsWhitelist text lst) :
    hasListType text "blacklist" lst = false := by
  unfold IsWhitelist hasListType at h
  unfold hasListType
  rw [eq_of_beq h]
  decide

theorem applyResolved_changed {s s' : ListfileSync} {tenantId resolved now : PyStr}
    {statusCode : Nat} {result : ListfileSyncResult}
    (h : s.applyResolved text artifact tenantId resolved now statusCode = .ok (s', result))
    (hchanged : result.changed = true) :
    ∃ cache, buildCacheFromArtifact text artifact tenantId resolved now = .ok cache
      ∧ s'.cacheFile = some cache := by
  unfold ListfileSync.applyResolved at h
  split at h
  · cases h
    cases hchanged
  · obtain ⟨cache, hbuild, h⟩ := bind_eq_ok.mp h
    obtain ⟨written, hwrite, h⟩ := bind_eq_ok.mp h
    refine ⟨cache, hbuild, ?_⟩
    unfold ListfileSync.writeCache at hwrite
    by_cases henc : cache.toValue.encodable = true
    · rw [if_pos henc] at hwrite
      cases hwrite
      cases h
      rfl
    · rw [if_neg henc] at hwrite
      cases hwrite

/-- What `apply_artifact` reports as changed, it has built and stored. -/
theorem applyArtifact_changed {s s' : ListfileSync} {tenantId etag now : PyStr}
    {digest : Except PyErr PyStr} {statusCode : Nat} {result : ListfileSyncResult}
    (h : s.applyArtifact text artifact tenantId etag digest now statusCode = .ok (s', result))
    (hchanged : result.changed = true) :
    ∃ resolved cache, buildCacheFromArtifact text artifact tenantId resolved now = .ok cache
      ∧ s'.cacheFile = some cache := by
  unfold ListfileSync.applyArtifact at h
  split at h
  · obtain ⟨resolved, -, h⟩ := bind_eq_ok.mp h
    obtain ⟨cache, hbuild, hfile⟩ := applyResolved_changed h hchanged
    exact ⟨resolved, cache, hbuild, hfile⟩
  · cases h
    cases hchanged

/-- **When the whitelist is the whitelist.** After an artifact was stored, a forced reload
of the enforcer succeeds, and then an address is whitelisted if and only if a whitelist
matches it, exactly if no list that is neither whitelist nor blacklist matches it, or a
whitelist does as well. -/
theorem managed_whitelist_iff (s s' : ListfileSync) (text : Value.Text) (artifact : Value)
    (tenantId etag now : PyStr) (digest : Except PyErr PyStr) (statusCode : Nat)
    (result : ListfileSyncResult)
    (hstore : s.applyArtifact text artifact tenantId etag digest now statusCode = .ok (s', result))
    (hchanged : result.changed = true) (e : ManagedListfileEnforcer) (time stampMtime : Rat) :
    ∃ e', e.maybeReload text true time stampMtime (s'.cacheFile.map (·.toValue)) = .ok (e', true)
      ∧ ∀ ip, IpLiteral ip →
        ((e'.isIpWhitelisted (some ip) = true ↔ MatchedBy text artifact ip (IsWhitelist text))
          ↔ (MatchedBy text artifact ip (IsNeither text) →
            MatchedBy text artifact ip (IsWhitelist text))) := by
  obtain ⟨resolved, cache, hbuild, hfile⟩ := applyArtifact_changed hstore hchanged
  obtain ⟨e', hload⟩ := @load_cache text { e with lastCheck := time, stampMtime := stampMtime } cache
  refine ⟨e', ?_, fun ip hip => ?_⟩
  · unfold ManagedListfileEnforcer.maybeReload
    rw [if_neg (fun hforce => Bool.false_ne_true hforce.1.symm)]
    simp only
    rw [if_neg (fun hforce => Bool.false_ne_true hforce.1.symm), hfile]
    show (ManagedListfileEnforcer.load text _ (some cache.toValue)).map (·, true) = _
    rw [hload]
    rfl
  · have hlisted := isIpWhitelisted_iff_listed hbuild hload hip
    rw [hlisted]
    constructor
    · intro hiff ⟨lists, hlists, lst, hmem, hneither, hmatch⟩
      exact hiff.mp ⟨lists, hlists, lst, hmem, hneither.2, hmatch⟩
    · intro hcond
      constructor
      · intro ⟨lists, hlists, lst, hmem, htype, hmatch⟩
        cases hwhite : hasListType text "whitelist" lst with
        | true => exact ⟨lists, hlists, lst, hmem, hwhite, hmatch⟩
        | false => exact hcond ⟨lists, hlists, lst, hmem, ⟨hwhite, htype⟩, hmatch⟩
      · intro ⟨lists, hlists, lst, hmem, hwhite, hmatch⟩
        exact ⟨lists, hlists, lst, hmem, hwhite.not_blacklist, hmatch⟩

end EndToEnd

/-- A list of an artifact. -/
def sampleList (listType : String) (entries : List String) : Value :=
  .obj [(lit "list_type", .str (lit listType)), (lit "entry_kind", .str (lit "cidr")),
    (lit "entries", .arr (entries.map fun entry => .str (lit entry)))]

def sampleArtifact (lists : List Value) : Value :=
  .obj [(lit "version", .str (lit "1")), (lit "lists", .arr lists)]

/-- `lower` on ASCII. -/
def asciiText : Value.Text where
  repr := fun _ => []
  lower := fun s => s.map fun c => if 65 ≤ c ∧ c ≤ 90 then c + 32 else c

/-- The artifact is stored, the enforcer reloaded, and the address looked up. -/
def lookUpAfter (artifact : Value) (ip : String) : Except PyErr Bool := do
  let stored ← ListfileSync.applyArtifact {} asciiText artifact (lit "t") (lit "e1") (.ok []) [] 200
  let reloaded ← ManagedListfileEnforcer.maybeReload asciiText {} true 0 1
    (stored.1.cacheFile.map (·.toValue))
  .ok (reloaded.1.isIpWhitelisted (some (lit ip)))

/-- Meant as a blacklist, taken as a whitelist. -/
theorem misspelled_type_whitelists :
    lookUpAfter (sampleArtifact [sampleList "blaklist" ["203.0.113.0/24"]]) "203.0.113.9" = .ok true
      ∧ IpLiteral (lit "203.0.113.9")
      ∧ ¬ MatchedBy asciiText (sampleArtifact [sampleList "blaklist" ["203.0.113.0/24"]])
        (lit "203.0.113.9") (IsWhitelist asciiText) := by
  refine ⟨rfl, ⟨by decide +kernel, by decide +kernel⟩, ?_⟩
  intro ⟨lists, hlists, lst, hmem, hwhite, _⟩
  have heq : lists = [sampleList "blaklist" ["203.0.113.0/24"]] := (Except.ok.inj hlists).symm
  rw [heq] at hmem
  rw [List.mem_singleton.mp hmem] at hwhite
  revert hwhite
  unfold IsWhitelist
  decide +kernel

def twoLists : Value :=
  sampleArtifact [sampleList "Whitelist" ["10.0.0.0/8"], sampleList "blacklist" ["::/0"]]

def twoListsResult : ListfileSyncResult :=
  { ok := true, changed := true, statusCode := 200, itemCount := 2, artifactVersion := lit "1",
    tenantId := lit "t" }

/-- With two lists that say what they are, the whitelist is the whitelist. -/
theorem managed_whitelist_iff_typed :
    ∃ s', ListfileSync.applyArtifact {} asciiText twoLists (lit "t") (lit "e1") (.ok []) [] 200
        = .ok (s', twoListsResult)
      ∧ ∃ e', ManagedListfileEnforcer.maybeReload asciiText {} true 0 1
          (s'.cacheFile.map (·.toValue)) = .ok (e', true)
        ∧ ∀ ip, IpLiteral ip →
          ((e'.isIpWhitelisted (some ip) = true
              ↔ MatchedBy asciiText twoLists ip (IsWhitelist asciiText))
            ↔ (MatchedBy asciiText twoLists ip (IsNeither asciiText) →
              MatchedBy asciiText twoLists ip (IsWhitelist asciiText))) :=
  ⟨_, rfl, managed_whitelist_iff {} _ asciiText twoLists (lit "t") (lit "e1") [] (.ok []) 200
    twoListsResult rfl rfl {} 0 1⟩

end EdgeSensor.System
