import EdgeSensor.Py.IpAddress

/-!
# Enforcing the managed whitelist

`src/policy/managed_listfile_enforcement.py`, of which sensor and agent have a copy
each. What is modelled here, the reload and the test of an address, is the same text in
both. The `allow` bucket of the cache is read anew when the stamp has another
modification time, and on every due check while no address is listed.

Mirroring notes:
- A file that is missing, unreadable or no object leaves every set empty.
- An entry that denotes no network is passed over.
-/

namespace EdgeSensor.Sensor

open EdgeSensor.Lib EdgeSensor.Py

/-- `ManagedListfileEnforcer`. -/
structure ManagedListfileEnforcer where
  reloadCheckSec : Rat := 5
  lastCheck : Rat := 0
  stampMtime : Rat := 0
  allowIps : List PyStr := []
  allowCidrs : List IpNetwork := []
  allowDomains : List PyStr := []
  allowHashes : List PyStr := []

namespace ManagedListfileEnforcer

/-- `str(x).strip()` of each item of `allow.get(kind) or []`, the empty ones left out. -/
def allowed (text : Value.Text) (allow : Value) (kind : String) : Except PyErr (List PyStr) :=
  (allow.get kind).itemsOrNone.map fun items =>
    (items.map fun item => PyStr.strip (text.str item)).filter (· ≠ [])

/-- `_load`. -/
def load (text : Value.Text) (e : ManagedListfileEnforcer) (file : Option Value) :
    Except PyErr ManagedListfileEnforcer :=
  let cleared := { e with allowIps := [], allowCidrs := [], allowDomains := [], allowHashes := [] }
  match file.filter (·.isObj) with
  | none => .ok cleared
  | some raw => do
    let allow := if (raw.get "allow").isObj then raw.get "allow" else .obj []
    let ips ← allowed text allow "ip"
    let cidrs ← allowed text allow "cidr"
    let domains ← allowed text allow "domain"
    let hashes ← allowed text allow "hash"
    .ok { cleared with
      allowIps := ips
      allowCidrs := cidrs.filterMap ipNetwork
      allowDomains := domains.map text.lower
      allowHashes := hashes.map text.lower }

/-- `maybe_reload`, with its return value. -/
def maybeReload (text : Value.Text) (e : ManagedListfileEnforcer) (force : Bool) (now : Rat)
    (stampMtime : Rat) (file : Option Value) : Except PyErr (ManagedListfileEnforcer × Bool) :=
  if force = false ∧ now - e.lastCheck < e.reloadCheckSec then .ok (e, false)
  else
    let checked := { e with lastCheck := now }
    if force = false ∧ stampMtime = e.stampMtime ∧ e.allowIps ≠ [] then .ok (checked, false)
    else
      (load text { checked with stampMtime := stampMtime } file).map (·, true)

/-- `is_ip_whitelisted`. -/
def isIpWhitelisted (e : ManagedListfileEnforcer) (ip : Option PyStr) : Bool :=
  let value := PyStr.strip (ip.getD [])
  if value = [] then false
  else if value ∈ e.allowIps then true
  else
    match ipAddress value with
    | none => false
    | some addr => e.allowCidrs.any (·.contains addr)

/-! ## What is whitelisted -/

variable {text : Value.Text} {e e' : ManagedListfileEnforcer}

theorem load_obj {raw : Value} (hobj : raw.isObj = true) (hallow : (raw.get "allow").isObj = true)
    (h : e.load text (some raw) = .ok e') :
    (allowed text (raw.get "allow") "ip") = .ok e'.allowIps
      ∧ ∃ cidrs, allowed text (raw.get "allow") "cidr" = .ok cidrs
        ∧ e'.allowCidrs = cidrs.filterMap ipNetwork := by
  unfold load at h
  simp only [Option.filter_some, hobj, if_true, hallow] at h
  cases hips : allowed text (raw.get "allow") "ip" with
  | error err =>
    rw [hips] at h
    cases h
  | ok ips =>
    cases hcidrs : allowed text (raw.get "allow") "cidr" with
    | error err =>
      rw [hips, hcidrs] at h
      cases h
    | ok cidrs =>
      cases hdomains : allowed text (raw.get "allow") "domain" with
      | error err =>
        rw [hips, hcidrs, hdomains] at h
        cases h
      | ok domains =>
        cases hhashes : allowed text (raw.get "allow") "hash" with
        | error err =>
          rw [hips, hcidrs, hdomains, hhashes] at h
          cases h
        | ok hashes =>
          rw [hips, hcidrs, hdomains, hhashes] at h
          cases h
          exact ⟨rfl, cidrs, rfl, rfl⟩

/-- A forced reload reads the file. -/
theorem maybeReload_force {now stampMtime : Rat} {file : Option Value} {changed : Bool}
    (h : e.maybeReload text true now stampMtime file = .ok (e', changed)) :
    load text { e with lastCheck := now, stampMtime := stampMtime } file = .ok e' := by
  unfold maybeReload at h
  rw [if_neg (fun hforce => Bool.false_ne_true hforce.1.symm)] at h
  simp only at h
  rw [if_neg (fun hforce => Bool.false_ne_true hforce.1.symm)] at h
  cases hload : load text { e with lastCheck := now, stampMtime := stampMtime } file with
  | error err =>
    rw [hload] at h
    cases h
  | ok loaded =>
    rw [hload] at h
    cases h
    rfl

/-- An address is whitelisted if it is listed, or lies in a listed network. -/
theorem isIpWhitelisted_iff {ip : PyStr} (hne : PyStr.strip ip ≠ []) :
    e.isIpWhitelisted (some ip) = true
      ↔ PyStr.strip ip ∈ e.allowIps
        ∨ ∃ net ∈ e.allowCidrs, ∃ addr ∈ ipAddress (PyStr.strip ip), net.contains addr = true := by
  unfold isIpWhitelisted
  simp only [Option.getD_some]
  rw [if_neg hne]
  by_cases hlisted : PyStr.strip ip ∈ e.allowIps
  · rw [if_pos hlisted]
    exact iff_of_true rfl (.inl hlisted)
  · rw [if_neg hlisted, or_iff_right hlisted]
    cases haddr : ipAddress (PyStr.strip ip) with
    | none =>
      refine iff_of_false Bool.false_ne_true fun ⟨_, _, addr, hmem, _⟩ => ?_
      cases hmem
    | some addr =>
      simp only
      rw [List.any_eq_true]
      constructor
      · intro ⟨net, hnet, hin⟩
        exact ⟨net, hnet, addr, rfl, hin⟩
      · intro ⟨net, hnet, addr', hmem, hin⟩
        cases hmem
        exact ⟨net, hnet, hin⟩

end ManagedListfileEnforcer

end EdgeSensor.Sensor
