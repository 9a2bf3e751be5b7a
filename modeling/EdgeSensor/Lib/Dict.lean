import Mathlib.Algebra.GroupWithZero.Nat
import Mathlib.Data.List.Basic
import Mathlib.Data.Finset.Card
import Mathlib.Data.List.Count
import Mathlib.Data.List.Induction

/-!
# Insertion-ordered dictionaries

A finite map as a list of key/value pairs, in the order the keys were first
inserted: `set` overwrites in place or appends. The lemmas say what a lookup
returns after each operation, so that no proof about a program that uses a
dictionary looks at the list.
-/

namespace EdgeSensor.Lib

/-- A dictionary, oldest key first. -/
abbrev Dict (κ ν : Type) := List (κ × ν)

namespace Dict

variable {κ ν : Type} [DecidableEq κ]

/-- The value at `k`, if there is one. -/
def get? : Dict κ ν → κ → Option ν
  | [], _ => none
  | (k', v) :: d, k => if k' = k then some v else get? d k

/-- Overwrite the value at `k`, or append the pair. -/
def set : Dict κ ν → κ → ν → Dict κ ν
  | [], k, v => [(k, v)]
  | (k', v') :: d, k, v => if k' = k then (k, v) :: d else (k', v') :: set d k v

/-- Overlay `e` on `d`, pair by pair. -/
def update (d e : Dict κ ν) : Dict κ ν := e.foldl (fun acc kv => set acc kv.1 kv.2) d

/-- Change the entry at `k`, a new one if there is none. -/
def upsert (d : Dict κ ν) (k : κ) (new : ν) (change : ν → ν) : Dict κ ν :=
  d.set k (change ((d.get? k).getD new))

/-- `d.setdefault(k, {})[k'] = v`. -/
def setIn {κ' : Type} [DecidableEq κ'] (d : Dict κ (Dict κ' ν)) (k : κ) (k' : κ') (v : ν) :
    Dict κ (Dict κ' ν) :=
  d.upsert k [] (·.set k' v)

theorem get?_set_self (d : Dict κ ν) (k : κ) (v : ν) : (set d k v).get? k = some v := by
  induction d with
  | nil => simp [set, get?]
  | cons kv d ih =>
    obtain ⟨k', v'⟩ := kv
    simp only [set]
    split
    next hk => simp [get?]
    next hk => rw [get?, if_neg hk, ih]

theorem get?_set_ne (d : Dict κ ν) {k j : κ} (v : ν) (hne : k ≠ j) :
    (set d k v).get? j = d.get? j := by
  induction d with
  | nil => simp [set, get?, hne]
  | cons kv d ih =>
    obtain ⟨k', v'⟩ := kv
    simp only [set]
    split
    next hk =>
      subst hk
      rw [get?, if_neg hne, get?, if_neg hne]
    next hk =>
      rw [get?, get?, ih]

/-- A lookup after a `set` is a case split on the key. -/
theorem get?_set (d : Dict κ ν) (k j : κ) (v : ν) :
    (set d k v).get? j = if k = j then some v else d.get? j := by
  split
  next h => rw [← h, get?_set_self]
  next h => exact get?_set_ne d v h

/-- Of two values for a key the second stays. -/
theorem set_set (d : Dict κ ν) (k : κ) (v w : ν) : (d.set k v).set k w = d.set k w := by
  induction d with
  | nil => simp [set]
  | cons kv d ih =>
    obtain ⟨k', v'⟩ := kv
    by_cases hk : k' = k
    · simp [set, hk]
    · rw [set, if_neg hk, set, if_neg hk, ih, set, if_neg hk]

/-- A key that is there already keeps its place, whichever comes first. -/
theorem set_comm_of_get? {d : Dict κ ν} {k j : κ} (hne : k ≠ j) (h : d.get? k ≠ none) (v w : ν) :
    (d.set k v).set j w = (d.set j w).set k v := by
  induction d with
  | nil => exact absurd rfl h
  | cons kv d ih =>
    obtain ⟨k', v'⟩ := kv
    by_cases hk : k' = k
    · subst hk
      rw [set, if_pos rfl, set, if_neg hne, set, if_neg hne, set, if_pos rfl]
    · by_cases hj : k' = j
      · subst hj
        rw [set, if_neg hk, set, if_pos rfl, set, if_pos rfl, set, if_neg hk]
      · rw [get?, if_neg hk] at h
        rw [set, if_neg hk, set, if_neg hj, set, if_neg hj, set, if_neg hk, ih h]

theorem get?_upsert (d : Dict κ ν) (k j : κ) (new : ν) (change : ν → ν) :
    (d.upsert k new change).get? j
      = if k = j then some (change ((d.get? k).getD new)) else d.get? j :=
  get?_set d k j _

/-- A lookup at both levels after a `setIn`. -/
theorem get?_setIn {κ' : Type} [DecidableEq κ'] (d : Dict κ (Dict κ' ν)) (k j : κ) (k' j' : κ')
    (v : ν) : (((d.setIn k k' v).get? j).getD []).get? j'
      = if k = j ∧ k' = j' then some v else ((d.get? j).getD []).get? j' := by
  unfold setIn
  rw [get?_upsert]
  by_cases hk : k = j
  · subst hk
    rw [if_pos rfl, Option.getD_some, get?_set]
    simp
  · rw [if_neg hk, if_neg fun h => hk h.1]

@[simp] theorem get?_nil (k : κ) : get? ([] : Dict κ ν) k = none := rfl

/-- A lookup finds only what is there. -/
theorem mem_of_get? {d : Dict κ ν} {k : κ} {v : ν} (h : d.get? k = some v) : (k, v) ∈ d := by
  induction d with
  | nil => cases h
  | cons kv d ih =>
    obtain ⟨k', v'⟩ := kv
    rw [get?] at h
    split at h
    next hk =>
      cases h
      rw [hk]
      exact List.mem_cons_self
    next => exact List.mem_cons_of_mem _ (ih h)

/-! ## Distinct keys -/

theorem mem_set {d : Dict κ ν} {k : κ} {v : ν} {kv : κ × ν} (h : kv ∈ d.set k v) :
    kv = (k, v) ∨ kv ∈ d := by
  induction d with
  | nil => exact .inl (List.mem_singleton.mp h)
  | cons kv' d ih =>
    obtain ⟨k', v'⟩ := kv'
    simp only [set] at h
    split at h
    next =>
      rcases List.mem_cons.mp h with h | h
      · exact .inl h
      · exact .inr (List.mem_cons_of_mem _ h)
    next =>
      rcases List.mem_cons.mp h with h | h
      · exact .inr (h ▸ List.mem_cons_self)
      · exact (ih h).imp_right (List.mem_cons_of_mem _)

theorem nodup_set {d : Dict κ ν} (h : (d.map (·.1)).Nodup) (k : κ) (v : ν) :
    ((d.set k v).map (·.1)).Nodup := by
  induction d with
  | nil => exact List.nodup_cons.mpr ⟨List.not_mem_nil, List.nodup_nil⟩
  | cons kv d ih =>
    obtain ⟨k', v'⟩ := kv
    rw [List.map_cons, List.nodup_cons] at h
    simp only [set]
    split
    next hk =>
      subst hk
      rw [List.map_cons, List.nodup_cons]
      exact h
    next hk =>
      rw [List.map_cons, List.nodup_cons]
      refine ⟨fun hmem => ?_, ih h.2⟩
      obtain ⟨kv, hkv, hkey⟩ := List.mem_map.mp hmem
      rcases mem_set hkv with rfl | hkv
      · exact hk hkey.symm
      · exact h.1 (hkey ▸ List.mem_map_of_mem hkv)

/-- With distinct keys, what is there is what a lookup finds. -/
theorem get?_of_mem {d : Dict κ ν} (h : (d.map (·.1)).Nodup) {k : κ} {v : ν} (hmem : (k, v) ∈ d) :
    d.get? k = some v := by
  induction d with
  | nil => cases hmem
  | cons kv d ih =>
    obtain ⟨k', v'⟩ := kv
    rw [List.map_cons, List.nodup_cons] at h
    rcases List.mem_cons.mp hmem with heq | hmem
    · cases heq
      exact if_pos rfl
    · have hne : k' ≠ k := by
        rintro rfl
        exact h.1 (List.mem_map.mpr ⟨_, hmem, rfl⟩)
      rw [get?, if_neg hne]
      exact ih h.2 hmem

/-- Distinct keys at both levels. -/
def NodupIn {κ' : Type} (d : Dict κ (Dict κ' ν)) : Prop :=
  ∀ k, (((d.get? k).getD []).map (·.1)).Nodup

theorem NodupIn.setIn {κ' : Type} [DecidableEq κ'] {d : Dict κ (Dict κ' ν)} (h : NodupIn d) (k : κ)
    (k' : κ') (v : ν) : NodupIn (d.setIn k k' v) := by
  intro j
  unfold Dict.setIn
  rw [get?_upsert]
  by_cases hk : k = j
  · rw [if_pos hk, Option.getD_some]
    exact nodup_set (h k) k' v
  · rw [if_neg hk]
    exact h j

/-- Without a key, a lookup finds nothing. -/
theorem get?_eq_none {d : Dict κ ν} {k : κ} (h : ∀ v, (k, v) ∉ d) : d.get? k = none := by
  cases hget : d.get? k with
  | none => rfl
  | some v => exact absurd (mem_of_get? hget) (h v)

/-- The order of a dictionary does not matter to a lookup. -/
theorem get?_perm {d e : Dict κ ν} (hperm : d.Perm e) (h : (d.map (·.1)).Nodup) (k : κ) :
    d.get? k = e.get? k := by
  have he : (e.map (·.1)).Nodup := (hperm.map _).nodup_iff.mp h
  cases hget : d.get? k with
  | some v => exact (get?_of_mem he (hperm.mem_iff.mp (mem_of_get? hget))).symm
  | none =>
    refine (get?_eq_none fun v hv => ?_).symm
    rw [get?_of_mem h (hperm.mem_iff.mpr hv)] at hget
    cases hget

/-- Records stored under their own keys, each key once. -/
structure Keyed (key : ν → κ) (d : Dict κ ν) : Prop where
  nodup : (d.map (·.1)).Nodup
  own : ∀ kv ∈ d, key kv.2 = kv.1

namespace Keyed

variable {key : ν → κ} {d : Dict κ ν} {k : κ}

omit [DecidableEq κ] in
theorem nil : Keyed key ([] : Dict κ ν) := ⟨List.nodup_nil, fun _ h => absurd h List.not_mem_nil⟩

theorem key_of_get? (h : Keyed key d) {v : ν} (hv : d.get? k = some v) : key v = k :=
  h.own _ (mem_of_get? hv)

/-- A record is found under its key, and it is the only one with that key. -/
theorem get?_key (h : Keyed key d) {v : ν} (hv : v ∈ d.map (·.2)) : d.get? (key v) = some v := by
  obtain ⟨kv, hkv, rfl⟩ := List.mem_map.mp hv
  rw [h.own kv hkv]
  exact get?_of_mem h.nodup hkv

theorem set (h : Keyed key d) {v : ν} (hv : key v = k) : Keyed key (d.set k v) := by
  refine ⟨nodup_set h.nodup _ _, fun kv hkv => ?_⟩
  rcases mem_set hkv with rfl | hkv
  · exact hv
  · exact h.own kv hkv

/-- Records stay under their own keys if a change keeps the key. -/
theorem upsert (h : Keyed key d) {new : ν} {change : ν → ν} (hnew : key new = k)
    (hchange : ∀ v, key v = k → key (change v) = k) : Keyed key (d.upsert k new change) := by
  refine h.set (hchange _ ?_)
  cases hget : d.get? k with
  | none => exact hnew
  | some v => exact h.key_of_get? hget

end Keyed

/-! ## Counting -/

/-- How often each key comes in a list: `d[k] = d.get(k, 0) + 1` for each. -/
def tally (ks : List κ) : Dict κ Nat := ks.foldl (fun d k => d.upsert k 0 (· + 1)) []

theorem tally_concat (ks : List κ) (k : κ) : tally (ks ++ [k]) = (tally ks).upsert k 0 (· + 1) := by
  unfold tally
  rw [List.foldl_append]
  rfl

/-- A key that comes at all is there with its count, any other is not there. -/
theorem get?_tally (ks : List κ) (k : κ) :
    (tally ks).get? k = if k ∈ ks then some (ks.count k) else none := by
  induction ks using List.reverseRecOn with
  | nil => rfl
  | append_singleton ks last ih =>
    rw [tally_concat, get?_upsert, List.count_append, List.count_singleton]
    by_cases hlast : last = k
    · subst hlast
      rw [if_pos rfl, if_pos (List.mem_append_right _ List.mem_cons_self), ih]
      by_cases hmem : last ∈ ks
      · simp [hmem]
      · simp [hmem, List.count_eq_zero_of_not_mem hmem]
    · have hne : k ≠ last := fun h => hlast h.symm
      rw [if_neg hlast, ih]
      by_cases hmem : k ∈ ks
      · simp [hmem, hlast]
      · simp [hmem, hne]

/-- Overwriting the value of a key changes the sum by the difference. -/
theorem sum_upsert_succ (d : Dict κ Nat) (k : κ) :
    ((d.upsert k 0 (· + 1)).map (·.2)).sum = (d.map (·.2)).sum + 1 := by
  unfold upsert
  induction d with
  | nil => rfl
  | cons kv d ih =>
    obtain ⟨k', v⟩ := kv
    rw [get?, set]
    by_cases hk : k' = k
    · rw [if_pos hk, if_pos hk]
      simp only [Option.getD_some, List.map_cons, List.sum_cons]
      omega
    · rw [if_neg hk, if_neg hk]
      simp only [List.map_cons, List.sum_cons] at ih ⊢
      omega

theorem sum_tally (ks : List κ) : ((tally ks).map (·.2)).sum = ks.length := by
  induction ks using List.reverseRecOn with
  | nil => rfl
  | append_singleton ks k ih =>
    rw [tally_concat, sum_upsert_succ, ih, List.length_append]
    rfl

theorem nodup_tally (ks : List κ) : ((tally ks).map (·.1)).Nodup := by
  induction ks using List.reverseRecOn with
  | nil => exact List.nodup_nil
  | append_singleton ks k ih =>
    rw [tally_concat]
    exact nodup_set ih _ _

/-- The keys of a dictionary are those that a lookup finds. -/
theorem mem_keys_iff {d : Dict κ ν} {k : κ} : k ∈ d.map (·.1) ↔ d.get? k ≠ none := by
  constructor
  · intro hmem
    obtain ⟨⟨k', v⟩, hkv, rfl⟩ := List.mem_map.mp hmem
    clear hmem
    intro hnone
    induction d with
    | nil => cases hkv
    | cons kv d ih =>
      rw [get?] at hnone
      by_cases hk : kv.1 = k'
      · rw [if_pos hk] at hnone
        cases hnone
      · rw [if_neg hk] at hnone
        rcases List.mem_cons.mp hkv with heq | hkv
        · exact hk (congrArg Prod.fst heq.symm)
        · exact ih hkv hnone
  · intro hsome
    obtain ⟨v, hv⟩ := Option.ne_none_iff_exists'.mp hsome
    exact List.mem_map_of_mem (mem_of_get? hv)

theorem mem_keys_tally {ks : List κ} {k : κ} : k ∈ (tally ks).map (·.1) ↔ k ∈ ks := by
  rw [mem_keys_iff, get?_tally]
  by_cases hk : k ∈ ks
  · simp [hk]
  · simp [hk]

/-- As many keys are counted as there are different ones. -/
theorem length_tally (ks : List κ) : (tally ks).length = ks.toFinset.card := by
  have hset : ((tally ks).map (·.1)).toFinset = ks.toFinset := by
    ext k
    rw [List.mem_toFinset, List.mem_toFinset, mem_keys_tally]
  rw [← hset, List.toFinset_card_of_nodup (nodup_tally ks), List.length_map]

/-! ## Values seen through a function -/

/-- Every value, seen through `f`. -/
def mapValues {μ : Type} (f : ν → μ) (d : Dict κ ν) : Dict κ μ := d.map fun kv => (kv.1, f kv.2)

section MapValues

variable {μ : Type} (f : ν → μ) (d : Dict κ ν)

theorem get?_mapValues (k : κ) : (d.mapValues f).get? k = (d.get? k).map f := by
  induction d with
  | nil => rfl
  | cons kv d ih =>
    show get? ((kv.1, f kv.2) :: mapValues f d) k = _
    rw [get?, get?, ih]
    split
    next => rfl
    next => rfl

theorem mapValues_set (k : κ) (v : ν) : (d.set k v).mapValues f = (d.mapValues f).set k (f v) := by
  induction d with
  | nil => rfl
  | cons kv d ih =>
    show mapValues f (set (kv :: d) k v) = set ((kv.1, f kv.2) :: mapValues f d) k (f v)
    rw [set, set]
    split
    next => rfl
    next =>
      rw [← ih]
      rfl

omit [DecidableEq κ] in
theorem keys_mapValues : (d.mapValues f).map (·.1) = d.map (·.1) := by
  unfold mapValues
  rw [List.map_map]
  rfl

end MapValues

/-! ## Overlaying and filtering -/

theorem get?_update_of_not_mem {d e : Dict κ ν} {k : κ} (h : k ∉ e.map (·.1)) :
    (update d e).get? k = d.get? k := by
  induction e generalizing d with
  | nil => rfl
  | cons kv e ih =>
    rw [List.map_cons, List.mem_cons, not_or] at h
    show (update (d.set kv.1 kv.2) e).get? k = d.get? k
    rw [ih h.2, get?_set_ne d kv.2 (Ne.symm h.1)]

/-- What is overlaid, each key once, is what a lookup finds. -/
theorem get?_update_of_mem {d e : Dict κ ν} (he : (e.map (·.1)).Nodup) {kv : κ × ν} (h : kv ∈ e) :
    (update d e).get? kv.1 = some kv.2 := by
  induction e generalizing d with
  | nil => cases h
  | cons first e ih =>
    rw [List.map_cons, List.nodup_cons] at he
    show (update (d.set first.1 first.2) e).get? kv.1 = some kv.2
    rcases List.mem_cons.mp h with rfl | h
    · rw [get?_update_of_not_mem he.1, get?_set_self]
    · exact ih he.2 h

theorem nodup_update {d : Dict κ ν} (h : (d.map (·.1)).Nodup) (e : Dict κ ν) :
    ((update d e).map (·.1)).Nodup := by
  induction e generalizing d with
  | nil => exact h
  | cons kv e ih => exact ih (nodup_set h kv.1 kv.2)

/-- With distinct keys, a filter keeps or drops what a lookup finds. -/
theorem get?_filter {d : Dict κ ν} (h : (d.map (·.1)).Nodup) (p : κ × ν → Bool) (k : κ) :
    get? (d.filter p) k = (d.get? k).filter fun v => p (k, v) := by
  induction d with
  | nil => rfl
  | cons kv d ih =>
    obtain ⟨k', v⟩ := kv
    rw [List.map_cons, List.nodup_cons] at h
    by_cases hk : k' = k
    · subst hk
      have habsent : get? (d.filter p) k' = none := by
        have hnone : get? d k' = none :=
          get?_eq_none fun v' hmem => h.1 (List.mem_map.mpr ⟨(k', v'), hmem, rfl⟩)
        rw [ih h.2, hnone]
        rfl
      rw [get?, if_pos rfl]
      by_cases hp : p (k', v) = true
      · rw [List.filter_cons_of_pos hp, get?, if_pos rfl, Option.filter_some, if_pos hp]
      · rw [List.filter_cons_of_neg hp, habsent, Option.filter_some, if_neg hp]
    · rw [get?, if_neg hk, ← ih h.2]
      by_cases hp : p (k', v) = true
      · rw [List.filter_cons_of_pos hp, get?, if_neg hk]
      · rw [List.filter_cons_of_neg hp]

/-- Overwriting a value with itself changes nothing. -/
theorem set_of_get? {d : Dict κ ν} {k : κ} {v : ν} (h : d.get? k = some v) : d.set k v = d := by
  induction d with
  | nil => cases h
  | cons kv d ih =>
    obtain ⟨k', v'⟩ := kv
    rw [get?] at h
    rw [set]
    by_cases hk : k' = k
    · rw [if_pos hk] at h
      cases h
      rw [if_pos hk, hk]
    · rw [if_neg hk] at h
      rw [if_neg hk, ih h]

/-- A new key goes to the end. -/
theorem set_of_get?_none {d : Dict κ ν} {k : κ} (h : d.get? k = none) (v : ν) :
    d.set k v = d ++ [(k, v)] := by
  induction d with
  | nil => rfl
  | cons kv d ih =>
    obtain ⟨k', v'⟩ := kv
    rw [get?] at h
    rw [set]
    by_cases hk : k' = k
    · rw [if_pos hk] at h
      cases h
    · rw [if_neg hk] at h
      rw [if_neg hk, ih h]
      rfl

/-- Overlaying what is there already, or is filtered out again, changes nothing. -/
theorem filter_update {d e : Dict κ ν} {p : κ × ν → Bool} (he : (e.map (·.1)).Nodup)
    (h : ∀ kv ∈ e, d.get? kv.1 = if p kv then some kv.2 else none) :
    (update d e).filter p = d.filter p := by
  induction e generalizing d with
  | nil => rfl
  | cons kv e ih =>
    rw [List.map_cons, List.nodup_cons] at he
    have hfirst := h kv List.mem_cons_self
    -- the rest of the overlay finds what it found before
    have hrest : ∀ kv' ∈ e, (d.set kv.1 kv.2).get? kv'.1 = if p kv' then some kv'.2 else none := by
      intro kv' hmem
      have hne : kv.1 ≠ kv'.1 := fun heq => he.1 (heq ▸ List.mem_map_of_mem hmem)
      rw [get?_set_ne d kv.2 hne]
      exact h kv' (List.mem_cons_of_mem _ hmem)
    show (update (d.set kv.1 kv.2) e).filter p = d.filter p
    rw [ih he.2 hrest]
    by_cases hp : p kv = true
    · rw [if_pos hp] at hfirst
      rw [set_of_get? hfirst]
    · rw [if_neg hp] at hfirst
      rw [set_of_get?_none hfirst, List.filter_append, List.filter_cons_of_neg hp, List.filter_nil,
        List.append_nil]

theorem mem_update {d e : Dict κ ν} {kv : κ × ν} (h : kv ∈ update d e) : kv ∈ d ∨ kv ∈ e := by
  induction e generalizing d with
  | nil => exact .inl h
  | cons first e ih =>
    rcases @ih (d.set first.1 first.2) h with h | h
    · rcases mem_set h with rfl | h
      · exact .inr List.mem_cons_self
      · exact .inl h
    · exact .inr (List.mem_cons_of_mem _ h)

/-- New keys, each once, go to the end as they come. -/
theorem update_of_nodup {d e : Dict κ ν} (h : ((d ++ e).map (·.1)).Nodup) :
    update d e = d ++ e := by
  induction e generalizing d with
  | nil => exact (List.append_nil d).symm
  | cons kv e ih =>
    have hnew : d.get? kv.1 = none := by
      refine get?_eq_none fun v hmem => ?_
      rw [List.map_append] at h
      exact (List.nodup_append.mp h).2.2 kv.1 (List.mem_map.mpr ⟨_, hmem, rfl⟩) kv.1
        (List.mem_map_of_mem List.mem_cons_self) rfl
    have hassoc : d ++ kv :: e = (d ++ [kv]) ++ e := List.append_cons d kv e
    rw [hassoc] at h ⊢
    show update (d.set kv.1 kv.2) e = _
    rw [set_of_get?_none hnew]
    exact ih h

/-- The values that are set at a key, in their order. -/
def settings (e : Dict κ ν) (k : κ) : List ν := (e.filter fun kv => kv.1 = k).map (·.2)

theorem settings_cons (kv : κ × ν) (e : Dict κ ν) (k : κ) :
    settings (kv :: e) k = if kv.1 = k then kv.2 :: settings e k else settings e k := by
  unfold settings
  rw [List.filter_cons]
  by_cases hk : kv.1 = k
  · rw [if_pos (decide_eq_true hk), if_pos hk, List.map_cons]
  · rw [if_neg (by rw [decide_eq_true_iff]; exact hk), if_neg hk]

/-- The last value that is set is the one that is there. -/
theorem get?_update (d e : Dict κ ν) (k : κ) :
    (update d e).get? k = (settings e k).getLast?.or (d.get? k) := by
  induction e generalizing d with
  | nil => rfl
  | cons kv e ih =>
    show (update (d.set kv.1 kv.2) e).get? k = _
    rw [ih, settings_cons, get?_set]
    split
    next =>
      rw [List.getLast?_cons]
      cases (settings e k).getLast? with
      | none => rfl
      | some v => rfl
    next => rfl

/-- Overlaying twice is overlaying the concatenation. -/
theorem update_append (d e f : Dict κ ν) : update d (e ++ f) = update (update d e) f :=
  List.foldl_append

/-- Of two dicts of one size, what is in the one is in the other: they say the same of every key. -/
theorem get?_eq_of_forall_mem {d e : Dict κ ν} (hd : (d.map Prod.fst).Nodup)
    (hlen : d.length = e.length) (h : ∀ kv ∈ d, e.get? kv.1 = some kv.2) (k : κ) :
    d.get? k = e.get? k := by
  have hsub : d.map Prod.fst ⊆ e.map Prod.fst := by
    intro j hj
    obtain ⟨kv, hkv, rfl⟩ := List.mem_map.mp hj
    exact mem_keys_iff.mpr (by rw [h kv hkv]; exact Option.some_ne_none _)
  have hperm : (d.map Prod.fst).Perm (e.map Prod.fst) :=
    (hd.subperm hsub).perm_of_length_le (by rw [List.length_map, List.length_map, hlen])
  cases hk : d.get? k with
  | some v => exact (h (k, v) (mem_of_get? hk)).symm
  | none =>
    have hnot : k ∉ e.map Prod.fst := by
      rw [← hperm.mem_iff, mem_keys_iff, not_not]
      exact hk
    rw [mem_keys_iff, not_not] at hnot
    exact hnot.symm

/-- Of two dicts one after the other, the first that knows a key says what it is. -/
theorem get?_append (d e : Dict κ ν) (k : κ) : get? (d ++ e) k = (get? d k).or (get? e k) := by
  induction d with
  | nil => rfl
  | cons kv d ih =>
    obtain ⟨j, v⟩ := kv
    show (if j = k then some v else get? (d ++ e) k) = (if j = k then some v else get? d k).or _
    split
    next => rfl
    next => exact ih

end Dict

end EdgeSensor.Lib
