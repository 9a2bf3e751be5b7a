import EdgeSensor.Lib.Dict
import Mathlib.Data.List.Induction

/-!
# The difference of two keyed collections

Two lists of entries are read as dictionaries, a later entry in place of an earlier one
with its key, and compared key by key: what only one side has, and what both have but
differently. The lemmas say when each part of the difference is empty, in terms of lookups.
-/

namespace EdgeSensor.Lib.KeyedDiff

open EdgeSensor.Lib

variable {κ ν δ : Type} [DecidableEq κ]

/-- The entries by key. The last one with a key stays, at the place of the first. -/
def byKey (key : ν → κ) (entries : List ν) : Dict κ ν :=
  entries.foldl (fun d entry => d.set (key entry) entry) []

/-- The entries of `d` whose keys `other` does not have. -/
def absent (d other : Dict κ ν) : List ν :=
  (d.filter fun kv => (other.get? kv.1).isNone).map (·.2)

/-- What `change` finds between the entries of the keys that both have. -/
def changes (change : ν → ν → Option δ) (d other : Dict κ ν) : List δ :=
  d.filterMap fun kv => (other.get? kv.1).bind (change kv.2)

/-- What stands on one side only, and what changed. -/
structure Diff (ν δ : Type) where
  added : List ν
  removed : List ν
  changed : List δ

/-- The comparison of what is with what was, by their keys. -/
def diff (key : ν → κ) (change : ν → ν → Option δ) (old new : List ν) : Diff ν δ :=
  let a := byKey key old
  let b := byKey key new
  { added := absent b a
    removed := absent a b
    changed := changes change a b }

/-- Two lists agree: the same keys, and no change at any of them. -/
structure Agrees (key : ν → κ) (change : ν → ν → Option δ) (old new : List ν) : Prop where
  keys : ∀ k, (∃ entry ∈ old, key entry = k) ↔ ∃ entry ∈ new, key entry = k
  entries : ∀ k a b, (byKey key old).get? k = some a → (byKey key new).get? k = some b →
    change a b = none

/-! ## The entries by key -/

theorem byKey_concat (key : ν → κ) (entries : List ν) (entry : ν) :
    byKey key (entries ++ [entry]) = (byKey key entries).set (key entry) entry := by
  unfold byKey
  rw [List.foldl_append]
  rfl

theorem byKey_keyed (key : ν → κ) (entries : List ν) : Dict.Keyed key (byKey key entries) := by
  induction entries using List.reverseRecOn with
  | nil => exact .nil
  | append_singleton entries entry ih =>
    rw [byKey_concat]
    refine ⟨Dict.nodup_set ih.nodup _ _, fun kv hkv => ?_⟩
    rcases Dict.mem_set hkv with rfl | hkv
    · rfl
    · exact ih.own kv hkv

/-- A lookup finds one of the entries, under its own key. -/
theorem mem_of_get?_byKey {key : ν → κ} {entries : List ν} {k : κ} {entry : ν}
    (h : (byKey key entries).get? k = some entry) : entry ∈ entries ∧ key entry = k := by
  induction entries using List.reverseRecOn with
  | nil => cases h
  | append_singleton entries last ih =>
    rw [byKey_concat, Dict.get?_set] at h
    by_cases hk : key last = k
    · rw [if_pos hk] at h
      cases h
      exact ⟨List.mem_append_right _ List.mem_cons_self, hk⟩
    · rw [if_neg hk] at h
      obtain ⟨hmem, hkey⟩ := ih h
      exact ⟨List.mem_append_left _ hmem, hkey⟩

/-- A key is there if some entry has it. -/
theorem get?_byKey_isSome {key : ν → κ} {entries : List ν} {k : κ} :
    ((byKey key entries).get? k).isSome ↔ ∃ entry ∈ entries, key entry = k := by
  constructor
  · intro h
    obtain ⟨entry, hentry⟩ := Option.isSome_iff_exists.mp h
    exact ⟨entry, mem_of_get?_byKey hentry⟩
  · rintro ⟨entry, hmem, rfl⟩
    induction entries using List.reverseRecOn with
    | nil => cases hmem
    | append_singleton entries last ih =>
      rw [byKey_concat, Dict.get?_set]
      -- a later entry with the key takes its place, and is found all the same
      by_cases hk : key last = key entry
      · rw [if_pos hk]
        rfl
      · rw [if_neg hk]
        rcases List.mem_append.mp hmem with hmem | hmem
        · exact ih hmem
        · rw [List.mem_singleton.mp hmem] at hk
          exact absurd rfl hk

/-- What changed is what `change` finds at some key. -/
theorem mem_changed {key : ν → κ} {change : ν → ν → Option δ} {old new : List ν} {c : δ} :
    c ∈ (diff key change old new).changed
      ↔ ∃ k a b, (byKey key old).get? k = some a ∧ (byKey key new).get? k = some b
        ∧ change a b = some c := by
  unfold diff changes
  simp only [List.mem_filterMap, Option.bind_eq_some_iff]
  constructor
  · rintro ⟨kv, hkv, b, hb, hc⟩
    exact ⟨kv.1, kv.2, b, Dict.get?_of_mem (byKey_keyed key old).nodup hkv, hb, hc⟩
  · rintro ⟨k, a, b, ha, hb, hc⟩
    exact ⟨(k, a), Dict.mem_of_get? ha, b, hb, hc⟩

/-! ## When a part is empty -/

variable {d other : Dict κ ν}

theorem absent_eq_nil (h : (d.map (·.1)).Nodup) :
    absent d other = [] ↔ ∀ k, (d.get? k).isSome → (other.get? k).isSome := by
  unfold absent
  rw [List.map_eq_nil_iff, List.filter_eq_nil_iff]
  constructor
  · intro hall k hk
    obtain ⟨v, hv⟩ := Option.isSome_iff_exists.mp hk
    have hsome := hall (k, v) (Dict.mem_of_get? hv)
    simpa [Option.isSome_iff_ne_none] using hsome
  · intro hall kv hkv
    have hsome := hall kv.1 (Option.isSome_iff_exists.mpr ⟨kv.2, Dict.get?_of_mem h hkv⟩)
    simpa [Option.isSome_iff_ne_none] using hsome

theorem changes_eq_nil {change : ν → ν → Option δ} (h : (d.map (·.1)).Nodup) :
    changes change d other = []
      ↔ ∀ k a b, d.get? k = some a → other.get? k = some b → change a b = none := by
  unfold changes
  rw [List.filterMap_eq_nil_iff]
  constructor
  · intro hall k a b ha hb
    have hnone := hall (k, a) (Dict.mem_of_get? ha)
    rw [hb] at hnone
    exact hnone
  · intro hall kv hkv
    cases hb : other.get? kv.1 with
    | none => rfl
    | some b => exact hall kv.1 kv.2 b (Dict.get?_of_mem h hkv) hb

/-- The difference is empty exactly where the two agree. -/
theorem diff_eq_nil {key : ν → κ} {change : ν → ν → Option δ} {old new : List ν} :
    ((diff key change old new).added = [] ∧ (diff key change old new).removed = []
      ∧ (diff key change old new).changed = []) ↔ Agrees key change old new := by
  have hnodup : ∀ entries, ((byKey key entries).map (·.1)).Nodup :=
    fun entries => (byKey_keyed key entries).nodup
  unfold diff
  simp only
  rw [absent_eq_nil (hnodup new), absent_eq_nil (hnodup old), changes_eq_nil (hnodup old)]
  simp only [get?_byKey_isSome]
  constructor
  · rintro ⟨hadded, hremoved, hchanged⟩
    exact ⟨fun k => ⟨hremoved k, hadded k⟩, hchanged⟩
  · intro h
    exact ⟨fun k => (h.keys k).mpr, fun k => (h.keys k).mp, h.entries⟩

/-- A list agrees with itself, if no entry differs from itself. -/
theorem Agrees.refl {key : ν → κ} {change : ν → ν → Option δ} (h : ∀ a, change a a = none)
    (entries : List ν) : Agrees key change entries entries := by
  refine ⟨fun k => Iff.rfl, fun k a b ha hb => ?_⟩
  rw [ha] at hb
  cases hb
  exact h a

end EdgeSensor.Lib.KeyedDiff
