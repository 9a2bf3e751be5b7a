import Mathlib.Data.List.Basic
import Mathlib.Data.List.Nodup

/-!
# Lists with one element a key

A list whose elements have distinct keys is gone through, and of each element something with
its key is made, or nothing. Of one key there is then what was made of its element. The first
element with a key is the one with it.
-/

namespace EdgeSensor.Lib

variable {α β κ : Type} {key : α → κ} {key' : β → κ} {f : α → Option β} {k : κ} {l : List α}

/-- The keys of what is made of a list come in the order of the list. -/
theorem map_filterMap_sublist (hkey : ∀ a ∈ l, ∀ b, f a = some b → key' b = key a) :
    ((l.filterMap f).map key').Sublist (l.map key) := by
  induction l with
  | nil => exact List.Sublist.refl _
  | cons x l ih =>
    have hrest := ih fun a ha => hkey a (List.mem_cons_of_mem _ ha)
    cases hfx : f x with
    | none =>
      rw [List.filterMap_cons_none hfx]
      exact hrest.cons _
    | some b =>
      rw [List.filterMap_cons_some hfx, List.map_cons, List.map_cons, hkey x List.mem_cons_self b hfx]
      exact hrest.cons_cons _

variable [DecidableEq κ]

/-- What is made of elements with other keys has another key. -/
theorem filter_filterMap_of_ne (hkey : ∀ a ∈ l, ∀ b, f a = some b → key' b = key a)
    (h : ∀ a ∈ l, key a ≠ k) : (l.filterMap f).filter (fun b => key' b = k) = [] := by
  refine List.filter_eq_nil_iff.mpr fun b hb => ?_
  obtain ⟨a, ha, hfa⟩ := List.mem_filterMap.mp hb
  rw [hkey a ha b hfa, decide_eq_true_eq]
  exact h a ha

/-- What is made of the one element with a key. -/
theorem filter_filterMap_of_mem (hkey : ∀ a ∈ l, ∀ b, f a = some b → key' b = key a)
    (hnodup : (l.map key).Nodup) {a : α} (ha : a ∈ l) :
    (l.filterMap f).filter (fun b => key' b = key a) = (f a).toList := by
  induction l with
  | nil => cases ha
  | cons x l ih =>
    rw [List.map_cons, List.nodup_cons] at hnodup
    have hkeys : ∀ y ∈ l, ∀ b, f y = some b → key' b = key y :=
      fun y hy => hkey y (List.mem_cons_of_mem _ hy)
    rcases List.mem_cons.mp ha with rfl | hmem
    · have hrest := filter_filterMap_of_ne hkeys (k := key a) fun y hy hya =>
        hnodup.1 (hya ▸ List.mem_map_of_mem hy)
      cases hfa : f a with
      | none =>
        rw [List.filterMap_cons_none hfa, hrest]
        rfl
      | some b =>
        have hb : key' b = key a := hkey a List.mem_cons_self b hfa
        rw [List.filterMap_cons_some hfa, List.filter_cons_of_pos (by simpa using hb), hrest]
        rfl
    · have hne : key x ≠ key a := fun hxa => hnodup.1 (hxa ▸ List.mem_map_of_mem hmem)
      have hrest := ih hkeys hnodup.2 hmem
      cases hfx : f x with
      | none => rw [List.filterMap_cons_none hfx, hrest]
      | some b =>
        rw [List.filterMap_cons_some hfx, List.filter_cons_of_neg, hrest]
        rw [hkey x List.mem_cons_self b hfx, decide_eq_true_eq]
        exact hne

/-- The one element with a key. -/
theorem filter_key_eq_singleton (hnodup : (l.map key).Nodup) {a : α} (ha : a ∈ l) :
    l.filter (fun b => key b = key a) = [a] := by
  have hkey : ∀ a ∈ l, ∀ b, some a = some b → key b = key a := fun a _ b hab => by cases hab; rfl
  have hall := filter_filterMap_of_mem hkey hnodup ha
  rw [List.filterMap_some] at hall
  exact hall

/-! ## The first element with a key -/

theorem mem_of_find?_key {a : α} (h : l.find? (fun b => key b = k) = some a) : a ∈ l ∧ key a = k := by
  have hkey := List.find?_some h
  rw [decide_eq_true_eq] at hkey
  exact ⟨List.mem_of_find?_eq_some h, hkey⟩

theorem find?_key_of_mem (hnodup : (l.map key).Nodup) {a : α} (ha : a ∈ l) :
    l.find? (fun b => key b = key a) = some a := by
  rw [← List.head?_filter, filter_key_eq_singleton hnodup ha]
  rfl

theorem find?_key_iff (hnodup : (l.map key).Nodup) {a : α} :
    l.find? (fun b => key b = k) = some a ↔ a ∈ l ∧ key a = k := by
  constructor
  · exact mem_of_find?_key
  · rintro ⟨ha, rfl⟩
    exact find?_key_of_mem hnodup ha

/-- The elements change, and keep their keys. -/
theorem find?_key_map {g : α → α} (hkey : ∀ a ∈ l, key (g a) = key a) :
    (l.map g).find? (fun b => key b = k) = (l.find? fun b => key b = k).map g := by
  induction l with
  | nil => rfl
  | cons x l ih =>
    have hrest := ih fun a ha => hkey a (List.mem_cons_of_mem _ ha)
    have hx := hkey x List.mem_cons_self
    rw [List.map_cons, List.find?_cons, List.find?_cons, hx, hrest]
    cases decide (key x = k) with
    | true => rfl
    | false => rfl

/-- The elements with a key go. -/
theorem find?_key_filter_ne (k' : κ) : (l.filter fun a => key a ≠ k').find? (fun b => key b = k)
    = if k = k' then none else l.find? fun b => key b = k := by
  split
  next hk =>
    subst hk
    refine List.find?_eq_none.mpr fun a ha hak => ?_
    have hne := (List.mem_filter.mp ha).2
    rw [decide_eq_true_eq] at hne hak
    exact hne hak
  next hk =>
    rw [List.find?_filter]
    congr 1
    funext a
    by_cases hak : key a = k
    · simp [hak, hk]
    · simp [hak]

end EdgeSensor.Lib
