import EdgeSensor.Py.JsonRoundTrip

/-!
# A JSON object in a file

`json.dumps` has layouts: `indent` puts line breaks and blanks between the items, `ensure_ascii`
writes characters as escapes. What a file is read for does not depend on the layout. `FileText`
is what all of them have in common: an object is read as what it was, and with the end of another
text behind it, it is not read at all.
-/

namespace EdgeSensor.Py.JsonCodec

open EdgeSensor.Lib

/-- A dict with its keys, as a file has one. -/
def IsBody (floats : FloatText) (x : Value) : Prop := WellFormed floats x ∧ x.isObj = true

/-- A layout of objects. -/
structure FileText (floats : FloatText) where
  dumps : Value → PyStr
  loads : PyStr → Option Value
  /-- The closing brace. -/
  getLast_dumps : ∀ x, IsBody floats x → (dumps x).getLast? = some 125
  loads_dumps : ∀ x, IsBody floats x → loads (dumps x) = some x
  loads_nil : loads [] = none
  /-- "Extra data". -/
  loads_extra : ∀ x tail, IsBody floats x → tail.getLast? = some 125 → loads (dumps x ++ tail) = none

variable {floats : FloatText}

theorem isBody_nil : IsBody floats (.obj []) := ⟨⟨List.nodup_nil, trivial⟩, rfl⟩

theorem IsBody.exists_fields {x : Value} (h : IsBody floats x) : ∃ fields, x = .obj fields := by
  cases x with
  | obj fields => exact ⟨fields, rfl⟩
  | null => exact absurd h.2 Bool.false_ne_true
  | bool b => exact absurd h.2 Bool.false_ne_true
  | int n => exact absurd h.2 Bool.false_ne_true
  | float x => exact absurd h.2 Bool.false_ne_true
  | str s => exact absurd h.2 Bool.false_ne_true
  | arr xs => exact absurd h.2 Bool.false_ne_true

theorem wellFormedFields_iff {fields : List (PyStr × Value)} :
    WellFormedFields floats fields ↔ ∀ kv ∈ fields, WellFormed floats kv.2 := by
  induction fields with
  | nil => exact ⟨fun _ _ h => absurd h List.not_mem_nil, fun _ => trivial⟩
  | cons kv fields ih => rw [List.forall_mem_cons, ← ih, WellFormedFields]

/-- An object that is overlaid with others is one. -/
theorem IsBody.update {body fields : Dict PyStr Value} (h : IsBody floats (.obj body))
    (hfields : ∀ kv ∈ fields, WellFormed floats kv.2) :
    IsBody floats (.obj (Dict.update body fields)) := by
  obtain ⟨⟨hkeys, hbody⟩, -⟩ := h
  refine ⟨⟨Dict.nodup_update hkeys fields, wellFormedFields_iff.mpr fun kv hkv => ?_⟩, rfl⟩
  rcases Dict.mem_update hkv with hold | hnew
  · exact wellFormedFields_iff.mp hbody kv hold
  · exact hfields kv hnew

/-! ## The layout without line breaks -/

theorem getLast_dumpsFields (fields : List (PyStr × Value)) :
    (dumpsFields floats fields).getLast? = some 125 := by
  induction fields with
  | nil => rfl
  | cons kv fields ih =>
    obtain ⟨key, x⟩ := kv
    have hfront : dumpsFields floats ((key, x) :: fields) =
        (44 :: 32 :: (encodeBasestring key ++ 58 :: 32 :: dumps floats x)) ++
          dumpsFields floats fields := by
      simp only [dumpsFields, List.cons_append, List.append_assoc]
    rw [hfront, List.getLast?_append, ih]
    rfl

theorem getLast_dumps {fields : List (PyStr × Value)} :
    (dumps floats (.obj fields)).getLast? = some 125 := by
  cases fields with
  | nil => rfl
  | cons kv fields =>
    obtain ⟨key, x⟩ := kv
    have hfront : dumps floats (.obj ((key, x) :: fields)) =
        (123 :: (encodeBasestring key ++ 58 :: 32 :: dumps floats x)) ++ dumpsFields floats fields := by
      simp only [dumps, List.cons_append, List.append_assoc]
    rw [hfront, List.getLast?_append, getLast_dumpsFields]
    rfl

/-- An object is read whatever comes after it. -/
theorem scanOnce_dumps_obj {fields : List (PyStr × Value)} (h : WellFormed floats (.obj fields))
    (fuel : Nat) (r : PyStr) (hfuel : (dumps floats (.obj fields)).length ≤ fuel) :
    scanOnce floats fuel (dumps floats (.obj fields) ++ r) = some (.obj fields, r) := by
  cases fields with
  | nil =>
    cases fuel with
    | zero => cases hfuel
    | succ fuel => rfl
  | cons kv fields =>
    obtain ⟨key, x⟩ := kv
    obtain ⟨hkeys, hx, hfields⟩ := h
    have hpos := dumps_length_pos hx
    simp only [dumps, List.length_cons, List.length_append] at hfuel
    match fuel with
    | 0 => omega
    | 1 => omega
    | fuel + 2 =>
      have hskip := (skip_dumps hx (dumpsFields floats fields ++ r)).1
      have hvalue := scanOnce_dumps x fuel (dumpsFields floats fields ++ r) hx (by omega)
        (dumpsFields_stops fields r)
      have hpairs := jsonObject_dumpsFields fields key x fuel _
        (dumps floats x ++ (dumpsFields floats fields ++ r)) r hfields
        (skip_encoded key _) (by rw [hskip, hvalue]) (by omega)
      rw [dumps, List.cons_append, List.append_assoc, List.cons_append, List.cons_append,
        List.append_assoc, scanOnce, if_neg (by decide), if_pos rfl, expect_encoded]
      simp only [hpairs, Option.map_some]
      rw [Dict.update_of_nodup (show ((([] : Dict PyStr Value) ++ _).map (·.1)).Nodup from hkeys)]
      rfl

theorem skip_ne_nil {tail : PyStr} (h : tail.getLast? = some 125) : skip tail ≠ [] := by
  intro hnil
  have hmem := List.mem_of_getLast? h
  have hspace := List.dropWhile_eq_nil_iff.mp hnil 125 hmem
  cases hspace

theorem loads_extra {x : Value} (hx : IsBody floats x) {tail : PyStr} (h : tail.getLast? = some 125) :
    loads floats (dumps floats x ++ tail) = none := by
  obtain ⟨fields, rfl⟩ := hx.exists_fields
  obtain ⟨c, t, ht, hspace, -, hmark⟩ := dumps_head hx.1
  have hskip : skip (dumps floats (.obj fields) ++ tail) = dumps floats (.obj fields) ++ tail := by
    rw [ht, List.cons_append, skip_cons hspace]
  have hread := scanOnce_dumps_obj hx.1 (2 * (dumps floats (.obj fields) ++ tail).length + 1) tail
    (by rw [List.length_append]; omega)
  unfold loads
  rw [hskip, hread]
  simp only [if_neg (skip_ne_nil h), ite_self]

/-- `ensure_ascii=False`, and no `indent`. -/
def plainText (floats : FloatText) : FileText floats where
  dumps := dumps floats
  loads := loads floats
  getLast_dumps _ hx := by
    obtain ⟨fields, rfl⟩ := hx.exists_fields
    exact getLast_dumps
  loads_dumps _ hx := loads_dumps hx.1
  loads_nil := rfl
  loads_extra _ _ hx h := loads_extra hx h

end EdgeSensor.Py.JsonCodec
