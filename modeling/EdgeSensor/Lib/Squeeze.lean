import Mathlib.Data.List.DropRight
import Mathlib.Data.List.Infix

/-!
# Runs made one

`squeeze p w` writes `w` for each run of members that satisfy `p`, and keeps the others. It goes
through a list from the left; the flag says that a run is going on. What is squeezed twice, by a
narrower condition first, is squeezed once (`squeeze_squeeze`).

`trimBy q` takes away what satisfies `q` at both ends. The two commute (`trimBy_squeeze`), so a cut
of what is squeezed and trimmed is a cut of what has been trimmed and not squeezed, counted in
`places` (`cut_iff`).
-/

namespace EdgeSensor.Lib

variable {α : Type} {p q : α → Bool} {w : α} {inRun : Bool} {s u v : List α} {c : α} {n : Nat}

/-- Each run that satisfies `p` written as `w`. -/
def squeeze (p : α → Bool) (w : α) : Bool → List α → List α
  | _, [] => []
  | inRun, c :: s =>
    if p c then if inRun then squeeze p w true s else w :: squeeze p w true s
    else c :: squeeze p w false s

/-- How many members there are if each run that satisfies `p` counts once. -/
def places (p : α → Bool) : Bool → List α → Nat
  | _, [] => 0
  | inRun, c :: s =>
    if p c then if inRun then places p true s else places p true s + 1 else places p false s + 1

/-- Whether a run is going on at the end. -/
def endsRun (p : α → Bool) : Bool → List α → Bool
  | inRun, [] => inRun
  | _, c :: s => endsRun p (p c) s

/-- Without what satisfies `q` at both ends. -/
def trimBy (q : α → Bool) (s : List α) : List α := (s.dropWhile q).rdropWhile q

/-! ## One step -/

theorem squeeze_of_not (h : p c = false) :
    squeeze p w inRun (c :: s) = c :: squeeze p w false s := by
  rw [squeeze, h]
  rfl

theorem squeeze_in (h : p c = true) : squeeze p w true (c :: s) = squeeze p w true s := by
  rw [squeeze, if_pos h]
  rfl

theorem squeeze_begin (h : p c = true) :
    squeeze p w false (c :: s) = w :: squeeze p w true s := by
  rw [squeeze, if_pos h]
  rfl

theorem length_squeeze (p : α → Bool) (w : α) (inRun : Bool) (s : List α) :
    (squeeze p w inRun s).length = places p inRun s := by
  induction s generalizing inRun with
  | nil => rfl
  | cons c s ih =>
    rw [squeeze, places]
    split
    · split
      · exact ih true
      · rw [List.length_cons, ih true]
    · rw [List.length_cons, ih false]

theorem length_squeeze_le (p : α → Bool) (w : α) (inRun : Bool) (s : List α) :
    (squeeze p w inRun s).length ≤ s.length := by
  induction s generalizing inRun with
  | nil => exact Nat.le_refl 0
  | cons c s ih =>
    have hin := ih true
    have hout := ih false
    rw [squeeze, List.length_cons]
    split
    · split
      · omega
      · rw [List.length_cons]
        omega
    · rw [List.length_cons]
      omega

theorem squeeze_eq_nil_iff : squeeze p w false s = [] ↔ s = [] := by
  cases s with
  | nil => exact ⟨fun _ => rfl, fun _ => rfl⟩
  | cons c s =>
    refine ⟨fun h => ?_, fun h => nomatch h⟩
    cases hc : p c with
    | false =>
      rw [squeeze_of_not hc] at h
      cases h
    | true =>
      rw [squeeze_begin hc] at h
      cases h

/-- What comes out is the mark of a run, or has been kept. -/
theorem mem_squeeze (h : c ∈ squeeze p w inRun s) : c = w ∨ c ∈ s ∧ p c = false := by
  induction s generalizing inRun with
  | nil => exact absurd h List.not_mem_nil
  | cons d s ih =>
    have hrest : ∀ {b}, c ∈ squeeze p w b s → c = w ∨ c ∈ d :: s ∧ p c = false := fun hc =>
      (ih hc).imp_right fun hkept => ⟨List.mem_cons_of_mem _ hkept.1, hkept.2⟩
    rw [squeeze] at h
    split at h
    next =>
      split at h
      next => exact hrest h
      next =>
        rcases List.mem_cons.mp h with rfl | h
        · exact .inl rfl
        · exact hrest h
    next hd =>
      rcases List.mem_cons.mp h with rfl | h
      · exact .inr ⟨List.mem_cons_self, Bool.eq_false_iff.mpr hd⟩
      · exact hrest h

/-! ## Parts -/

theorem squeeze_append (p : α → Bool) (w : α) (inRun : Bool) (s t : List α) :
    squeeze p w inRun (s ++ t)
      = squeeze p w inRun s ++ squeeze p w (endsRun p inRun s) t := by
  induction s generalizing inRun with
  | nil => rfl
  | cons c s ih =>
    rw [List.cons_append, squeeze, squeeze, endsRun]
    cases hc : p c with
    | false => exact congrArg (c :: ·) (ih false)
    | true =>
      cases inRun with
      | true => exact ih true
      | false => exact congrArg (w :: ·) (ih true)

/-- Where the squeezed list is cut, the list can be cut. -/
theorem exists_of_squeeze_eq_append (h : squeeze p w inRun s = u ++ v) :
    ∃ x y, s = x ++ y ∧ squeeze p w inRun x = u ∧ squeeze p w (endsRun p inRun x) y = v := by
  induction s generalizing inRun u with
  | nil =>
    obtain ⟨rfl, rfl⟩ := List.append_eq_nil_iff.mp h.symm
    exact ⟨[], [], rfl, rfl, rfl⟩
  | cons c s ih =>
    cases u with
    | nil => exact ⟨[], c :: s, rfl, rfl, h⟩
    | cons d u =>
      cases hc : p c with
      | false =>
        rw [squeeze_of_not hc] at h
        obtain ⟨rfl, htail⟩ := List.cons.inj h
        obtain ⟨x, y, rfl, hx, hy⟩ := ih htail
        refine ⟨c :: x, y, rfl, ?_, ?_⟩
        · rw [squeeze_of_not hc, hx]
        · rw [endsRun, hc, hy]
      | true =>
        cases inRun with
        | true =>
          rw [squeeze_in hc] at h
          obtain ⟨x, y, rfl, hx, hy⟩ := ih h
          refine ⟨c :: x, y, rfl, ?_, ?_⟩
          · rw [squeeze_in hc, hx]
          · rw [endsRun, hc, hy]
        | false =>
          rw [squeeze_begin hc] at h
          obtain ⟨rfl, htail⟩ := List.cons.inj h
          obtain ⟨x, y, rfl, hx, hy⟩ := ih htail
          refine ⟨c :: x, y, rfl, ?_, ?_⟩
          · rw [squeeze_begin hc, hx]
          · rw [endsRun, hc, hy]

/-- Squeezed by a narrower condition first. -/
theorem squeeze_squeeze {r : α → Bool} (hr : ∀ c, r c = (p c || q c)) (hw : q w = true)
    (s : List α) {inner outer : Bool} (h : inner = true → outer = true) :
    squeeze q w outer (squeeze p w inner s) = squeeze r w outer s := by
  induction s generalizing inner outer with
  | nil => rfl
  | cons c s ih =>
    cases hp : p c with
    | true =>
      have hc : r c = true := by rw [hr, hp, Bool.true_or]
      cases inner with
      | true =>
        rw [h rfl, squeeze_in hp, squeeze_in hc]
        exact ih fun _ => rfl
      | false =>
        rw [squeeze_begin hp]
        cases outer with
        | true =>
          rw [squeeze_in hw, squeeze_in hc]
          exact ih fun _ => rfl
        | false =>
          rw [squeeze_begin hw, squeeze_begin hc]
          exact congrArg (w :: ·) (ih fun _ => rfl)
    | false =>
      have hc : r c = q c := by rw [hr, hp, Bool.false_or]
      rw [squeeze_of_not hp, squeeze, squeeze, hc]
      split
      next =>
        rw [ih fun _ => rfl]
      next => rw [ih fun h => h]

/-- A beginning of what has been squeezed is squeezed already. -/
theorem squeeze_of_prefix (hw : p w = true) (h : u <+: squeeze p w false s) :
    squeeze p w false u = u := by
  obtain ⟨v, huv⟩ := h
  have hself : squeeze p w false (u ++ v) = u ++ v := by
    rw [huv]
    exact squeeze_squeeze (fun c => (Bool.or_self (p c)).symm) hw s fun h => h
  rw [squeeze_append] at hself
  have hu := length_squeeze_le p w false u
  have hv := length_squeeze_le p w (endsRun p false u) v
  have hlen := congrArg List.length hself
  rw [List.length_append, List.length_append] at hlen
  exact (List.append_inj hself (by omega)).1

/-- What is only changed inside runs makes no difference. -/
theorem squeeze_map {f : α → α} (hrun : ∀ c, p (f c) = p c) (hkept : ∀ c, p c = false → f c = c)
    (inRun : Bool) (s : List α) : squeeze p w inRun (s.map f) = squeeze p w inRun s := by
  induction s generalizing inRun with
  | nil => rfl
  | cons c s ih =>
    rw [List.map_cons, squeeze, squeeze, hrun, ih, ih]
    split
    next => rfl
    next hc => rw [hkept c (Bool.eq_false_iff.mpr hc)]

/-! ## Both ends -/

theorem isInfix_trimBy (q : α → Bool) (s : List α) : trimBy q s <:+: s :=
  (List.rdropWhile_prefix q _).isInfix.trans (List.dropWhile_suffix q).isInfix

theorem trimBy_head (h : (trimBy q s).head? = some c) : q c = false := by
  have hhead : (s.dropWhile q).head? = some c := by
    obtain ⟨t, ht⟩ := List.head?_eq_some_iff.mp h
    obtain ⟨r, hr⟩ := List.rdropWhile_prefix q (s.dropWhile q)
    rw [← hr]
    exact List.head?_eq_some_iff.mpr ⟨t ++ r, by rw [← trimBy, ht, List.cons_append]⟩
  have hnot := List.head?_dropWhile_not q s
  rw [hhead] at hnot
  exact hnot

theorem trimBy_getLast (h : (trimBy q s).getLast? = some c) : q c = false := by
  obtain ⟨hne, hlast⟩ := List.mem_getLast?_eq_getLast h
  rw [hlast]
  exact Bool.eq_false_iff.mpr (List.rdropWhile_last_not q (s.dropWhile q) hne)

/-- What has nothing to lose at its ends stays as it is. -/
theorem trimBy_eq_self (hhead : ∀ c, s.head? = some c → q c = false)
    (hlast : ∀ c, s.getLast? = some c → q c = false) : trimBy q s = s := by
  have hfirst : s.dropWhile q = s := by
    cases s with
    | nil => rfl
    | cons c s =>
      rw [List.dropWhile_cons, hhead c rfl]
      rfl
  rw [trimBy, hfirst, List.rdropWhile_eq_self_iff]
  intro hne
  rw [hlast _ (List.getLast?_eq_some_getLast hne)]
  exact Bool.false_ne_true

theorem dropWhile_congr {r : α → Bool} (h : ∀ c ∈ s, q c = r c) : s.dropWhile q = s.dropWhile r := by
  induction s with
  | nil => rfl
  | cons c s ih =>
    rw [List.forall_mem_cons] at h
    rw [List.dropWhile_cons, List.dropWhile_cons, h.1, ih h.2]

/-- Only the members count. -/
theorem trimBy_congr {r : α → Bool} (h : ∀ c ∈ s, q c = r c) : trimBy q s = trimBy r s := by
  have hrest : ∀ c ∈ (s.dropWhile r).reverse, q c = r c := fun c hc =>
    h c ((List.dropWhile_suffix r).mem (List.mem_reverse.mp hc))
  rw [trimBy, trimBy, dropWhile_congr h, List.rdropWhile, List.rdropWhile, dropWhile_congr hrest]

/-! ## Runs at the ends -/

/-- What is kept by `q` is in no run. -/
theorem eq_false_of_imp (hpq : ∀ c, p c = true → q c = true) (hc : q c = false) : p c = false :=
  Bool.eq_false_iff.mpr fun hp => absurd (hpq c hp) (by rw [hc]; exact Bool.false_ne_true)

theorem dropWhile_squeeze (hpq : ∀ c, p c = true → q c = true) (hw : q w = true) (inRun : Bool)
    (s : List α) : (squeeze p w inRun s).dropWhile q = squeeze p w false (s.dropWhile q) := by
  induction s generalizing inRun with
  | nil => rfl
  | cons c s ih =>
    rw [List.dropWhile_cons]
    cases hq : q c with
    | false =>
      have hp : p c = false := eq_false_of_imp hpq hq
      rw [squeeze_of_not hp, List.dropWhile_cons, hq]
      exact (squeeze_of_not hp).symm
    | true =>
      rw [if_pos rfl, squeeze]
      split
      · split
        · exact ih true
        · rw [List.dropWhile_cons, if_pos hw, ih true]
      · rw [List.dropWhile_cons, if_pos hq, ih false]

theorem rdropWhile_squeeze (hpq : ∀ c, p c = true → q c = true) (hw : q w = true) (s : List α) :
    (squeeze p w false s).rdropWhile q = squeeze p w false (s.rdropWhile q) := by
  induction s using List.reverseRecOn with
  | nil => rfl
  | append_singleton s c ih =>
    rw [squeeze_append, List.rdropWhile_concat]
    cases hq : q c with
    | false =>
      have hp : p c = false := eq_false_of_imp hpq hq
      have hnot : ¬ q c = true := by
        rw [hq]
        exact Bool.false_ne_true
      rw [squeeze_of_not hp, squeeze, List.rdropWhile_concat_neg _ _ _ hnot]
      show _ = squeeze p w false (s ++ [c])
      rw [squeeze_append, squeeze_of_not hp]
      rfl
    | true =>
      rw [if_pos rfl, ← ih, squeeze]
      split
      · split
        · rw [squeeze, List.append_nil]
        · rw [squeeze, List.rdropWhile_concat_pos _ _ _ hw]
      · rw [squeeze, List.rdropWhile_concat_pos _ _ _ hq]

/-- Runs are trimmed off whether they have been squeezed or not. -/
theorem trimBy_squeeze (hpq : ∀ c, p c = true → q c = true) (hw : q w = true) (inRun : Bool)
    (s : List α) : trimBy q (squeeze p w inRun s) = squeeze p w false (trimBy q s) := by
  rw [trimBy, dropWhile_squeeze hpq hw, rdropWhile_squeeze hpq hw, trimBy]

theorem endsRun_concat (inRun : Bool) (s : List α) (c : α) : endsRun p inRun (s ++ [c]) = p c := by
  induction s generalizing inRun with
  | nil => rfl
  | cons d s ih => exact ih _

/-- The last member that comes out satisfies `q` as the last that went in does. -/
theorem squeeze_getLast (hpq : ∀ c, p c = true → q c = true) (hw : q w = true)
    (h : s.getLast? = some c) : ∃ d, (squeeze p w false s).getLast? = some d ∧ q d = q c := by
  induction s using List.reverseRecOn generalizing c with
  | nil => cases h
  | append_singleton s e ih =>
    rw [List.getLast?_concat] at h
    obtain rfl : e = c := Option.some.inj h
    rw [squeeze_append]
    cases hc : p e with
    | false =>
      rw [squeeze_of_not hc, squeeze]
      exact ⟨e, List.getLast?_concat, rfl⟩
    | true =>
      cases hrun : endsRun p false s with
      | false =>
        rw [squeeze_begin hc, squeeze]
        exact ⟨w, List.getLast?_concat, by rw [hw, hpq e hc]⟩
      | true =>
        -- the run has begun before, so the last of what comes before is in it
        rw [squeeze_in hc, squeeze, List.append_nil]
        cases s using List.reverseRecOn with
        | nil => cases hrun
        | append_singleton s d =>
          rw [endsRun_concat] at hrun
          obtain ⟨x, hx, hqx⟩ := ih List.getLast?_concat
          exact ⟨x, hx, by rw [hqx, hpq d hrun, hpq e hc]⟩

/-- Behind the first `n` places of what has been trimmed stands a member of `q`. -/
def CutAt (p q : α → Bool) (n : Nat) (s : List α) : Prop :=
  ∃ body, body <+: trimBy q s ∧ places p false body = n
    ∧ ∃ c, body.getLast? = some c ∧ q c = true

/-- That is to say, the first `n` members of what has been squeezed and trimmed end so. -/
theorem cutAt_iff (hpq : ∀ c, p c = true → q c = true) (hw : q w = true) :
    CutAt p q n s
      ↔ ∃ c, ((trimBy q (squeeze p w false s)).take n).getLast? = some c ∧ q c = true := by
  rw [trimBy_squeeze hpq hw]
  constructor
  · rintro ⟨body, ⟨rest, hrest⟩, hplaces, c, hc, hqc⟩
    obtain ⟨d, hd, hqd⟩ := squeeze_getLast hpq hw hc
    refine ⟨d, ?_, hqd.trans hqc⟩
    rw [← length_squeeze p w] at hplaces
    rw [← hrest, squeeze_append, ← hplaces, List.take_left]
    exact hd
  · rintro ⟨c, hc, hqc⟩
    obtain ⟨body, rest, hbody, hfirst, -⟩ := exists_of_squeeze_eq_append
      (List.take_append_drop n (squeeze p w false (trimBy q s))).symm
    refine ⟨body, ⟨rest, hbody.symm⟩, ?_, ?_⟩
    · rw [← length_squeeze p w, hfirst, List.length_take, Nat.min_eq_left]
      -- all of it does not end so
      by_contra hlen
      rw [List.take_of_length_le (by omega), ← trimBy_squeeze hpq hw false s] at hc
      rw [trimBy_getLast hc] at hqc
      cases hqc
    · cases hlast : body.getLast? with
      | none =>
        rw [List.getLast?_eq_none_iff.mp hlast, squeeze] at hfirst
        rw [← hfirst] at hc
        cases hc
      | some d =>
        obtain ⟨e, he, hqe⟩ := squeeze_getLast hpq hw hlast
        rw [hfirst, hc] at he
        cases he
        exact ⟨d, rfl, hqe.symm.trans hqc⟩

end EdgeSensor.Lib
