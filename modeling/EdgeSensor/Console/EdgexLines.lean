import EdgeSensor.Console.EdgexConfig

/-!
# Which lines of a text are taken for devices

The pattern of a device line is of one match at a place, but its `\s` takes line ends as well: a
device may be spread over lines, and what a line is depends on the lines around it. `LineState`
goes through the text once from where a line starts, and says when the pattern matches there.

So the text that the console writes can be gone through piece by piece. What is written in any
case is `Quiet`: no line of it is the beginning of a device, whatever comes after. And it
`Settles` what stands before it: a value that goes into the file has its devices in itself.
-/

namespace EdgeSensor.Console

open EdgeSensor.Lib EdgeSensor.Py EdgeSensor.Py.Regex

/-! ## Going through a line -/

/-- How much of a device line has been read. -/
inductive LineState where
  | start
  | indent
  | dash
  | afterDash
  | n
  | na
  | nam
  | name
  | colon
  | afterColon
  | word
  | blank
  | yes
  | no
  deriving DecidableEq

namespace LineState

/-- A character of the text. -/
def next : LineState → Nat → LineState
  | .start, c => if isSpacePoint c then .indent else .no
  | .indent, c => if isSpacePoint c then .indent else if c = 45 then .dash else .no
  | .dash, c => if isSpacePoint c then .afterDash else .no
  | .afterDash, c => if isSpacePoint c then .afterDash else if c = 110 then .n else .no
  | .n, c => if c = 97 then .na else .no
  | .na, c => if c = 109 then .nam else .no
  | .nam, c => if c = 101 then .name else .no
  | .name, c => if c = 58 then .colon else .no
  | .colon, c => if isSpacePoint c then .afterColon else .no
  | .afterColon, c => if isSpacePoint c then .afterColon else .word
  | .word, c => if c = 10 then .yes else if isSpacePoint c then .blank else .word
  | .blank, c => if c = 10 then .yes else if isSpacePoint c then .blank else .no
  | .yes, _ => .yes
  | .no, _ => .no

/-- The text may end here. -/
def ends : LineState → Bool
  | .word | .blank | .yes => true
  | _ => false

/-- The state after some text. -/
def after (σ : LineState) (s : PyStr) : LineState := s.foldl next σ

theorem after_append (σ : LineState) (s t : PyStr) : σ.after (s ++ t) = (σ.after s).after t :=
  List.foldl_append

/-- The rest of the text completes a device line. -/
def Accepts (σ : LineState) (s : PyStr) : Prop := (σ.after s).ends = true

instance (σ : LineState) (s : PyStr) : Decidable (σ.Accepts s) :=
  inferInstanceAs (Decidable (_ = true))

theorem after_yes (s : PyStr) : LineState.yes.after s = .yes := by
  induction s with
  | nil => rfl
  | cons c s ih => exact ih

theorem after_no (s : PyStr) : LineState.no.after s = .no := by
  induction s with
  | nil => rfl
  | cons c s ih => exact ih

theorem accepts_yes (s : PyStr) : LineState.yes.Accepts s := by
  unfold Accepts
  rw [after_yes]
  rfl

theorem not_accepts_no (s : PyStr) : ¬ LineState.no.Accepts s := by
  unfold Accepts
  rw [after_no]
  decide

end LineState

/-! ## The pattern, from its end to its beginning -/

section Pattern

open LineState

variable {σ τ : LineState} {r : Regex} {cur : Cursor} {start : Bool} {groups : List (Nat × PyStr)}
  {c : Nat} {s t w : PyStr}

/-- In a gap the spaces do not count. -/
theorem accepts_gap (h : ∀ c, isSpacePoint c = true → σ.next c = σ)
    (hw : ∀ c ∈ w, isSpacePoint c = true) (t : PyStr) : σ.Accepts (w ++ t) ↔ σ.Accepts t := by
  induction w with
  | nil => exact Iff.rfl
  | cons c w ih =>
    obtain ⟨hc, hw⟩ := List.forall_mem_cons.mp hw
    show (σ.next c).Accepts (w ++ t) ↔ _
    rw [h c hc, ih hw]

/-- A gap that the text does not end in is followed by something else. -/
theorem exists_of_accepts_gap (h : ∀ c, isSpacePoint c = true → σ.next c = σ)
    (hends : σ.ends = false) (hacc : σ.Accepts s) :
    ∃ w c t, s = w ++ c :: t ∧ (∀ d ∈ w, isSpacePoint d = true) ∧ isSpacePoint c = false
      ∧ σ.Accepts (c :: t) := by
  induction s with
  | nil =>
    have hend : σ.ends = true := hacc
    rw [hends] at hend
    cases hend
  | cons c s ih =>
    cases hc : isSpacePoint c with
    | false => exact ⟨[], c, s, rfl, fun d hd => absurd hd List.not_mem_nil, hc, hacc⟩
    | true =>
      have hrest : (σ.next c).Accepts s := hacc
      rw [h c hc] at hrest
      obtain ⟨w, d, t, hs, hw, hd, hacc⟩ := ih hrest
      exact ⟨c :: w, d, t, congrArg (c :: ·) hs, List.forall_mem_cons.mpr ⟨hc, hw⟩, hd, hacc⟩

/-- What the rest of the pattern is, after the spaces. -/
def GoesAs (r : Regex) (σ : LineState) : Prop :=
  ∀ cur, Goes r cur ↔ ∃ c t, cur.rest = c :: t ∧ isSpacePoint c = false ∧ σ.Accepts (c :: t)

/-- Spaces in front: one at least, and then all of them are read. -/
theorem goes_spaces (hfirst : ∀ c, τ.next c = if isSpacePoint c then σ else .no)
    (hgap : ∀ c, isSpacePoint c = true → σ.next c = σ) (hτ : τ.ends = false)
    (hσ : σ.ends = false) (h : GoesAs r σ) (cur : Cursor) :
    Goes (.seq (plus true isSpacePoint) r) cur ↔ τ.Accepts cur.rest := by
  rw [goes_plus]
  constructor
  · intro hgoes
    obtain ⟨w, t, hs, hne, hw, hgoes⟩ := hgoes
    obtain ⟨c', t', ht, -, hacc⟩ := (h _).mp hgoes
    obtain rfl : t = c' :: t' := ht
    cases w with
    | nil => exact absurd rfl hne
    | cons c w =>
      obtain ⟨hc, hw⟩ := List.forall_mem_cons.mp hw
      rw [hs]
      show (τ.next c).Accepts (w ++ c' :: t')
      rw [hfirst, if_pos hc, accepts_gap hgap hw]
      exact hacc
  · intro hacc
    obtain ⟨start, s, groups⟩ := cur
    cases s with
    | nil =>
      have hend : τ.ends = true := hacc
      rw [hτ] at hend
      cases hend
    | cons c s =>
      have hrest : (τ.next c).Accepts s := hacc
      rw [hfirst] at hrest
      split at hrest
      next hc =>
        obtain ⟨w, d, t, hs, hw, hd, hacc⟩ := exists_of_accepts_gap hgap hσ hrest
        exact ⟨c :: w, d :: t, congrArg (c :: ·) hs, List.cons_ne_nil _ _,
          List.forall_mem_cons.mpr ⟨hc, hw⟩, (h _).mpr ⟨d, t, rfl, hd, hacc⟩⟩
      next => exact absurd hrest (not_accepts_no s)

/-- `\s*$`: the line ends, or the text, after some spaces. -/
theorem goes_blank (cur : Cursor) :
    Goes (.seq (.many true isSpacePoint) .lineEnd) cur ↔ LineState.blank.Accepts cur.rest := by
  have hend : ∀ cur, Goes .lineEnd cur ↔ cur.rest = [] ∨ cur.rest.head? = some 10 := by
    intro cur
    unfold Goes
    rw [run]
    split
    next h => exact ⟨fun _ => h, fun _ => ⟨cur, List.mem_singleton_self cur⟩⟩
    next h => exact ⟨fun hgoes => absurd hgoes.choose_spec List.not_mem_nil, fun h' => absurd h' h⟩
  have hgoes : Goes (.seq (.many true isSpacePoint) .lineEnd) cur
      ↔ ∃ w t, cur.rest = w ++ t ∧ (∀ c ∈ w, isSpacePoint c = true) ∧ (t = [] ∨ t.head? = some 10) := by
    constructor
    · intro h
      obtain ⟨done, hdone⟩ := h
      obtain ⟨mid, hmid, hdone⟩ := mem_run_seq.mp hdone
      obtain ⟨w, t, hs, hw, rfl⟩ := mem_run_many.mp hmid
      exact ⟨w, t, hs, hw, (hend _).mp ⟨done, hdone⟩⟩
    · intro h
      obtain ⟨w, t, hs, hw, ht⟩ := h
      obtain ⟨done, hdone⟩ := (hend ⟨startAfter cur.atStart w, t, cur.groups⟩).mpr ht
      exact ⟨done, mem_run_seq.mpr ⟨_, mem_run_many.mpr ⟨w, t, hs, hw, rfl⟩, hdone⟩⟩
  rw [hgoes]
  generalize cur.rest = s
  induction s with
  | nil => exact ⟨fun _ => rfl, fun _ => ⟨[], [], rfl, fun c hc => absurd hc List.not_mem_nil, .inl rfl⟩⟩
  | cons c s ih =>
    show _ ↔ (LineState.blank.next c).Accepts s
    constructor
    · intro h
      obtain ⟨w, t, hs, hw, ht⟩ := h
      cases w with
      | nil =>
        have ht' : t = c :: s := hs.symm
        rw [ht'] at ht
        have hc : c = 10 := by simpa using ht
        rw [hc]
        exact accepts_yes s
      | cons d w =>
        obtain ⟨rfl, hrest⟩ := List.cons.inj hs
        obtain ⟨hc, hw⟩ := List.forall_mem_cons.mp hw
        rw [LineState.next]
        split
        next => exact accepts_yes s
        next => exact ih.mp ⟨w, t, hrest, hw, ht⟩
    · intro hacc
      rw [LineState.next] at hacc
      split at hacc
      next hc => exact ⟨[], c :: s, rfl, fun c hc => absurd hc List.not_mem_nil, .inr (by rw [hc]; rfl)⟩
      next =>
        split at hacc
        next hc =>
          obtain ⟨w, t, hs, hw, ht⟩ := ih.mpr hacc
          exact ⟨c :: w, t, congrArg (c :: ·) hs, List.forall_mem_cons.mpr ⟨hc, hw⟩, ht⟩
        next => exact absurd hacc (not_accepts_no s)

/-- The name goes on to the next space. -/
theorem accepts_word : LineState.word.Accepts s
    ↔ ∃ w t, s = w ++ t ∧ (∀ c ∈ w, isSpacePoint c = false) ∧ LineState.blank.Accepts t := by
  have hnil : ∀ s, LineState.blank.Accepts s → ∃ w t, s = w ++ t
      ∧ (∀ c ∈ w, isSpacePoint c = false) ∧ LineState.blank.Accepts t :=
    fun s h => ⟨[], s, rfl, fun c hc => absurd hc List.not_mem_nil, h⟩
  induction s with
  | nil => exact ⟨hnil [], fun _ => rfl⟩
  | cons c s ih =>
    cases hc : isSpacePoint c with
    | true =>
      have hnext : LineState.word.next c = LineState.blank.next c := by
        rw [LineState.next, LineState.next, hc]
        rfl
      have hsame : LineState.word.Accepts (c :: s) ↔ LineState.blank.Accepts (c :: s) := by
        show (LineState.word.next c).Accepts s ↔ (LineState.blank.next c).Accepts s
        rw [hnext]
      rw [hsame]
      constructor
      · exact hnil (c :: s)
      · intro h
        obtain ⟨w, t, hs, hw, ht⟩ := h
        cases w with
        | nil =>
          rw [hs]
          exact ht
        | cons d w =>
          obtain ⟨rfl, -⟩ := List.cons.inj hs
          rw [hw c List.mem_cons_self] at hc
          cases hc
    | false =>
      have hne : c ≠ 10 := by
        rintro rfl
        cases hc
      have hnext : LineState.word.next c = .word := by
        rw [LineState.next, if_neg hne, hc]
        rfl
      have hblank : LineState.blank.next c = .no := by
        rw [LineState.next, if_neg hne, hc]
        rfl
      show (LineState.word.next c).Accepts s ↔ _
      rw [hnext]
      refine ih.trans ?_
      constructor
      · intro h
        obtain ⟨w, t, hs, hw, ht⟩ := h
        exact ⟨c :: w, t, congrArg (c :: ·) hs, List.forall_mem_cons.mpr ⟨hc, hw⟩, ht⟩
      · intro h
        obtain ⟨w, t, hs, hw, ht⟩ := h
        cases w with
        | nil =>
          have ht' : t = c :: s := hs.symm
          rw [ht'] at ht
          have hacc : (LineState.blank.next c).Accepts s := ht
          rw [hblank] at hacc
          exact absurd hacc (not_accepts_no s)
        | cons d w =>
          obtain ⟨rfl, hrest⟩ := List.cons.inj hs
          exact ⟨w, t, hrest, (List.forall_mem_cons.mp hw).2, ht⟩

/-- `(\S+)\s*$` -/
theorem goesAs_name :
    GoesAs (.seq (.group 1 (plus true fun c => !isSpacePoint c))
      (.seq (.many true isSpacePoint) .lineEnd)) .afterColon := by
  intro cur
  have hgoes : Goes (.seq (.group 1 (plus true fun c => !isSpacePoint c))
      (.seq (.many true isSpacePoint) .lineEnd)) cur
      ↔ ∃ w t, cur.rest = w ++ t ∧ w ≠ [] ∧ (∀ c ∈ w, (!isSpacePoint c) = true)
        ∧ LineState.blank.Accepts t := by
    constructor
    · intro h
      obtain ⟨done, hdone⟩ := h
      obtain ⟨mid, hmid, hdone⟩ := mem_run_seq.mp hdone
      obtain ⟨mid', hmid', w', -, rfl⟩ := mem_run_group.mp hmid
      obtain ⟨w, t, hs, hne, hw, rfl⟩ := mem_run_plus.mp hmid'
      exact ⟨w, t, hs, hne, hw, (goes_blank _).mp ⟨done, hdone⟩⟩
    · intro h
      obtain ⟨w, t, hs, hne, hw, ht⟩ := h
      obtain ⟨done, hdone⟩ :=
        (goes_blank ⟨startAfter cur.atStart w, t, Dict.set cur.groups 1 w⟩).mpr ht
      exact ⟨done, mem_run_seq.mpr ⟨_, mem_run_group.mpr
        ⟨_, mem_run_plus.mpr ⟨w, t, hs, hne, hw, rfl⟩, w, hs, rfl⟩, hdone⟩⟩
  rw [hgoes]
  constructor
  · intro h
    obtain ⟨w, t, hs, hne, hw, ht⟩ := h
    cases w with
    | nil => exact absurd rfl hne
    | cons c w =>
      obtain ⟨hc, hw⟩ := List.forall_mem_cons.mp hw
      rw [Bool.not_eq_true'] at hc
      refine ⟨c, w ++ t, hs, hc, ?_⟩
      show (LineState.afterColon.next c).Accepts (w ++ t)
      rw [LineState.next, hc]
      exact accepts_word.mpr ⟨w, t, rfl, fun c hc => Bool.not_eq_true' _ ▸ hw c hc, ht⟩
  · intro h
    obtain ⟨c, s, hs, hc, hacc⟩ := h
    have hword : (LineState.afterColon.next c).Accepts s := hacc
    rw [LineState.next, hc] at hword
    obtain ⟨w, t, rfl, hw, ht⟩ := accepts_word.mp hword
    refine ⟨c :: w, t, hs, List.cons_ne_nil _ _, List.forall_mem_cons.mpr ⟨?_, ?_⟩, ht⟩
    · rw [hc]
      rfl
    · intro d hd
      rw [hw d hd]
      rfl

/-- A character that is the only one to go on. -/
theorem exists_of_accepts_char (σ τ : LineState) (d : Nat)
    (hnext : ∀ c, σ.next c = if c = d then τ else .no) (hends : σ.ends = false)
    (h : σ.Accepts s) : ∃ t, s = d :: t ∧ τ.Accepts t := by
  cases s with
  | nil =>
    have hend : σ.ends = true := h
    rw [hends] at hend
    cases hend
  | cons c s =>
    have hrest : (σ.next c).Accepts s := h
    rw [hnext] at hrest
    split at hrest
    next hc => exact ⟨s, by rw [hc], hrest⟩
    next => exact absurd hrest (not_accepts_no s)

/-- A word of the pattern, and what is behind it. -/
theorem goesAs_word {l : String} {u : PyStr} (d : Nat) (hl : lit l = d :: u)
    (hd : isSpacePoint d = false) (hafter : σ.after (lit l) = τ)
    (hσ : ∀ c s, isSpacePoint c = false → σ.Accepts (c :: s) → ∃ t, c :: s = lit l ++ t)
    (h : ∀ cur, Goes r cur ↔ τ.Accepts cur.rest) : GoesAs (.seq (Regex.word l) r) σ := by
  intro cur
  rw [goes_word]
  have hacc : ∀ t, σ.Accepts (lit l ++ t) ↔ τ.Accepts t := by
    intro t
    unfold LineState.Accepts
    rw [after_append, hafter]
  constructor
  · intro hgoes
    obtain ⟨t, hs, hgoes⟩ := hgoes
    have ht := (hacc t).mpr ((h _).mp hgoes)
    rw [hl] at hs ht
    exact ⟨d, u ++ t, hs, hd, ht⟩
  · intro hgoes
    obtain ⟨c, t, hs, hc, hgoes⟩ := hgoes
    obtain ⟨t', ht'⟩ := hσ c t hc hgoes
    rw [ht'] at hs hgoes
    exact ⟨t', hs, (h _).mpr ((hacc t').mp hgoes)⟩

theorem goesAs_nameKey (h : ∀ cur, Goes r cur ↔ LineState.colon.Accepts cur.rest) :
    GoesAs (.seq (Regex.word "name:") r) .afterDash := by
  refine goesAs_word 110 rfl (by decide) (by decide) ?_ h
  intro c s hc hacc
  have hrest : (LineState.afterDash.next c).Accepts s := hacc
  rw [LineState.next, hc, if_neg (by decide)] at hrest
  split at hrest
  next hn =>
    obtain ⟨s, rfl, hna⟩ := exists_of_accepts_char .n .na 97 (fun _ => rfl) rfl hrest
    obtain ⟨s, rfl, hnam⟩ := exists_of_accepts_char .na .nam 109 (fun _ => rfl) rfl hna
    obtain ⟨s, rfl, hname⟩ := exists_of_accepts_char .nam .name 101 (fun _ => rfl) rfl hnam
    obtain ⟨s, rfl, -⟩ := exists_of_accepts_char .name .colon 58 (fun _ => rfl) rfl hname
    exact ⟨s, by rw [hn]; rfl⟩
  next => exact absurd hrest (not_accepts_no s)

theorem goesAs_dash (h : ∀ cur, Goes r cur ↔ LineState.dash.Accepts cur.rest) :
    GoesAs (.seq (Regex.word "-") r) .indent := by
  refine goesAs_word 45 rfl (by decide) (by decide) ?_ h
  intro c s hc hacc
  have hrest : (LineState.indent.next c).Accepts s := hacc
  rw [LineState.next, hc, if_neg (by decide)] at hrest
  split at hrest
  next hdash => exact ⟨s, by rw [hdash]; rfl⟩
  next => exact absurd hrest (not_accepts_no s)

/-- The pattern of a device line is the walk through a line. -/
theorem goes_anyDevice (cur : Cursor) :
    Goes anyDevice cur ↔ cur.atStart = true ∧ LineState.start.Accepts cur.rest := by
  have hgap : ∀ σ : LineState, σ = .indent ∨ σ = .afterDash ∨ σ = .afterColon →
      ∀ c, isSpacePoint c = true → σ.next c = σ := by
    intro σ hσ c hc
    rcases hσ with rfl | rfl | rfl <;> rw [LineState.next, if_pos hc]
  have hname : ∀ cur, Goes _ cur ↔ LineState.colon.Accepts cur.rest :=
    goes_spaces (fun _ => rfl) (hgap _ (.inr (.inr rfl))) rfl rfl goesAs_name
  have hkey : ∀ cur, Goes _ cur ↔ LineState.dash.Accepts cur.rest :=
    goes_spaces (fun _ => rfl) (hgap _ (.inr (.inl rfl))) rfl rfl (goesAs_nameKey hname)
  have hdash : ∀ cur, Goes _ cur ↔ LineState.start.Accepts cur.rest :=
    goes_spaces (fun _ => rfl) (hgap _ (.inl rfl)) rfl rfl (goesAs_dash hkey)
  unfold anyDevice deviceLine
  constructor
  · intro h
    obtain ⟨done, hdone⟩ := h
    obtain ⟨mid, hmid, hdone⟩ := mem_run_seq.mp hdone
    rw [run] at hmid
    split at hmid
    next hstart =>
      rw [List.mem_singleton.mp hmid] at hdone
      exact ⟨hstart, (hdash cur).mp ⟨done, hdone⟩⟩
    next => exact absurd hmid List.not_mem_nil
  · intro h
    obtain ⟨done, hdone⟩ := (hdash cur).mpr h.2
    refine ⟨done, mem_run_seq.mpr ⟨cur, ?_, hdone⟩⟩
    rw [run, if_pos h.1]
    exact List.mem_singleton_self cur

end Pattern

/-! ## What is written in any case -/

section Texts

variable {start mid stop : Bool} {s t u v w : PyStr}

/-- A device line begins here. -/
def DeviceAt (start : Bool) (s : PyStr) : Prop := start = true ∧ LineState.start.Accepts s

theorem matches_anyDevice : anyDevice.Matches = DeviceAt := by
  funext start s
  exact propext (goes_anyDevice ⟨start, s, []⟩)

theorem not_somewhere_nil (start : Bool) : ¬ Somewhere DeviceAt start [] := by
  intro h
  cases h.2

/-- Each line that begins in the text has gone wrong where the text ends. -/
def deadLines : Bool → PyStr → Bool
  | _, [] => true
  | start, c :: s => (!start || LineState.start.after (c :: s) == .no) && deadLines (c == 10) s

/-- No device line begins in the text, whatever comes after it. -/
structure Quiet (start : Bool) (s : PyStr) (stop : Bool) : Prop where
  dead : deadLines start s = true
  stops : startAfter start s = stop
  noCr : 13 ∉ s

/-- For a text that is given. -/
def isQuiet (start : Bool) (s : PyStr) (stop : Bool) : Bool :=
  deadLines start s && startAfter start s == stop && s.all fun c => c != 13

theorem Quiet.of_isQuiet (h : isQuiet start s stop = true) : Quiet start s stop := by
  rw [isQuiet, Bool.and_eq_true, Bool.and_eq_true, beq_iff_eq, List.all_eq_true] at h
  refine ⟨h.1.1, h.1.2, fun hmem => ?_⟩
  have hne := h.2 13 hmem
  cases hne

theorem deadLines_append (hs : deadLines start s = true)
    (ht : deadLines (startAfter start s) t = true) : deadLines start (s ++ t) = true := by
  induction s generalizing start with
  | nil => exact ht
  | cons c s ih =>
    rw [deadLines, Bool.and_eq_true, Bool.or_eq_true, beq_iff_eq] at hs
    rw [List.cons_append, deadLines, Bool.and_eq_true, Bool.or_eq_true, beq_iff_eq]
    refine ⟨hs.1.imp_right fun hno => ?_, ih hs.2 ht⟩
    rw [← List.cons_append, LineState.after_append, hno, LineState.after_no]

theorem Quiet.append (hs : Quiet start s mid) (ht : Quiet mid t stop) :
    Quiet start (s ++ t) stop where
  dead := deadLines_append hs.dead (by rw [hs.stops]; exact ht.dead)
  stops := by rw [startAfter_append, hs.stops, ht.stops]
  noCr := by
    rw [List.mem_append, not_or]
    exact ⟨hs.noCr, ht.noCr⟩

/-- A part of a line. -/
theorem Quiet.inLine (hcr : 13 ∉ s) (hlf : 10 ∉ s) : Quiet false s false := by
  refine ⟨?_, startAfter_inLine hlf, hcr⟩
  clear hcr
  induction s with
  | nil => rfl
  | cons c s ih =>
    rw [List.mem_cons, not_or] at hlf
    rw [deadLines, beq_eq_false_iff_ne.mpr (Ne.symm hlf.1), ih hlf.2]
    rfl

/-- The characters of a literal, without going through its bytes. -/
theorem lit_ofList (l : List Char) : lit (String.ofList l) = l.map Char.toNat := by
  unfold lit
  rw [String.toList_ofList]

theorem quiet_lit {l : List Char} (h : isQuiet start (l.map Char.toNat) stop = true) :
    Quiet start (lit (String.ofList l)) stop := by
  rw [lit_ofList]
  exact .of_isQuiet h

theorem quiet_yaml_nil : Quiet true (yaml []) true := .of_isQuiet rfl

/-- Line by line. -/
theorem quiet_yaml_cons {l : List Char} {lines : List String}
    (h : isQuiet true (l.map Char.toNat ++ [10]) true = true) (hlines : Quiet true (yaml lines) true) :
    Quiet true (yaml (String.ofList l :: lines)) true := by
  show Quiet true ((String.ofList l :: lines).flatMap _) true
  rw [List.flatMap_cons, lit_ofList]
  exact (Quiet.of_isQuiet h).append hlines

/-- Lines, and the beginning of one. -/
theorem quiet_yaml_append {l : List Char} {lines : List String} (hlines : Quiet true (yaml lines) true)
    (h : isQuiet true (l.map Char.toNat) false = true) :
    Quiet true (yaml lines ++ lit (String.ofList l)) false :=
  hlines.append (quiet_lit h)

/-- No device begins at a place of the text. -/
theorem not_deviceAt_of_dead {c : Nat} (h : deadLines start (c :: s) = true) (t : PyStr) :
    ¬ DeviceAt start (c :: s ++ t) := by
  rw [deadLines, Bool.and_eq_true, Bool.or_eq_true, beq_iff_eq] at h
  rintro ⟨hstart, hacc⟩
  rcases h.1 with hnot | hno
  · rw [hstart] at hnot
    cases hnot
  · unfold LineState.Accepts at hacc
    rw [LineState.after_append, hno] at hacc
    exact LineState.not_accepts_no t hacc

/-- Devices are in what comes after a quiet text. -/
theorem somewhere_quiet (h : Quiet start s stop) (t : PyStr) :
    Somewhere DeviceAt start (s ++ t) ↔ Somewhere DeviceAt stop t := by
  obtain ⟨hdead, rfl, -⟩ := h
  induction s generalizing start with
  | nil => exact Iff.rfl
  | cons c s ih =>
    have hrest : deadLines (c == 10) s = true := (Bool.and_eq_true _ _ ▸ hdead).2
    show (DeviceAt start (c :: s ++ t) ∨ Somewhere DeviceAt (c == 10) (s ++ t)) ↔ _
    rw [ih hrest, or_iff_right (not_deviceAt_of_dead hdead t)]
    rfl

/-- And `finditer` goes over a quiet text. -/
theorem pieces_quiet (h : Quiet start s stop) (t : PyStr) :
    anyDevice.pieces 0 start (s ++ t) = s.map .char ++ anyDevice.pieces 0 stop t := by
  obtain ⟨hdead, rfl, -⟩ := h
  induction s generalizing start with
  | nil => rfl
  | cons c s ih =>
    have hrest : deadLines (c == 10) s = true := (Bool.and_eq_true _ _ ▸ hdead).2
    have hmiss : anyDevice.matchAt ⟨start, c :: (s ++ t), []⟩ = none := by
      by_contra hmatch
      have hat : anyDevice.Matches start (c :: s ++ t) := matches_iff.mpr hmatch
      rw [matches_anyDevice] at hat
      exact not_deviceAt_of_dead hdead t hat
    rw [List.cons_append, pieces_miss hmiss, ih hrest]
    rfl

/-- After its line end the text settles what stood before. -/
def Settles (s : PyStr) : Prop :=
  ∀ σ : LineState, σ.after (10 :: s) = if σ.ends then .yes else .no

theorem Settles.append (h : Settles s) (t : PyStr) : Settles (s ++ t) := by
  intro σ
  rw [← List.cons_append, LineState.after_append, h σ]
  split
  next => exact LineState.after_yes t
  next => exact LineState.after_no t

/-- A line that begins before the line end is a device line or not by what is before it. -/
def LineEnds (t : PyStr) : Prop :=
  ∀ (σ : LineState) (s : PyStr), σ.Accepts (s ++ 10 :: t) ↔ σ.Accepts s

theorem Settles.lineEnds (h : Settles s) : LineEnds s := by
  intro σ t
  unfold LineState.Accepts
  rw [LineState.after_append, h]
  cases (σ.after t).ends with
  | true => exact ⟨fun _ => rfl, fun _ => rfl⟩
  | false => exact Iff.rfl

theorem lineEnds_nil : LineEnds [] := by
  intro σ t
  unfold LineState.Accepts
  rw [LineState.after_append]
  cases σ.after t <;> exact Iff.rfl

/-- Then devices are before the line end, or after it. -/
theorem somewhere_lineEnds (h : LineEnds t) : Somewhere DeviceAt start (s ++ 10 :: t)
    ↔ Somewhere DeviceAt start s ∨ Somewhere DeviceAt true t := by
  have hplace : ∀ start s, DeviceAt start (s ++ 10 :: t) ↔ DeviceAt start s :=
    fun start s => and_congr_right fun _ => h .start s
  induction s generalizing start with
  | nil =>
    show DeviceAt start ([] ++ 10 :: t) ∨ Somewhere DeviceAt true t ↔ _
    rw [hplace]
    rfl
  | cons c s ih =>
    show DeviceAt start (c :: s ++ 10 :: t) ∨ Somewhere DeviceAt (c == 10) (s ++ 10 :: t) ↔ _
    rw [hplace]
    exact (or_congr_right ih).trans or_assoc.symm

/-- A text that goes into the file, to the end of its line, has a device line in it. Where it
begins, no line begins. -/
def declaresDevice (s : PyStr) : Bool :=
  (anyDevice.searchFrom false (universalNewlines (s ++ [10]))).isSome

theorem declaresDevice_iff :
    declaresDevice s = true ↔ Somewhere DeviceAt false (universalNewlines (s ++ [10])) := by
  rw [declaresDevice, searchFrom_isSome_iff, matches_anyDevice]

/-- A value in the file declares what it declares by itself. -/
theorem somewhere_value (ht : Settles t) (u : PyStr) :
    Somewhere DeviceAt false (universalNewlines (s ++ [10]) ++ (t ++ u))
      ↔ declaresDevice s = true ∨ Somewhere DeviceAt true (t ++ u) := by
  obtain ⟨line, hline⟩ := exists_line s
  rw [declaresDevice_iff, hline, List.append_assoc, List.singleton_append,
    somewhere_lineEnds (ht.append u).lineEnds, somewhere_lineEnds lineEnds_nil, or_iff_left (not_somewhere_nil true)]

end Texts

/-! ## The names that are found -/

section Names

variable {cur done : Cursor} {start : Bool} {s t : PyStr} {name : PyStr}

/-- A device line up to its name. -/
def linePrefix : Regex :=
  .seq .lineStart (.seq (plus true isSpacePoint) (.seq (Regex.word "-") (.seq
    (plus true isSpacePoint) (.seq (Regex.word "name:") (plus true isSpacePoint)))))

theorem run_deviceLine (r : Regex) (cur : Cursor) : run (deviceLine r) cur
    = run (.seq linePrefix (.seq r (.seq (.many true isSpacePoint) .lineEnd))) cur := by
  have hseq : ∀ a b : Regex, run (.seq a b) = fun cur => (run a cur).flatMap (run b) :=
    fun _ _ => rfl
  unfold deviceLine linePrefix
  simp only [hseq, List.flatMap_assoc]

/-- Whatever the pattern of a name reads, the rest of the line is up to what is left. -/
theorem groups_of_blank (h : done ∈ run (.seq (.many true isSpacePoint) .lineEnd) cur) :
    done.groups = cur.groups := by
  obtain ⟨mid, hmid, hdone⟩ := mem_run_seq.mp h
  obtain ⟨w, t, -, -, rfl⟩ := mem_run_many.mp hmid
  rw [run] at hdone
  split at hdone
  next => rw [List.mem_singleton.mp hdone]
  next => exact absurd hdone List.not_mem_nil

/-- Where a device line is found, the pattern of its name finds it as well. -/
theorem exists_name (h : done ∈ run anyDevice cur) :
    ∃ name, Dict.get? done.groups 1 = some name ∧ Goes (deviceNamed name) cur := by
  unfold anyDevice at h
  rw [run_deviceLine] at h
  obtain ⟨mid, hmid, hrest⟩ := mem_run_seq.mp h
  obtain ⟨named, hnamed, hblank⟩ := mem_run_seq.mp hrest
  obtain ⟨read, hread, name, hs, rfl⟩ := mem_run_group.mp hnamed
  refine ⟨name, ?_, ?_⟩
  · rw [groups_of_blank hblank, Dict.get?_set_self]
  · -- the name reads itself, and then the line ends as it did
    have hself : List.Forall₂ (fun p c => p c = true) (name.map fun c x => c == x) name := by
      rw [List.forall₂_map_left_iff, List.forall₂_same]
      exact fun c _ => beq_self_eq_true c
    have hends : LineState.blank.Accepts read.rest :=
      (goes_blank ⟨read.atStart, read.rest, Dict.set read.groups 1 name⟩).mp ⟨done, hblank⟩
    obtain ⟨done', hdone'⟩ :=
      (goes_blank ⟨startAfter mid.atStart name, read.rest, mid.groups⟩).mpr hends
    refine ⟨done', ?_⟩
    rw [deviceNamed, run_deviceLine]
    exact mem_run_seq.mpr ⟨mid, hmid, mem_run_seq.mpr
      ⟨_, mem_run_classes.mpr ⟨name, read.rest, hs, hself, rfl⟩, hdone'⟩⟩

theorem advances_anyDevice : anyDevice.Advances := by
  intro start s done h
  unfold anyDevice deviceLine at h
  obtain ⟨mid, hmid, h⟩ := mem_run_seq.mp h
  obtain ⟨mid', hmid', h⟩ := mem_run_seq.mp h
  obtain ⟨v, hv, -⟩ := run_reads hmid
  obtain ⟨w, t, hw, hne, -, rfl⟩ := mem_run_plus.mp hmid'
  obtain ⟨u, hu, -⟩ := run_reads h
  have hlen : 0 < w.length := List.length_pos_iff.mpr hne
  have hv' : s = v ++ mid.rest := hv
  have hu' : t = u ++ done.rest := hu
  rw [hv', hw, hu']
  simp only [List.length_append]
  omega

theorem search_of_mem_namesIn (h : name ∈ namesIn s) :
    (search (deviceNamed name) s).isSome = true := by
  obtain ⟨piece, hpiece, hfound⟩ := List.mem_filterMap.mp h
  cases piece with
  | char c => cases hfound
  | hit groups =>
    rw [search, searchFrom_isSome_iff]
    refine (somewhere_of_hit hpiece).imp ?_
    rintro start s ⟨done, hdone, rfl⟩
    obtain ⟨name', hname', hgoes⟩ := exists_name hdone
    have hsame : name' = name := Option.some.inj (hname'.symm.trans hfound)
    rw [hsame] at hgoes
    exact hgoes

/-- Nothing is found exactly where there is no device line. -/
theorem found_eq_nil_iff : (anyDevice.pieces 0 start s).filterMap Piece.found = []
    ↔ ¬ Somewhere DeviceAt start s := by
  rw [← matches_anyDevice]
  constructor
  · intro hnil hsome
    obtain ⟨groups, hmem⟩ := exists_hit advances_anyDevice hsome
    -- every match has a name
    have hname : Somewhere (fun _ _ => ∃ name, Dict.get? groups 1 = some name) start s := by
      refine (somewhere_of_hit hmem).imp ?_
      rintro start s ⟨done, hdone, rfl⟩
      obtain ⟨name, hname, -⟩ := exists_name hdone
      exact ⟨name, hname⟩
    obtain ⟨name, hname⟩ : ∃ name, Dict.get? groups 1 = some name := by
      clear hnil hsome hmem
      induction s generalizing start with
      | nil => exact hname
      | cons c s ih => exact hname.elim id ih
    have hfound : name ∈ (anyDevice.pieces 0 start s).filterMap Piece.found :=
      List.mem_filterMap.mpr ⟨_, hmem, hname⟩
    rw [hnil] at hfound
    exact List.not_mem_nil hfound
  · intro hnone
    rw [pieces_of_not_somewhere hnone, List.filterMap_map]
    exact List.filterMap_eq_nil_iff.mpr fun _ _ => rfl

/-- A word that is read as a name. -/
structure IsName (name : PyStr) : Prop where
  ne_nil : name ≠ []
  nonspace : ∀ c ∈ name, isSpacePoint c = false

theorem IsName.not_mem (h : IsName name) {c : Nat} (hc : isSpacePoint c = true) : c ∉ name := by
  intro hmem
  rw [h.nonspace c hmem] at hc
  cases hc

/-- The line that the console writes, with the profile on the next one. -/
theorem matchAt_written (h : IsName name) (t : PyStr) :
    anyDevice.matchAt ⟨true, lit "  - name: " ++ (name ++ 10 :: (lit "    p" ++ t)), []⟩
      = some ⟨false, 10 :: (lit "    p" ++ t), [(1, name)]⟩ := by
  have hlf : 10 ∉ name := h.not_mem rfl
  obtain ⟨hne, hword⟩ := h
  cases name with
  | nil => exact absurd rfl hne
  | cons c w =>
    obtain ⟨hc, hw⟩ := List.forall_mem_cons.mp hword
    rw [List.mem_cons, not_or] at hlf
    have hnot : (!isSpacePoint c) = true := by
      rw [hc]
      rfl
    have hnots : ∀ d ∈ w, (!isSpacePoint d) = true := by
      intro d hd
      rw [hw d hd]
      rfl
    -- the name, and nothing of the line end
    have hname : matchAt (.group 1 (plus true fun c => !isSpacePoint c))
        ⟨false, c :: (w ++ 10 :: (lit "    p" ++ t)), []⟩
        = some ⟨false, 10 :: (lit "    p" ++ t), [(1, c :: w)]⟩ := by
      have hstart : startAfter (c == 10) w = false := by
        rw [beq_eq_false_iff_ne.mpr (Ne.symm hlf.1)]
        exact startAfter_inLine hlf.2
      have htake : (10 :: (lit "    p" ++ t)).takeWhile (fun c => !isSpacePoint c) = [] := rfl
      have hdrop : (10 :: (lit "    p" ++ t)).dropWhile (fun c => !isSpacePoint c)
          = 10 :: (lit "    p" ++ t) := rfl
      rw [matchAt_group, matchAt_plus hnot, List.takeWhile_append_of_pos hnots,
        List.dropWhile_append_of_pos hnots, htake, hdrop, List.append_nil, hstart,
        Option.map_some]
      exact congrArg (fun u => some (Cursor.mk false _ (Dict.set [] 1 u)))
        (upTo_append false [] (c :: w) ⟨false, 10 :: (lit "    p" ++ t), []⟩)
    -- the line ends before its line end only
    have hends : matchAt (.seq (.many true isSpacePoint) .lineEnd)
        ⟨false, 10 :: (lit "    p" ++ t), [(1, c :: w)]⟩
        = some ⟨false, 10 :: (lit "    p" ++ t), [(1, c :: w)]⟩ := by
      refine matchAt_of_unique ?_ ?_
      · refine mem_run_seq.mpr ⟨_, mem_run_many.mpr ⟨[], _, rfl, ?_, rfl⟩, ?_⟩
        · exact fun d hd => absurd hd List.not_mem_nil
        · exact List.mem_singleton_self _
      · intro done hdone
        obtain ⟨mid, hmid, hdone⟩ := mem_run_seq.mp hdone
        obtain ⟨v, u, hs, hv, rfl⟩ := mem_run_many.mp hmid
        cases v with
        | nil =>
          obtain rfl : 10 :: (lit "    p" ++ t) = u := hs
          exact List.mem_singleton.mp hdone
        | cons d v =>
          -- further on there is no line end before the next word
          obtain ⟨rfl, hrest⟩ : 10 = d ∧ lit "    p" ++ t = v ++ u := List.cons.inj hs
          have hacc : LineState.blank.Accepts (lit "    p" ++ t) :=
            (goes_blank ⟨true, lit "    p" ++ t, [(1, c :: w)]⟩).mp ⟨done, mem_run_seq.mpr
              ⟨_, mem_run_many.mpr ⟨v, u, hrest, (List.forall_mem_cons.mp hv).2, rfl⟩, hdone⟩⟩
          have hno : LineState.blank.after (lit "    p") = .no := by decide
          unfold LineState.Accepts at hacc
          rw [LineState.after_append, hno] at hacc
          exact absurd hacc (LineState.not_accepts_no t)
    have hspace : matchAt (plus true isSpacePoint)
        ⟨false, 32 :: c :: (w ++ 10 :: (lit "    p" ++ t)), []⟩
        = some ⟨false, c :: (w ++ 10 :: (lit "    p" ++ t)), []⟩ := by
      rw [matchAt_plus rfl, List.takeWhile_cons_of_neg (by rw [hc]; exact Bool.false_ne_true),
        List.dropWhile_cons_of_neg (by rw [hc]; exact Bool.false_ne_true)]
      rfl
    refine matchAt_seq_of_matchAt (a := .lineStart) rfl ?_
    refine matchAt_seq_of_matchAt (matchAt_plus rfl) ?_
    refine matchAt_seq_of_matchAt (matchAt_classes _ _) ?_
    refine matchAt_seq_of_matchAt (matchAt_plus rfl) ?_
    refine matchAt_seq_of_matchAt (matchAt_classes _ _) ?_
    refine matchAt_seq_of_matchAt hspace ?_
    exact matchAt_seq_of_matchAt hname hends

end Names

end EdgeSensor.Console
