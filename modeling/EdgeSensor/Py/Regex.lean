import EdgeSensor.Lib.Dict
import EdgeSensor.Lib.Squeeze
import EdgeSensor.Py.Value

/-!
# Regular expressions

What `re` does with the patterns that the code has. A pattern is tried at a cursor, and `run`
lists where it may end, in the order in which `re` tries: the first of them is the match. Groups
keep what they have read; `\1` reads it again.

`pieces` goes through a text as `finditer` and `sub` do, from one match to the next.

Mirroring notes:
- A repetition is of one class of characters. All the patterns here are so.
- None of the patterns matches the empty text. One that does is taken for no match.
- `^` and `$` are those of `re.MULTILINE`.
- `re.IGNORECASE` is told of what folds to an ASCII character: four letters beyond ASCII do.
-/

namespace EdgeSensor.Py

open EdgeSensor.Lib

/-- A pattern; a class of characters is a predicate. -/
inductive Regex where
  | empty
  | char (p : Nat → Bool)
  | many (greedy : Bool) (p : Nat → Bool)
  | seq (a b : Regex)
  | alt (a b : Regex)
  | group (n : Nat) (a : Regex)
  | backref (n : Nat) (same : Nat → Nat → Bool)
  | lineStart
  | lineEnd

/-- A place in a text: whether a line starts there, what is left, and what the groups hold. -/
structure Cursor where
  atStart : Bool
  rest : PyStr
  groups : List (Nat × PyStr) := []
  deriving DecidableEq

namespace Cursor

/-- The cursor after a character for each of some classes. -/
def through : List (Nat → Bool) → Cursor → Option Cursor
  | [], cur => some cur
  | _ :: _, ⟨_, [], _⟩ => none
  | p :: ps, ⟨_, c :: s, groups⟩ => if p c then through ps ⟨c == 10, s, groups⟩ else none

/-- The cursors after none, one, two characters of a class, and so on. -/
def along (p : Nat → Bool) (groups : List (Nat × PyStr)) : Bool → PyStr → List Cursor
  | start, [] => [⟨start, [], groups⟩]
  | start, c :: s => ⟨start, c :: s, groups⟩ :: if p c then along p groups (c == 10) s else []

/-- What lies between two cursors. -/
def upTo (cur done : Cursor) : PyStr := cur.rest.take (cur.rest.length - done.rest.length)

/-- The cursor in a text with more behind it. -/
def followedBy (cur : Cursor) (t : PyStr) : Cursor := { cur with rest := cur.rest ++ t }

end Cursor

namespace Regex

/-- The pattern of some characters, one after the other. -/
def classes : List (Nat → Bool) → Regex
  | [] => .empty
  | p :: ps => .seq (.char p) (classes ps)

/-- `X+`, `X+?` -/
def plus (greedy : Bool) (p : Nat → Bool) : Regex := .seq (.char p) (.many greedy p)

/-- `X?` -/
def opt (a : Regex) : Regex := .alt a .empty

/-- `A|B|…` -/
def anyOf : List Regex → Regex
  | [] => .char fun _ => false
  | [a] => a
  | a :: b :: as => .alt a (anyOf (b :: as))

/-- Where the pattern may end, the preferred place first. -/
def run : Regex → Cursor → List Cursor
  | .empty, cur => [cur]
  | .char p, cur => (cur.through [p]).toList
  | .many greedy p, cur =>
    if greedy then (Cursor.along p cur.groups cur.atStart cur.rest).reverse
    else Cursor.along p cur.groups cur.atStart cur.rest
  | .seq a b, cur => (run a cur).flatMap (run b)
  | .alt a b, cur => run a cur ++ run b cur
  | .group n a, cur =>
    (run a cur).map fun done => { done with groups := Dict.set done.groups n (cur.upTo done) }
  | .backref n same, cur =>
    match Dict.get? cur.groups n with
    | none => []
    | some text => (cur.through (text.map same)).toList
  | .lineStart, cur => if cur.atStart then [cur] else []
  | .lineEnd, cur => if cur.rest = [] ∨ cur.rest.head? = some 10 then [cur] else []

/-- The end of the match at a cursor. -/
def matchAt (r : Regex) (cur : Cursor) : Option Cursor := (r.run cur).head?

/-- The first match from a cursor on, by its end. -/
def searchFrom (r : Regex) : Bool → PyStr → Option Cursor
  | start, [] => r.matchAt ⟨start, [], []⟩
  | start, c :: s =>
    match r.matchAt ⟨start, c :: s, []⟩ with
    | some done => some done
    | none => searchFrom r (c == 10) s

/-- `re.search(r, s)`. -/
def search (r : Regex) (s : PyStr) : Option Cursor := r.searchFrom true s

/-- `m.group(n)`. -/
def group? (done : Cursor) (n : Nat) : Option PyStr := Dict.get? done.groups n

/-- A character between matches, or the groups of a match. -/
inductive Piece where
  | char (c : Nat)
  | hit (groups : List (Nat × PyStr))
  deriving DecidableEq

/-- A text as characters and matches; `skip` characters belong to the match before. -/
def pieces (r : Regex) : Nat → Bool → PyStr → List Piece
  | _, _, [] => []
  | skip + 1, _, c :: s => pieces r skip (c == 10) s
  | 0, start, c :: s =>
    match r.matchAt ⟨start, c :: s, []⟩ with
    | none => .char c :: pieces r 0 (c == 10) s
    | some done =>
      if done.rest.length ≤ s.length then
        .hit done.groups :: pieces r (s.length - done.rest.length) (c == 10) s
      else .char c :: pieces r 0 (c == 10) s

/-- What `sub` makes of a piece. -/
def Piece.replaced (replacement : List (Nat × PyStr) → PyStr) : Piece → PyStr
  | .char c => [c]
  | .hit groups => replacement groups

/-- `re.sub(r, replacement, s)`. -/
def sub (r : Regex) (replacement : List (Nat × PyStr) → PyStr) (s : PyStr) : PyStr :=
  (r.pieces 0 true s).flatMap (Piece.replaced replacement)

/-- What `findall` makes of a piece, for a pattern with one group. -/
def Piece.found : Piece → Option PyStr
  | .char _ => none
  | .hit groups => Dict.get? groups 1

/-- `re.findall(r, s)`, for a pattern with one group. -/
def findall (r : Regex) (s : PyStr) : List PyStr := (r.pieces 0 true s).filterMap Piece.found

/-! ## Upper and lower case -/

/-- `c.lower()`, where that is an ASCII character. -/
def lowerPoint (c : Nat) : Nat :=
  if 65 ≤ c ∧ c ≤ 90 then c + 32 else if c = 0x130 then 105 else if c = 0x212A then 107 else c

/-- A lower-case literal takes the character, under `re.IGNORECASE`. -/
def ignoreCase (literal c : Nat) : Bool :=
  lowerPoint c = literal || (c = 0x131 && literal = 105) || (c = 0x17F && literal = 115)

/-- `\1` takes the character for one that the group has, under `re.IGNORECASE`. -/
def sameLower (kept c : Nat) : Bool := lowerPoint kept = lowerPoint c

/-- A word, as it is written. -/
def word (s : String) : Regex := classes ((lit s).map fun c x => c == x)

/-- A word in any case. -/
def anyCase (s : String) : Regex := classes ((lit s).map ignoreCase)

/-! ## What a pattern does, one lemma for each -/

section Run

variable {r a b : Regex} {p : Nat → Bool} {ps qs : List (Nat → Bool)} {cur done : Cursor}
  {start : Bool} {s t w : PyStr} {groups : List (Nat × PyStr)} {n : Nat}

/-- Whether a line starts after some characters. -/
def startAfter : Bool → PyStr → Bool
  | start, [] => start
  | _, c :: s => startAfter (c == 10) s

theorem startAfter_append (start : Bool) (w t : PyStr) :
    startAfter start (w ++ t) = startAfter (startAfter start w) t := by
  induction w generalizing start with
  | nil => rfl
  | cons c w ih => exact ih _

/-- No line starts in the middle of one. -/
theorem startAfter_inLine (h : 10 ∉ s) : startAfter false s = false := by
  induction s with
  | nil => rfl
  | cons c s ih =>
    rw [List.mem_cons, not_or] at h
    rw [startAfter, beq_eq_false_iff_ne.mpr (Ne.symm h.1)]
    exact ih h.2

theorem upTo_append (start : Bool) (groups : List (Nat × PyStr)) (w : PyStr) (done : Cursor) :
    Cursor.upTo ⟨start, w ++ done.rest, groups⟩ done = w := by
  rw [Cursor.upTo, List.length_append, Nat.add_sub_cancel, List.take_left]

theorem through_append (cur : Cursor) :
    cur.through (ps ++ qs) = (cur.through ps).bind (Cursor.through qs) := by
  induction ps generalizing cur with
  | nil => rfl
  | cons p ps ih =>
    obtain ⟨start, s, groups⟩ := cur
    cases s with
    | nil => rfl
    | cons c s =>
      simp only [List.cons_append, Cursor.through]
      split
      next => exact ih _
      next => rfl

/-- A character for each class. -/
theorem through_eq_some_iff : cur.through ps = some done
    ↔ ∃ w t, cur.rest = w ++ t ∧ List.Forall₂ (fun p c => p c = true) ps w
      ∧ done = ⟨startAfter cur.atStart w, t, cur.groups⟩ := by
  induction ps generalizing cur with
  | nil =>
    obtain ⟨start, s, groups⟩ := cur
    simp only [Cursor.through, List.forall₂_nil_left_iff]
    constructor
    · intro h
      exact ⟨[], s, rfl, rfl, (Option.some.inj h).symm⟩
    · rintro ⟨w, t, hs, rfl, rfl⟩
      rw [List.nil_append] at hs
      rw [← hs]
      rfl
  | cons p ps ih =>
    obtain ⟨start, s, groups⟩ := cur
    cases s with
    | nil =>
      constructor
      · intro h
        cases h
      · rintro ⟨w, t, hs, hw, -⟩
        rw [(List.append_eq_nil_iff.mp hs.symm).1] at hw
        cases hw
    | cons c s =>
      simp only [Cursor.through]
      constructor
      · intro h
        split at h
        next hc =>
          obtain ⟨w, t, hs, hw, hdone⟩ := ih.mp h
          exact ⟨c :: w, t, congrArg (c :: ·) hs, .cons hc hw, hdone⟩
        next => cases h
      · rintro ⟨w, t, hs, hw, hdone⟩
        cases hw with
        | cons hc hw =>
          obtain ⟨rfl, hrest⟩ := List.cons.inj hs
          rw [if_pos hc]
          exact ih.mpr ⟨_, t, hrest, hw, hdone⟩

/-- A character that is read is in one of the classes. -/
theorem exists_class (h : List.Forall₂ (fun p c => p c = true) ps w) {c : Nat} (hc : c ∈ w) :
    ∃ p ∈ ps, p c = true := by
  induction h with
  | nil => exact absurd hc List.not_mem_nil
  | cons hp _ ih =>
    rcases List.mem_cons.mp hc with rfl | hc
    · exact ⟨_, List.mem_cons_self, hp⟩
    · obtain ⟨p, hp, hpc⟩ := ih hc
      exact ⟨p, List.mem_cons_of_mem _ hp, hpc⟩

theorem mem_along : done ∈ Cursor.along p groups start s
    ↔ ∃ w t, s = w ++ t ∧ (∀ c ∈ w, p c = true) ∧ done = ⟨startAfter start w, t, groups⟩ := by
  induction s generalizing start with
  | nil =>
    rw [Cursor.along, List.mem_singleton]
    constructor
    · intro h
      exact ⟨[], [], rfl, fun c hc => absurd hc List.not_mem_nil, h⟩
    · rintro ⟨w, t, hs, -, rfl⟩
      obtain ⟨rfl, rfl⟩ := List.append_eq_nil_iff.mp hs.symm
      rfl
  | cons c s ih =>
    rw [Cursor.along, List.mem_cons]
    constructor
    · rintro (h | h)
      · exact ⟨[], c :: s, rfl, fun c hc => absurd hc List.not_mem_nil, h⟩
      · split at h
        next hc =>
          obtain ⟨w, t, hs, hw, hdone⟩ := ih.mp h
          exact ⟨c :: w, t, congrArg (c :: ·) hs, List.forall_mem_cons.mpr ⟨hc, hw⟩, hdone⟩
        next => exact absurd h List.not_mem_nil
    · rintro ⟨w, t, hs, hw, hdone⟩
      cases w with
      | nil =>
        rw [List.nil_append] at hs
        rw [hs]
        exact .inl hdone
      | cons c' w =>
        obtain ⟨rfl, hrest⟩ := List.cons.inj hs
        obtain ⟨hc, hw⟩ := List.forall_mem_cons.mp hw
        rw [if_pos hc]
        exact .inr (ih.mpr ⟨w, t, hrest, hw, hdone⟩)

theorem mem_run_many {greedy : Bool} : done ∈ run (.many greedy p) cur
    ↔ ∃ w t, cur.rest = w ++ t ∧ (∀ c ∈ w, p c = true)
      ∧ done = ⟨startAfter cur.atStart w, t, cur.groups⟩ := by
  rw [run]
  split
  next => rw [List.mem_reverse, mem_along]
  next => rw [mem_along]

theorem mem_run_seq : done ∈ run (.seq a b) cur ↔ ∃ mid ∈ run a cur, done ∈ run b mid := by
  rw [run, List.mem_flatMap]

theorem mem_run_alt : done ∈ run (.alt a b) cur ↔ done ∈ run a cur ∨ done ∈ run b cur := by
  rw [run, List.mem_append]

theorem run_classes : ∀ (ps : List (Nat → Bool)) (cur : Cursor),
    run (classes ps) cur = (cur.through ps).toList
  | [], _ => rfl
  | p :: ps, ⟨_, [], _⟩ => rfl
  | p :: ps, ⟨start, c :: s, groups⟩ => by
    rw [classes, run, run]
    simp only [Cursor.through]
    split
    next =>
      rw [Option.toList_some, List.flatMap_cons, List.flatMap_nil, List.append_nil]
      exact run_classes ps _
    next => rfl

theorem mem_run_classes : done ∈ run (classes ps) cur
    ↔ ∃ w t, cur.rest = w ++ t ∧ List.Forall₂ (fun p c => p c = true) ps w
      ∧ done = ⟨startAfter cur.atStart w, t, cur.groups⟩ := by
  rw [run_classes, Option.mem_toList, ← through_eq_some_iff]

theorem mem_run_char : done ∈ run (.char p) cur
    ↔ ∃ c t, cur.rest = c :: t ∧ p c = true ∧ done = ⟨c == 10, t, cur.groups⟩ := by
  show done ∈ (cur.through [p]).toList ↔ _
  rw [Option.mem_toList]
  obtain ⟨start, s, groups⟩ := cur
  cases s with
  | nil =>
    constructor
    · intro h
      cases h
    · rintro ⟨c, t, h, -⟩
      cases h
  | cons c s =>
    simp only [Cursor.through]
    constructor
    · intro h
      split at h
      next hc => exact ⟨c, s, rfl, hc, (Option.some.inj h).symm⟩
      next => cases h
    · rintro ⟨c', t, h, hc, rfl⟩
      obtain ⟨rfl, rfl⟩ := List.cons.inj h
      rw [if_pos hc]

theorem mem_run_plus {greedy : Bool} : done ∈ run (plus greedy p) cur
    ↔ ∃ w t, cur.rest = w ++ t ∧ w ≠ [] ∧ (∀ c ∈ w, p c = true)
      ∧ done = ⟨startAfter cur.atStart w, t, cur.groups⟩ := by
  rw [plus, mem_run_seq]
  constructor
  · rintro ⟨mid, hmid, hdone⟩
    obtain ⟨c, s, hs, hc, rfl⟩ := mem_run_char.mp hmid
    obtain ⟨w, t, hw, hall, rfl⟩ := mem_run_many.mp hdone
    refine ⟨c :: w, t, ?_, List.cons_ne_nil _ _, List.forall_mem_cons.mpr ⟨hc, hall⟩, rfl⟩
    rw [hs, List.cons_append]
    exact congrArg (c :: ·) hw
  · rintro ⟨w, t, hs, hne, hall, rfl⟩
    cases w with
    | nil => exact absurd rfl hne
    | cons c w =>
      obtain ⟨hc, hall⟩ := List.forall_mem_cons.mp hall
      exact ⟨_, mem_run_char.mpr ⟨c, w ++ t, hs, hc, rfl⟩, mem_run_many.mpr ⟨w, t, rfl, hall, rfl⟩⟩

/-- A pattern reads what lies between. -/
theorem run_reads (h : done ∈ run r cur) :
    ∃ w, cur.rest = w ++ done.rest ∧ done.atStart = startAfter cur.atStart w := by
  induction r generalizing cur done with
  | empty =>
    rw [List.mem_singleton.mp h]
    exact ⟨[], rfl, rfl⟩
  | char p =>
    obtain ⟨c, t, hs, -, rfl⟩ := mem_run_char.mp h
    exact ⟨[c], hs, rfl⟩
  | many greedy p =>
    obtain ⟨w, t, hs, -, rfl⟩ := mem_run_many.mp h
    exact ⟨w, hs, rfl⟩
  | seq a b iha ihb =>
    obtain ⟨mid, hmid, hdone⟩ := mem_run_seq.mp h
    obtain ⟨w, hw, hstart⟩ := iha hmid
    obtain ⟨w', hw', hstart'⟩ := ihb hdone
    refine ⟨w ++ w', ?_, ?_⟩
    · rw [hw, hw', List.append_assoc]
    · rw [hstart', hstart, startAfter_append]
  | alt a b iha ihb =>
    rcases mem_run_alt.mp h with h | h
    · exact iha h
    · exact ihb h
  | group n a ih =>
    obtain ⟨mid, hmid, rfl⟩ := List.mem_map.mp h
    obtain ⟨w, hw, hstart⟩ := ih hmid
    exact ⟨w, hw, hstart⟩
  | backref n same =>
    rw [run] at h
    split at h
    next => exact absurd h List.not_mem_nil
    next =>
      obtain ⟨w, t, hs, -, rfl⟩ := through_eq_some_iff.mp (Option.mem_toList.mp h)
      exact ⟨w, hs, rfl⟩
  | lineStart =>
    rw [run] at h
    split at h
    next =>
      rw [List.mem_singleton.mp h]
      exact ⟨[], rfl, rfl⟩
    next => exact absurd h List.not_mem_nil
  | lineEnd =>
    rw [run] at h
    split at h
    next =>
      rw [List.mem_singleton.mp h]
      exact ⟨[], rfl, rfl⟩
    next => exact absurd h List.not_mem_nil

/-- A group holds what its pattern has read. -/
theorem mem_run_group : done ∈ run (.group n a) cur
    ↔ ∃ mid ∈ run a cur, ∃ w, cur.rest = w ++ mid.rest
      ∧ done = { mid with groups := Dict.set mid.groups n w } := by
  rw [run, List.mem_map]
  constructor
  · rintro ⟨mid, hmid, rfl⟩
    obtain ⟨start, s, groups⟩ := cur
    obtain ⟨w, hw, -⟩ := run_reads hmid
    obtain rfl : s = w ++ mid.rest := hw
    exact ⟨mid, hmid, w, rfl, by rw [upTo_append]⟩
  · rintro ⟨mid, hmid, w, hw, rfl⟩
    obtain ⟨start, s, groups⟩ := cur
    obtain rfl : s = w ++ mid.rest := hw
    exact ⟨mid, hmid, by rw [upTo_append]⟩

/-- If a pattern can end in one place only, that is its match. -/
theorem matchAt_of_unique (hmem : done ∈ run r cur) (hone : ∀ d ∈ run r cur, d = done) :
    r.matchAt cur = some done := by
  unfold matchAt
  cases hrun : run r cur with
  | nil =>
    rw [hrun] at hmem
    exact absurd hmem List.not_mem_nil
  | cons d ds =>
    rw [hrun] at hone
    exact congrArg some (hone d List.mem_cons_self)

theorem matchAt_eq_none_iff : r.matchAt cur = none ↔ ∀ done, done ∉ run r cur := by
  rw [matchAt, List.head?_eq_none_iff, List.eq_nil_iff_forall_not_mem]

theorem mem_of_matchAt (h : r.matchAt cur = some done) : done ∈ run r cur :=
  List.mem_of_head? h

end Run

/-! ## From one match to the next -/

section Pieces

variable {r : Regex} {done : Cursor} {start : Bool} {s t w : PyStr} {c : Nat}

theorem pieces_skip (r : Regex) (start : Bool) (w t : PyStr) :
    r.pieces w.length start (w ++ t) = r.pieces 0 (startAfter start w) t := by
  induction w generalizing start with
  | nil => rfl
  | cons c w ih => exact ih _

theorem pieces_miss (h : r.matchAt ⟨start, c :: s, []⟩ = none) :
    r.pieces 0 start (c :: s) = .char c :: r.pieces 0 (c == 10) s := by
  rw [pieces, h]

/-- After a match the text is gone through from its end. -/
theorem pieces_hit (h : r.matchAt ⟨start, s, []⟩ = some done)
    (hlt : done.rest.length < s.length) :
    r.pieces 0 start s = .hit done.groups :: r.pieces 0 done.atStart done.rest := by
  obtain ⟨w, hw, hstart⟩ := run_reads (mem_of_matchAt h)
  cases w with
  | nil =>
    have hs : s = done.rest := hw
    rw [hs] at hlt
    exact absurd hlt (Nat.lt_irrefl _)
  | cons c w =>
    obtain rfl : s = c :: (w ++ done.rest) := hw
    have hskip : (w ++ done.rest).length - done.rest.length = w.length := by
      rw [List.length_append, Nat.add_sub_cancel]
    rw [pieces, h]
    show (if done.rest.length ≤ (w ++ done.rest).length then _ else _) = _
    rw [if_pos (by rw [List.length_append]; omega), hskip, pieces_skip, hstart]
    rfl

end Pieces

/-! ## Patterns in front of others -/

section Front

variable {r a b : Regex} {rs : List Regex} {p : Nat → Bool} {ps : List (Nat → Bool)}
  {cur mid done : Cursor} {start start' : Bool} {s t : PyStr} {groups : List (Nat × PyStr)}
  {c x : Nat}

theorem mem_run_anyOf : done ∈ run (anyOf rs) cur ↔ ∃ r ∈ rs, done ∈ run r cur := by
  induction rs with
  | nil =>
    constructor
    · intro h
      obtain ⟨c, t, -, hc, -⟩ := mem_run_char.mp h
      cases hc
    · rintro ⟨r, hr, -⟩
      exact absurd hr List.not_mem_nil
  | cons r rs ih =>
    cases rs with
    | nil => simp [anyOf]
    | cons r' rs =>
      rw [anyOf, mem_run_alt, ih]
      exact (List.exists_mem_cons_iff (fun r => done ∈ run r cur) r (r' :: rs)).symm

/-- If the first pattern can end in one place only, the second is matched from there. -/
theorem matchAt_seq_of_unique (hmem : mid ∈ run a cur) (hone : ∀ d ∈ run a cur, d = mid) :
    matchAt (.seq a b) cur = b.matchAt mid := by
  have hlist : ∀ ds : List Cursor, (∀ d ∈ ds, d = mid) →
      run b mid = [] → ds.flatMap (run b) = [] := by
    intro ds hds hnil
    rw [List.flatMap_eq_nil_iff]
    intro d hd
    rw [hds d hd, hnil]
  unfold matchAt
  rw [run]
  cases hrun : run a cur with
  | nil =>
    rw [hrun] at hmem
    exact absurd hmem List.not_mem_nil
  | cons d ds =>
    rw [hrun] at hone
    rw [List.flatMap_cons, List.head?_append, hone d List.mem_cons_self]
    cases hb : (run b mid).head? with
    | some e => rfl
    | none =>
      rw [hlist ds (fun d hd => hone d (List.mem_cons_of_mem _ hd)) (List.head?_eq_none_iff.mp hb)]
      rfl

theorem matchAt_seq_eq_none (h : ∀ d, d ∉ run a cur) : matchAt (.seq a b) cur = none :=
  matchAt_eq_none_iff.mpr fun _ hdone =>
    (mem_run_seq.mp hdone).elim fun mid hmid => h mid hmid.1

/-- A lazy repetition tries what is behind it first, and again a character further. -/
theorem matchAt_lazy_cons (start : Bool) (c : Nat) (s : PyStr) (groups : List (Nat × PyStr)) :
    matchAt (.seq (.many false p) r) ⟨start, c :: s, groups⟩
      = (r.matchAt ⟨start, c :: s, groups⟩).or
        (if p c then matchAt (.seq (.many false p) r) ⟨c == 10, s, groups⟩ else none) := by
  unfold matchAt
  rw [run, run]
  simp only [Bool.false_eq_true, if_false, Cursor.along]
  rw [List.flatMap_cons, List.head?_append]
  split
  next => rw [run, run]; rfl
  next => rfl

/-- If both patterns are matched one after the other, that is the match. -/
theorem matchAt_seq_of_matchAt (ha : a.matchAt cur = some mid) (hb : b.matchAt mid = some done) :
    matchAt (.seq a b) cur = some done := by
  obtain ⟨mids, hmids⟩ := List.head?_eq_some_iff.mp ha
  obtain ⟨dones, hdones⟩ := List.head?_eq_some_iff.mp hb
  rw [matchAt, run, hmids, List.flatMap_cons, hdones]
  rfl

theorem matchAt_alt (a b : Regex) (cur : Cursor) :
    matchAt (.alt a b) cur = (a.matchAt cur).or (b.matchAt cur) := by
  rw [matchAt, run, List.head?_append]
  rfl

theorem matchAt_group (n : Nat) (a : Regex) (cur : Cursor) :
    matchAt (.group n a) cur = (a.matchAt cur).map fun done =>
      { done with groups := Dict.set done.groups n (cur.upTo done) } := by
  rw [matchAt, run, List.head?_map]
  rfl

theorem matchAt_classes (ps : List (Nat → Bool)) (cur : Cursor) :
    matchAt (classes ps) cur = cur.through ps := by
  rw [matchAt, run_classes]
  cases cur.through ps with
  | none => rfl
  | some done => rfl

/-- What is read up to a character that no class has does not depend on what comes after. -/
theorem through_followedBy (h : ∀ p ∈ ps, p x = false) (cur : Cursor) (t : PyStr) :
    (cur.followedBy (x :: t)).through ps = (cur.through ps).map (·.followedBy (x :: t)) := by
  induction ps generalizing cur with
  | nil => rfl
  | cons p ps ih =>
    obtain ⟨start, s, groups⟩ := cur
    cases s with
    | nil =>
      show (if p x then _ else none) = none
      rw [h p List.mem_cons_self]
      rfl
    | cons c s =>
      show (if p c then Cursor.through ps (Cursor.followedBy ⟨c == 10, s, groups⟩ (x :: t)) else none)
        = (if p c then Cursor.through ps ⟨c == 10, s, groups⟩ else none).map _
      split
      next => exact ih (fun p hp => h p (List.mem_cons_of_mem _ hp)) _
      next => rfl

/-- The pattern matches at the cursor. -/
def Goes (r : Regex) (cur : Cursor) : Prop := ∃ done, done ∈ run r cur

theorem goes_word {l : String} : Goes (.seq (word l) r) cur
    ↔ ∃ t, cur.rest = lit l ++ t ∧ Goes r ⟨startAfter cur.atStart (lit l), t, cur.groups⟩ := by
  have hword : ∀ w : PyStr,
      List.Forall₂ (fun p c => p c = true) ((lit l).map fun c x => c == x) w ↔ w = lit l := by
    intro w
    rw [List.forall₂_map_left_iff]
    simp only [beq_iff_eq]
    rw [List.forall₂_eq_eq_eq]
    exact eq_comm
  constructor
  · intro h
    obtain ⟨done, hdone⟩ := h
    obtain ⟨mid, hmid, hdone⟩ := mem_run_seq.mp hdone
    obtain ⟨w, t, hs, hw, rfl⟩ := mem_run_classes.mp hmid
    rw [(hword w).mp hw] at hs hdone
    exact ⟨t, hs, done, hdone⟩
  · intro h
    obtain ⟨t, hs, done, hdone⟩ := h
    exact ⟨done, mem_run_seq.mpr ⟨_, mem_run_classes.mpr ⟨_, t, hs, (hword _).mpr rfl, rfl⟩, hdone⟩⟩

theorem goes_plus {p : Nat → Bool} : Goes (.seq (plus true p) r) cur
    ↔ ∃ w t, cur.rest = w ++ t ∧ w ≠ [] ∧ (∀ c ∈ w, p c = true)
      ∧ Goes r ⟨startAfter cur.atStart w, t, cur.groups⟩ := by
  constructor
  · intro h
    obtain ⟨done, hdone⟩ := h
    obtain ⟨mid, hmid, hdone⟩ := mem_run_seq.mp hdone
    obtain ⟨w, t, hs, hne, hw, rfl⟩ := mem_run_plus.mp hmid
    exact ⟨w, t, hs, hne, hw, done, hdone⟩
  · intro h
    obtain ⟨w, t, hs, hne, hw, done, hdone⟩ := h
    exact ⟨done, mem_run_seq.mpr ⟨_, mem_run_plus.mpr ⟨w, t, hs, hne, hw, rfl⟩, hdone⟩⟩

end Front

/-! ## Runs -/

section Runs

variable {p : Nat → Bool} {start : Bool} {s : PyStr} {groups : List (Nat × PyStr)} {c : Nat}

theorem along_getLast (p : Nat → Bool) (groups : List (Nat × PyStr)) (start : Bool) (s : PyStr) :
    (Cursor.along p groups start s).getLast?
      = some ⟨startAfter start (s.takeWhile p), s.dropWhile p, groups⟩ := by
  induction s generalizing start with
  | nil => rfl
  | cons c s ih =>
    rw [Cursor.along, List.takeWhile_cons, List.dropWhile_cons]
    split
    next => rw [List.getLast?_cons, ih]; rfl
    next => rfl

/-- A greedy repetition takes the run. -/
theorem matchAt_plus (h : p c = true) :
    matchAt (plus true p) ⟨start, c :: s, groups⟩
      = some ⟨startAfter (c == 10) (s.takeWhile p), s.dropWhile p, groups⟩ := by
  have hone : ∀ d ∈ run (.char p) ⟨start, c :: s, groups⟩, d = ⟨c == 10, s, groups⟩ := by
    intro d hd
    obtain ⟨c', t, hs, -, rfl⟩ := mem_run_char.mp hd
    obtain ⟨rfl, rfl⟩ := List.cons.inj hs
    rfl
  rw [plus, matchAt_seq_of_unique (mem_run_char.mpr ⟨c, s, rfl, h, rfl⟩) hone, matchAt, run,
    if_pos rfl, List.head?_reverse, along_getLast]

theorem matchAt_plus_eq_none (h : p c = false) :
    matchAt (plus true p) ⟨start, c :: s, groups⟩ = none := by
  refine matchAt_seq_eq_none fun d hd => ?_
  obtain ⟨c', t, hs, hc, -⟩ := mem_run_char.mp hd
  obtain ⟨rfl, -⟩ := List.cons.inj hs
  rw [h] at hc
  cases hc

/-- `re.sub` of a repetition squeezes the runs. -/
theorem sub_plus (p : Nat → Bool) (w : Nat) (s : PyStr) :
    sub (plus true p) (fun _ => [w]) s = squeeze p w false s := by
  have hboth : ∀ (s : PyStr) (start : Bool),
      ((plus true p).pieces 0 start s).flatMap (Piece.replaced fun _ => [w]) = squeeze p w false s
      ∧ ((plus true p).pieces (s.takeWhile p).length start s).flatMap (Piece.replaced fun _ => [w])
        = squeeze p w true s := by
    intro s
    induction s with
    | nil => exact fun _ => ⟨rfl, rfl⟩
    | cons c s ih =>
      intro start
      obtain ⟨hout, hin⟩ := ih (c == 10)
      cases hc : p c with
      | true =>
        have hlen : s.length - (s.dropWhile p).length = (s.takeWhile p).length := by
          have hall := congrArg List.length
            (List.takeWhile_append_dropWhile : s.takeWhile p ++ s.dropWhile p = s)
          rw [List.length_append] at hall
          omega
        constructor
        · rw [pieces, matchAt_plus hc]
          show (if (s.dropWhile p).length ≤ s.length then _ else _ : List Piece).flatMap _ = _
          rw [if_pos (List.dropWhile_suffix p).length_le, hlen, List.flatMap_cons, hin,
            squeeze_begin hc]
          rfl
        · rw [List.takeWhile_cons, if_pos hc, List.length_cons, pieces, hin, squeeze_in hc]
      | false =>
        have hkeep : ((plus true p).pieces 0 start (c :: s)).flatMap (Piece.replaced fun _ => [w])
            = c :: squeeze p w false s := by
          rw [pieces_miss (matchAt_plus_eq_none hc), List.flatMap_cons, hout]
          rfl
        rw [squeeze_of_not hc, squeeze_of_not hc, List.takeWhile_cons, hc]
        exact ⟨hkeep, hkeep⟩
  exact (hboth s true).1

end Runs

/-! ## Whether there is a match at all -/

section Somewhere

variable {r : Regex} {start : Bool} {s : PyStr} {groups : List (Nat × PyStr)}

/-- Something holds at a place of a text: of whether a line starts there, and of the rest. -/
def Somewhere (p : Bool → PyStr → Prop) : Bool → PyStr → Prop
  | start, [] => p start []
  | start, c :: s => p start (c :: s) ∨ Somewhere p (c == 10) s

theorem Somewhere.imp {p q : Bool → PyStr → Prop} (hpq : ∀ start s, p start s → q start s)
    (h : Somewhere p start s) : Somewhere q start s := by
  induction s generalizing start with
  | nil => exact hpq _ _ h
  | cons c s ih => exact h.imp (hpq _ _) ih

/-- The pattern matches at a place. -/
def Matches (r : Regex) (start : Bool) (s : PyStr) : Prop := ∃ done, done ∈ run r ⟨start, s, []⟩

theorem matches_iff : r.Matches start s ↔ r.matchAt ⟨start, s, []⟩ ≠ none := by
  rw [Ne, matchAt_eq_none_iff, not_forall_not]
  exact Iff.rfl

theorem searchFrom_isSome_iff :
    (r.searchFrom start s).isSome = true ↔ Somewhere r.Matches start s := by
  induction s generalizing start with
  | nil => rw [searchFrom, Somewhere, matches_iff, Option.isSome_iff_ne_none]
  | cons c s ih =>
    rw [searchFrom, Somewhere, matches_iff]
    cases h : r.matchAt ⟨start, c :: s, []⟩ with
    | some done => exact ⟨fun _ => .inl (Option.some_ne_none done), fun _ => rfl⟩
    | none => exact ih.trans ⟨.inr, fun h => h.resolve_left fun hne => hne rfl⟩

/-- The pattern reads at least one character. -/
def Advances (r : Regex) : Prop :=
  ∀ start s done, done ∈ run r ⟨start, s, []⟩ → done.rest.length < s.length

/-- Without a match the characters are all there is. -/
theorem pieces_of_not_somewhere (h : ¬ Somewhere r.Matches start s) :
    r.pieces 0 start s = s.map .char := by
  induction s generalizing start with
  | nil => rfl
  | cons c s ih =>
    rw [Somewhere, not_or, matches_iff, not_not] at h
    rw [pieces_miss h.1, ih h.2, List.map_cons]

theorem exists_hit (hadv : r.Advances) (h : Somewhere r.Matches start s) :
    ∃ groups, .hit groups ∈ r.pieces 0 start s := by
  induction s generalizing start with
  | nil =>
    obtain ⟨done, hdone⟩ := h
    exact absurd (hadv _ _ _ hdone) (Nat.not_lt_zero _)
  | cons c s ih =>
    cases hmatch : r.matchAt ⟨start, c :: s, []⟩ with
    | some done =>
      rw [pieces_hit hmatch (hadv _ _ _ (mem_of_matchAt hmatch))]
      exact ⟨done.groups, List.mem_cons_self⟩
    | none =>
      rw [Somewhere, matches_iff] at h
      obtain ⟨groups, hmem⟩ := ih (h.resolve_left fun hne => hne hmatch)
      rw [pieces_miss hmatch]
      exact ⟨groups, List.mem_cons_of_mem _ hmem⟩

/-- A match in the pieces is one of the pattern at its place. -/
theorem somewhere_of_hit {skip : Nat} (h : .hit groups ∈ r.pieces skip start s) :
    Somewhere (fun start s => ∃ done ∈ run r ⟨start, s, []⟩, done.groups = groups) start s := by
  induction s generalizing skip start with
  | nil =>
    rw [pieces] at h
    exact absurd h List.not_mem_nil
  | cons c s ih =>
    rw [Somewhere]
    cases skip with
    | succ skip => exact .inr (ih h)
    | zero =>
      rw [pieces] at h
      split at h
      next =>
        rcases List.mem_cons.mp h with heq | h
        · cases heq
        · exact .inr (ih h)
      next done hmatch =>
        split at h
        next =>
          rcases List.mem_cons.mp h with heq | h
          · cases heq
            exact .inl ⟨done, mem_of_matchAt hmatch, rfl⟩
          · exact .inr (ih h)
        next =>
          rcases List.mem_cons.mp h with heq | h
          · cases heq
          · exact .inr (ih h)

end Somewhere

end Regex

end EdgeSensor.Py
