import EdgeSensor.Lib.Run
import Mathlib.Data.List.Induction
import Mathlib.Logic.Function.Basic

/-!
# A file that is read, changed and written back

A call reads the file, makes something new of what it holds, opens the file (which empties it)
and writes. Nothing keeps two calls apart. A reader that comes between the opening and the
writing finds an empty file; and a writer that comes after a longer text has been written finds
the end of that text behind its own, which nobody can read any more.

What a file that nobody can read counts as is `read (some [])`. So there are three ways to lose
what a call did. `made_of_disjoint` says what is left in any case: what is read from the file is
what calls made of each other's results, one wholly after the other. `serial_run` says that it
is all the calls where each begins after the one before it has written.
-/

namespace EdgeSensor.Lib

/-- How contents are written, and what is read from a file, or from there being none; and what a
call makes of what it has read. -/
structure FileCodec (β κ υ : Type) where
  /-- The contents there can be. -/
  Valid : κ → Prop
  encode : κ → List β
  read : Option (List β) → κ
  /-- What every text ends with. -/
  last : β
  getLast_encode : ∀ x, Valid x → (encode x).getLast? = some last
  read_encode : ∀ x, Valid x → read (some (encode x)) = x
  /-- A text with the end of another behind it is not read. -/
  read_extra : ∀ x tail, Valid x → tail.getLast? = some last →
    read (some (encode x ++ tail)) = read (some [])
  valid_none : Valid (read none)
  valid_empty : Valid (read (some []))
  apply : υ → κ → κ
  valid_apply : ∀ update x, Valid x → Valid (apply update x)

/-- Where a call is; `content` is what it will write. -/
inductive RewritePc (κ : Type) where
  | idle
  | loaded (content : κ)
  | opened (content : κ)

structure Rewrite (β κ : Type) where
  file : Option (List β) := none
  pc : Nat → RewritePc κ := fun _ => .idle

inductive RewriteStep (υ : Type) where
  /-- A call begins: it reads the file, and works out what it will write. -/
  | load (thread : Nat) (update : υ)
  | openFile (thread : Nat)
  | write (thread : Nat)

/-- A call of a run: when it reads, when it has written, and what it does to what it reads. -/
structure RewriteCall (υ : Type) where
  start : Nat
  stop : Nat
  update : υ

namespace Rewrite

variable {β κ υ : Type}

def goto (w : Rewrite β κ) (t : Nat) (pc : RewritePc κ) : Rewrite β κ :=
  { w with pc := Function.update w.pc t pc }

def step (codec : FileCodec β κ υ) (w : Rewrite β κ) : RewriteStep υ → Rewrite β κ
  | .load t update =>
    match w.pc t with
    | .idle => w.goto t (.loaded (codec.apply update (codec.read w.file)))
    | _ => w
  | .openFile t =>
    match w.pc t with
    | .loaded content => { w.goto t (.opened content) with file := some [] }
    | _ => w
  | .write t =>
    match w.pc t with
    | .opened content =>
      let text := codec.encode content
      { w.goto t .idle with file := some (text ++ (w.file.getD []).drop text.length) }
    | _ => w

section Runs

variable (codec : FileCodec β κ υ) (w0 : Rewrite β κ) (steps : List (RewriteStep υ))

/-- A call of thread `t` begins at position `start`. -/
def Begins (t start : Nat) (update : υ) : Prop :=
  steps[start]? = some (.load t update) ∧ (stateAt (step codec) w0 steps start).pc t = .idle

/-- Thread `t` has not come back between `start` and `stop`. -/
def Busy (t start stop : Nat) : Prop :=
  ∀ i, start < i → i ≤ stop → (stateAt (step codec) w0 steps i).pc t ≠ .idle

/-- `call` is one of the run. -/
def IsCall (call : RewriteCall υ) : Prop :=
  ∃ t, Begins codec w0 steps t call.start call.update ∧ call.start < call.stop ∧
    Busy codec w0 steps t call.start call.stop ∧ steps[call.stop]? = some (.write t) ∧
    ∃ content, (stateAt (step codec) w0 steps call.stop).pc t = .opened content

/-- `x` is what calls of the run made of each other's results, one wholly after the other and all
before position `n`; the first read the file the run began with, or one that it could not read. -/
def Made (n : Nat) (x : κ) : Prop :=
  ∃ base, ∃ calls : List (RewriteCall υ), (base = codec.read w0.file ∨ base = codec.read (some [])) ∧
    (∀ call ∈ calls, IsCall codec w0 steps call ∧ call.stop < n) ∧
    calls.Pairwise (fun call later => call.stop < later.start) ∧
    x = calls.foldl (fun x call => codec.apply call.update x) base

end Runs

/-- The file is as a writer leaves it. -/
structure Shape (codec : FileCodec β κ υ) (file : Option (List β)) : Prop where
  valid : codec.Valid (codec.read file)
  last : ∀ text ∈ file, text = [] ∨ text.getLast? = some codec.last

variable {codec : FileCodec β κ υ} {w w0 : Rewrite β κ} {steps : List (RewriteStep υ)} {t n : Nat}
  {pc : RewritePc κ}

theorem goto_self (w : Rewrite β κ) (t : Nat) (pc : RewritePc κ) : (w.goto t pc).pc t = pc :=
  Function.update_self ..

theorem goto_ne {t' : Nat} (h : t' ≠ t) : (w.goto t pc).pc t' = w.pc t' :=
  Function.update_of_ne h _ _

/-! ## A longer run -/

section Longer

variable {x : RewriteStep υ}

theorem stateAt_snoc {i : Nat} (h : i ≤ steps.length) :
    stateAt (step codec) w0 (steps ++ [x]) i = stateAt (step codec) w0 steps i := by
  rw [stateAt, stateAt, List.take_append_of_le_length h]

theorem getElem?_snoc {i : Nat} {y : RewriteStep υ} (h : steps[i]? = some y) :
    (steps ++ [x])[i]? = some y := by
  rw [List.getElem?_append_left (List.getElem?_eq_some_iff.mp h).1]
  exact h

theorem Begins.snoc {start : Nat} {update : υ} (h : Begins codec w0 steps t start update) :
    Begins codec w0 (steps ++ [x]) t start update := by
  obtain ⟨hload, hidle⟩ := h
  have hlt := (List.getElem?_eq_some_iff.mp hload).1
  exact ⟨getElem?_snoc hload, by rw [stateAt_snoc (Nat.le_of_lt hlt)]; exact hidle⟩

theorem Busy.snoc {start stop : Nat} (h : Busy codec w0 steps t start stop)
    (hstop : stop ≤ steps.length) : Busy codec w0 (steps ++ [x]) t start stop := by
  intro i hi hle
  rw [stateAt_snoc (Nat.le_trans hle hstop)]
  exact h i hi hle

theorem IsCall.snoc {call : RewriteCall υ} (h : IsCall codec w0 steps call) :
    IsCall codec w0 (steps ++ [x]) call := by
  obtain ⟨t, hbegins, hlt, hbusy, hwrite, content, hopened⟩ := h
  have hstop := Nat.le_of_lt (List.getElem?_eq_some_iff.mp hwrite).1
  exact ⟨t, hbegins.snoc, hlt, hbusy.snoc hstop, getElem?_snoc hwrite, content,
    by rw [stateAt_snoc hstop]; exact hopened⟩

theorem Made.snoc {y : κ} {n' : Nat} (h : Made codec w0 steps n y) (hn : n ≤ n') :
    Made codec w0 (steps ++ [x]) n' y := by
  obtain ⟨base, calls, hbase, hcalls, hpairwise, hy⟩ := h
  refine ⟨base, calls, hbase, fun call hcall => ?_, hpairwise, hy⟩
  obtain ⟨his, hlt⟩ := hcalls call hcall
  exact ⟨his.snoc, Nat.lt_of_lt_of_le hlt hn⟩

end Longer

theorem stateAt_length : stateAt (step codec) w0 steps steps.length = steps.foldl (step codec) w0 := by
  rw [stateAt, List.take_length]

/-- No call has made it. -/
theorem Made.base {y : κ} (h : y = codec.read w0.file ∨ y = codec.read (some [])) :
    Made codec w0 steps n y :=
  ⟨y, [], h, fun _ hcall => absurd hcall List.not_mem_nil, .nil, rfl⟩

/-- One more call, which began after those before it had written. -/
theorem Made.call {y : κ} {call : RewriteCall υ} (h : Made codec w0 steps call.start y)
    (hcall : IsCall codec w0 steps call) (hn : call.stop < n) :
    Made codec w0 steps n (codec.apply call.update y) := by
  obtain ⟨base, calls, hbase, hcalls, hpairwise, rfl⟩ := h
  have hlt : call.start < call.stop := by
    obtain ⟨_, _, hlt, _⟩ := hcall
    exact hlt
  refine ⟨base, calls ++ [call], hbase, fun other hother => ?_, ?_, by rw [List.foldl_concat]⟩
  · rcases List.mem_append.mp hother with hother | hother
    · obtain ⟨his, hbefore⟩ := hcalls other hother
      exact ⟨his, by omega⟩
    · rw [List.mem_singleton.mp hother]
      exact ⟨hcall, hn⟩
  · rw [List.pairwise_append]
    refine ⟨hpairwise, List.pairwise_singleton .., fun a ha b hb => ?_⟩
    rw [List.mem_singleton.mp hb]
    exact (hcalls a ha).2

/-! ## What is in the file -/

/-- What a thread is going to write comes from a call that is under way. -/
def Pending (codec : FileCodec β κ υ) (w0 : Rewrite β κ) (steps : List (RewriteStep υ)) (t : Nat)
    (content : κ) : Prop :=
  codec.Valid content ∧ ∃ start update y, Begins codec w0 steps t start update ∧
    Busy codec w0 steps t start steps.length ∧ Made codec w0 steps start y ∧ content = codec.apply update y

/-- What every step preserves. -/
structure Inv (codec : FileCodec β κ υ) (w0 : Rewrite β κ) (steps : List (RewriteStep υ)) : Prop where
  shape : Shape codec (steps.foldl (step codec) w0).file
  made : Made codec w0 steps steps.length (codec.read (steps.foldl (step codec) w0).file)
  pending : ∀ t content, (steps.foldl (step codec) w0).pc t = .loaded content ∨
    (steps.foldl (step codec) w0).pc t = .opened content → Pending codec w0 steps t content

section Step

variable {x : RewriteStep υ}

theorem foldl_snoc : (steps ++ [x]).foldl (step codec) w0
    = step codec (steps.foldl (step codec) w0) x := List.foldl_concat ..

theorem stateAt_last : stateAt (step codec) w0 (steps ++ [x]) (steps.length + 1)
    = step codec (steps.foldl (step codec) w0) x := by
  rw [← foldl_snoc, ← stateAt_length, List.length_append]
  rfl

/-- A thread that has not come back is still busy. -/
theorem Busy.longer {start : Nat} (h : Busy codec w0 steps t start steps.length)
    (hbusy : (step codec (steps.foldl (step codec) w0) x).pc t ≠ .idle) :
    Busy codec w0 (steps ++ [x]) t start (steps ++ [x]).length := by
  intro i hi hle
  rw [List.length_append, List.length_singleton] at hle
  by_cases hlast : i = steps.length + 1
  · rw [hlast, stateAt_last]
    exact hbusy
  · exact h.snoc (Nat.le_refl _) i hi (by omega)

theorem Pending.snoc {content : κ} (h : Pending codec w0 steps t content)
    (hbusy : (step codec (steps.foldl (step codec) w0) x).pc t ≠ .idle) :
    Pending codec w0 (steps ++ [x]) t content := by
  obtain ⟨hvalid, start, update, y, hbegins, hold, hmade, heq⟩ := h
  exact ⟨hvalid, start, update, y, hbegins.snoc, hold.longer hbusy, hmade.snoc (Nat.le_refl _), heq⟩

/-- Of a thread that a step leaves where it is. -/
theorem Inv.others (h : Inv codec w0 steps) {t' : Nat}
    (hsame : (step codec (steps.foldl (step codec) w0) x).pc t' = (steps.foldl (step codec) w0).pc t')
    {content : κ} (ht' : (step codec (steps.foldl (step codec) w0) x).pc t' = .loaded content ∨
      (step codec (steps.foldl (step codec) w0) x).pc t' = .opened content) :
    Pending codec w0 (steps ++ [x]) t' content := by
  have hbusy : (step codec (steps.foldl (step codec) w0) x).pc t' ≠ .idle := by
    intro hidle
    rw [hidle] at ht'
    rcases ht' with ht' | ht'
    · cases ht'
    · cases ht'
  rw [hsame] at ht'
  exact (h.pending t' content ht').snoc hbusy

/-- A step that does nothing. -/
theorem Inv.stays (h : Inv codec w0 steps)
    (hsame : step codec (steps.foldl (step codec) w0) x = steps.foldl (step codec) w0) :
    Inv codec w0 (steps ++ [x]) := by
  refine ⟨?_, ?_, fun t' content ht' => ?_⟩
  · rw [foldl_snoc, hsame]
    exact h.shape
  · rw [foldl_snoc, hsame]
    exact h.made.snoc (by rw [List.length_append]; omega)
  · rw [foldl_snoc] at ht'
    exact h.others (by rw [hsame]) ht'

theorem Inv.load (h : Inv codec w0 steps) {update : υ}
    (hidle : (steps.foldl (step codec) w0).pc t = .idle) :
    Inv codec w0 (steps ++ [.load t update]) := by
  have hstep : step codec (steps.foldl (step codec) w0) (.load t update) =
      (steps.foldl (step codec) w0).goto t
        (.loaded (codec.apply update (codec.read (steps.foldl (step codec) w0).file))) := by
    simp only [step, hidle]
  refine ⟨?_, ?_, fun t' content ht' => ?_⟩
  · rw [foldl_snoc, hstep]
    exact h.shape
  · rw [foldl_snoc, hstep]
    exact h.made.snoc (by rw [List.length_append]; omega)
  · rw [foldl_snoc] at ht'
    by_cases heq : t' = t
    · subst heq
      have hbusy : (step codec (steps.foldl (step codec) w0) (.load t' update)).pc t' =
          .loaded (codec.apply update (codec.read (steps.foldl (step codec) w0).file)) := by
        rw [hstep, goto_self]
      have hcontent : content = codec.apply update (codec.read (steps.foldl (step codec) w0).file) := by
        rw [hbusy] at ht'
        rcases ht' with ht' | ht'
        · exact (RewritePc.loaded.inj ht').symm
        · cases ht'
      refine ⟨hcontent ▸ codec.valid_apply update _ h.shape.valid, steps.length, update, _, ⟨?_, ?_⟩, ?_,
        h.made.snoc (Nat.le_refl _), hcontent⟩
      · rw [List.getElem?_append_right (Nat.le_refl _), Nat.sub_self]
        rfl
      · rw [stateAt_snoc (Nat.le_refl _), stateAt_length]
        exact hidle
      · intro i hi hle
        rw [List.length_append, List.length_singleton] at hle
        rw [show i = steps.length + 1 by omega, stateAt_last, hbusy]
        intro hno
        cases hno
    · exact h.others (by rw [hstep, goto_ne heq]) ht'

theorem Inv.openFile (h : Inv codec w0 steps) {content : κ}
    (hloaded : (steps.foldl (step codec) w0).pc t = .loaded content) :
    Inv codec w0 (steps ++ [.openFile t]) := by
  have hstep : step codec (steps.foldl (step codec) w0) (.openFile t) =
      { (steps.foldl (step codec) w0).goto t (.opened content) with file := some [] } := by
    simp only [step, hloaded]
  refine ⟨?_, ?_, fun t' content' ht' => ?_⟩
  · rw [foldl_snoc, hstep]
    exact ⟨codec.valid_empty, fun text htext => .inl (Option.some.inj htext).symm⟩
  · rw [foldl_snoc, hstep]
    exact .base (.inr rfl)
  · rw [foldl_snoc] at ht'
    by_cases heq : t' = t
    · subst heq
      have hbusy : (step codec (steps.foldl (step codec) w0) (.openFile t')).pc t' = .opened content := by
        rw [hstep]
        exact goto_self ..
      have hcontent : content' = content := by
        rw [hbusy] at ht'
        rcases ht' with ht' | ht'
        · cases ht'
        · exact (RewritePc.opened.inj ht').symm
      rw [hcontent]
      refine (h.pending t' content (.inl hloaded)).snoc ?_
      rw [hbusy]
      intro hno
      cases hno
    · refine h.others ?_ ht'
      rw [hstep]
      exact goto_ne heq

/-- What a writer leaves behind of a longer text ends as that one did. -/
theorem Shape.getLast?_rest {file : Option (List β)} (h : Shape codec file)
    (hrest : (file.getD []).drop n ≠ []) : ((file.getD []).drop n).getLast? = some codec.last := by
  cases file with
  | none => exact absurd List.drop_nil hrest
  | some text =>
    rcases h.last text rfl with hempty | hlast
    · rw [hempty] at hrest
      exact absurd List.drop_nil hrest
    · have hlong : n < text.length := by
        by_contra hshort
        exact hrest (List.drop_eq_nil_of_le (Nat.le_of_not_lt hshort))
      show (text.drop n).getLast? = some codec.last
      rw [List.getLast?_drop, if_neg (Nat.not_le_of_lt hlong)]
      exact hlast

theorem step_write {content : κ} (hopened : w.pc t = .opened content) :
    step codec w (.write t) = { w.goto t .idle with
      file := some (codec.encode content ++ (w.file.getD []).drop (codec.encode content).length) } := by
  simp only [step, hopened]

/-- The other threads are where they were. -/
theorem Inv.pending_write (h : Inv codec w0 steps) {content : κ}
    (hopened : (steps.foldl (step codec) w0).pc t = .opened content) (t' : Nat) (content' : κ)
    (ht' : (step codec (steps.foldl (step codec) w0) (.write t)).pc t' = .loaded content' ∨
      (step codec (steps.foldl (step codec) w0) (.write t)).pc t' = .opened content') :
    Pending codec w0 (steps ++ [.write t]) t' content' := by
  by_cases heq : t' = t
  · have hidle : (step codec (steps.foldl (step codec) w0) (.write t)).pc t' = .idle := by
      rw [step_write hopened, heq]
      exact goto_self ..
    rw [hidle] at ht'
    rcases ht' with ht' | ht'
    · cases ht'
    · cases ht'
  · refine h.others ?_ ht'
    rw [step_write hopened]
    exact goto_ne heq

/-- Nothing longer is there: what has been written is what is read. -/
theorem Inv.write_whole (h : Inv codec w0 steps) {content : κ}
    (hopened : (steps.foldl (step codec) w0).pc t = .opened content)
    (hrest : ((steps.foldl (step codec) w0).file.getD []).drop (codec.encode content).length = []) :
    Inv codec w0 (steps ++ [.write t]) := by
  obtain ⟨hvalid, start, update, y, hbegins, hbusy, hmade, hcontent⟩ :=
    h.pending t content (.inr hopened)
  have hfile : (step codec (steps.foldl (step codec) w0) (.write t)).file
      = some (codec.encode content) := by
    rw [step_write hopened, hrest, List.append_nil]
  have hread : codec.read (step codec (steps.foldl (step codec) w0) (.write t)).file = content := by
    rw [hfile]
    exact codec.read_encode content hvalid
  have hlt : start < steps.length := (List.getElem?_eq_some_iff.mp hbegins.1).1
  refine ⟨⟨?_, ?_⟩, ?_, fun t' content' ht' => ?_⟩
  · rw [foldl_snoc, hread]
    exact hvalid
  · rw [foldl_snoc, hfile]
    intro text htext
    rw [← Option.some.inj htext]
    exact .inr (codec.getLast_encode content hvalid)
  · rw [foldl_snoc, hread, hcontent]
    have hcall : IsCall codec w0 (steps ++ [.write t]) ⟨start, steps.length, update⟩ := by
      refine ⟨t, hbegins.snoc, hlt, hbusy.snoc (Nat.le_refl _), ?_, content, ?_⟩
      · rw [List.getElem?_append_right (Nat.le_refl _), Nat.sub_self]
        rfl
      · rw [stateAt_snoc (Nat.le_refl _), stateAt_length]
        exact hopened
    refine Made.call (hmade.snoc (Nat.le_refl _)) hcall ?_
    rw [List.length_append, List.length_singleton]
    exact Nat.lt_succ_self _
  · rw [foldl_snoc] at ht'
    exact h.pending_write hopened t' content' ht'

/-- The end of a longer text is left behind: what is read is what is read of an empty file. -/
theorem Inv.write_over (h : Inv codec w0 steps) {content : κ}
    (hopened : (steps.foldl (step codec) w0).pc t = .opened content)
    (hrest : ((steps.foldl (step codec) w0).file.getD []).drop (codec.encode content).length ≠ []) :
    Inv codec w0 (steps ++ [.write t]) := by
  have hvalid : codec.Valid content := (h.pending t content (.inr hopened)).1
  have hlast := h.shape.getLast?_rest hrest
  have hread : codec.read (step codec (steps.foldl (step codec) w0) (.write t)).file =
      codec.read (some []) := by
    rw [step_write hopened]
    exact codec.read_extra content _ hvalid hlast
  refine ⟨⟨?_, ?_⟩, ?_, fun t' content' ht' => ?_⟩
  · rw [foldl_snoc, hread]
    exact codec.valid_empty
  · rw [foldl_snoc, step_write hopened]
    intro text htext
    rw [← Option.some.inj htext]
    refine .inr ?_
    rw [List.getLast?_append, hlast]
    rfl
  · rw [foldl_snoc, hread]
    exact .base (.inr rfl)
  · rw [foldl_snoc] at ht'
    exact h.pending_write hopened t' content' ht'

theorem Inv.write (h : Inv codec w0 steps) {content : κ}
    (hopened : (steps.foldl (step codec) w0).pc t = .opened content) :
    Inv codec w0 (steps ++ [.write t]) := by
  by_cases hrest : ((steps.foldl (step codec) w0).file.getD []).drop (codec.encode content).length = []
  · exact h.write_whole hopened hrest
  · exact h.write_over hopened hrest

/-- The step lemma. -/
theorem Inv.snoc (h : Inv codec w0 steps) (x : RewriteStep υ) : Inv codec w0 (steps ++ [x]) := by
  cases x with
  | load t update =>
    cases hpc : (steps.foldl (step codec) w0).pc t with
    | idle => exact h.load hpc
    | loaded content => exact h.stays (by simp only [step, hpc])
    | opened content => exact h.stays (by simp only [step, hpc])
  | openFile t =>
    cases hpc : (steps.foldl (step codec) w0).pc t with
    | idle => exact h.stays (by simp only [step, hpc])
    | loaded content => exact h.openFile hpc
    | opened content => exact h.stays (by simp only [step, hpc])
  | write t =>
    cases hpc : (steps.foldl (step codec) w0).pc t with
    | idle => exact h.stays (by simp only [step, hpc])
    | loaded content => exact h.stays (by simp only [step, hpc])
    | opened content => exact h.write hpc

end Step

/-- **What is left.** In every interleaving, what is read from the file is what some calls of the
run made of each other's results, each of which began after the one before it had written. -/
theorem made_of_disjoint (hshape : Shape codec w0.file) (hidle : ∀ t, w0.pc t = .idle)
    (steps : List (RewriteStep υ)) : Inv codec w0 steps := by
  induction steps using List.reverseRecOn with
  | nil =>
    refine ⟨hshape, .base (.inl rfl),
      fun t content ht => ?_⟩
    rw [List.foldl_nil, hidle] at ht
    rcases ht with ht | ht
    · cases ht
    · cases ht
  | append_singleton steps x ih => exact ih.snoc x

/-! ## One call after the other -/

/-- Whoever begins finds nobody at work. -/
def Free (w : Rewrite β κ) : RewriteStep υ → Prop
  | .load _ _ => ∀ t, w.pc t = .idle
  | _ => True

/-- What the calls of a run do, in the order in which they begin. -/
def updates (steps : List (RewriteStep υ)) : List υ :=
  steps.filterMap fun
    | .load _ update => some update
    | _ => none

theorem getLastD_filterMap_cons {α γ : Type} (f : α → Option γ) (x : α) (xs : List α) (d : γ) :
    ((x :: xs).filterMap f).getLastD d = (xs.filterMap f).getLastD ((f x).getD d) := by
  cases hx : f x with
  | none => rw [List.filterMap_cons_none hx, Option.getD_none]
  | some y => rw [List.filterMap_cons_some hx, List.getLastD_cons, Option.getD_some]

/-- A part of the contents that each call sets or leaves as it is: the last one to set it counts. -/
theorem foldl_getLastD {α γ σ : Type} {apply : σ → α → σ} (part : σ → γ) (given : α → Option γ)
    (h : ∀ x call, part (apply x call) = (given call).getD (part x)) (calls : List α) (x : σ) :
    part (calls.foldl apply x) = (calls.filterMap given).getLastD (part x) := by
  induction calls generalizing x with
  | nil => rfl
  | cons call calls ih => rw [List.foldl_cons, ih, h, getLastD_filterMap_cons]

/-- At most one call is under way, and `x` is in the file or is going to be; if a call has `begun`,
the file is as it was written. -/
inductive Alone (codec : FileCodec β κ υ) (x : κ) (begun : Prop) (w : Rewrite β κ) : Prop
  | idle (hidle : ∀ t, w.pc t = .idle) (hread : codec.read w.file = x)
    (hfile : begun → w.file = some (codec.encode x))
  | loaded (t : Nat) (ht : w.pc t = .loaded x) (hothers : ∀ t' ≠ t, w.pc t' = .idle)
  | opened (t : Nat) (ht : w.pc t = .opened x) (hfile : w.file = some [])
      (hothers : ∀ t' ≠ t, w.pc t' = .idle)

variable {begun : Prop}

theorem Alone.imp {x : κ} {begun' : Prop} (h : Alone codec x begun w) (himp : begun' → begun) :
    Alone codec x begun' w := by
  cases h with
  | idle hidle hread hfile => exact .idle hidle hread fun hbegun => hfile (himp hbegun)
  | loaded t ht hothers => exact .loaded t ht hothers
  | opened t ht hfile hothers => exact .opened t ht hfile hothers

theorem Alone.load {x : κ} (h : Alone codec x begun w) {update : υ} (hfree : ∀ t, w.pc t = .idle) :
    Alone codec (codec.apply update x) True (step codec w (.load t update)) := by
  have hread : codec.read w.file = x := by
    cases h with
    | idle _ hread => exact hread
    | loaded t' ht' =>
      rw [hfree] at ht'
      cases ht'
    | opened t' ht' =>
      rw [hfree] at ht'
      cases ht'
  simp only [step, hfree t, hread]
  exact .loaded t (goto_self ..) fun t' hne => (goto_ne hne).trans (hfree t')

/-- Who has loaded has what is there, and is alone. -/
theorem Alone.of_loaded {x content : κ} (h : Alone codec x begun w) (hpc : w.pc t = .loaded content) :
    content = x ∧ ∀ t' ≠ t, w.pc t' = .idle := by
  cases h with
  | idle hidle =>
    rw [hidle] at hpc
    cases hpc
  | loaded t' ht' hothers =>
    by_cases heq : t = t'
    · subst heq
      rw [ht'] at hpc
      exact ⟨(RewritePc.loaded.inj hpc).symm, hothers⟩
    · rw [hothers t heq] at hpc
      cases hpc
  | opened t' ht' _ hothers =>
    by_cases heq : t = t'
    · rw [heq, ht'] at hpc
      cases hpc
    · rw [hothers t heq] at hpc
      cases hpc

/-- Who has opened the file has emptied it, and is alone. -/
theorem Alone.of_opened {x content : κ} (h : Alone codec x begun w) (hpc : w.pc t = .opened content) :
    content = x ∧ w.file = some [] ∧ ∀ t' ≠ t, w.pc t' = .idle := by
  cases h with
  | idle hidle =>
    rw [hidle] at hpc
    cases hpc
  | loaded t' ht' hothers =>
    by_cases heq : t = t'
    · rw [heq, ht'] at hpc
      cases hpc
    · rw [hothers t heq] at hpc
      cases hpc
  | opened t' ht' hfile hothers =>
    by_cases heq : t = t'
    · subst heq
      rw [ht'] at hpc
      exact ⟨(RewritePc.opened.inj hpc).symm, hfile, hothers⟩
    · rw [hothers t heq] at hpc
      cases hpc

theorem Alone.openFile {x : κ} (h : Alone codec x begun w) :
    Alone codec x begun (step codec w (.openFile t)) := by
  cases hpc : w.pc t with
  | idle =>
    simp only [step, hpc]
    exact h
  | opened content =>
    simp only [step, hpc]
    exact h
  | loaded content =>
    obtain ⟨rfl, hothers⟩ := h.of_loaded hpc
    simp only [step, hpc]
    exact .opened t (goto_self ..) rfl fun t' hne => (goto_ne hne).trans (hothers t' hne)

theorem Alone.write {x : κ} (h : Alone codec x begun w) (hvalid : codec.Valid x) :
    Alone codec x begun (step codec w (.write t)) := by
  cases hpc : w.pc t with
  | idle =>
    simp only [step, hpc]
    exact h
  | loaded content =>
    simp only [step, hpc]
    exact h
  | opened content =>
    obtain ⟨rfl, hfile, hothers⟩ := h.of_opened hpc
    have hwritten : (step codec w (.write t)).file = some (codec.encode content) := by
      -- the file is empty: nothing is left behind
      rw [step_write hpc, hfile, Option.getD_some, List.drop_nil, List.append_nil]
    refine .idle (fun t' => ?_) ?_ fun _ => hwritten
    · rw [step_write hpc]
      by_cases heq : t' = t
      · rw [heq]
        exact goto_self ..
      · exact (goto_ne heq).trans (hothers t' heq)
    · rw [hwritten]
      exact codec.read_encode content hvalid

/-- **No call is lost.** Where each call begins after those before it have written, what is read
in the end, while nobody is at work, is what all of them made of the file, in their order. -/
theorem serial_run (hvalid0 : codec.Valid (codec.read w0.file)) (hidle : ∀ t, w0.pc t = .idle)
    (hfree : Along (step codec) Free w0 steps) :
    Alone codec ((updates steps).foldl (fun x update => codec.apply update x) (codec.read w0.file))
      (updates steps ≠ []) (steps.foldl (step codec) w0) := by
  have hgo : ∀ (steps : List (RewriteStep υ)) (w : Rewrite β κ) (x : κ) (begun : Prop),
      codec.Valid x → Alone codec x begun w → Along (step codec) Free w steps →
      Alone codec ((updates steps).foldl (fun x update => codec.apply update x) x)
        (begun ∨ updates steps ≠ []) (steps.foldl (step codec) w) := by
    intro steps
    induction steps with
    | nil => exact fun _ _ _ _ h _ => h.imp fun hor => hor.resolve_right fun hno => hno rfl
    | cons y steps ih =>
      intro w x begun hvalid h hfree
      obtain ⟨hy, hfree⟩ := hfree
      cases y with
      | load t update =>
        exact (ih _ _ _ (codec.valid_apply update x hvalid) (h.load hy) hfree).imp fun _ => .inl trivial
      | openFile t => exact ih _ x begun hvalid h.openFile hfree
      | write t => exact ih _ x begun hvalid (h.write hvalid) hfree
  exact (hgo steps w0 _ False hvalid0 (.idle hidle rfl fun hno => hno.elim) hfree).imp .inr

/-- While nobody is at work, the file holds it. -/
theorem Alone.read_eq {x : κ} (h : Alone codec x begun w) (hidle : ∀ t, w.pc t = .idle) :
    codec.read w.file = x ∧ (begun → w.file = some (codec.encode x)) := by
  cases h with
  | idle _ hread hfile => exact ⟨hread, hfile⟩
  | loaded t ht =>
    rw [hidle] at ht
    cases ht
  | opened t ht =>
    rw [hidle] at ht
    cases ht

end Rewrite

end EdgeSensor.Lib
