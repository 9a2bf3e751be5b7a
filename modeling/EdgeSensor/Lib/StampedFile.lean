import EdgeSensor.Lib.Run
import EdgeSensor.Lib.StampStore

/-!
# A file and its stamp, between one writer and one poller

A writer replaces a file and then a stamp, a little text that says that the file is new.
Neither replacement is atomic: each empties what was there before it writes. A poller, a
`StampStore`, looks at the stamp first and reads the file after. There is no lock, so a poll
can fall anywhere between two writes, and a write between the look and the read of a poll.

`Inv` is why this works: once the content of a write is in the file, whoever remembers its
stamp holds that content (`Holds`), because no stamp is used twice. `settles` is the outcome:
with nothing left to write, the next poll that is due leaves the poller with what is in the
file.

The file holds a `β`, and `view` is what the poller makes of it.
-/

namespace EdgeSensor.Lib

/-- How far a writer has got, and what it has yet to write. -/
inductive WritePhase (β : Type) where
  | idle
  | begun (content : β) (text : String)
  /-- The file is empty. -/
  | emptied (content : β) (text : String)
  /-- The content is in the file; the stamp is the old one. -/
  | filled (text : String)
  /-- The stamp is cut short. -/
  | stampCut (text : String)

instance {β : Type} (phase : WritePhase β) : Decidable (phase = .idle) :=
  match phase with
  | .idle => .isTrue rfl
  | .begun _ _ => .isFalse nofun
  | .emptied _ _ => .isFalse nofun
  | .filled _ => .isFalse nofun
  | .stampCut _ => .isFalse nofun

/-- A poll that has looked at the stamp and is about to read the file. -/
structure Look where
  force : Bool
  now : Rat
  stamp : String

structure StampedFile (β α : Type) where
  file : Option β := none
  stamp : String := ""
  /-- Every text that stood in the stamp. -/
  texts : List String := [""]
  phase : WritePhase β := .idle
  store : StampStore α
  looked : Option Look := none

inductive StampedFileStep (β : Type) where
  /-- The writer begins; it is one writer, so nothing happens while it writes. -/
  | put (content : β) (text : String)
  /-- The next write. A stamp that is cut short reads `part`. -/
  | write (part : String)
  | look (force : Bool) (now : Rat)
  | read
  /-- The poller's process is started again. -/
  | restart

namespace StampedFile

variable {β α : Type}

def new (reloadCheckSec : Rat) : StampedFile β α := { store := { reloadCheckSec := reloadCheckSec } }

def setStamp (w : StampedFile β α) (text : String) : StampedFile β α :=
  { w with stamp := text, texts := text :: w.texts }

def write (w : StampedFile β α) (part : String) : StampedFile β α :=
  match w.phase with
  | .idle => w
  | .begun content text => { w with file := none, phase := .emptied content text }
  | .emptied content text => { w with file := some content, phase := .filled text }
  | .filled text => { w.setStamp part with phase := .stampCut text }
  | .stampCut text => { w.setStamp text with phase := .idle }

/-- What a poll reads, with the stamp it looked at before. -/
def reading (view : β → Option α) (w : StampedFile β α) (look : Look) : Reading α :=
  ⟨look.now, look.stamp, w.file.bind view⟩

/-- A stamp's text is not one that stood there before. -/
def Fresh (w : StampedFile β α) : StampedFileStep β → Prop
  | .put _ text => text ∉ w.texts
  | _ => True

/-! ## The invariant -/

/-- Who remembers the stamp `text` and holds anything holds what there is to see of
`content`. -/
def Holds (view : β → Option α) (store : StampStore α) (content : β) (text : String) : Prop :=
  store.lastStamp = text → ∀ a, store.artifact = some a → view content = some a

/-- Nothing was ever written, or the stamp is for what is in the file. -/
def Settled (view : β → Option α) (w : StampedFile β α) : Prop :=
  (w.file = none ∧ w.store.artifact = none)
    ∨ ∃ content, w.file = some content ∧ Holds view w.store content w.stamp

/-- What holds while the writer is at a phase. -/
def AtPhase (view : β → Option α) (w : StampedFile β α) : Prop :=
  match w.phase with
  | .idle => w.Settled view
  | .begun _ text => text ∉ w.texts ∧ w.Settled view
  | .emptied _ text => text ∉ w.texts
  | .filled text => ∃ content, w.file = some content ∧ Holds view w.store content text
  | .stampCut text => ∃ content, w.file = some content ∧ Holds view w.store content text

/-- What every step preserves. -/
structure Inv (view : β → Option α) (w : StampedFile β α) : Prop where
  stamp : w.stamp ∈ w.texts
  remembered : w.store.lastStamp ∈ w.texts
  looked : ∀ look, w.looked = some look → look.stamp ∈ w.texts
  empty : "" ∈ w.texts
  atPhase : w.AtPhase view

variable {view : β → Option α} {w : StampedFile β α}

theorem Inv.new (reloadCheckSec : Rat) : (new reloadCheckSec : StampedFile β α).Inv view :=
  ⟨List.mem_singleton_self _, List.mem_singleton_self _, fun _ h => (by cases h),
    List.mem_singleton_self _, .inl ⟨rfl, rfl⟩⟩

/-- A new text in the stamp. -/
theorem Inv.setStamp (h : w.Inv view) (text : String) {phase : WritePhase β}
    (hphase : AtPhase view { w.setStamp text with phase := phase }) :
    Inv view { w.setStamp text with phase := phase } :=
  ⟨List.mem_cons_self, List.mem_cons_of_mem _ h.remembered,
    fun look hlook => List.mem_cons_of_mem _ (h.looked look hlook),
    List.mem_cons_of_mem _ h.empty, hphase⟩

/-- The writer's steps. The one that matters is that which fills the file: nobody can
remember its stamp yet. -/
theorem Inv.write (h : w.Inv view) (part : String) : (w.write part).Inv view := by
  have hat := h.atPhase
  unfold AtPhase at hat
  unfold StampedFile.write
  cases hphase : w.phase with
  | idle => exact h
  | begun content text =>
    rw [hphase] at hat
    exact ⟨h.stamp, h.remembered, h.looked, h.empty, hat.1⟩
  | emptied content text =>
    rw [hphase] at hat
    refine ⟨h.stamp, h.remembered, h.looked, h.empty, content, rfl, fun heq => ?_⟩
    exact absurd (heq ▸ h.remembered) hat
  | filled text =>
    rw [hphase] at hat
    exact h.setStamp part hat
  | stampCut text =>
    rw [hphase] at hat
    exact h.setStamp text (.inr hat)

/-- Another store in the place of the one there is: each phase asks only what it makes of
the file, and that it holds nothing of no file. -/
theorem AtPhase.withStore (h : w.AtPhase view) {store : StampStore α} {looked : Option Look}
    (hholds : ∀ content text, w.file = some content → Holds view w.store content text →
      Holds view store content text)
    (hnone : w.file = none → w.store.artifact = none → store.artifact = none) :
    AtPhase view { w with store := store, looked := looked } := by
  have hsettled : w.Settled view → Settled view { w with store := store, looked := looked } := by
    intro hs
    rcases hs with ⟨hfile, hart⟩ | ⟨content, hfile, hold⟩
    · exact .inl ⟨hfile, hnone hfile hart⟩
    · exact .inr ⟨content, hfile, hholds content _ hfile hold⟩
  unfold AtPhase at h ⊢
  simp only
  cases hphase : w.phase with
  | idle =>
    rw [hphase] at h
    exact hsettled h
  | begun content text =>
    rw [hphase] at h
    exact ⟨h.1, hsettled h.2⟩
  | emptied content text =>
    rw [hphase] at h
    exact h
  | filled text =>
    rw [hphase] at h
    obtain ⟨content, hfile, hold⟩ := h
    exact ⟨content, hfile, hholds content text hfile hold⟩
  | stampCut text =>
    rw [hphase] at h
    obtain ⟨content, hfile, hold⟩ := h
    exact ⟨content, hfile, hholds content text hfile hold⟩

/-! ## Steps -/

variable [DecidableEq α]

def step (view : β → Option α) (w : StampedFile β α) : StampedFileStep β → StampedFile β α
  | .put content text =>
    match w.phase with
    | .idle => { w with phase := .begun content text }
    | _ => w
  | .write part => w.write part
  | .look force now =>
    match w.looked with
    | none => { w with looked := some ⟨force, now, w.stamp⟩ }
    | some _ => w
  | .read =>
    match w.looked with
    | none => w
    | some look =>
      { w with store := (w.store.maybeReload look.force (w.reading view look)).1, looked := none }
  | .restart => { w with store := { reloadCheckSec := w.store.reloadCheckSec }, looked := none }

theorem Inv.put (h : w.Inv view) {content : β} {text : String} (hfresh : text ∉ w.texts) :
    (w.step view (.put content text)).Inv view := by
  unfold StampedFile.step
  simp only
  split
  next hphase =>
    have hsettled := h.atPhase
    unfold AtPhase at hsettled
    rw [hphase] at hsettled
    exact ⟨h.stamp, h.remembered, h.looked, h.empty, hfresh, hsettled⟩
  next => exact h

/-- A poll keeps what it holds, or takes what is in the file. -/
theorem AtPhase.poll (h : w.AtPhase view) (look : Look) :
    AtPhase view { w with
      store := (w.store.maybeReload look.force (w.reading view look)).1, looked := none } := by
  refine h.withStore (fun content text hfile hold => ?_) fun hfile hart => ?_
  · rcases w.store.maybeReload_cases look.force (w.reading view look) with hpoll | ⟨hpoll, -⟩ | hpoll
    · rw [hpoll]
      exact hold
    · rw [hpoll]
      exact hold
    · rw [hpoll]
      intro _ a ha
      have hread : w.file.bind view = some a := ha
      rw [hfile] at hread
      exact hread
  · rcases w.store.maybeReload_cases look.force (w.reading view look) with hpoll | ⟨hpoll, -⟩ | hpoll
    · rw [hpoll]
      exact hart
    · rw [hpoll]
      exact hart
    · rw [hpoll]
      show w.file.bind view = none
      rw [hfile]
      rfl

/-- A poll remembers a stamp that stood there. -/
theorem lastStamp_maybeReload (store : StampStore α) (force : Bool) (r : Reading α) :
    (store.maybeReload force r).1.lastStamp = store.lastStamp
      ∨ (store.maybeReload force r).1.lastStamp = r.stamp := by
  rcases store.maybeReload_cases force r with hpoll | ⟨hpoll, -⟩ | hpoll
  · rw [hpoll]
    exact .inl rfl
  · rw [hpoll]
    exact .inl rfl
  · rw [hpoll]
    exact .inr rfl

theorem Inv.read (h : w.Inv view) : (w.step view .read).Inv view := by
  unfold StampedFile.step
  simp only
  split
  next => exact h
  next look hlook =>
    refine ⟨h.stamp, ?_, fun _ hl => (by cases hl), h.empty, h.atPhase.poll look⟩
    rcases lastStamp_maybeReload w.store look.force (w.reading view look) with heq | heq
    · rw [heq]
      exact h.remembered
    · rw [heq]
      exact h.looked look hlook

theorem Inv.look (h : w.Inv view) (force : Bool) (now : Rat) :
    (w.step view (.look force now)).Inv view := by
  unfold StampedFile.step
  simp only
  split
  next =>
    refine ⟨h.stamp, h.remembered, fun look hlook => ?_, h.empty, h.atPhase⟩
    cases hlook
    exact h.stamp
  next => exact h

/-- A poller that starts again holds nothing. -/
theorem Inv.restart (h : w.Inv view) : (w.step view .restart).Inv view :=
  ⟨h.stamp, h.empty, fun _ hl => (by cases hl), h.empty,
    h.atPhase.withStore (fun _ _ _ _ _ _ ha => (by cases ha)) fun _ _ => rfl⟩

/-- The step lemma. -/
theorem Inv.step (h : w.Inv view) {x : StampedFileStep β} (hfresh : w.Fresh x) :
    (w.step view x).Inv view := by
  cases x with
  | put content text => exact h.put hfresh
  | write part => exact h.write part
  | look force now => exact h.look force now
  | read => exact h.read
  | restart => exact h.restart

/-- The run lemma. -/
theorem inv_run (reloadCheckSec : Rat) (steps : List (StampedFileStep β))
    (hfresh : Along (step view) Fresh (new reloadCheckSec : StampedFile β α) steps) :
    (steps.foldl (step view) (new reloadCheckSec)).Inv view :=
  hfresh.inv (Inv.new reloadCheckSec) fun _ _ h hx => h.step hx

/-! ## What is written -/

/-- What is in the file once the writer is done. -/
def outcome (w : StampedFile β α) : Option β :=
  match w.phase with
  | .begun content _ => some content
  | .emptied content _ => some content
  | _ => w.file

omit [DecidableEq α] in
theorem outcome_of_idle (h : w.phase = .idle) : w.outcome = w.file := by
  unfold outcome
  rw [h]

omit [DecidableEq α] in
theorem outcome_write (w : StampedFile β α) (part : String) : (w.write part).outcome = w.outcome := by
  unfold StampedFile.write
  cases hphase : w.phase with
  | idle => rfl
  | begun content text =>
    unfold outcome
    rw [hphase]
  | emptied content text =>
    unfold outcome
    rw [hphase]
  | filled text =>
    unfold outcome
    rw [hphase]
    rfl
  | stampCut text =>
    unfold outcome
    rw [hphase]
    rfl

theorem outcome_put (h : w.phase = .idle) (content : β) (text : String) :
    (w.step view (.put content text)).outcome = some content := by
  unfold StampedFile.step
  simp only [h]
  rfl

/-- Only a writer that begins changes what there will be. -/
theorem outcome_step (x : StampedFileStep β) :
    (w.step view x).outcome = w.outcome
      ∨ ∃ content text, x = .put content text ∧ w.phase = .idle ∧
          (w.step view x).outcome = some content := by
  cases x with
  | put content text =>
    by_cases hidle : w.phase = .idle
    · exact .inr ⟨content, text, rfl, hidle, outcome_put hidle content text⟩
    · refine .inl ?_
      unfold StampedFile.step
      simp only
  | write part => exact .inl (outcome_write w part)
  | look force now =>
    refine .inl ?_
    unfold StampedFile.step
    simp only
    split
    next => rfl
    next => rfl
  | read =>
    refine .inl ?_
    unfold StampedFile.step
    simp only
    split
    next => rfl
    next => rfl
  | restart => exact .inl rfl

/-! ## With nothing left to write -/

/-- A whole poll, looked at and read. -/
def poll (view : β → Option α) (w : StampedFile β α) (force : Bool) (now : Rat) :
    StampedFile β α := (w.step view (.look force now)).step view .read

theorem poll_eq (hlooked : w.looked = none) (force : Bool) (now : Rat) :
    w.poll view force now = { w with
      store := (w.store.maybeReload force ⟨now, w.stamp, w.file.bind view⟩).1 } := by
  obtain ⟨file, stamp, texts, phase, store, looked⟩ := w
  cases hlooked
  rfl

/-- **A quiet file is picked up.** When nothing is left to write, the next poll that is due,
or forced, leaves the poller with what is in the file. -/
theorem Inv.settles (h : w.Inv view) (hidle : w.phase = .idle) (hlooked : w.looked = none)
    {force : Bool} {now : Rat} (hdue : force = true ∨ w.store.Due now) :
    (w.poll view force now).store.artifact = w.file.bind view := by
  have hat := h.atPhase
  unfold AtPhase at hat
  rw [hidle] at hat
  rw [poll_eq hlooked]
  show (w.store.maybeReload force ⟨now, w.stamp, w.file.bind view⟩).1.artifact = _
  by_cases hreads : w.store.Reads force now w.stamp
  · rw [@StampStore.maybeReload_of_reads α _ w.store force ⟨now, w.stamp, w.file.bind view⟩ hreads]
    rfl
  · -- the stamp is the one remembered, and something is held
    have hcur : w.store.Current w.stamp := by
      by_contra hcur
      exact hreads (hdue.imp_right fun hd => ⟨hd, hcur⟩)
    obtain ⟨a, ha⟩ := Option.isSome_iff_exists.mp hcur.2
    have hheld : w.file.bind view = some a := by
      rcases hat with ⟨-, hnone⟩ | ⟨content, hfile, hold⟩
      · rw [ha] at hnone
        cases hnone
      · rw [hfile]
        exact hold hcur.1.symm a ha
    rcases @StampStore.maybeReload_of_not_reads α _ w.store force
        ⟨now, w.stamp, w.file.bind view⟩ hreads with hpoll | hpoll
    · rw [hpoll, hheld]
      exact ha
    · rw [hpoll, hheld]
      exact ha

end StampedFile

end EdgeSensor.Lib
