import Mathlib.Data.Rat.Defs
import Mathlib.Algebra.Order.Ring.Rat
import Mathlib.Tactic.Linarith

/-!
# A stamp-gated hot-reload store

A reader that polls a file written by somebody else: at most once every
`reloadCheckSec` seconds it looks at a small *stamp*, and only when the stamp
differs from the one it loaded last does it read the file itself. `maybeReload`
is one poll; `Outcome` says which of its three exits was taken, so that what a
poll can do is stated once (`maybeReload_eq`) and every use is a case split on
the outcome.

The file is whatever the poller can make of it: `none` stands for no usable
content (absent, unreadable, malformed or empty). A store that holds no usable
content keeps reading the file on every poll that is due, whatever the stamp.
-/

namespace EdgeSensor.Lib

/-- What one poll sees: the clock, the stamp (empty when there is none), the file. -/
structure Reading (α : Type) where
  now : Rat
  stamp : String
  file : Option α
  deriving DecidableEq

/-- The poller's memory. -/
structure StampStore (α : Type) where
  reloadCheckSec : Rat
  lastCheck : Rat := 0
  lastStamp : String := ""
  artifact : Option α := none
  deriving DecidableEq

/-- The exit a poll took. `loaded changed` read the file; `changed` is the
poller's own opinion on whether anything differs. -/
inductive Outcome where
  | throttled
  | current
  | loaded (changed : Bool)
  deriving DecidableEq, Repr

/-- The boolean the poller returns to its caller. -/
def Outcome.changed : Outcome → Bool
  | .loaded c => c
  | _ => false

namespace StampStore

variable {α : Type}

/-- The throttle has run out. -/
def Due (s : StampStore α) (now : Rat) : Prop := s.reloadCheckSec ≤ now - s.lastCheck

/-- Usable content is held and its stamp is the one on disk. -/
def Current (s : StampStore α) (stamp : String) : Prop := stamp = s.lastStamp ∧ s.artifact.isSome

instance (s : StampStore α) (now : Rat) : Decidable (s.Due now) :=
  inferInstanceAs (Decidable (_ ≤ _))

instance (s : StampStore α) (stamp : String) : Decidable (s.Current stamp) :=
  inferInstanceAs (Decidable (_ ∧ _))

/-- The state after reading the file. -/
def load (s : StampStore α) (r : Reading α) : StampStore α :=
  { s with lastCheck := r.now, lastStamp := r.stamp, artifact := r.file }

variable [DecidableEq α]

/-- One poll. -/
def maybeReload (s : StampStore α) (force : Bool) (r : Reading α) : StampStore α × Outcome :=
  if force = false ∧ r.now - s.lastCheck < s.reloadCheckSec then (s, .throttled)
  else if force = false ∧ r.stamp = s.lastStamp ∧ s.artifact.isSome then
    ({ s with lastCheck := r.now }, .current)
  else
    (s.load r, .loaded (r.stamp ≠ s.lastStamp ∨ r.file ≠ s.artifact))

/-- A forced poll always reads the file. -/
theorem maybeReload_force (s : StampStore α) (r : Reading α) :
    s.maybeReload true r = (s.load r, .loaded (r.stamp ≠ s.lastStamp ∨ r.file ≠ s.artifact)) := by
  simp [maybeReload]

/-- An unforced poll, exit by exit. -/
theorem maybeReload_eq (s : StampStore α) (r : Reading α) :
    s.maybeReload false r =
      if s.Due r.now then
        if s.Current r.stamp then ({ s with lastCheck := r.now }, .current)
        else (s.load r, .loaded (r.stamp ≠ s.lastStamp ∨ r.file ≠ s.artifact))
      else (s, .throttled) := by
  unfold maybeReload
  by_cases hdue : s.Due r.now
  · rw [if_pos hdue, if_neg (fun h => absurd hdue (not_le.mpr h.2))]
    by_cases hcur : s.Current r.stamp
    · rw [if_pos ⟨rfl, hcur⟩, if_pos hcur]
    · rw [if_neg (fun h => hcur h.2), if_neg hcur]
  · rw [if_neg hdue, if_pos ⟨rfl, not_le.mp hdue⟩]

/-- The three exits of any poll, forced or not. -/
theorem maybeReload_cases (s : StampStore α) (force : Bool) (r : Reading α) :
    s.maybeReload force r = (s, .throttled)
      ∨ (s.maybeReload force r = ({ s with lastCheck := r.now }, .current) ∧ s.Current r.stamp)
      ∨ s.maybeReload force r
        = (s.load r, .loaded (r.stamp ≠ s.lastStamp ∨ r.file ≠ s.artifact)) := by
  unfold maybeReload
  split
  next => exact .inl rfl
  next =>
    split
    next h => exact .inr (.inl ⟨rfl, h.2⟩)
    next => exact .inr (.inr rfl)

theorem maybeReload_throttled {s : StampStore α} {r : Reading α} (h : ¬ s.Due r.now) :
    s.maybeReload false r = (s, .throttled) := by
  rw [maybeReload_eq, if_neg h]

theorem maybeReload_current {s : StampStore α} {r : Reading α} (hdue : s.Due r.now)
    (h : s.Current r.stamp) :
    s.maybeReload false r = ({ s with lastCheck := r.now }, .current) := by
  rw [maybeReload_eq, if_pos hdue, if_pos h]

theorem maybeReload_loaded {s : StampStore α} {r : Reading α} (hdue : s.Due r.now)
    (h : ¬ s.Current r.stamp) :
    s.maybeReload false r =
      (s.load r, .loaded (r.stamp ≠ s.lastStamp ∨ r.file ≠ s.artifact)) := by
  rw [maybeReload_eq, if_pos hdue, if_neg h]

/-! ## Polls that read the file -/

/-- The poll gets as far as the file. -/
def Reads (s : StampStore α) (force : Bool) (now : Rat) (stamp : String) : Prop :=
  force = true ∨ (s.Due now ∧ ¬ s.Current stamp)

instance (s : StampStore α) (force : Bool) (now : Rat) (stamp : String) :
    Decidable (s.Reads force now stamp) :=
  inferInstanceAs (Decidable (_ ∨ _))

theorem maybeReload_of_reads {s : StampStore α} {force : Bool} {r : Reading α}
    (h : s.Reads force r.now r.stamp) :
    s.maybeReload force r = (s.load r, .loaded (r.stamp ≠ s.lastStamp ∨ r.file ≠ s.artifact)) := by
  cases force with
  | true => exact maybeReload_force s r
  | false =>
    rcases h with h | ⟨hdue, hcur⟩
    · cases h
    · exact maybeReload_loaded hdue hcur

/-- A poll that does not get as far leaves what is held. -/
theorem maybeReload_of_not_reads {s : StampStore α} {force : Bool} {r : Reading α}
    (h : ¬ s.Reads force r.now r.stamp) :
    (s.maybeReload force r = (s, .throttled))
      ∨ s.maybeReload force r = ({ s with lastCheck := r.now }, .current) := by
  cases force with
  | true => exact absurd (.inl rfl) h
  | false =>
    by_cases hdue : s.Due r.now
    · by_cases hcur : s.Current r.stamp
      · exact .inr (maybeReload_current hdue hcur)
      · exact absurd (.inr ⟨hdue, hcur⟩) h
    · exact .inl (maybeReload_throttled hdue)

/-- A poll of a file whose reading may fail in a way the poller does not handle: it has
noted the time by then, and nothing else. -/
def pollText {ε : Type} (s : StampStore α) (force : Bool) (now : Rat) (stamp : String)
    (file : Except ε (Option α)) : StampStore α × Except ε Outcome :=
  match file with
  | .ok content =>
    ((s.maybeReload force ⟨now, stamp, content⟩).1,
      .ok (s.maybeReload force ⟨now, stamp, content⟩).2)
  | .error e =>
    if s.Reads force now stamp then ({ s with lastCheck := now }, .error e)
    else
      ((s.maybeReload force ⟨now, stamp, none⟩).1,
        .ok (s.maybeReload force ⟨now, stamp, none⟩).2)

/-- A poll replaces what is held by what it reads, if it reads and the reading does not fail. -/
theorem pollText_artifact {ε : Type} (s : StampStore α) (force : Bool) (now : Rat) (stamp : String)
    (file : Except ε (Option α)) :
    (s.pollText force now stamp file).1.artifact
      = if s.Reads force now stamp then (file.toOption).getD s.artifact else s.artifact := by
  have hkept : ∀ content, ¬ s.Reads force now stamp →
      (s.maybeReload force ⟨now, stamp, content⟩).1.artifact = s.artifact := by
    intro content hreads
    rcases @maybeReload_of_not_reads α _ s force ⟨now, stamp, content⟩ hreads with hpoll | hpoll
    · rw [hpoll]
    · rw [hpoll]
  unfold pollText
  by_cases hreads : s.Reads force now stamp
  · rw [if_pos hreads]
    cases file with
    | ok content =>
      show (s.maybeReload force ⟨now, stamp, content⟩).1.artifact = content
      rw [@maybeReload_of_reads α _ s force ⟨now, stamp, content⟩ hreads]
      rfl
    | error e =>
      simp only [if_pos hreads]
      rfl
  · rw [if_neg hreads]
    cases file with
    | ok content => exact hkept content hreads
    | error e =>
      simp only [if_neg hreads]
      exact hkept none hreads

/-! ## Content that stays on disk

`a` is what the file holds from some moment on, under the stamp `stamp`. -/

section Settled

variable {s : StampStore α} {r : Reading α} {a : α} (hfile : r.file = some a)
include hfile

/-- A poller that holds the content keeps it. -/
theorem maybeReload_holds (h : s.artifact = some a) (force : Bool) :
    (s.maybeReload force r).1.artifact = some a := by
  rcases s.maybeReload_cases force r with hpoll | ⟨hpoll, -⟩ | hpoll
  · rw [hpoll]
    exact h
  · rw [hpoll]
    exact h
  · rw [hpoll]
    exact hfile

/-- A poll that is due picks the content up, unless an older file had its stamp. -/
theorem maybeReload_due_holds (hdue : s.Due r.now)
    (hknown : s.lastStamp = r.stamp → s.artifact = some a) :
    (s.maybeReload false r).1.artifact = some a := by
  by_cases hcur : s.Current r.stamp
  · rw [maybeReload_current hdue hcur]
    exact hknown hcur.1.symm
  · rw [maybeReload_loaded hdue hcur]
    exact hfile

/-- A poller that has not confused the stamp does not start to. -/
theorem maybeReload_known (hknown : s.lastStamp = r.stamp → s.artifact = some a) (force : Bool) :
    (s.maybeReload force r).1.lastStamp = r.stamp → (s.maybeReload force r).1.artifact = some a := by
  rcases s.maybeReload_cases force r with hpoll | ⟨hpoll, -⟩ | hpoll
  · rw [hpoll]
    exact hknown
  · rw [hpoll]
    exact hknown
  · rw [hpoll]
    exact fun _ => hfile

end Settled

end StampStore

end EdgeSensor.Lib
