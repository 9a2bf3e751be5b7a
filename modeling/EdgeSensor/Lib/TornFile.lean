import Mathlib.Data.List.Basic

/-!
# A file rewritten in place

`open(path, "w")`, `write`, `close`. Nothing makes the three one step for others:
from the first to the last a reader may find no file, an empty one, or the
beginning of what is being written. `seen` is what it finds, `target` the content
of the write under way, `done` what was completely written so far.

A reader cannot tell a beginning from a whole. `Complete` says that what it finds
is one of the contents that were completely written, which is all a reader can
hope for, and `complete_of_closed` when it may rely on it.
-/

namespace EdgeSensor.Lib

variable {β : Type}

structure TornFile (β : Type) where
  seen : Option (List β) := none
  target : Option (List β) := none
  done : List (List β) := []
  deriving DecidableEq

/-- A step of the writer. -/
inductive WriteStep (β : Type) where
  | start (content : List β)
  /-- An intermediate moment: a reader finds no file, or so much of the content. -/
  | moment (shown : Option Nat)
  | finish

namespace TornFile

def step (f : TornFile β) : WriteStep β → TornFile β
  | .start content => { f with seen := some [], target := some content }
  | .moment shown =>
    match f.target with
    | none => f
    | some content => { f with seen := shown.map content.take }
  | .finish =>
    match f.target with
    | none => f
    | some content => { seen := some content, target := none, done := content :: f.done }

/-- A reader finds `content`, and it was completely written. -/
def Complete (f : TornFile β) (content : List β) : Prop := f.seen = some content ∧ content ∈ f.done

/-- What was completely written stays so. -/
theorem mem_done_step {f : TornFile β} {content : List β} (h : content ∈ f.done)
    (w : WriteStep β) : content ∈ (f.step w).done := by
  cases w with
  | start _ => exact h
  | moment _ =>
    unfold step
    cases f.target with
    | none => exact h
    | some _ => exact h
  | finish =>
    unfold step
    cases f.target with
    | none => exact h
    | some _ => exact List.mem_cons_of_mem _ h

/-- Between two writes a reader finds the content written last. -/
def Closed (f : TornFile β) : Prop := f.target = none → f.seen = f.done.head?

theorem Closed.step {f : TornFile β} (h : f.Closed) (w : WriteStep β) : (f.step w).Closed := by
  intro hclosed
  cases w with
  | start _ => cases hclosed
  | moment _ =>
    unfold TornFile.step at hclosed ⊢
    cases htarget : f.target with
    | none => exact h htarget
    | some _ =>
      simp only [htarget] at hclosed
      cases hclosed
  | finish =>
    unfold TornFile.step
    cases htarget : f.target with
    | none => exact h htarget
    | some _ => rfl

/-- With no write under way, what a reader finds is complete. -/
theorem Closed.complete {f : TornFile β} (h : f.Closed) (htarget : f.target = none)
    {content : List β} (hseen : f.seen = some content) : f.Complete content := by
  refine ⟨hseen, List.mem_of_mem_head? ?_⟩
  rw [← h htarget, hseen]
  rfl

end TornFile

end EdgeSensor.Lib
