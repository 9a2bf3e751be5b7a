import Mathlib.Logic.Function.Basic

/-!
# Files

The files a program can see, by path, and the steps it takes on them. A step is atomic;
one whose source is not there raises what the caller says a missing file raises.
-/

namespace EdgeSensor.Lib

/-- The files there are. -/
abbrev Files (π κ : Type) := π → Option κ

/-- A step on files with paths `π` and contents `κ`. -/
inductive FileOp (π κ : Type) where
  | isFile (path : π)
  /-- What is in the file, if there is one. -/
  | readIfFile (path : π)
  | write (path : π) (content : κ)
  | copy (src dst : π)
  /-- Rename `src` over `dst`. -/
  | replace (src dst : π)
  | unlink (path : π)

namespace FileOp

variable {π κ ε : Type} [DecidableEq π]

@[reducible] def Answer : FileOp π κ → Type
  | .isFile _ => Bool
  | .readIfFile _ => Option κ
  | .write .. => Unit
  | .copy .. => Unit
  | .replace .. => Unit
  | .unlink _ => Unit

/-- The step may change a file. -/
def changes : FileOp π κ → Bool
  | .isFile _ => false
  | .readIfFile _ => false
  | .write .. => true
  | .copy .. => true
  | .replace .. => true
  | .unlink _ => true

/-- The answer, and the files afterwards. -/
def step (missing : π → ε) : (op : FileOp π κ) → Files π κ → Except ε op.Answer × Files π κ
  | .isFile path, fs => (.ok (fs path).isSome, fs)
  | .readIfFile path, fs => (.ok (fs path), fs)
  | .write path content, fs => (.ok (), Function.update fs path (some content))
  | .copy src dst, fs =>
    match fs src with
    | some content => (.ok (), Function.update fs dst (some content))
    | none => (.error (missing src), fs)
  | .replace src dst, fs =>
    match fs src with
    | some content =>
      (.ok (), Function.update (Function.update fs src none) dst (some content))
    | none => (.error (missing src), fs)
  | .unlink path, fs =>
    match fs path with
    | some _ => (.ok (), Function.update fs path none)
    | none => (.error (missing path), fs)

variable {missing : π → ε} {fs : Files π κ}

/-- A step that changes no file leaves the files as they are. -/
theorem step_files_of_not_changes {op : FileOp π κ} (h : op.changes = false) :
    (op.step missing fs).2 = fs := by
  cases op with
  | isFile path => rfl
  | readIfFile path => rfl
  | write path content => cases h
  | copy src dst => cases h
  | replace src dst => cases h
  | unlink path => cases h

theorem step_copy {src dst : π} {content : κ} (h : fs src = some content) :
    (FileOp.copy src dst).step missing fs
      = (.ok (), Function.update fs dst (some content)) := by
  simp only [step, h]

theorem step_replace {src dst : π} {content : κ} (h : fs src = some content) :
    (FileOp.replace src dst).step missing fs
      = (.ok (), Function.update (Function.update fs src none) dst (some content)) := by
  simp only [step, h]

/-- After an `unlink`, missing or not, there is no such file, and the others are as before. -/
theorem step_unlink_files (path : π) :
    ((FileOp.unlink path).step missing fs).2 = Function.update fs path none := by
  cases h : fs path with
  | some content => simp only [step, h]
  | none =>
    simp only [step, h]
    exact (Function.update_eq_self_iff.mpr h.symm).symm

end FileOp

end EdgeSensor.Lib
