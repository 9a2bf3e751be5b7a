import Mathlib.Data.List.Basic

/-!
# Programs over atomic operations

A program is a tree: it returns, raises, or performs an operation and goes on with
the answer. What an operation does to the state is a `Machine`'s business; whatever
the environment decides (does the peer answer, what has another process written)
comes in as one choice per operation, so a finite list of choices is a run, cut off
where the list ends (`exec`). A cut-off run is a crash.

`wp` is the weakest precondition with three postconditions: for a return, for a
raise, and for every state on the way, the one a crash would leave included. The
rules go with the combinators (`wp_bind`, `wp_attempt`, `wp_forEach`, `wp_forWhile`),
and `wp_exec` says what a `wp` is worth.
-/

namespace EdgeSensor.Lib

/-- A program with operations `ι` answered in `ρ`, exceptions `ε` and result `α`. -/
inductive Prog (ι : Type) (ρ : ι → Type) (ε α : Type) where
  | ret (a : α)
  | raise (e : ε)
  | op (i : ι) (k : Except ε (ρ i) → Prog ι ρ ε α)

namespace Prog

variable {ι : Type} {ρ : ι → Type} {ε α β γ : Type}

/-- Perform one operation; an exception it raises is the program's. -/
def perform (i : ι) : Prog ι ρ ε (ρ i) :=
  .op i fun answer =>
    match answer with
    | .ok a => .ret a
    | .error e => .raise e

/-- Run `p`, then `f` on what it returns. -/
def bind : Prog ι ρ ε α → (α → Prog ι ρ ε β) → Prog ι ρ ε β
  | .ret a, f => f a
  | .raise e, _ => .raise e
  | .op i k, f => .op i fun answer => (k answer).bind f

/-- Run `p`, and `h` on what it raises. -/
def attempt : Prog ι ρ ε α → (ε → Prog ι ρ ε α) → Prog ι ρ ε α
  | .ret a, _ => .ret a
  | .raise e, h => h e
  | .op i k, h => .op i fun answer => (k answer).attempt h

instance : Monad (Prog ι ρ ε) where
  pure := .ret
  bind := bind

/-- `for x in xs: body(x)`. -/
def forEach : List β → (β → Prog ι ρ ε Unit) → Prog ι ρ ε Unit
  | [], _ => .ret ()
  | x :: xs, body => (body x).bind fun _ => forEach xs body

/-- `for x in xs: body(x)`, where a body that returns `false` breaks out. -/
def forWhile : List β → (β → Prog ι ρ ε Bool) → Prog ι ρ ε Unit
  | [], _ => .ret ()
  | x :: xs, body => (body x).bind fun go => if go then forWhile xs body else .ret ()

end Prog

/-- What operations do: with the environment's choice, an answer and a new state. -/
structure Machine (ι : Type) (ρ : ι → Type) (ε χ σ : Type) where
  perform : (i : ι) → χ → σ → Except ε (ρ i) × σ

namespace Prog

variable {ι : Type} {ρ : ι → Type} {ε α β γ χ σ : Type} (m : Machine ι ρ ε χ σ)

/-- Run a program for as long as there are choices: what is left of it, and the state. -/
def exec : List χ → Prog ι ρ ε α → σ → Prog ι ρ ε α × σ
  | c :: cs, .op i k, s => exec cs (k (m.perform i c s).1) (m.perform i c s).2
  | _, p, s => (p, s)

/-- Run a program to its end, with as many choices as it asks for. -/
def run : (Nat → χ) → Prog ι ρ ε α → σ → Except ε α × σ
  | _, .ret a, s => (.ok a, s)
  | _, .raise e, s => (.error e, s)
  | cs, .op i k, s =>
    run (fun n => cs (n + 1)) (k (m.perform i (cs 0) s).1) (m.perform i (cs 0) s).2

/-- Weakest precondition: `Q` on a return, `E` on a raise, `C` all along. -/
def wp (Q : α → σ → Prop) (E : ε → σ → Prop) (C : σ → Prop) : Prog ι ρ ε α → σ → Prop
  | .ret a, s => C s ∧ Q a s
  | .raise e, s => C s ∧ E e s
  | .op i k, s => C s ∧ ∀ c, wp Q E C (k (m.perform i c s).1) (m.perform i c s).2

theorem bind_assoc {δ : Type} (p : Prog ι ρ ε β) (f : β → Prog ι ρ ε γ)
    (g : γ → Prog ι ρ ε δ) : (p >>= f) >>= g = p >>= fun b => f b >>= g := by
  induction p with
  | ret b => rfl
  | raise e => rfl
  | op i k ih => exact congrArg (Prog.op i) (funext fun answer => ih answer)

variable {m} {Q Q' : α → σ → Prop} {E E' : ε → σ → Prop} {C C' : σ → Prop}

theorem wp_ret {a : α} {s : σ} : wp m Q E C (.ret a) s ↔ C s ∧ Q a s := Iff.rfl

theorem wp_raise {e : ε} {s : σ} : wp m Q E C (.raise e : Prog ι ρ ε α) s ↔ C s ∧ E e s := Iff.rfl

theorem wp_op {i : ι} {k : Except ε (ρ i) → Prog ι ρ ε α} {s : σ} :
    wp m Q E C (.op i k) s
      ↔ C s ∧ ∀ c, wp m Q E C (k (m.perform i c s).1) (m.perform i c s).2 := Iff.rfl

/-- A crash before the first operation leaves the state it found. -/
theorem wp_crash {p : Prog ι ρ ε α} {s : σ} (h : wp m Q E C p s) : C s := by
  cases p with
  | ret a => exact h.1
  | raise e => exact h.1
  | op i k => exact h.1

/-- One operation, by what it answers. -/
theorem wp_perform {i : ι} {Q : ρ i → σ → Prop} {s : σ} :
    wp m Q E C (perform i) s ↔ C s ∧ ∀ c, C (m.perform i c s).2 ∧
      match (m.perform i c s).1 with
      | .ok a => Q a (m.perform i c s).2
      | .error e => E e (m.perform i c s).2 := by
  unfold perform
  rw [wp_op]
  refine and_congr_right fun _ => forall_congr' fun c => ?_
  cases (m.perform i c s).1 with
  | ok a => exact wp_ret
  | error e => exact wp_raise

/-- An operation whose effect the environment has no part in. -/
theorem wp_perform_const [Nonempty χ] {i : ι} {Q : ρ i → σ → Prop} {s s' : σ} {a : ρ i}
    (h : ∀ c, m.perform i c s = (.ok a, s')) :
    wp m Q E C (perform i) s ↔ C s ∧ C s' ∧ Q a s' := by
  rw [wp_perform]
  simp only [h, forall_const]

theorem wp_bind {p : Prog ι ρ ε β} {f : β → Prog ι ρ ε α} {s : σ} :
    wp m Q E C (p.bind f) s ↔ wp m (fun b s => wp m Q E C (f b) s) E C p s := by
  induction p generalizing s with
  | ret b => exact ⟨fun h => ⟨wp_crash h, h⟩, fun h => h.2⟩
  | raise e => exact Iff.rfl
  | op i k ih => exact and_congr_right fun _ => forall_congr' fun c => ih _

/-- `wp_bind` as do-notation writes it. -/
theorem wp_bind' {p : Prog ι ρ ε β} {f : β → Prog ι ρ ε α} {s : σ} :
    wp m Q E C (p >>= f) s ↔ wp m (fun b s => wp m Q E C (f b) s) E C p s := wp_bind

theorem wp_attempt {p : Prog ι ρ ε α} {h : ε → Prog ι ρ ε α} {s : σ} :
    wp m Q E C (p.attempt h) s ↔ wp m Q (fun e s => wp m Q E C (h e) s) C p s := by
  induction p generalizing s with
  | ret a => exact Iff.rfl
  | raise e => exact ⟨fun hw => ⟨wp_crash hw, hw⟩, fun hw => hw.2⟩
  | op i k ih => exact and_congr_right fun _ => forall_congr' fun c => ih _

theorem wp_mono (hQ : ∀ a s, Q a s → Q' a s) (hE : ∀ e s, E e s → E' e s) (hC : ∀ s, C s → C' s)
    {p : Prog ι ρ ε α} {s : σ} (h : wp m Q E C p s) : wp m Q' E' C' p s := by
  induction p generalizing s with
  | ret a => exact ⟨hC _ h.1, hQ _ _ h.2⟩
  | raise e => exact ⟨hC _ h.1, hE _ _ h.2⟩
  | op i k ih => exact ⟨hC _ h.1, fun c => ih _ (h.2 c)⟩

/-- The loop rule: an invariant of what is left to do and the state. -/
theorem wp_forEach {body : β → Prog ι ρ ε Unit} {Q : Unit → σ → Prop} (I : List β → σ → Prop)
    (hbody : ∀ x xs s, I (x :: xs) s → wp m (fun _ s => I xs s) E C (body x) s)
    (hend : ∀ s, I [] s → C s ∧ Q () s) {xs : List β} {s : σ} (h : I xs s) :
    wp m Q E C (forEach xs body) s := by
  induction xs generalizing s with
  | nil => exact hend s h
  | cons x xs ih =>
    rw [forEach, wp_bind]
    exact wp_mono (fun _ _ hI => ih hI) (fun _ _ he => he) (fun _ hc => hc) (hbody x xs s h)

/-- The loop rule for a loop with a break. -/
theorem wp_forWhile {body : β → Prog ι ρ ε Bool} {Q : Unit → σ → Prop} (I : List β → σ → Prop)
    (hbody : ∀ x xs s, I (x :: xs) s →
      wp m (fun go s => if go then I xs s else C s ∧ Q () s) E C (body x) s)
    (hend : ∀ s, I [] s → C s ∧ Q () s) {xs : List β} {s : σ} (h : I xs s) :
    wp m Q E C (forWhile xs body) s := by
  induction xs generalizing s with
  | nil => exact hend s h
  | cons x xs ih =>
    rw [forWhile, wp_bind]
    refine wp_mono (fun go s' hI => ?_) (fun _ _ he => he) (fun _ hc => hc) (hbody x xs s h)
    cases go with
    | true => exact ih hI
    | false => exact hI

/-- Every operation the program can come to is in `A`. -/
def Only (m : Machine ι ρ ε χ σ) (A : ι → Prop) : Prog ι ρ ε α → Prop
  | .ret _ => True
  | .raise _ => True
  | .op i k => A i ∧ ∀ c s, Only m A (k (m.perform i c s).1)

theorem only_perform {A : ι → Prop} {i : ι} (h : A i) :
    Only m A (perform i : Prog ι ρ ε (ρ i)) := by
  refine ⟨h, fun c s => ?_⟩
  cases (m.perform i c s).1 with
  | ok a => trivial
  | error e => trivial

theorem only_bind {A : ι → Prop} {p : Prog ι ρ ε β} {f : β → Prog ι ρ ε α} (hp : Only m A p)
    (hf : ∀ b, Only m A (f b)) : Only m A (p >>= f) := by
  induction p with
  | ret b => exact hf b
  | raise e => trivial
  | op i k ih => exact ⟨hp.1, fun c s => ih _ (hp.2 c s)⟩

theorem only_attempt {A : ι → Prop} {p : Prog ι ρ ε α} {h : ε → Prog ι ρ ε α} (hp : Only m A p)
    (hh : ∀ e, Only m A (h e)) : Only m A (p.attempt h) := by
  induction p with
  | ret a => trivial
  | raise e => exact hh e
  | op i k ih => exact ⟨hp.1, fun c s => ih _ (hp.2 c s)⟩

/-- What is answered to one operation decides which come after it. -/
theorem only_answer {A : ι → Prop} {i : ι} {f : ρ i → Prog ι ρ ε α} (hi : A i)
    (hf : ∀ c s a, (m.perform i c s).1 = .ok a → Only m A (f a)) :
    Only m A (perform i >>= f) := by
  refine ⟨hi, fun c s => ?_⟩
  cases hanswer : (m.perform i c s).1 with
  | ok a => exact hf c s a hanswer
  | error e => trivial

/-- What every operation in `A` keeps, the program keeps. -/
theorem wp_only {A : ι → Prop} {I : σ → Prop} (hkeep : ∀ i c s, A i → I s → I (m.perform i c s).2)
    {p : Prog ι ρ ε α} (hp : Only m A p) {s : σ} (hs : I s) :
    wp m (fun _ s => I s) (fun _ s => I s) I p s := by
  induction p generalizing s with
  | ret a => exact ⟨hs, hs⟩
  | raise e => exact ⟨hs, hs⟩
  | op i k ih => exact ⟨hs, fun c => ih _ (hp.2 c s) (hkeep i c s hp.1 hs)⟩

/-- **What a `wp` is worth.** Wherever a run is cut off, the `wp` of what is left of the
program holds in the state reached. -/
theorem wp_exec {p : Prog ι ρ ε α} {s : σ} (h : wp m Q E C p s) (cs : List χ) :
    wp m Q E C (exec m cs p s).1 (exec m cs p s).2 := by
  induction cs generalizing p s with
  | nil =>
    cases p with
    | ret a => exact h
    | raise e => exact h
    | op i k => exact h
  | cons c cs ih =>
    cases p with
    | ret a => exact h
    | raise e => exact h
    | op i k => exact ih (h.2 c)

/-- Along every run, and in the state a crash leaves, `C` holds. -/
theorem wp_exec_crash {p : Prog ι ρ ε α} {s : σ} (h : wp m Q E C p s) (cs : List χ) :
    C (exec m cs p s).2 := wp_crash (wp_exec h cs)

/-- A run that returns ends in `Q`. -/
theorem wp_exec_ret {p : Prog ι ρ ε α} {s s' : σ} {a : α} (h : wp m Q E C p s) {cs : List χ}
    (hrun : exec m cs p s = (.ret a, s')) : Q a s' := by
  have hwp := wp_exec h cs
  rw [hrun] at hwp
  exact hwp.2

/-- A run to the end ends in `Q` or in `E`. -/
theorem wp_run {p : Prog ι ρ ε α} {s : σ} (h : wp m Q E C p s) (cs : Nat → χ) :
    match (run m cs p s).1 with
    | .ok a => Q a (run m cs p s).2
    | .error e => E e (run m cs p s).2 := by
  induction p generalizing s cs with
  | ret a => exact h.2
  | raise e => exact h.2
  | op i k ih => exact ih _ (h.2 (cs 0)) fun n => cs (n + 1)

end Prog

end EdgeSensor.Lib
