import EdgeSensor.Lib.Prog
import Mathlib.Data.Bool.Basic
import Mathlib.Logic.Function.Basic

/-!
# Two programs on one state

Two parties run a program each, one operation at a time, in any order (`Pair.run`).
Some operations are writes (`W`). A party is quiet when it can write no more, and inside
when it has started and is not quiet; a run is exclusive when nobody writes while the
other is inside.

`Serial` is what a program has to do for that to be enough: it starts by looking; alone
it then gets, owing a write at every point on the way, to where it is idle, with a
result that fits what it found and what it left (`R`); and what it finds in the middle
of the other's writes makes it owe a write, or idle with a result that fits anywhere.
`exclusive_serial` is the outcome: exclusive runs of serial programs are serial.

Writes are seen through `view`, and other operations do not change it.
-/

namespace EdgeSensor.Lib

namespace Prog

variable {ι : Type} {ρ : ι → Type} {ε α β χ σ τ : Type}

section Ahead

variable (m : Machine ι ρ ε χ σ) (W : ι → Prop)

/-- No write is ahead: whatever is answered, the program returns, with a result in `P`. -/
def Idle (P : α → Prop) : Prog ι ρ ε α → Prop
  | .ret a => P a
  | .raise _ => False
  | .op i k => ¬ W i ∧ ∀ c s, Idle P (k (m.perform i c s).1)

/-- A write is ahead, whatever is answered before it. -/
def Owes : Prog ι ρ ε α → Prop
  | .ret _ => False
  | .raise _ => False
  | .op i k => W i ∨ ∀ c s, Owes (k (m.perform i c s).1)

/-- No write is ahead on any path. -/
def Quiet : Prog ι ρ ε α → Prop
  | .ret _ => True
  | .raise _ => True
  | .op i k => ¬ W i ∧ ∀ c s, Quiet (k (m.perform i c s).1)

/-- Alone from `s`, the program gets to `F`. On the way it owes a write, and `K` holds. -/
def Window (F : Prog ι ρ ε α → σ → Prop) (K : σ → Prop) : Prog ι ρ ε α → σ → Prop
  | .ret a, s => K s ∧ F (.ret a) s
  | .raise e, s => K s ∧ F (.raise e) s
  | .op i k, s => K s ∧ (F (.op i k) s ∨
      Owes m W (.op i k) ∧ ∀ c, Window F K (k (m.perform i c s).1) (m.perform i c s).2)

end Ahead

variable {m : Machine ι ρ ε χ σ} {W : ι → Prop} {P P' : α → Prop} {p : Prog ι ρ ε α} {s : σ}
  {F F' : Prog ι ρ ε α → σ → Prop} {K : σ → Prop}

theorem Idle.quiet (h : Idle m W P p) : Quiet m W p := by
  induction p with
  | ret a => trivial
  | raise e => trivial
  | op i k ih => exact ⟨h.1, fun c s => ih _ (h.2 c s)⟩

theorem Idle.mono (hP : ∀ a, P a → P' a) (h : Idle m W P p) : Idle m W P' p := by
  induction p with
  | ret a => exact hP a h
  | raise e => exact h
  | op i k ih => exact ⟨h.1, fun c s => ih _ (h.2 c s)⟩

/-- A program that owes a write is not quiet, wherever there is a choice and a state. -/
theorem Owes.not_quiet (h : Owes m W p) (c : χ) (s : σ) : ¬ Quiet m W p := by
  induction p with
  | ret a => exact h.elim
  | raise e => exact h.elim
  | op i k ih =>
    intro hquiet
    exact h.elim hquiet.1 fun hahead => ih _ (hahead c s) (hquiet.2 c s)

/-- What follows a program that makes no write owes one if every continuation does. -/
theorem owes_bind {q : Prog ι ρ ε β} {f : β → Prog ι ρ ε α}
    (h : Idle m W (fun b => Owes m W (f b)) q) : Owes m W (q >>= f) := by
  induction q with
  | ret b => exact h
  | raise e => exact h.elim
  | op i k ih => exact .inr fun c s => ih _ (h.2 c s)

theorem Window.admits (h : Window m W F K p s) : K s := by
  cases p with
  | ret a => exact h.1
  | raise e => exact h.1
  | op i k => exact h.1

/-- In a window, the program is at `F` or owes a write. -/
theorem Window.cases (h : Window m W F K p s) : F p s ∨ Owes m W p := by
  cases p with
  | ret a => exact .inl h.2
  | raise e => exact .inl h.2
  | op i k => exact h.2.imp_right And.left

theorem window_done (hK : K s) (hF : F p s) : Window m W F K p s := by
  cases p with
  | ret a => exact ⟨hK, hF⟩
  | raise e => exact ⟨hK, hF⟩
  | op i k => exact ⟨hK, .inl hF⟩

theorem Window.mono {K' : σ → Prop} (hF : ∀ p s, F p s → F' p s) (hK : ∀ s, K s → K' s)
    (h : Window m W F K p s) : Window m W F' K' p s := by
  induction p generalizing s with
  | ret a => exact ⟨hK _ h.1, hF _ _ h.2⟩
  | raise e => exact ⟨hK _ h.1, hF _ _ h.2⟩
  | op i k ih =>
    refine ⟨hK _ h.1, ?_⟩
    rcases h.2 with hdone | ⟨howes, hnext⟩
    · exact .inl (hF _ _ hdone)
    · exact .inr ⟨howes, fun c => ih _ (hnext c)⟩

/-- A write, by what it answers and does. -/
theorem window_write {i : ι} {f : ρ i → Prog ι ρ ε α} (hW : W i) (hK : K s)
    (h : ∀ c, ∃ a, (m.perform i c s).1 = .ok a ∧ Window m W F K (f a) (m.perform i c s).2) :
    Window m W F K (perform i >>= f) s := by
  refine ⟨hK, .inr ⟨.inl hW, fun c => ?_⟩⟩
  obtain ⟨a, hanswer, hnext⟩ := h c
  rw [hanswer]
  exact hnext

/-- A write whose exception is caught. -/
theorem window_write_attempt {i : ι} {h : ε → Prog ι ρ ε (ρ i)} {f : ρ i → Prog ι ρ ε α}
    (hW : W i) (hK : K s)
    (hnext : ∀ c, match (m.perform i c s).1 with
      | .ok a => Window m W F K (f a) (m.perform i c s).2
      | .error e => Window m W F K (h e >>= f) (m.perform i c s).2) :
    Window m W F K ((perform i).attempt h >>= f) s := by
  refine ⟨hK, .inr ⟨.inl hW, fun c => ?_⟩⟩
  have hc := hnext c
  cases hanswer : (m.perform i c s).1 with
  | ok a =>
    rw [hanswer] at hc
    exact hc
  | error e =>
    rw [hanswer] at hc
    exact hc

/-- A part without writes, by its `wp`. -/
theorem window_bind {q : Prog ι ρ ε β} {f : β → Prog ι ρ ε α}
    (howes : Idle m W (fun b => Owes m W (f b)) q)
    (h : wp m (fun b s => Window m W F K (f b) s) (fun _ _ => False) K q s) :
    Window m W F K (q >>= f) s := by
  induction q generalizing s with
  | ret b => exact h.2
  | raise e => exact h.2.elim
  | op i k ih =>
    exact ⟨h.1, .inr ⟨owes_bind howes, fun c => ih _ (howes.2 c s) (h.2 c)⟩⟩

/-- From a window to a `wp`: what holds from `F` on holds in the end. -/
theorem Window.wp {Q : α → σ → Prop} {E : ε → σ → Prop} {C : σ → Prop}
    (hF : ∀ p s, K s → F p s → wp m Q E C p s) (hC : ∀ s, K s → C s)
    (h : Window m W F K p s) : wp m Q E C p s := by
  induction p generalizing s with
  | ret a => exact hF _ _ h.1 h.2
  | raise e => exact hF _ _ h.1 h.2
  | op i k ih =>
    rcases h.2 with hdone | ⟨-, hnext⟩
    · exact hF _ _ h.1 hdone
    · exact ⟨hC s h.1, fun c => ih _ (hnext c)⟩

/-- Operations see the state through `view`, and only writes change that. -/
structure Viewed (m : Machine ι ρ ε χ σ) (W : ι → Prop) (view : σ → τ) : Prop where
  answer : ∀ i c s t, view s = view t → (m.perform i c s).1 = (m.perform i c t).1
  effect : ∀ i c s t, view s = view t → view (m.perform i c s).2 = view (m.perform i c t).2
  inert : ∀ i c s, ¬ W i → view (m.perform i c s).2 = view s

variable {view : σ → τ} {K : τ → Prop} {R : τ → α → τ → Prop} {v : τ}

/-- Idle, with results that fit what was found, `v`, and what is there now. -/
def Fits (m : Machine ι ρ ε χ σ) (W : ι → Prop) (view : σ → τ) (R : τ → α → τ → Prop) (v : τ)
    (p : Prog ι ρ ε α) (s : σ) : Prop := Idle m W (fun a => R v a (view s)) p

/-- A window does not mind what is not seen. -/
theorem Window.congr (hview : Viewed m W view) {s t : σ} (heq : view s = view t)
    (h : Window m W (Fits m W view R v) (fun s => K (view s)) p s) :
    Window m W (Fits m W view R v) (fun s => K (view s)) p t := by
  have hfits : ∀ q, Fits m W view R v q s → Fits m W view R v q t := by
    intro q hq
    unfold Fits at hq ⊢
    rw [← heq]
    exact hq
  have hK : K (view t) := by
    rw [← heq]
    exact h.admits
  induction p generalizing s t with
  | ret a => exact ⟨hK, hfits _ h.2⟩
  | raise e => exact ⟨hK, hfits _ h.2⟩
  | op i k ih =>
    refine ⟨hK, ?_⟩
    rcases h.2 with hdone | ⟨howes, hnext⟩
    · exact .inl (hfits _ hdone)
    · refine .inr ⟨howes, fun c => ?_⟩
      rw [← hview.answer i c s t heq]
      have heq' := hview.effect i c s t heq
      refine ih _ heq' (hnext c) (fun q hq => ?_) ?_
      · unfold Fits at hq ⊢
        rw [← heq']
        exact hq
      · rw [← heq']
        exact (hnext c).admits

/-- A program whose exclusive runs are serial. -/
structure Serial (m : Machine ι ρ ε χ σ) (W : ι → Prop) (view : σ → τ) (K : τ → Prop)
    (R : τ → α → τ → Prop) (p : Prog ι ρ ε α) : Prop where
  looks : ∃ i k, p = .op i k ∧ ¬ W i ∧ ∀ s c, K (view s) →
    Window m W (Fits m W view R (view s)) (fun s => K (view s))
        (k (m.perform i c s).1) (m.perform i c s).2
      ∧ (Idle m W (fun a => ∀ v, R v a v) (k (m.perform i c s).1)
        ∨ Owes m W (k (m.perform i c s).1))

end Prog

/-! ## Pairs -/

/-- Two parties, `true` and `false`: what is left of their programs, who has made a step,
and the state they share. -/
structure Pair (ι : Type) (ρ : ι → Type) (ε α σ : Type) where
  progs : Bool → Prog ι ρ ε α
  started : Bool → Bool := fun _ => false
  state : σ

namespace Pair

open Prog

variable {ι : Type} {ρ : ι → Type} {ε α χ σ τ : Type} (m : Machine ι ρ ε χ σ) (W : ι → Prop)

/-- The next step of `b`; a party that has ended makes none. -/
def step (x : Pair ι ρ ε α σ) (b : Bool) (c : χ) : Pair ι ρ ε α σ :=
  match x.progs b with
  | .ret _ => x
  | .raise _ => x
  | .op i k =>
    { progs := Function.update x.progs b (k (m.perform i c x.state).1)
      started := Function.update x.started b true
      state := (m.perform i c x.state).2 }

/-- A run: whose step is next, and the environment's choice for it. -/
def run : List (Bool × χ) → Pair ι ρ ε α σ → Pair ι ρ ε α σ
  | [], x => x
  | (b, c) :: rest, x => run rest (x.step m b c)

/-- The next step of `b` is no write, or the other party has not started or can write no
more. -/
def Free (x : Pair ι ρ ε α σ) (b : Bool) : Prop :=
  x.started (!b) = true → ¬ Quiet m W (x.progs (!b)) → ∀ i k, x.progs b = .op i k → ¬ W i

/-- A run in which nobody writes while the other is inside. -/
def Exclusive : List (Bool × χ) → Pair ι ρ ε α σ → Prop
  | [], _ => True
  | (b, c) :: rest, x => x.Free m W b ∧ Exclusive rest (x.step m b c)

variable {m W} {x : Pair ι ρ ε α σ} {b : Bool} {c : χ}

theorem step_op {i : ι} {k : Except ε (ρ i) → Prog ι ρ ε α} (h : x.progs b = .op i k) :
    x.step m b c =
      { progs := Function.update x.progs b (k (m.perform i c x.state).1)
        started := Function.update x.started b true
        state := (m.perform i c x.state).2 } := by
  unfold step
  rw [h]

theorem other_ne (b : Bool) : (!b) ≠ b := by
  cases b <;> decide

theorem step_progs_other : (x.step m b c).progs (!b) = x.progs (!b) := by
  unfold step
  split
  next => rfl
  next => rfl
  next => exact Function.update_of_ne (other_ne b) _ _

theorem step_started_other : (x.step m b c).started (!b) = x.started (!b) := by
  unfold step
  split
  next => rfl
  next => rfl
  next => exact Function.update_of_ne (other_ne b) _ _

theorem exclusive_append {steps steps' : List (Bool × χ)} (h : x.Exclusive m W steps)
    (h' : (x.run m steps).Exclusive m W steps') : x.Exclusive m W (steps ++ steps') := by
  induction steps generalizing x with
  | nil => exact h'
  | cons step steps ih => exact ⟨h.1, ih h.2 h'⟩

/-- The steps of one party, before the other starts or when it writes no more. -/
theorem exclusive_alone {steps : List (Bool × χ)} (hsteps : ∀ step ∈ steps, step.1 = b)
    (hother : x.started (!b) = false ∨ Quiet m W (x.progs (!b))) : x.Exclusive m W steps := by
  induction steps generalizing x with
  | nil => trivial
  | cons step steps ih =>
    obtain ⟨b', c⟩ := step
    have hb : b' = b := hsteps (b', c) List.mem_cons_self
    subst hb
    refine ⟨fun hstarted hbusy => ?_, ih (fun s hs => hsteps s (List.mem_cons_of_mem _ hs)) ?_⟩
    · rcases hother with hwait | hquiet
      · rw [hwait] at hstarted
        cases hstarted
      · exact absurd hquiet hbusy
    · rw [step_started_other, step_progs_other]
      exact hother

/-! ## The invariant -/

variable {view : σ → τ} {K : τ → Prop} {R : Bool → τ → α → τ → Prop}
  {start : Bool → Prog ι ρ ε α} {v v₀ v₁ : τ}

/-- Not started. -/
def Waiting (start : Bool → Prog ι ρ ε α) (x : Pair ι ρ ε α σ) (b : Bool) : Prop :=
  x.progs b = start b ∧ x.started b = false

variable (m W view K R) in
/-- Started when the view was `v`, with a write ahead. -/
structure Inside (v : τ) (x : Pair ι ρ ε α σ) (b : Bool) : Prop where
  started : x.started b = true
  owes : Owes m W (x.progs b)
  window : Window m W (Fits m W view (R b) v) (fun s => K (view s)) (x.progs b) x.state

variable (m W view K R start) in
/-- Where an exclusive run can be. The parties that are done are so in some order, and
what they return fits it. -/
inductive Inv (v₀ : τ) (x : Pair ι ρ ε α σ) : Prop where
  | waiting (hview : view x.state = v₀) (hK : K v₀) (hwait : ∀ b, Waiting start x b)
  | inside (b : Bool) (hin : Inside m W view K R v₀ x b) (hwait : Waiting start x (!b))
  | stuck (howes : ∀ b, x.started b = true ∧ Owes m W (x.progs b))
  | done (b : Bool) (hK : K (view x.state)) (hwait : Waiting start x (!b))
      (hidle : Idle m W (fun a => R b v₀ a (view x.state)) (x.progs b))
  | after (b : Bool) (v₁ : τ) (hidle : Idle m W (fun a => R b v₀ a v₁) (x.progs b))
      (hin : Inside m W view K R v₁ x (!b))
  | both (b : Bool) (v₁ : τ) (hidle : Idle m W (fun a => R b v₀ a v₁) (x.progs b))
      (hidle' : Idle m W (fun a => R (!b) v₁ a (view x.state)) (x.progs (!b)))

theorem Waiting.step_other (h : Waiting start x (!b)) : Waiting start (x.step m b c) (!b) := by
  unfold Waiting
  rw [step_progs_other, step_started_other]
  exact h

theorem Inside.step_other (hview : Viewed m W view) (h : Inside m W view K R v x (!b))
    (hsame : view (x.step m b c).state = view x.state) :
    Inside m W view K R v (x.step m b c) (!b) := by
  refine ⟨?_, ?_, ?_⟩
  · rw [step_started_other]
    exact h.started
  · rw [step_progs_other]
    exact h.owes
  · rw [step_progs_other]
    exact h.window.congr hview hsame.symm

/-- An idle party stays so, and the other sees nothing of its steps. -/
theorem idle_step (hview : Viewed m W view) {P : α → Prop} (h : Idle m W P (x.progs b)) :
    Idle m W P ((x.step m b c).progs b) ∧ view (x.step m b c).state = view x.state := by
  cases hp : x.progs b with
  | ret a =>
    have hx : x.step m b c = x := by
      unfold step
      rw [hp]
    rw [hx]
    exact ⟨h, rfl⟩
  | raise e =>
    rw [hp] at h
    exact h.elim
  | op i k =>
    rw [hp] at h
    rw [step_op hp]
    refine ⟨?_, hview.inert i c x.state h.1⟩
    show Idle m W P (Function.update x.progs b _ b)
    rw [Function.update_self]
    exact h.2 c x.state

/-- A party inside stays inside, or is idle then with a result that fits. -/
theorem Inside.step (h : Inside m W view K R v x b) :
    Inside m W view K R v (x.step m b c) b ∨
      K (view (x.step m b c).state)
        ∧ Idle m W (fun a => R b v a (view (x.step m b c).state)) ((x.step m b c).progs b) := by
  have howes := h.owes
  have hwindow := h.window
  cases hp : x.progs b with
  | ret a =>
    rw [hp] at howes
    exact howes.elim
  | raise e =>
    rw [hp] at howes
    exact howes.elim
  | op i k =>
    rw [hp] at howes hwindow
    have hidle : ¬ Fits m W view (R b) v (.op i k) x.state :=
      fun hfits => howes.not_quiet c x.state hfits.quiet
    have hnext := (hwindow.2.resolve_left hidle).2 c
    rw [step_op hp]
    have hprog : Function.update x.progs b (k (m.perform i c x.state).1) b
        = k (m.perform i c x.state).1 := Function.update_self ..
    rcases hnext.cases with hfits | hahead
    · refine .inr ⟨hnext.admits, ?_⟩
      show Idle m W _ (Function.update x.progs b _ b)
      rw [hprog]
      exact hfits
    · refine .inl ⟨Function.update_self .., ?_, ?_⟩
      · show Owes m W (Function.update x.progs b _ b)
        rw [hprog]
        exact hahead
      · show Window m W _ _ (Function.update x.progs b _ b) _
        rw [hprog]
        exact hnext

/-- The first step of a party is a look. What comes then fits the view it had, and if it
is idle already, any other. -/
theorem Waiting.step (hview : Viewed m W view) (hserial : Serial m W view K (R b) (start b))
    (h : Waiting start x b) (hK : K (view x.state)) :
    view (x.step m b c).state = view x.state
      ∧ (Inside m W view K R (view x.state) (x.step m b c) b
        ∨ Idle m W (fun a => R b (view x.state) a (view x.state)) ((x.step m b c).progs b))
      ∧ (Owes m W ((x.step m b c).progs b)
        ∨ Idle m W (fun a => ∀ v, R b v a v) ((x.step m b c).progs b))
      ∧ (x.step m b c).started b = true := by
  obtain ⟨i, k, hstart, hlook, hafter⟩ := hserial.looks
  have hp : x.progs b = .op i k := h.1.trans hstart
  obtain ⟨hwindow, hahead⟩ := hafter x.state c hK
  have hsame : view (m.perform i c x.state).2 = view x.state := hview.inert i c x.state hlook
  rw [step_op hp]
  have hprog : Function.update x.progs b (k (m.perform i c x.state).1) b
      = k (m.perform i c x.state).1 := Function.update_self ..
  refine ⟨hsame, ?_, ?_, Function.update_self ..⟩
  · rcases hwindow.cases with hfits | howes
    · refine .inr ?_
      show Idle m W _ (Function.update x.progs b _ b)
      rw [hprog]
      unfold Fits at hfits
      rw [hsame] at hfits
      exact hfits
    · refine .inl ⟨Function.update_self .., ?_, ?_⟩
      · show Owes m W (Function.update x.progs b _ b)
        rw [hprog]
        exact howes
      · show Window m W _ _ (Function.update x.progs b _ b) _
        rw [hprog]
        exact hwindow
  · show Owes m W (Function.update x.progs b _ b) ∨ Idle m W _ (Function.update x.progs b _ b)
    rw [hprog]
    exact hahead.symm

/-- Where both parties have started and owe a write, neither is free to write, and a step
leaves it so. -/
theorem stuck_step (howes : ∀ b, x.started b = true ∧ Owes m W (x.progs b))
    (hfree : x.Free m W b) (b' : Bool) :
    (x.step m b c).started b' = true ∧ Owes m W ((x.step m b c).progs b') := by
  rcases Bool.eq_or_eq_not b' b with rfl | rfl
  · have hahead := (howes b').2
    cases hp : x.progs b' with
    | ret a =>
      rw [hp] at hahead
      exact hahead.elim
    | raise e =>
      rw [hp] at hahead
      exact hahead.elim
    | op i k =>
      have hother := howes (!b')
      have hwrites := hfree hother.1 (hother.2.not_quiet c x.state) i k hp
      rw [hp] at hahead
      rw [step_op hp]
      refine ⟨Function.update_self .., ?_⟩
      show Owes m W (Function.update x.progs b' _ b')
      rw [Function.update_self]
      exact hahead.resolve_left hwrites c x.state
  · rw [step_progs_other, step_started_other]
    exact howes (!b)

/-- **The step lemma.** -/
theorem Inv.step (hview : Viewed m W view)
    (hserial : ∀ b, Serial m W view K (R b) (start b)) (h : Inv m W view K R start v₀ x)
    (hfree : x.Free m W b) : Inv m W view K R start v₀ (x.step m b c) := by
  -- in each phase, the party that steps is the one the phase names, or the other one
  cases h with
  | waiting hv hK hwait =>
    have hK' : K (view x.state) := by
      rw [hv]
      exact hK
    obtain ⟨hsame, hentered, -, -⟩ := Waiting.step (c := c) hview (hserial b) (hwait b) hK'
    rw [hv] at hentered
    rcases hentered with hin | hidle
    · exact .inside b hin (hwait (!b)).step_other
    · refine .done b ?_ (hwait (!b)).step_other ?_
      · rw [hsame]
        exact hK'
      · rw [hsame, hv]
        exact hidle
  | inside b' hin hwait =>
    rcases Bool.eq_or_eq_not b' b with rfl | rfl
    · rcases hin.step (c := c) with hin' | ⟨hK, hidle⟩
      · exact .inside b' hin' hwait.step_other
      · exact .done b' hK hwait.step_other hidle
    · rw [Bool.not_not] at hwait
      obtain ⟨hsame, -, hahead, hstarted⟩ :=
        Waiting.step (c := c) hview (hserial b) hwait hin.window.admits
      have hin' := hin.step_other hview hsame
      rcases hahead with howes | hidle
      · -- both have started and owe a write: nobody writes any more
        refine .stuck fun b'' => ?_
        rcases Bool.eq_or_eq_not b'' b with rfl | rfl
        · exact ⟨hstarted, howes⟩
        · exact ⟨hin'.started, hin'.owes⟩
      · exact .after b v₀ (hidle.mono fun a h => h v₀) hin'
  | stuck howes => exact .stuck (stuck_step howes hfree)
  | done b' hK hwait hidle =>
    rcases Bool.eq_or_eq_not b' b with rfl | rfl
    · obtain ⟨hidle', hsame⟩ := idle_step (c := c) hview hidle
      rw [← hsame] at hidle' hK
      exact .done b' hK hwait.step_other hidle'
    · rw [Bool.not_not] at hwait
      obtain ⟨hsame, hentered, -, -⟩ := Waiting.step (c := c) hview (hserial b) hwait hK
      rw [← step_progs_other (m := m) (c := c)] at hidle
      rcases hentered with hin | hidle'
      · refine .after (!b) (view x.state) hidle ?_
        rw [Bool.not_not]
        exact hin
      · refine .both (!b) (view x.state) hidle ?_
        rw [Bool.not_not, hsame]
        exact hidle'
  | after b' v₁ hidle hin =>
    rcases Bool.eq_or_eq_not b' b with rfl | rfl
    · obtain ⟨hidle', hsame⟩ := idle_step (c := c) hview hidle
      exact .after b' v₁ hidle' (hin.step_other hview hsame)
    · rw [Bool.not_not] at hin
      rw [← step_progs_other (m := m) (c := c)] at hidle
      rcases hin.step (c := c) with hin' | ⟨-, hidle'⟩
      · refine .after (!b) v₁ hidle ?_
        rw [Bool.not_not]
        exact hin'
      · refine .both (!b) v₁ hidle ?_
        rw [Bool.not_not]
        exact hidle'
  | both b' v₁ hidle hidle' =>
    rcases Bool.eq_or_eq_not b' b with rfl | rfl
    · obtain ⟨hstill, hsame⟩ := idle_step (c := c) hview hidle
      refine .both b' v₁ hstill ?_
      rw [step_progs_other, hsame]
      exact hidle'
    · rw [Bool.not_not] at hidle'
      obtain ⟨hstill, hsame⟩ := idle_step (c := c) hview hidle'
      rw [← step_progs_other (m := m) (c := c)] at hidle
      refine .both (!b) v₁ hidle ?_
      rw [Bool.not_not, hsame]
      exact hstill

/-- The run lemma. -/
theorem Inv.run (hview : Viewed m W view)
    (hserial : ∀ b, Serial m W view K (R b) (start b)) {steps : List (Bool × χ)}
    (h : Inv m W view K R start v₀ x) (hexclusive : x.Exclusive m W steps) :
    Inv m W view K R start v₀ (x.run m steps) := by
  induction steps generalizing x with
  | nil => exact h
  | cons step steps ih => exact ih (h.step hview hserial hexclusive.1) hexclusive.2

/-- Nobody has raised. -/
theorem Inv.not_raise (hserial : ∀ b, Serial m W view K (R b) (start b))
    (h : Inv m W view K R start v₀ x) (b : Bool) (e : ε) : x.progs b ≠ .raise e := by
  have hwaiting : ∀ {b}, Waiting start x b → x.progs b ≠ .raise e := by
    intro b hwait hp
    obtain ⟨i, k, hstart, -⟩ := (hserial b).looks
    rw [hwait.1, hstart] at hp
    cases hp
  have howing : ∀ {b}, Owes m W (x.progs b) → x.progs b ≠ .raise e := by
    intro b howes hp
    rw [hp] at howes
    exact howes
  have hidling : ∀ {b} {P : α → Prop}, Idle m W P (x.progs b) → x.progs b ≠ .raise e := by
    intro b P hidle hp
    rw [hp] at hidle
    exact hidle
  -- each party is one of the two that the invariant speaks of
  have hboth : ∀ {b'}, x.progs b' ≠ .raise e → x.progs (!b') ≠ .raise e →
      x.progs b ≠ .raise e := by
    intro b' hone hother
    by_cases hb : b = b'
    · rw [hb]
      exact hone
    · rw [Bool.eq_not_of_ne hb]
      exact hother
  cases h with
  | waiting _ _ hwait => exact hwaiting (hwait b)
  | inside b' hin hwait => exact hboth (howing hin.owes) (hwaiting hwait)
  | stuck howes => exact howing (howes b).2
  | done b' _ hwait hidle => exact hboth (hidling hidle) (hwaiting hwait)
  | after b' _ hidle hin => exact hboth (hidling hidle) (howing hin.owes)
  | both b' _ hidle hidle' => exact hboth (hidling hidle) (hidling hidle')

/-- When both have returned, they could have run one after the other. -/
theorem Inv.serial (hserial : ∀ b, Serial m W view K (R b) (start b))
    (h : Inv m W view K R start v₀ x) {a : Bool → α} (hret : ∀ b, x.progs b = .ret (a b)) :
    ∃ b v₁, R b v₀ (a b) v₁ ∧ R (!b) v₁ (a (!b)) (view x.state) := by
  have hwaiting : ∀ {b}, ¬ Waiting start x b := by
    intro b hwait
    obtain ⟨i, k, hstart, -⟩ := (hserial b).looks
    have hp := hwait.1
    rw [hret b, hstart] at hp
    cases hp
  have howing : ∀ {b}, ¬ Owes m W (x.progs b) := by
    intro b howes
    rw [hret b] at howes
    exact howes
  cases h with
  | waiting _ _ hwait => exact absurd (hwait true) hwaiting
  | inside b hin _ => exact absurd hin.owes howing
  | stuck howes => exact absurd (howes true).2 howing
  | done b _ hwait _ => exact absurd hwait hwaiting
  | after b _ _ hin => exact absurd hin.owes howing
  | both b v₁ hidle hidle' =>
    rw [hret] at hidle hidle'
    exact ⟨b, v₁, hidle, hidle'⟩

/-- **Exclusive runs of serial programs are serial.** Nobody raises, and when both have
returned, the results fit one after the other, from the first view to the last. -/
theorem exclusive_serial (hview : Viewed m W view)
    (hserial : ∀ b, Serial m W view K (R b) (start b)) {s : σ} (hK : K (view s))
    {steps : List (Bool × χ)}
    (hexclusive : Pair.Exclusive m W steps { progs := start, state := s }) :
    (∀ b e, (Pair.run m steps { progs := start, state := s }).progs b ≠ .raise e)
    ∧ ∀ a : Bool → α,
      (∀ b, (Pair.run m steps { progs := start, state := s }).progs b = .ret (a b)) →
      ∃ b v₁, R b (view s) (a b) v₁ ∧
        R (!b) v₁ (a (!b)) (view (Pair.run m steps { progs := start, state := s }).state) := by
  have hinv := Inv.run hview hserial
    (.waiting rfl hK fun _ => ⟨rfl, rfl⟩) hexclusive
  exact ⟨hinv.not_raise hserial, fun a hret => hinv.serial hserial hret⟩

end Pair

end EdgeSensor.Lib
