import Mathlib.Data.List.Basic

/-!
# State updates that report

An `Emitter` updates a state and reports a list of outputs. A component that runs
several of them in a row (`andThen`) is understood one emitter at a time with the
notions here: what an emitter leaves alone (`Preserves`), which outputs it can report
(`EmitsOnly`), how it numbers them (`Draws`). `mem_andThen_skip` and `mem_andThen_stop`
are how they are used: in a chain, the outputs of one tag are those of the only emitter
that reports that tag, run on a state that agrees with the initial one on whatever the
emitters before it preserve.
-/

namespace EdgeSensor.Lib

/-- A state update that reports outputs. -/
abbrev Emitter (σ ε : Type) := σ → σ × List ε

/-- Outputs numbered upwards, from above `lo` up to `hi`, numbers left out allowed;
`nth n e` says that `e` is number `n`. -/
structure Rising {ε : Type} (nth : Nat → ε → Prop) (lo hi : Nat) (es : List ε) : Prop where
  le : lo ≤ hi
  range : ∀ e ∈ es, ∃ n, lo < n ∧ n ≤ hi ∧ nth n e
  rising : es.Pairwise fun a b => ∃ n m, n < m ∧ nth n a ∧ nth m b

namespace Rising

variable {ε δ : Type} {nth : Nat → ε → Prop} {lo mid hi : Nat} {as bs : List ε}

theorem nil (h : lo ≤ hi) : Rising nth lo hi [] :=
  ⟨h, fun _ he => absurd he List.not_mem_nil, List.Pairwise.nil⟩

theorem single {e : ε} (h : nth (lo + 1) e) : Rising nth lo (lo + 1) [e] := by
  refine ⟨Nat.le_succ _, fun e' he' => ?_, List.pairwise_singleton _ _⟩
  rw [List.mem_singleton.mp he']
  exact ⟨lo + 1, Nat.lt_succ_self _, Nat.le_refl _, h⟩

theorem append (ha : Rising nth lo mid as) (hb : Rising nth mid hi bs) :
    Rising nth lo hi (as ++ bs) := by
  refine ⟨Nat.le_trans ha.le hb.le, fun e he => ?_, List.pairwise_append.mpr ⟨ha.rising, hb.rising, ?_⟩⟩
  · rcases List.mem_append.mp he with he | he
    · obtain ⟨n, hlo, hhi, hn⟩ := ha.range e he
      exact ⟨n, hlo, Nat.le_trans hhi hb.le, hn⟩
    · obtain ⟨n, hlo, hhi, hn⟩ := hb.range e he
      exact ⟨n, Nat.lt_of_le_of_lt ha.le hlo, hhi, hn⟩
  · intro a hmem b hmem'
    obtain ⟨n, _, hn, ha⟩ := ha.range a hmem
    obtain ⟨m, hm, _, hb⟩ := hb.range b hmem'
    exact ⟨n, m, Nat.lt_of_le_of_lt hn hm, ha, hb⟩

theorem sublist (h : Rising nth lo hi bs) (hsub : as.Sublist bs) : Rising nth lo hi as :=
  ⟨h.le, fun e he => h.range e (hsub.subset he), h.rising.sublist hsub⟩

/-- Numbers that `f` keeps. -/
theorem map {nth' : Nat → δ → Prop} (h : Rising nth lo hi as) {f : ε → δ}
    (hf : ∀ n e, nth n e → nth' n (f e)) : Rising nth' lo hi (as.map f) := by
  refine ⟨h.le, fun e he => ?_, List.pairwise_map.mpr (h.rising.imp ?_)⟩
  · obtain ⟨e', he', rfl⟩ := List.mem_map.mp he
    obtain ⟨n, hlo, hhi, hn⟩ := h.range e' he'
    exact ⟨n, hlo, hhi, hf n e' hn⟩
  · intro a b ⟨n, m, hlt, ha, hb⟩
    exact ⟨n, m, hlt, hf n a ha, hf m b hb⟩

end Rising

namespace Emitter

variable {σ ε β : Type}

/-- Run `f`, then `g`; `f`'s outputs come first. -/
def andThen (f g : Emitter σ ε) : Emitter σ ε :=
  fun s => ((g (f s).1).1, (f s).2 ++ (g (f s).1).2)

/-- One emitter for each item, in order. -/
def forEach {α : Type} (f : α → Emitter σ ε) : List α → Emitter σ ε
  | [] => fun s => (s, [])
  | x :: xs => (f x).andThen (forEach f xs)

/-- The emitter leaves the view `proj` of the state alone. -/
def Preserves (f : Emitter σ ε) (proj : σ → β) : Prop := ∀ s, proj (f s).1 = proj s

/-- Every output satisfies `p`. -/
def EmitsOnly (f : Emitter σ ε) (p : ε → Prop) : Prop := ∀ s, ∀ e ∈ (f s).2, p e

theorem Preserves.andThen {f g : Emitter σ ε} {proj : σ → β} (hf : f.Preserves proj)
    (hg : g.Preserves proj) : (f.andThen g).Preserves proj := by
  intro s
  exact (hg (f s).1).trans (hf s)

/-- A coarser view is preserved too. -/
theorem Preserves.comp {γ : Type} {f : Emitter σ ε} {proj : σ → β} (hf : f.Preserves proj)
    (view : β → γ) : f.Preserves (fun s => view (proj s)) :=
  fun s => congrArg view (hf s)

theorem EmitsOnly.andThen {f g : Emitter σ ε} {p : ε → Prop} (hf : f.EmitsOnly p)
    (hg : g.EmitsOnly p) : (f.andThen g).EmitsOnly p := by
  intro s e he
  rcases List.mem_append.mp he with h | h
  · exact hf s e h
  · exact hg (f s).1 e h

theorem EmitsOnly.mono {f : Emitter σ ε} {p q : ε → Prop} (hf : f.EmitsOnly p)
    (hpq : ∀ e, p e → q e) : f.EmitsOnly q := by
  intro s e he
  exact hpq e (hf s e he)

/-- Outputs that `f` never reports come from `g`. -/
theorem mem_andThen_right {f g : Emitter σ ε} {p : ε → Prop} (hf : f.EmitsOnly (¬ p ·))
    {s : σ} {e : ε} (he : p e) : e ∈ (f.andThen g s).2 ↔ e ∈ (g (f s).1).2 := by
  refine ⟨fun h => ?_, fun h => List.mem_append_right _ h⟩
  rcases List.mem_append.mp h with h | h
  · exact absurd he (hf s e h)
  · exact h

/-- Outputs that `g` never reports come from `f`. -/
theorem mem_andThen_left {f g : Emitter σ ε} {p : ε → Prop} (hg : g.EmitsOnly (¬ p ·))
    {s : σ} {e : ε} (he : p e) : e ∈ (f.andThen g s).2 ↔ e ∈ (f s).2 := by
  refine ⟨fun h => ?_, fun h => List.mem_append_left _ h⟩
  rcases List.mem_append.mp h with h | h
  · exact h
  · exact absurd he (hg (f s).1 e h)

section Tagged

variable {τ : Type} {tag : ε → τ} {t t' : τ} {f g : Emitter σ ε} {s : σ} {e : ε}

/-- An emitter of one tag reports nothing under another. -/
theorem EmitsOnly.other (hf : f.EmitsOnly (tag · = t')) (hne : t' ≠ t) :
    f.EmitsOnly (¬ tag · = t) := by
  intro s e he heq
  exact hne ((hf s e he).symm.trans heq)

/-- In a chain, outputs of another tag than `f`'s come from the rest. -/
theorem mem_andThen_skip (hf : f.EmitsOnly (tag · = t')) (he : tag e = t) (hne : t' ≠ t) :
    e ∈ (f.andThen g s).2 ↔ e ∈ (g (f s).1).2 :=
  mem_andThen_right (p := (tag · = t)) (hf.other hne) he

/-- In a chain, outputs of another tag than the rest's come from `f`. -/
theorem mem_andThen_stop (hg : g.EmitsOnly (tag · = t')) (he : tag e = t) (hne : t' ≠ t) :
    e ∈ (f.andThen g s).2 ↔ e ∈ (f s).2 :=
  mem_andThen_left (p := (tag · = t)) (hg.other hne) he

end Tagged

/-- The emitter numbers its outputs from a counter in the state. -/
def Draws (f : Emitter σ ε) (count : σ → Nat) (nth : Nat → ε → Prop) : Prop :=
  ∀ s, Rising nth (count s) (count (f s).1) (f s).2

theorem Draws.andThen {f g : Emitter σ ε} {count : σ → Nat} {nth : Nat → ε → Prop}
    (hf : f.Draws count nth) (hg : g.Draws count nth) : (f.andThen g).Draws count nth :=
  fun s => (hf s).append (hg (f s).1)

section ForEach

variable {α : Type} {f : α → Emitter σ ε}

/-- A loop reports an output of a kind when its first turn does or the turns after it do. -/
theorem exists_mem_forEach_cons {p : ε → Prop} (x : α) (xs : List α) (s : σ) :
    (∃ e ∈ (forEach f (x :: xs) s).2, p e)
      ↔ (∃ e ∈ (f x s).2, p e) ∨ ∃ e ∈ (forEach f xs (f x s).1).2, p e := by
  simp only [forEach, andThen, List.mem_append, or_and_right, exists_or]

theorem forEach_preserves {proj : σ → β} (hf : ∀ x, (f x).Preserves proj) (xs : List α) :
    (forEach f xs).Preserves proj := by
  induction xs with
  | nil => exact fun _ => rfl
  | cons x xs ih => exact (hf x).andThen ih

theorem forEach_emitsOnly {p : ε → Prop} {xs : List α} (hf : ∀ x ∈ xs, (f x).EmitsOnly p) :
    (forEach f xs).EmitsOnly p := by
  induction xs with
  | nil => exact fun _ _ he => absurd he List.not_mem_nil
  | cons x xs ih =>
    exact (hf x List.mem_cons_self).andThen (ih fun y hy => hf y (List.mem_cons_of_mem _ hy))

theorem forEach_draws {count : σ → Nat} {nth : Nat → ε → Prop}
    (hf : ∀ x, (f x).Draws count nth) (xs : List α) : (forEach f xs).Draws count nth := by
  induction xs with
  | nil => exact fun _ => .nil (Nat.le_refl _)
  | cons x xs ih => exact (hf x).andThen ih

end ForEach

end Emitter

end EdgeSensor.Lib
