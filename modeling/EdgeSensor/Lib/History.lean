import Mathlib.Data.List.Induction
import Mathlib.Order.Lattice

/-!
# Histories, and what a fold of one remembers

A history is what happened, each event with its time, oldest first. A program that folds
over one keeps stamps (when something was last seen) and marks (whether it ever was). The
two run rules say what a stamp and a mark of the state are, given what one event does to
them: `foldl_lastSeen` and `foldl_ever`. In a chronological history a stamp is within a
window exactly when the event is among those of the window (`fresh_lastSeen`).
-/

namespace EdgeSensor.Lib

/-- What happened, with its times, oldest first. -/
abbrev History (τ ε : Type) := List (τ × ε)

namespace History

variable {τ ε σ : Type} {p : ε → Prop} {h : History τ ε}

/-- An event of this kind is in the history. -/
def Ever (p : ε → Prop) (h : History τ ε) : Prop := ∃ e ∈ h, p e.2

instance [DecidablePred p] : Decidable (Ever p h) :=
  inferInstanceAs (Decidable (∃ e ∈ h, p e.2))

/-- When an event of this kind was last seen. -/
def lastSeen (p : ε → Prop) [DecidablePred p] (h : History τ ε) : Option τ :=
  h.foldl (fun last e => if p e.2 then some e.1 else last) none

theorem ever_concat {e : τ × ε} : Ever p (h ++ [e]) ↔ p e.2 ∨ Ever p h := by
  unfold Ever
  constructor
  · rintro ⟨e', hmem, hp⟩
    rcases List.mem_append.mp hmem with hmem | hmem
    · exact .inr ⟨e', hmem, hp⟩
    · rw [List.mem_singleton.mp hmem] at hp
      exact .inl hp
  · rintro (hp | ⟨e', hmem, hp⟩)
    · exact ⟨e, List.mem_append_right _ List.mem_cons_self, hp⟩
    · exact ⟨e', List.mem_append_left _ hmem, hp⟩

theorem lastSeen_concat [DecidablePred p] (h : History τ ε) (e : τ × ε) :
    lastSeen p (h ++ [e]) = if p e.2 then some e.1 else lastSeen p h := by
  unfold lastSeen
  rw [List.foldl_append]
  rfl

/-! ## Run rules -/

/-- A stamp that every event of a kind sets, and no other event changes. -/
theorem foldl_lastSeen [DecidablePred p] {step : σ → τ × ε → σ} (read : σ → Option τ) {s : σ}
    (h0 : read s = none)
    (hstep : ∀ s e, read (step s e) = if p e.2 then some e.1 else read s) (h : History τ ε) :
    read (h.foldl step s) = lastSeen p h := by
  induction h using List.reverseRecOn with
  | nil => exact h0
  | append_singleton h e ih =>
    rw [List.foldl_append, List.foldl_cons, List.foldl_nil, hstep, ih, lastSeen_concat]

/-- A mark that every event of a kind sets, and no other event changes. -/
theorem foldl_ever {step : σ → τ × ε → σ} (has : σ → Prop) {s : σ} (h0 : ¬ has s)
    (hstep : ∀ s e, has (step s e) ↔ p e.2 ∨ has s) (h : History τ ε) :
    has (h.foldl step s) ↔ Ever p h := by
  induction h using List.reverseRecOn with
  | nil =>
    refine iff_of_false h0 ?_
    rintro ⟨e, hmem, _⟩
    cases hmem
  | append_singleton h e ih =>
    rw [List.foldl_append, List.foldl_cons, List.foldl_nil, hstep, ih, ever_concat]

/-- A value that the first event to have one sets for good. -/
theorem foldl_first {β : Type} {step : σ → τ × ε → σ} (read : σ → Option β) (val : ε → Option β)
    {s : σ} (h0 : read s = none) (hstep : ∀ s e, read (step s e) = (read s).or (val e.2))
    (h : History τ ε) : read (h.foldl step s) = h.findSome? fun e => val e.2 := by
  induction h using List.reverseRecOn with
  | nil => exact h0
  | append_singleton h e ih =>
    rw [List.foldl_append, List.foldl_cons, List.foldl_nil, hstep, ih, List.findSome?_append,
      List.findSome?_singleton]

/-- What holds at the start and survives every event. -/
theorem foldl_inv {step : σ → τ × ε → σ} (inv : σ → Prop) {s : σ} (h0 : inv s)
    (hstep : ∀ s e, inv s → inv (step s e)) (h : History τ ε) : inv (h.foldl step s) := by
  induction h generalizing s with
  | nil => exact h0
  | cons e h ih => exact ih (hstep s e h0)

/-! ## Windows -/

section Window

variable [LinearOrder τ] {cutoff : τ}

/-- No event is before an earlier one. -/
def Chronological (h : History τ ε) : Prop := h.Pairwise fun a b => a.1 ≤ b.1

instance : Decidable (Chronological h) :=
  inferInstanceAs (Decidable (h.Pairwise fun a b => a.1 ≤ b.1))

/-- The events from a time on. -/
def since (h : History τ ε) (cutoff : τ) : History τ ε := h.filter fun e => cutoff ≤ e.1

theorem Chronological.since (hchron : Chronological h) (cutoff : τ) :
    Chronological (h.since cutoff) :=
  List.Pairwise.filter _ hchron

theorem since_append (h h' : History τ ε) (cutoff : τ) :
    History.since (h ++ h') cutoff = h.since cutoff ++ h'.since cutoff :=
  List.filter_append _ _

/-- A query is not served worse by a history pruned before its time. -/
theorem since_since_of_le (h : History τ ε) {c c' : τ} (hle : c ≤ c') :
    (h.since c).since c' = h.since c' := by
  unfold History.since
  rw [List.filter_filter]
  refine List.filter_congr fun e _ => ?_
  by_cases hlate : c' ≤ e.1
  · simp [hlate, le_trans hle hlate]
  · simp [hlate]

theorem since_since (h : History τ ε) (cutoff : τ) :
    (h.since cutoff).since cutoff = h.since cutoff := since_since_of_le h (le_refl cutoff)

theorem Ever.of_since (hever : Ever p (h.since cutoff)) : Ever p h := by
  obtain ⟨e, hmem, hp⟩ := hever
  exact ⟨e, (List.mem_filter.mp hmem).1, hp⟩

theorem ever_since : Ever p (h.since cutoff) ↔ ∃ e ∈ h, cutoff ≤ e.1 ∧ p e.2 := by
  unfold Ever History.since
  constructor
  · rintro ⟨e, hmem, hp⟩
    obtain ⟨hmem, htime⟩ := List.mem_filter.mp hmem
    exact ⟨e, hmem, of_decide_eq_true htime, hp⟩
  · rintro ⟨e, hmem, htime, hp⟩
    exact ⟨e, List.mem_filter.mpr ⟨hmem, decide_eq_true htime⟩, hp⟩

/-- In a chronological history the last stamp has what some stamp has, if a later time has
whatever an earlier one does. -/
theorem lastSeen_upward [DecidablePred p] {q : τ → Prop} (hq : ∀ a b, a ≤ b → q a → q b)
    (hchron : Chronological h) :
    (∃ t, lastSeen p h = some t ∧ q t) ↔ ∃ e ∈ h, q e.1 ∧ p e.2 := by
  induction h using List.reverseRecOn with
  | nil =>
    refine iff_of_false ?_ ?_
    · rintro ⟨t, ht, _⟩
      cases ht
    · rintro ⟨e, hmem, _⟩
      cases hmem
  | append_singleton h e ih =>
    obtain ⟨hbefore, _, hlast⟩ := List.pairwise_append.mp hchron
    specialize ih hbefore
    have hsplit : (∃ e' ∈ h ++ [e], q e'.1 ∧ p e'.2)
        ↔ (q e.1 ∧ p e.2) ∨ ∃ e' ∈ h, q e'.1 ∧ p e'.2 := by
      simp only [List.mem_append, List.mem_singleton]
      constructor
      · rintro ⟨e', hmem | rfl, hfresh⟩
        · exact .inr ⟨e', hmem, hfresh⟩
        · exact .inl hfresh
      · rintro (hfresh | ⟨e', hmem, hfresh⟩)
        · exact ⟨e, .inr rfl, hfresh⟩
        · exact ⟨e', .inl hmem, hfresh⟩
    rw [lastSeen_concat, hsplit]
    -- the last event of the kind is the stamp; any other event leaves it
    by_cases hp : p e.2
    · rw [if_pos hp]
      constructor
      · rintro ⟨t, ht, hfresh⟩
        cases ht
        exact .inl ⟨hfresh, hp⟩
      · rintro (⟨hfresh, _⟩ | ⟨e', hmem, htime, _⟩)
        · exact ⟨e.1, rfl, hfresh⟩
        · exact ⟨e.1, rfl, hq _ _ (hlast e' hmem e List.mem_cons_self) htime⟩
    · rw [if_neg hp, ih]
      exact ⟨.inr, fun h => h.resolve_left fun h => hp h.2⟩

/-- In a chronological history the last stamp decides whether the window has one. -/
theorem fresh_lastSeen [DecidablePred p] (hchron : Chronological h) :
    (∃ t, lastSeen p h = some t ∧ cutoff ≤ t) ↔ Ever p (h.since cutoff) := by
  rw [ever_since]
  exact lastSeen_upward (fun _ _ hle h => le_trans h hle) hchron

end Window

end History

end EdgeSensor.Lib
