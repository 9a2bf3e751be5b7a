import EdgeSensor.Lib.Run
import Mathlib.Logic.Function.Basic

/-!
# A resource built from a configuration

Threads share a configuration, a resource made from it, and a lock. A thread that updates the
configuration writes it without the lock, piece by piece, and then takes the lock and drops the
resource. A thread that needs the resource takes the lock and, if there is none, builds one; it
reads the configuration piece by piece too, so it may mix an old piece with a new one.

`Inv` says that this is harmless: a resource, or a build under way, that does not fit the
configuration is going to be dropped, because whoever wrote the configuration is still on its
way to the lock (`current_of_quiet`). A write that nobody follows up (`assign`) is not covered,
and `kept_of_no_drop` is about a resource that nobody drops.

What building means is a `Builder`: its stages, and what one more reading makes of a stage.
-/

namespace EdgeSensor.Lib

/-- How a resource `ρ` is built from a configuration `κ`, reading by reading. A build may fail. -/
structure Builder (κ σ ρ : Type) where
  start : σ
  advance : κ → σ → σ ⊕ Option ρ

/-- Where a thread is. -/
inductive RebuildPc (κ σ : Type) where
  | idle
  /-- Looking whether there is anything to update: not if all of `skips` hold. -/
  | checking (skips : List (κ → Bool)) (writes : List (κ → κ))
  | writing (writes : List (κ → κ))
  /-- Everything is written; next comes the lock. -/
  | waiting
  | dropping
  | asking
  | building (stage : σ)
  /-- About to give back the lock. -/
  | leaving

/-- The thread is going to drop the resource. -/
def RebuildPc.Pending {κ σ : Type} : RebuildPc κ σ → Prop
  | .writing _ => True
  | .waiting => True
  | .dropping => True
  | _ => False

/-- The thread has the lock. -/
def RebuildPc.Locked {κ σ : Type} : RebuildPc κ σ → Prop
  | .dropping => True
  | .building _ => True
  | .leaving => True
  | _ => False

instance {κ σ : Type} : (pc : RebuildPc κ σ) → Decidable pc.Pending
  | .writing _ | .waiting | .dropping => .isTrue trivial
  | .idle | .checking _ _ | .asking | .building _ | .leaving => .isFalse id

structure Rebuild (κ σ ρ : Type) where
  config : κ
  resource : Option ρ := none
  lock : Option Nat := none
  pc : Nat → RebuildPc κ σ := fun _ => .idle

inductive RebuildStep (κ : Type) where
  /-- An idle thread starts to update. -/
  | update (thread : Nat) (skips : List (κ → Bool)) (writes : List (κ → κ))
  /-- An idle thread asks for the resource. -/
  | ask (thread : Nat)
  /-- An idle thread is going to drop the resource. -/
  | drop (thread : Nat)
  | next (thread : Nat)
  /-- The configuration is written, and that is all. -/
  | assign (write : κ → κ)

/-- The step is one of the protocol. -/
def RebuildStep.Followed {κ : Type} : RebuildStep κ → Prop
  | .assign _ => False
  | _ => True

namespace Rebuild

variable {κ σ ρ : Type}

def goto (w : Rebuild κ σ ρ) (t : Nat) (pc : RebuildPc κ σ) : Rebuild κ σ ρ :=
  { w with pc := Function.update w.pc t pc }

/-- An idle thread begins something. -/
def begin (w : Rebuild κ σ ρ) (t : Nat) (pc : RebuildPc κ σ) : Rebuild κ σ ρ :=
  match w.pc t with
  | .idle => w.goto t pc
  | _ => w

def next (b : Builder κ σ ρ) (w : Rebuild κ σ ρ) (t : Nat) : Rebuild κ σ ρ :=
  match w.pc t with
  | .idle => w
  | .checking [] _ => w.goto t .idle
  | .checking (skip :: skips) writes =>
    if skip w.config then w.goto t (.checking skips writes) else w.goto t (.writing writes)
  | .writing [] => w.goto t .waiting
  | .writing (write :: writes) => { w.goto t (.writing writes) with config := write w.config }
  | .waiting => if w.lock = none then { w.goto t .dropping with lock := some t } else w
  | .dropping => { w.goto t .leaving with resource := none }
  | .asking =>
    if w.lock = none then
      match w.resource with
      | some _ => { w.goto t .leaving with lock := some t }
      | none => { w.goto t (.building b.start) with lock := some t }
    else w
  | .building stage =>
    match b.advance w.config stage with
    | .inl stage => w.goto t (.building stage)
    | .inr resource => { w.goto t .leaving with resource := resource }
  | .leaving => { w.goto t .idle with lock := none }

def step (b : Builder κ σ ρ) (w : Rebuild κ σ ρ) : RebuildStep κ → Rebuild κ σ ρ
  | .update t skips writes => w.begin t (.checking skips writes)
  | .ask t => w.begin t .asking
  | .drop t => w.begin t .waiting
  | .next t => w.next b t
  | .assign write => { w with config := write w.config }

/-- Nobody is going to drop the resource. -/
def Quiet (w : Rebuild κ σ ρ) : Prop := ∀ t, ¬ (w.pc t).Pending

end Rebuild

/-- `fits` holds of the stages of an undisturbed build, and it ends with a resource that is
`current`. -/
structure Builder.Lawful {κ σ ρ : Type} (b : Builder κ σ ρ) (fits : κ → σ → Prop)
    (current : κ → ρ → Prop) : Prop where
  start : ∀ config, fits config b.start
  stage : ∀ {config stage stage'}, fits config stage → b.advance config stage = .inl stage' →
    fits config stage'
  done : ∀ {config stage resource}, fits config stage →
    b.advance config stage = .inr (some resource) → current config resource

namespace Rebuild

variable {κ σ ρ : Type} {b : Builder κ σ ρ} {fits : κ → σ → Prop} {current : κ → ρ → Prop}
  {w w' : Rebuild κ σ ρ} {t : Nat} {pc : RebuildPc κ σ}

theorem goto_self (w : Rebuild κ σ ρ) (t : Nat) (pc : RebuildPc κ σ) : (w.goto t pc).pc t = pc :=
  Function.update_self ..

theorem goto_ne {t' : Nat} (h : t' ≠ t) : (w.goto t pc).pc t' = w.pc t' :=
  Function.update_of_ne h _ _

@[simp]
theorem begin_config (w : Rebuild κ σ ρ) (t : Nat) (pc : RebuildPc κ σ) :
    (w.begin t pc).config = w.config := by
  unfold begin
  split
  next => rfl
  next => rfl

@[simp]
theorem begin_resource (w : Rebuild κ σ ρ) (t : Nat) (pc : RebuildPc κ σ) :
    (w.begin t pc).resource = w.resource := by
  unfold begin
  split
  next => rfl
  next => rfl

theorem begin_pc_ne {t' : Nat} (h : t' ≠ t) : (w.begin t pc).pc t' = w.pc t' := by
  unfold begin
  split
  next => exact goto_ne h
  next => rfl

/-! ## The moves of a thread -/

/-- What `next` can be. -/
inductive Moves (b : Builder κ σ ρ) (w : Rebuild κ σ ρ) (t : Nat) : Rebuild κ σ ρ → Prop where
  /-- Nothing to do, or the lock is taken. -/
  | stay : Moves b w t w
  | skipped {writes} (hpc : w.pc t = .checking [] writes) : Moves b w t (w.goto t .idle)
  | skip {skip skips writes} (hpc : w.pc t = .checking (skip :: skips) writes)
      (hskip : skip w.config = true) : Moves b w t (w.goto t (.checking skips writes))
  | change {skip skips writes} (hpc : w.pc t = .checking (skip :: skips) writes)
      (hskip : skip w.config ≠ true) : Moves b w t (w.goto t (.writing writes))
  | write {write writes} (hpc : w.pc t = .writing (write :: writes)) :
      Moves b w t { w.goto t (.writing writes) with config := write w.config }
  | written (hpc : w.pc t = .writing []) : Moves b w t (w.goto t .waiting)
  | lock (hpc : w.pc t = .waiting) (hlock : w.lock = none) :
      Moves b w t { w.goto t .dropping with lock := some t }
  | drop (hpc : w.pc t = .dropping) : Moves b w t { w.goto t .leaving with resource := none }
  | found {resource} (hpc : w.pc t = .asking) (hlock : w.lock = none)
      (hresource : w.resource = some resource) :
      Moves b w t { w.goto t .leaving with lock := some t }
  | start (hpc : w.pc t = .asking) (hlock : w.lock = none) (hnone : w.resource = none) :
      Moves b w t { w.goto t (.building b.start) with lock := some t }
  | build {stage stage'} (hpc : w.pc t = .building stage)
      (hadvance : b.advance w.config stage = .inl stage') :
      Moves b w t (w.goto t (.building stage'))
  | built {stage resource} (hpc : w.pc t = .building stage)
      (hadvance : b.advance w.config stage = .inr resource) :
      Moves b w t { w.goto t .leaving with resource := resource }
  | leave (hpc : w.pc t = .leaving) : Moves b w t { w.goto t .idle with lock := none }

theorem moves_next (b : Builder κ σ ρ) (w : Rebuild κ σ ρ) (t : Nat) : Moves b w t (w.next b t) := by
  unfold Rebuild.next
  cases hpc : w.pc t with
  | idle => exact .stay
  | checking skips writes =>
    cases skips with
    | nil => exact .skipped hpc
    | cons skip skips =>
      simp only
      split
      next hskip => exact .skip hpc hskip
      next hskip => exact .change hpc hskip
  | writing writes =>
    cases writes with
    | nil => exact .written hpc
    | cons write writes => exact .write hpc
  | waiting =>
    simp only
    split
    next hlock => exact .lock hpc hlock
    next => exact .stay
  | dropping => exact .drop hpc
  | asking =>
    simp only
    split
    next hlock =>
      split
      next hresource => exact .found hpc hlock hresource
      next hnone => exact .start hpc hlock hnone
    next => exact .stay
  | building stage =>
    simp only
    split
    next hadvance => exact .build hpc hadvance
    next hadvance => exact .built hpc hadvance
  | leaving => exact .leave hpc

/-- A move takes the thread to one place, and nobody else. -/
theorem Moves.pc_eq (h : Moves b w t w') : w' = w ∨ ∃ pc, w'.pc = Function.update w.pc t pc := by
  cases h with
  | stay => exact .inl rfl
  | _ => exact .inr ⟨_, rfl⟩

theorem next_pc_ne (b : Builder κ σ ρ) {t' : Nat} (h : t' ≠ t) : (w.next b t).pc t' = w.pc t' := by
  rcases (moves_next b w t).pc_eq with hsame | ⟨pc, hpc⟩
  · rw [hsame]
  · rw [hpc, Function.update_of_ne h]

/-! ## The lock -/

/-- Who is where only the lock lets one be has it, and while somebody builds there is nothing
built. -/
structure Exclusive (w : Rebuild κ σ ρ) : Prop where
  lock : ∀ t, (w.pc t).Locked → w.lock = some t
  empty : ∀ t stage, w.pc t = .building stage → w.resource = none

/-- A thread moves on without the lock. -/
theorem Exclusive.goto (h : w.Exclusive) (hpc : ¬ pc.Locked) : (w.goto t pc).Exclusive := by
  constructor
  · intro t' ht'
    by_cases heq : t' = t
    · subst heq
      rw [goto_self] at ht'
      exact absurd ht' hpc
    · rw [goto_ne heq] at ht'
      exact h.lock t' ht'
  · intro t' stage ht'
    by_cases heq : t' = t
    · subst heq
      rw [goto_self] at ht'
      rw [ht'] at hpc
      exact absurd trivial hpc
    · rw [goto_ne heq] at ht'
      exact h.empty t' stage ht'

theorem Exclusive.others (h : w.Exclusive) (ht : w.lock = none ∨ w.lock = some t) :
    ∀ t' ≠ t, ¬ (w.pc t').Locked := by
  intro t' hne hlocked
  have hlock := h.lock t' hlocked
  rcases ht with ht | ht
  · rw [ht] at hlock
    cases hlock
  · rw [ht] at hlock
    exact hne (Option.some.inj hlock).symm

/-- A thread moves on that has the lock, or takes it: nobody else is where it is needed. -/
theorem Exclusive.hold (h : w.Exclusive) (ht : w.lock = none ∨ w.lock = some t)
    (hpc : w'.pc = Function.update w.pc t pc) (hlock : pc.Locked → w'.lock = some t)
    (hempty : ∀ stage, pc = .building stage → w'.resource = none) : w'.Exclusive := by
  have hself : w'.pc t = pc := by rw [hpc, Function.update_self]
  have hothers : ∀ t' ≠ t, ¬ (w'.pc t').Locked := by
    intro t' hne
    rw [hpc, Function.update_of_ne hne]
    exact h.others ht t' hne
  constructor
  · intro t' ht'
    by_cases heq : t' = t
    · rw [heq] at ht' ⊢
      exact hlock (hself ▸ ht')
    · exact absurd ht' (hothers t' heq)
  · intro t' stage ht'
    by_cases heq : t' = t
    · rw [heq] at ht'
      exact hempty stage (hself.symm.trans ht')
    · refine absurd ?_ (hothers t' heq)
      rw [ht']
      trivial

theorem Exclusive.holder (h : w.Exclusive) (hpc : w.pc t = pc) (hlocked : pc.Locked) :
    w.lock = some t :=
  h.lock t (hpc ▸ hlocked)

theorem Exclusive.moves (h : w.Exclusive) (hmove : Moves b w t w') : w'.Exclusive := by
  cases hmove with
  | stay => exact h
  | skipped hpc => exact h.goto id
  | skip hpc hskip => exact h.goto id
  | change hpc hskip => exact h.goto id
  | @write write writes hpc =>
    have hgo : (w.goto t (.writing writes)).Exclusive := h.goto id
    exact ⟨hgo.lock, hgo.empty⟩
  | written hpc => exact h.goto id
  | lock hpc hlock => exact h.hold (.inl hlock) rfl (fun _ => rfl) fun _ heq => (by cases heq)
  | drop hpc =>
    have hlock := h.holder hpc trivial
    exact h.hold (.inr hlock) rfl (fun _ => hlock) fun _ _ => rfl
  | found hpc hlock hresource =>
    exact h.hold (.inl hlock) rfl (fun _ => rfl) fun _ heq => (by cases heq)
  | start hpc hlock hnone => exact h.hold (.inl hlock) rfl (fun _ => rfl) fun _ _ => hnone
  | build hpc hadvance =>
    have hlock := h.holder hpc trivial
    exact h.hold (.inr hlock) rfl (fun _ => hlock) fun _ _ => h.empty t _ hpc
  | built hpc hadvance =>
    have hlock := h.holder hpc trivial
    exact h.hold (.inr hlock) rfl (fun _ => hlock) fun _ heq => (by cases heq)
  | leave hpc =>
    exact h.hold (.inr (h.holder hpc trivial)) rfl (fun hno => hno.elim) fun _ heq => (by cases heq)

theorem Exclusive.next (h : w.Exclusive) (b : Builder κ σ ρ) (t : Nat) : (w.next b t).Exclusive :=
  h.moves (moves_next b w t)

theorem Exclusive.begin (h : w.Exclusive) (hpc : ¬ pc.Locked) : (w.begin t pc).Exclusive := by
  unfold Rebuild.begin
  split
  next => exact h.goto hpc
  next => exact h

theorem Exclusive.step (h : w.Exclusive) (b : Builder κ σ ρ) (x : RebuildStep κ) :
    (w.step b x).Exclusive := by
  cases x with
  | update t skips writes => exact h.begin id
  | ask t => exact h.begin id
  | drop t => exact h.begin id
  | next t => exact h.next b t
  | assign write => exact ⟨h.lock, h.empty⟩

/-! ## What is built -/

/-- What is built, and what is being built, fits the configuration. -/
structure Fits (fits : κ → σ → Prop) (current : κ → ρ → Prop) (w : Rebuild κ σ ρ) : Prop where
  resource : ∀ resource ∈ w.resource, current w.config resource
  building : ∀ t stage, w.pc t = .building stage → fits w.config stage

/-- What every step of the protocol preserves. -/
structure Inv (fits : κ → σ → Prop) (current : κ → ρ → Prop) (w : Rebuild κ σ ρ) : Prop where
  exclusive : w.Exclusive
  fits : w.Quiet → w.Fits fits current

/-- A thread is on its way to the lock: there is nothing to show. -/
theorem not_quiet (h : w'.pc = Function.update w.pc t pc) (hpc : pc.Pending) : ¬ w'.Quiet := by
  intro hquiet
  have hno := hquiet t
  rw [h, Function.update_self] at hno
  exact hno hpc

/-- A thread that was not on its way has not made things quiet. -/
theorem quiet_of_goto (hbefore : ¬ (w.pc t).Pending) (h : w'.pc = Function.update w.pc t pc)
    (hquiet : w'.Quiet) : w.Quiet := by
  intro t'
  by_cases heq : t' = t
  · rw [heq]
    exact hbefore
  · have hno := hquiet t'
    rw [h, Function.update_of_ne heq] at hno
    exact hno

/-- What the others are building still fits. -/
theorem Fits.building_goto (h : w.Fits fits current) (hpc : w'.pc = Function.update w.pc t pc)
    (hconfig : w'.config = w.config) (hstage : ∀ stage, pc = .building stage → fits w.config stage)
    (t' : Nat) (stage : σ) (ht' : w'.pc t' = .building stage) : fits w'.config stage := by
  rw [hconfig]
  rw [hpc] at ht'
  by_cases heq : t' = t
  · rw [heq, Function.update_self] at ht'
    exact hstage stage ht'
  · rw [Function.update_of_ne heq] at ht'
    exact h.building t' stage ht'

/-- A thread moves on, and touches neither configuration nor resource. -/
theorem Inv.goto (h : w.Inv fits current) (hexclusive : w'.Exclusive)
    (hpc : w'.pc = Function.update w.pc t pc) (hconfig : w'.config = w.config)
    (hresource : w'.resource = w.resource) (hbefore : ¬ (w.pc t).Pending)
    (hstage : ∀ stage, pc = .building stage → w.Fits fits current → fits w.config stage) :
    w'.Inv fits current := by
  refine ⟨hexclusive, fun hquiet => ?_⟩
  have hfits := h.fits (quiet_of_goto hbefore hpc hquiet)
  refine ⟨?_, hfits.building_goto hpc hconfig fun stage heq => hstage stage heq hfits⟩
  rw [hconfig, hresource]
  exact hfits.resource

/-- A thread that has dropped the resource: nobody else builds. -/
theorem Inv.dropped (h : w.Inv fits current) (hpc : w.pc t = .dropping) :
    Fits fits current { w.goto t .leaving with resource := none } := by
  refine ⟨fun _ hmem => (by cases hmem), fun t' stage ht' => ?_⟩
  by_cases heq : t' = t
  · rw [heq, show (w.goto t RebuildPc.leaving).pc t = .leaving from goto_self ..] at ht'
    cases ht'
  · rw [show (w.goto t RebuildPc.leaving).pc t' = w.pc t' from goto_ne heq] at ht'
    refine absurd ?_ (h.exclusive.others (.inr (h.exclusive.holder hpc trivial)) t' heq)
    rw [ht']
    trivial

theorem Inv.moves (h : w.Inv fits current) (hb : b.Lawful fits current) (hmove : Moves b w t w') :
    w'.Inv fits current := by
  have hex := h.exclusive.moves hmove
  have hbefore : ∀ {pc}, w.pc t = pc → ¬ pc.Pending → ¬ (w.pc t).Pending :=
    fun hpc hno => hpc ▸ hno
  cases hmove with
  | stay => exact h
  | skipped hpc => exact h.goto hex rfl rfl rfl (hbefore hpc id) fun _ heq => (by cases heq)
  | skip hpc hskip => exact h.goto hex rfl rfl rfl (hbefore hpc id) fun _ heq => (by cases heq)
  | change hpc hskip => exact ⟨hex, fun hq => absurd hq (not_quiet rfl trivial)⟩
  | write hpc => exact ⟨hex, fun hq => absurd hq (not_quiet rfl trivial)⟩
  | written hpc => exact ⟨hex, fun hq => absurd hq (not_quiet rfl trivial)⟩
  | lock hpc hlock => exact ⟨hex, fun hq => absurd hq (not_quiet rfl trivial)⟩
  | drop hpc => exact ⟨hex, fun _ => h.dropped hpc⟩
  | found hpc hlock hresource =>
    exact h.goto hex rfl rfl rfl (hbefore hpc id) fun _ heq => (by cases heq)
  | start hpc hlock hnone =>
    refine h.goto hex rfl rfl rfl (hbefore hpc id) fun stage heq _ => ?_
    cases heq
    exact hb.start w.config
  | build hpc hadvance =>
    refine h.goto hex rfl rfl rfl (hbefore hpc id) fun stage heq hfits => ?_
    cases heq
    exact hb.stage (hfits.building t _ hpc) hadvance
  | built hpc hadvance =>
    refine ⟨hex, fun hquiet => ?_⟩
    have hfits := h.fits (quiet_of_goto (hbefore hpc id) rfl hquiet)
    refine ⟨fun resource hresource => ?_, hfits.building_goto rfl rfl fun _ heq => (by cases heq)⟩
    cases hresource
    exact hb.done (hfits.building t _ hpc) hadvance
  | leave hpc => exact h.goto hex rfl rfl rfl (hbefore hpc id) fun _ heq => (by cases heq)

/-- The step lemma. -/
theorem Inv.step (h : w.Inv fits current) (hb : b.Lawful fits current) {x : RebuildStep κ}
    (hx : x.Followed) : (w.step b x).Inv fits current := by
  have hbegin : ∀ t (pc : RebuildPc κ σ), ¬ pc.Locked → (w.begin t pc).Inv fits current := by
    intro t pc hpc
    have hexclusive := h.exclusive.begin (t := t) hpc
    revert hexclusive
    unfold Rebuild.begin
    split
    next hidle =>
      refine fun hex => h.goto hex rfl rfl rfl ?_ fun stage heq => ?_
      · rw [hidle]
        exact id
      · rw [heq] at hpc
        exact absurd trivial hpc
    next => exact fun _ => h
  cases x with
  | update t skips writes => exact hbegin t _ id
  | ask t => exact hbegin t _ id
  | drop t => exact hbegin t _ id
  | next t => exact h.moves hb (moves_next b w t)
  | assign write => exact hx.elim

/-- **Nothing outdated is left.** In every interleaving of updates, builds and drops: while
nobody is on its way to drop the resource, a resource there is fits the configuration. -/
theorem current_of_quiet (hb : b.Lawful fits current) (config : κ) (steps : List (RebuildStep κ))
    (hsteps : ∀ x ∈ steps, x.Followed)
    (hquiet : (steps.foldl (step b) { config := config }).Quiet) :
    ∀ resource ∈ (steps.foldl (step b) { config := config }).resource,
      current (steps.foldl (step b) { config := config }).config resource := by
  have hstart : Inv fits current ({ config := config } : Rebuild κ σ ρ) :=
    ⟨⟨fun _ h => h.elim, fun _ _ h => (by cases h)⟩,
      fun _ => ⟨fun _ h => (by cases h), fun _ _ h => (by cases h)⟩⟩
  have hrun : ∀ (steps : List (RebuildStep κ)) (w : Rebuild κ σ ρ), w.Inv fits current →
      (∀ x ∈ steps, x.Followed) → (steps.foldl (step b) w).Inv fits current := by
    intro steps
    induction steps with
    | nil => exact fun _ h _ => h
    | cons x steps ih =>
      intro w h hall
      exact ih _ (h.step hb (hall x List.mem_cons_self)) fun y hy =>
        hall y (List.mem_cons_of_mem _ hy)
  exact ((hrun steps _ hstart hsteps).fits hquiet).resource

/-! ## What is not dropped -/

theorem Moves.resource_eq (hmove : Moves b w t w') (h : w.Exclusive) {resource : ρ}
    (hresource : w.resource = some resource) (hdrop : w.pc t ≠ .dropping) :
    w'.resource = some resource := by
  cases hmove with
  | drop hpc => exact absurd hpc hdrop
  | built hpc hadvance =>
    rw [h.empty t _ hpc] at hresource
    cases hresource
  | _ => exact hresource

/-- A resource stays unless the next step is of a thread that drops it. -/
theorem kept_of_no_drop (h : w.Exclusive) {resource : ρ} (hresource : w.resource = some resource)
    {x : RebuildStep κ} (hx : ∀ t, x = .next t → w.pc t ≠ .dropping) :
    (w.step b x).resource = some resource := by
  have hbegin : ∀ t (pc : RebuildPc κ σ), (w.begin t pc).resource = some resource :=
    fun t pc => (begin_resource w t pc).trans hresource
  cases x with
  | update t skips writes => exact hbegin t _
  | ask t => exact hbegin t _
  | drop t => exact hbegin t _
  | assign write => exact hresource
  | next t =>
    exact (moves_next b w t).resource_eq h hresource (hx t rfl)

/-- Nobody is going to drop the resource, and whoever looks whether to update finds that there is
nothing to update. -/
structure Skipping (w : Rebuild κ σ ρ) : Prop where
  quiet : w.Quiet
  holds : ∀ t skips writes, w.pc t = .checking skips writes → ∀ skip ∈ skips, skip w.config = true

theorem Skipping.goto (h : w.Skipping) (hpending : ¬ pc.Pending)
    (hskips : ∀ skips writes, pc = .checking skips writes → ∀ skip ∈ skips, skip w.config = true)
    (hpc : w'.pc = Function.update w.pc t pc) (hconfig : w'.config = w.config) :
    w'.Skipping := by
  constructor
  · intro t'
    by_cases heq : t' = t
    · rw [hpc, heq, Function.update_self]
      exact hpending
    · rw [hpc, Function.update_of_ne heq]
      exact h.quiet t'
  · intro t' skips writes ht'
    rw [hconfig]
    rw [hpc] at ht'
    by_cases heq : t' = t
    · rw [heq, Function.update_self] at ht'
      exact hskips skips writes ht'
    · rw [Function.update_of_ne heq] at ht'
      exact h.holds t' skips writes ht'

/-- Who looks after a step was looking before it. -/
theorem checking_of_next (b : Builder κ σ ρ) {skips : List (κ → Bool)} {writes : List (κ → κ)}
    (h : (w.next b t).pc t = .checking skips writes) : ∃ skips', w.pc t = .checking skips' writes := by
  have hmove := moves_next b w t
  generalize w.next b t = w' at h hmove
  have hgo : ∀ pc : RebuildPc κ σ, (w.goto t pc).pc t = .checking skips writes →
      pc = .checking skips writes := fun pc h => (goto_self w t pc).symm.trans h
  cases hmove with
  | stay => exact ⟨_, h⟩
  | skip hpc hskip =>
    cases hgo _ h
    exact ⟨_, hpc⟩
  | _ => cases hgo _ h

/-- A thread that finds nothing to update leaves everything as it is. -/
theorem Skipping.next (h : w.Skipping) (b : Builder κ σ ρ) (t : Nat) :
    (w.next b t).Skipping ∧ (w.next b t).config = w.config := by
  have hmove := moves_next b w t
  generalize w.next b t = w' at hmove
  have hpending : ∀ {pc}, w.pc t = pc → ¬ pc.Pending := fun hpc => hpc ▸ h.quiet t
  cases hmove with
  | stay => exact ⟨h, rfl⟩
  | skip hpc hskip =>
    refine ⟨h.goto id (fun _ _ heq => ?_) rfl rfl, rfl⟩
    cases heq
    exact fun other hother => h.holds t _ _ hpc other (List.mem_cons_of_mem _ hother)
  | change hpc hskip => exact absurd (h.holds t _ _ hpc _ List.mem_cons_self) hskip
  | write hpc => exact absurd trivial (hpending hpc)
  | written hpc => exact absurd trivial (hpending hpc)
  | lock hpc hlock => exact absurd trivial (hpending hpc)
  | drop hpc => exact absurd trivial (hpending hpc)
  | _ => exact ⟨h.goto id (fun _ _ heq => by cases heq) rfl rfl, rfl⟩

end Rebuild

end EdgeSensor.Lib
