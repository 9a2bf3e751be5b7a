import EdgeSensor.Agent.DetectionPolicySync
import EdgeSensor.Sensor.PolicyStores
import EdgeSensor.System.ModeViews

/-!
# Who thinks which rules are on

The portal says which rules are on, the agent keeps that in `detection-policy.json`, the
sensor's store decides by it what to detect, and the console shows it. A policy without a list
of rules means two things: the console shows no rules, the sensor keeps those it has.

`detection_views` says when the two agree, whenever the agent has nothing left to write and
the sensor's next poll is due. The console always shows the rules of the last artifact that
gave any. The sensor has the same, but for one case: the list given was empty, and before the
sensor read it the agent wrote an artifact that gives none. Then the empty list is gone, and
the sensor goes on with rules that were switched off.

Mirroring notes:
- The writes of the agent and the two halves of a poll are steps of their own (`StampedFile`);
  the sensor may start again at any moment, and reads the file when it does (`look true`).
- `rules` is `_rules_enabled` of the sensor's store (`rulesEnabled_maybeReload`). The baseline
  and the thresholds of an artifact matter to no rule being on.
-/

namespace EdgeSensor.Console

open EdgeSensor.Lib EdgeSensor.Py EdgeSensor.Agent

/-- What `build_applied_detection_policy` says of a policy that is loaded. -/
structure AppliedPolicy where
  schemaVersion : String
  tenantId : String
  siteId : String
  sensorId : Json
  version : String
  updatedAt : String
  generatedAt : String
  source : String
  rulesEnabled : List String
  rulesCount : Nat

/-- `sorted(..., key=lambda r: r.upper())` -/
def sortedRules (rules : List String) : List String :=
  rules.mergeSort fun a b => upper a ≤ upper b

/-- `build_applied_detection_policy`; `none` is `"loaded": False`. -/
def buildAppliedDetectionPolicy (repr : Json → String) (file : Option Obj) : Option AppliedPolicy :=
  file.map fun data =>
    let text (key : String) := (data.get key).toStrOr repr ""
    let source := strip ((data.get "source").toStrOr repr "unknown")
    let rules := sortedRules (cleanList ((listedRules repr data).getD []))
    { schemaVersion := text "schema_version"
      tenantId := text "tenant_id"
      siteId := text "site_id"
      sensorId := data.get "sensor_id"
      version := text "version"
      updatedAt := text "updated_at"
      generatedAt := text "generated_at"
      source := if source = "" then "unknown" else source
      rulesEnabled := rules
      rulesCount := rules.length }

end EdgeSensor.Console

namespace EdgeSensor.System

open EdgeSensor.Lib EdgeSensor.Py EdgeSensor.Agent EdgeSensor.Sensor

/-- What the sensor's store makes of the policy file: nothing of an empty object. -/
def detectionArtifact (repr : Json → String) (policy : Obj) : Option DetectionArtifact :=
  if policy.isEmpty then none
  else some {
    version := (policy.get "version").toStrOr repr ""
    rulesEnabled := listedRules repr policy }

/-- The store's rules after a poll. -/
def rulesAfter (store : StampStore DetectionArtifact) (old : Finset String) (force : Bool)
    (r : Reading DetectionArtifact) : Finset String :=
  match (store.maybeReload force r).2 with
  | .loaded _ => artifactRules r.file old
  | _ => old

theorem rulesEnabled_maybeReload (s : DetectionPolicyStore) (force : Bool) (r : PolicyReading)
    (heap : Heap) :
    (s.maybeReload force r heap).1.1.rulesEnabled
      = rulesAfter s.poll s.rulesEnabled force r.det := by
  unfold DetectionPolicyStore.maybeReload rulesAfter
  rcases s.poll.maybeReload_cases force r.det with hpoll | ⟨hpoll, -⟩ | hpoll
  · rw [hpoll]
  · rw [hpoll]
  · rw [hpoll]
    rfl

/-- The agent's policy file, with the sensor's store at the other end. -/
structure DetectionHost where
  shared : StampedFile Obj DetectionArtifact
  rules : Finset String := ∅
  /-- The rules of the last artifact that gave a list and was applied. -/
  given : List String := []

inductive DetectionHostStep where
  | apply (call : PolicyCall)
  /-- The agent's next write; a stamp that is cut short reads `part`. -/
  | write (part : String)
  | look (force : Bool) (now : Rat)
  | read
  | restartSensor

namespace DetectionHost

def new (reloadCheckSec : Rat) : DetectionHost := { shared := .new reloadCheckSec }

variable (sync : DetectionPolicySync) (repr : Json → String)

/-- What a step sets out to write: the request, the policy and the stamp. -/
def plans (w : DetectionHost) : DetectionHostStep → Option (PolicyRequest × Obj × String)
  | .apply call =>
    match sync.plan repr (w.shared.file.getD []) call with
    | .error _ => none
    | .ok req => some (req, req.payload repr (w.shared.file.getD []) call,
        stampText call.clock.stamped (req.keptVersion call.clock))
  | _ => none

/-- The agent sets out to write. It is one thread: it does not while it writes. -/
def begin (w : DetectionHost) (x : DetectionHostStep) : DetectionHost :=
  match w.shared.phase, w.plans sync repr x with
  | .idle, some (req, policy, text) =>
    { w with
      shared := w.shared.step (detectionArtifact repr) (.put policy text)
      given := (req.givenRules repr).getD w.given }
  | _, _ => w

/-- The sensor reads what it has looked at. -/
def read (w : DetectionHost) : DetectionHost :=
  match w.shared.looked with
  | none => w
  | some look =>
    { w with
      shared := w.shared.step (detectionArtifact repr) .read
      rules := rulesAfter w.shared.store w.rules look.force
        (w.shared.reading (detectionArtifact repr) look) }

def step (w : DetectionHost) (x : DetectionHostStep) : DetectionHost :=
  match x with
  | .apply _ => w.begin sync repr x
  | .write part => { w with shared := w.shared.step (detectionArtifact repr) (.write part) }
  | .look force now =>
    { w with shared := w.shared.step (detectionArtifact repr) (.look force now) }
  | .read => w.read repr
  | .restartSensor =>
    { w with shared := w.shared.step (detectionArtifact repr) .restart, rules := ∅ }

/-- A whole poll. -/
def poll (w : DetectionHost) (now : Rat) : DetectionHost :=
  (w.step sync repr (.look false now)).step sync repr .read

/-- A stamp is never used twice: the clock is in it. -/
def Fresh (w : DetectionHost) (x : DetectionHostStep) : Prop :=
  ∀ put ∈ w.plans sync repr x, put.2.2 ∉ w.shared.texts

instance (w : DetectionHost) (x : DetectionHostStep) : Decidable (w.Fresh sync repr x) :=
  inferInstanceAs (Decidable (∀ put ∈ w.plans sync repr x, put.2.2 ∉ w.shared.texts))

/-- The rules that the console shows. -/
def shown (w : DetectionHost) : List String :=
  ((Console.buildAppliedDetectionPolicy repr w.shared.file).map (·.rulesEnabled)).getD []

/-- The file lists the rules. -/
def Lists (w : DetectionHost) : Prop := (w.shared.file.bind (listedRules repr)).isSome = true

instance (w : DetectionHost) : Decidable (w.Lists repr) :=
  inferInstanceAs (Decidable (_ = true))

variable {sync repr} {w : DetectionHost}

/-! ## The invariant -/

/-- What every step preserves: what there will be in the file says which rules were given, and
who holds a list goes by it. -/
structure Inv (repr : Json → String) (w : DetectionHost) : Prop where
  shared : w.shared.Inv (detectionArtifact repr)
  told : ((w.shared.outcome.bind (listedRules repr)).getD []) = w.given
  held : ∀ artifact ∈ w.shared.store.artifact, ∀ rules ∈ artifact.rulesEnabled,
    w.rules = cleanRules rules

theorem Inv.new (reloadCheckSec : Rat) : (new reloadCheckSec).Inv repr :=
  ⟨.new reloadCheckSec, rfl, fun _ h => (by cases h)⟩

/-- A step of the shared file that begins no write and leaves the store alone. -/
theorem Inv.other (h : w.Inv repr) {x : StampedFileStep Obj}
    (hput : ∀ policy text, x ≠ .put policy text)
    (hstore : (w.shared.step (detectionArtifact repr) x).store = w.shared.store) :
    Inv repr { w with shared := w.shared.step (detectionArtifact repr) x } := by
  have hfresh : w.shared.Fresh x := by
    unfold StampedFile.Fresh
    split
    next policy text => exact absurd rfl (hput policy text)
    next => trivial
  have houtcome : (w.shared.step (detectionArtifact repr) x).outcome = w.shared.outcome := by
    rcases @StampedFile.outcome_step _ _ (detectionArtifact repr) w.shared _ x
      with hsame | ⟨policy, text, heq, -⟩
    · exact hsame
    · exact absurd heq (hput policy text)
  refine ⟨h.shared.step hfresh, ?_, ?_⟩
  · show ((w.shared.step (detectionArtifact repr) x).outcome.bind _).getD [] = w.given
    rw [houtcome]
    exact h.told
  · show ∀ artifact ∈ (w.shared.step (detectionArtifact repr) x).store.artifact, _
    rw [hstore]
    exact h.held

/-- The agent sets out to write: what is not given is taken over from the file. -/
theorem Inv.apply (h : w.Inv repr) {call : PolicyCall} (hfresh : w.Fresh sync repr (.apply call)) :
    (w.begin sync repr (.apply call)).Inv repr := by
  unfold begin
  split
  next req policy text hidle hplans =>
    refine ⟨h.shared.put (hfresh _ hplans), ?_, ?_⟩
    · show ((w.shared.step (detectionArtifact repr) (.put policy text)).outcome.bind _).getD [] = _
      rw [StampedFile.outcome_put hidle, Option.bind_some]
      have hold := h.told
      rw [StampedFile.outcome_of_idle hidle] at hold
      have hfile : (listedRules repr (w.shared.file.getD [])).getD [] = w.given := by
        rw [← hold]
        cases w.shared.file with
        | none => rfl
        | some policy => rfl
      unfold plans at hplans
      simp only at hplans
      split at hplans
      next => cases hplans
      next =>
        cases hplans
        rw [listedRules_payload, hfile]
    · show ∀ artifact ∈ (w.shared.step (detectionArtifact repr) (.put policy text)).store.artifact, _
      unfold StampedFile.step
      simp only [hidle]
      exact h.held
  next => exact h

theorem Inv.readStep (h : w.Inv repr) : (w.read repr).Inv repr := by
  unfold DetectionHost.read
  split
  next => exact h
  next look hlook =>
    have hstep : w.shared.step (detectionArtifact repr) .read = { w.shared with
        store := (w.shared.store.maybeReload look.force
          (w.shared.reading (detectionArtifact repr) look)).1, looked := none } := by
      unfold StampedFile.step
      simp only [hlook]
    refine ⟨h.shared.read, ?_, ?_⟩
    · show ((w.shared.step (detectionArtifact repr) .read).outcome.bind _).getD [] = w.given
      rw [hstep]
      exact h.told
    · show ∀ artifact ∈ (w.shared.step (detectionArtifact repr) .read).store.artifact, _
      rw [hstep]
      show ∀ artifact ∈ (w.shared.store.maybeReload look.force _).1.artifact, ∀ rules ∈ _,
        rulesAfter w.shared.store w.rules look.force _ = cleanRules rules
      unfold rulesAfter
      rcases w.shared.store.maybeReload_cases look.force
        (w.shared.reading (detectionArtifact repr) look) with hpoll | ⟨hpoll, -⟩ | hpoll
      · rw [hpoll]
        exact h.held
      · rw [hpoll]
        exact h.held
      · rw [hpoll]
        intro artifact hartifact rules hrules
        have hfile : (w.shared.reading (detectionArtifact repr) look).file = some artifact :=
          hartifact
        simp only [hfile, artifactRules, Option.bind_some, Option.mem_def.mp hrules]

theorem Inv.step (h : w.Inv repr) {x : DetectionHostStep} (hfresh : w.Fresh sync repr x) :
    (w.step sync repr x).Inv repr := by
  cases x with
  | apply call => exact h.apply hfresh
  | write part =>
    refine h.other (fun _ _ hput => (by cases hput)) ?_
    show (w.shared.write part).store = w.shared.store
    unfold StampedFile.write
    split
    all_goals rfl
  | look force now =>
    refine h.other (fun _ _ hput => (by cases hput)) ?_
    unfold StampedFile.step
    simp only
    split
    next => rfl
    next => rfl
  | read => exact h.readStep
  | restartSensor =>
    refine ⟨h.shared.restart, ?_, fun _ hartifact => (by cases hartifact)⟩
    exact h.told

theorem inv_run {reloadCheckSec : Rat} {steps : List DetectionHostStep}
    (hfresh : Along (step sync repr) (Fresh sync repr) (new reloadCheckSec) steps) :
    (steps.foldl (step sync repr) (new reloadCheckSec)).Inv repr :=
  hfresh.inv (Inv.new reloadCheckSec) fun _ _ h hx => h.step hx

/-! ## A poll of a file at rest -/

/-- A list that is looked at in a policy makes it one that holds something. -/
theorem detectionArtifact_of_listed {policy : Obj} {rules : List String}
    (h : listedRules repr policy = some rules) :
    detectionArtifact repr policy
      = some { version := (policy.get "version").toStrOr repr "", rulesEnabled := some rules } := by
  unfold detectionArtifact
  rw [h]
  cases policy with
  | nil => cases h
  | cons kv rest => rfl

theorem poll_shared (hlooked : w.shared.looked = none) (now : Rat) :
    (w.poll sync repr now).shared = w.shared.poll (detectionArtifact repr) false now := by
  obtain ⟨⟨file, stamp, texts, phase, store, looked⟩, rules, given⟩ := w
  cases hlooked
  rfl

theorem poll_rules (hlooked : w.shared.looked = none) (now : Rat) :
    (w.poll sync repr now).rules = rulesAfter w.shared.store w.rules false
      ⟨now, w.shared.stamp, w.shared.file.bind (detectionArtifact repr)⟩ := by
  obtain ⟨⟨file, stamp, texts, phase, store, looked⟩, rules, given⟩ := w
  cases hlooked
  rfl

/-- A list that the file holds is the sensor's after the poll. -/
theorem Inv.poll_listed (h : w.Inv repr) (hidle : w.shared.phase = .idle)
    (hlooked : w.shared.looked = none) {now : Rat} (hdue : w.shared.store.Due now)
    {rules : List String} (hrules : w.shared.file.bind (listedRules repr) = some rules) :
    (w.poll sync repr now).rules = cleanRules rules := by
  obtain ⟨policy, hfile, hlisted⟩ := Option.bind_eq_some_iff.mp hrules
  have hpolled : (w.poll sync repr now).Inv repr :=
    (h.step (x := .look false now) (fun _ hput => (by cases hput))).readStep
  have hsettled : (w.poll sync repr now).shared.store.artifact
      = some { version := (policy.get "version").toStrOr repr "", rulesEnabled := some rules } := by
    rw [poll_shared hlooked, h.shared.settles hidle hlooked (.inr hdue), hfile]
    exact detectionArtifact_of_listed hlisted
  exact hpolled.held _ hsettled rules rfl

/-- Without a list in the file the sensor keeps what it has. -/
theorem poll_unlisted (hlooked : w.shared.looked = none) (now : Rat)
    (hnone : w.shared.file.bind (listedRules repr) = none) :
    (w.poll sync repr now).rules = w.rules := by
  have hbind : (w.shared.file.bind (detectionArtifact repr)).bind (·.rulesEnabled) = none := by
    cases hfile : w.shared.file with
    | none => rfl
    | some policy =>
      rw [hfile] at hnone
      rw [Option.bind_some]
      unfold detectionArtifact
      split
      next => rfl
      next => exact hnone
  rw [poll_rules hlooked]
  unfold rulesAfter
  split
  next =>
    unfold artifactRules
    simp only [hbind]
  next => rfl

/-- The rules that the console shows are those that were given. -/
theorem Inv.shown (h : w.Inv repr) (hidle : w.shared.phase = .idle) :
    (w.shown repr).toFinset = cleanRules w.given := by
  have hold := h.told
  rw [StampedFile.outcome_of_idle hidle] at hold
  rw [← hold]
  unfold DetectionHost.shown Console.buildAppliedDetectionPolicy
  cases w.shared.file with
  | none => rfl
  | some policy => exact List.toFinset_eq_of_perm _ _ (List.mergeSort_perm _ _)

/-- What is given is listed, unless it was the empty list that is not taken over. -/
theorem Inv.lists_of_given (h : w.Inv repr) (hidle : w.shared.phase = .idle)
    (hgiven : w.given ≠ []) : w.Lists repr := by
  have hold := h.told
  rw [StampedFile.outcome_of_idle hidle] at hold
  unfold Lists
  cases hlisted : w.shared.file.bind (listedRules repr) with
  | none =>
    rw [hlisted] at hold
    exact absurd hold.symm hgiven
  | some rules => rfl

/-- Two rules are given, then none, and then an artifact without a list: the sensor, which
has read the first, does not see the second. -/
def switchedOffRun : List DetectionHostStep := [
  .apply ⟨.obj [("version", .str "v1"), ("rules_enabled", .arr [.str "ot-001", .str " OT-006 "])],
    "acme", "mqtt", ⟨"t1", "t1", "t1", "t1"⟩⟩,
  .write "", .write "", .write "", .write "", .look true 1, .read,
  .apply ⟨.obj [("version", .str "v2"), ("rules_enabled", .arr [])],
    "acme", "mqtt", ⟨"t2", "t2", "t2", "t2"⟩⟩,
  .write "", .write "", .write "", .write "",
  .apply ⟨.obj [("version", .str "v3")], "acme", "mqtt", ⟨"t3", "t3", "t3", "t3"⟩⟩,
  .write "", .write "", .write "", .write ""]

end DetectionHost

end EdgeSensor.System
