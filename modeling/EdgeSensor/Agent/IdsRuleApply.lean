import EdgeSensor.Agent.IdsRuleRules

/-!
# Bundles applied one after the other

Whatever the commands make of each bundle, the rule file, the status entry and the last
`applied` ACK tell of one bundle: the last whose call returned ok with `changed=True`
(`Agrees`). Every other call leaves all three alone: it is a repeat, or blocked for want
of a health check, or stale, or rolled back, or it raises on two versions that do not
compare, before it has written anything. The version goes only up.
-/

namespace EdgeSensor.Agent

open EdgeSensor.Lib EdgeSensor.Lib.Prog EdgeSensor.Py IdsRule

/-- A call, with the configuration of the `IdsRuleSync` it is made on and what the
environment does meanwhile. -/
structure ApplyCall where
  cfg : IdsRuleConfig
  artifact : Artifact
  choices : Nat → RuleChoice

namespace ApplyCall

variable (env : RuleEnv) (call : ApplyCall)

def bundle : Bundle := call.artifact.resolve env.hash

/-- What the call returns or raises, and the world after it. -/
def run (w : RuleWorld) : Except PyErr IdsRuleResult × RuleWorld :=
  Prog.run ruleMachine call.choices (applyArtifact env call.cfg call.artifact) w

/-- The bundle, if the call from `w` returned ok with `changed=True`. -/
def newBundle (w : RuleWorld) : Option Bundle :=
  match (call.run env w).1 with
  | .ok r => if applied r then some (call.bundle env) else none
  | .error _ => none

end ApplyCall

/-- The world after the calls. -/
def afterCalls (env : RuleEnv) : List ApplyCall → RuleWorld → RuleWorld
  | [], w => w
  | call :: calls, w => afterCalls env calls (call.run env w).2

/-- The bundle of the last call that returned ok with `changed=True`, or `active` if none
did. -/
def lastApplied (env : RuleEnv) : List ApplyCall → RuleWorld → Option Bundle → Option Bundle
  | [], _, active => active
  | call :: calls, w, active =>
    lastApplied env calls (call.run env w).2 ((call.newBundle env w).or active)

/-- The version of the last ACK with outcome `applied`. -/
def lastAppliedAck (acks : List RuleAck) : Option String :=
  ((acks.filter fun ack => ack.outcome = "applied").getLast?).map (·.version)

/-- File, entry and ACKs tell of the same bundle, or of none. -/
structure Agrees (engine : String) (active : Option Bundle) (w : RuleWorld) : Prop where
  rules : w.files (.target engine) = active.map fun b => .text (newlineTerminated b.content)
  version : (entryAt w.files engine).version = (active.map (·.version)).getD ""
  etag : (entryAt w.files engine).etag = (active.map (·.etag)).getD ""
  ruleCount :
    (entryAt w.files engine).ruleCount = (active.map fun b => countRules b.content).getD 0
  acked : (lastAppliedAck w.acks).getD "" = (entryAt w.files engine).version

/-- No version, or none newer than `w`. -/
def NotNewer (tables : UnicodeTables) (v w : String) : Prop :=
  v = "" ∨ versionLt tables w v = .ok false

/-- No rule file and no status file. -/
structure NoRules (engine : String) (w : RuleWorld) : Prop where
  rules : w.files (.target engine) = none
  status : w.files .status = none
  acks : w.acks = []

/-- The call is for the engine, with a version of its own. -/
structure ApplyCall.For (engine : String) (call : ApplyCall) : Prop where
  engine : lower (strip call.artifact.engine) = engine
  version : call.artifact.version ≠ ""

/-! ## One call -/

/-- An ACK handed to the callback. -/
def RuleWorld.acked (w : RuleWorld) (payload : RuleAck) : RuleWorld :=
  { w with acks := w.acks ++ [payload] }

theorem IdsRule.wp_announce {Q : IdsRuleResult → RuleWorld → Prop} {E : PyErr → RuleWorld → Prop}
    {C : RuleWorld → Prop} {r : IdsRuleResult} {w : RuleWorld} (hC : C w)
    (hC' : C (w.acked (idsRuleAckPayload r))) (hQ : Q r (w.acked (idsRuleAckPayload r))) :
    wp ruleMachine Q E C (announce r) w := by
  unfold announce sendAck
  rw [wp_bind', wp_attempt]
  refine (wp_perform (m := ruleMachine) (i := RuleOp.ack _)).mpr
    ⟨hC, fun c : RuleChoice => ⟨hC', ?_⟩⟩
  obtain ⟨cmd, ackRaises, response⟩ := c
  cases ackRaises with
  | none => exact ⟨hC', hQ⟩
  | some e => exact ⟨hC', hC', hQ⟩

/-- The first step of a call reads the status; the rest follows from what it read. -/
theorem ApplyCall.run_eq (env : RuleEnv) (call : ApplyCall) (w : RuleWorld) :
    call.run env w = Prog.run ruleMachine (fun n => call.choices (n + 1))
      (applyBundle env.tables call.cfg (call.bundle env)
        (entryAt w.files (call.bundle env).engine)) w := rfl

/-- A call that gets through its checks returns with an outcome, and at most its own ACK
sent. -/
theorem ApplyCall.run_ok {env : RuleEnv} {call : ApplyCall} {w : RuleWorld}
    (hdecides : Decides env.tables call.cfg (call.bundle env)
      (entryAt w.files (call.bundle env).engine)) :
    ∃ r w', call.run env w = (.ok r, w')
      ∧ Outcome env.tables (call.bundle env) w.files r w'.files
      ∧ (w'.acks = w.acks ++ [idsRuleAckPayload r] ∨ w'.acks = w.acks ∧ applied r = false) := by
  rw [call.run_eq]
  have hknown : Known (fun _ => True) w.acks (call.bundle env).engine w := ⟨trivial, rfl⟩
  have hwindow := window_applyBundle hknown trivial hdecides
  have hwp : wp ruleMachine
      (fun r w' => Outcome env.tables (call.bundle env) w.files r w'.files
        ∧ (w'.acks = w.acks ++ [idsRuleAckPayload r] ∨ w'.acks = w.acks ∧ applied r = false))
      (fun _ _ => False) (fun _ => True)
      (applyBundle env.tables call.cfg (call.bundle env)
        (entryAt w.files (call.bundle env).engine)) w := by
    refine hwindow.wp (fun p w' hK hlanded => ?_) fun _ _ => trivial
    obtain ⟨r, hout, rfl | ⟨rfl, hnot⟩⟩ := hlanded
    · refine wp_announce trivial trivial ⟨hout, .inl ?_⟩
      show w'.acks ++ _ = _
      rw [hK.acks]
    · exact ⟨trivial, hout, .inr ⟨hK.acks, hnot⟩⟩
  have hend := wp_run hwp fun n => call.choices (n + 1)
  cases hres : (Prog.run ruleMachine (fun n => call.choices (n + 1))
    (applyBundle env.tables call.cfg (call.bundle env)
      (entryAt w.files (call.bundle env).engine)) w).1 with
  | ok r =>
    rw [hres] at hend
    exact ⟨r, _, Prod.ext hres rfl, hend⟩
  | error e =>
    rw [hres] at hend
    exact hend.elim

/-- How one call ends: it raises and has changed nothing, or it returns with an outcome and
at most its own ACK sent. -/
theorem ApplyCall.run_cases (env : RuleEnv) (call : ApplyCall) (w : RuleWorld) :
    (∃ e, call.run env w = (.error e, w))
      ∨ ∃ r w', call.run env w = (.ok r, w')
        ∧ Outcome env.tables (call.bundle env) w.files r w'.files
        ∧ (w'.acks = w.acks ++ [idsRuleAckPayload r] ∨ w'.acks = w.acks ∧ applied r = false) := by
  rcases applyBundle_raises env.tables call.cfg (call.bundle env)
    (entryAt w.files (call.bundle env).engine) with hdecides | ⟨e, hraise⟩
  · exact .inr (ApplyCall.run_ok hdecides)
  · rw [call.run_eq, hraise]
    exact .inl ⟨e, rfl⟩

/-- **When a call returns**: if it gets through its checks. -/
theorem ApplyCall.returns_iff (env : RuleEnv) (call : ApplyCall) (w : RuleWorld) :
    (∃ r, (call.run env w).1 = .ok r) ↔ Decides env.tables call.cfg (call.bundle env)
      (entryAt w.files (call.bundle env).engine) := by
  constructor
  · intro ⟨r, hr⟩
    rcases applyBundle_raises env.tables call.cfg (call.bundle env)
      (entryAt w.files (call.bundle env).engine) with hdecides | ⟨e, hraise⟩
    · exact hdecides
    · rw [call.run_eq, hraise] at hr
      cases hr
  · intro hdecides
    obtain ⟨r, w', hrun, -⟩ := ApplyCall.run_ok hdecides
    exact ⟨r, congrArg Prod.fst hrun⟩

/-! ## One step of the sequence -/

variable {env : RuleEnv} {engine : String} {active : Option Bundle} {call : ApplyCall}
  {calls : List ApplyCall} {w : RuleWorld}

theorem ApplyCall.For.bundle_engine (h : call.For engine) (env : RuleEnv) :
    (call.bundle env).engine = engine := h.engine

theorem ApplyCall.For.bundle_version (h : call.For engine) : (call.bundle env).version ≠ "" := by
  unfold ApplyCall.bundle Artifact.resolve
  dsimp only
  rw [if_neg h.version]
  exact h.version

theorem outcome_applied {r : IdsRuleResult} :
    (idsRuleAckPayload r).outcome = "applied" ↔ applied r = true := by
  unfold idsRuleAckPayload applied
  cases r.ok && r.changed with
  | true => simp
  | false => cases r.rolledBack <;> simp

theorem lastAppliedAck_append (acks : List RuleAck) (r : IdsRuleResult) :
    lastAppliedAck (acks ++ [idsRuleAckPayload r])
      = if applied r then some r.version else lastAppliedAck acks := by
  unfold lastAppliedAck
  rw [List.filter_append]
  by_cases h : applied r = true
  · rw [if_pos h, List.filter_cons_of_pos (by simpa using outcome_applied.mpr h), List.filter_nil,
      List.getLast?_append, List.getLast?_singleton]
    rfl
  · rw [if_neg h, List.filter_cons_of_neg (by simpa using fun h' => h (outcome_applied.mp h')),
      List.filter_nil, List.append_nil]

/-- A call that has not applied its bundle keeps what there is. -/
theorem kept_of_not_new (hfor : call.For engine) (hnone : call.newBundle env w = none) :
    Kept engine w.files (call.run env w).2.files
      ∧ lastAppliedAck (call.run env w).2.acks = lastAppliedAck w.acks := by
  rcases call.run_cases env w with ⟨e, hrun⟩ | ⟨r, w', hrun, ⟨-, hout⟩, hacks⟩
  · rw [hrun]
    exact ⟨Kept.refl engine _, rfl⟩
  · unfold ApplyCall.newBundle at hnone
    rw [hrun] at hnone ⊢
    have hnot : applied r = false := by
      cases h : applied r with
      | false => rfl
      | true => simp [h] at hnone
    refine ⟨?_, ?_⟩
    · rw [← hfor.bundle_engine env]
      rcases hout with ⟨happlied, -⟩ | ⟨-, hkept⟩
      · rw [hnot] at happlied
        cases happlied
      · exact hkept
    · rcases hacks with hack | ⟨hack, -⟩
      · show lastAppliedAck w'.acks = _
        rw [hack, lastAppliedAck_append, hnot]
        rfl
      · show lastAppliedAck w'.acks = _
        rw [hack]

/-- A call that has: file, entry and ACK are its own, and its version is not older. -/
theorem inPlace_of_new {b : Bundle} (hfor : call.For engine) (hnew : call.newBundle env w = some b) :
    b = call.bundle env ∧ InPlace b (call.run env w).2.files
      ∧ lastAppliedAck (call.run env w).2.acks = some b.version
      ∧ isStale env.tables b (entryAt w.files engine) = .ok false := by
  rcases call.run_cases env w with ⟨e, hrun⟩ | ⟨r, w', hrun, ⟨hversion, hout⟩, hacks⟩
  · unfold ApplyCall.newBundle at hnew
    rw [hrun] at hnew
    cases hnew
  · unfold ApplyCall.newBundle at hnew
    rw [hrun] at hnew ⊢
    have happlied : applied r = true := by
      by_contra h
      simp [h] at hnew
    have hb : b = call.bundle env := by
      dsimp only at hnew
      rw [if_pos happlied] at hnew
      exact (Option.some.inj hnew).symm
    subst hb
    rcases hout with ⟨-, hstale, hplace⟩ | ⟨hnot, -⟩
    · refine ⟨rfl, hplace, ?_, ?_⟩
      · rcases hacks with hack | ⟨-, hnot⟩
        · show lastAppliedAck w'.acks = _
          rw [hack, lastAppliedAck_append, if_pos happlied, hversion]
        · rw [happlied] at hnot
          cases hnot
      · rw [← hfor.bundle_engine env]
        exact hstale
    · rw [happlied] at hnot
      cases hnot

/-- **The step lemma.** -/
theorem Agrees.step (h : Agrees engine active w) (hfor : call.For engine) :
    Agrees engine ((call.newBundle env w).or active) (call.run env w).2 := by
  cases hnew : call.newBundle env w with
  | none =>
    obtain ⟨hkept, hack⟩ := kept_of_not_new hfor hnew
    refine ⟨?_, ?_, ?_, ?_, ?_⟩
    · exact hkept.rules.trans h.rules
    · exact hkept.version.trans h.version
    · exact hkept.etag.trans h.etag
    · exact hkept.ruleCount.trans h.ruleCount
    · rw [hack, hkept.version]
      exact h.acked
  | some b =>
    obtain ⟨rfl, hplace, hack, -⟩ := inPlace_of_new hfor hnew
    have hengine : (call.bundle env).engine = engine := hfor.bundle_engine env
    have hrules := hplace.rules
    have hversion := hplace.version
    have hetag := hplace.etag
    have hcount := hplace.ruleCount
    rw [hengine] at hrules hversion hetag hcount
    refine ⟨hrules, hversion, hetag, hcount, ?_⟩
    rw [hack, hversion]
    rfl

/-- The version after one call: the same, or one that is not older. -/
theorem notNewer_call (env : RuleEnv) (w : RuleWorld) (hfor : call.For engine) :
    NotNewer env.tables (entryAt w.files engine).version
        (entryAt (call.run env w).2.files engine).version
      ∧ ((entryAt w.files engine).version ≠ "" →
        (entryAt (call.run env w).2.files engine).version ≠ "") := by
  cases hnew : call.newBundle env w with
  | none =>
    obtain ⟨hkept, -⟩ := kept_of_not_new hfor hnew
    rw [hkept.version]
    exact ⟨.inr (versionLt_self _ _), id⟩
  | some b =>
    obtain ⟨rfl, hplace, -, hstale⟩ := inPlace_of_new hfor hnew
    have hversion := hplace.version
    rw [hfor.bundle_engine env] at hversion
    rw [hversion]
    refine ⟨?_, fun _ => hfor.bundle_version⟩
    unfold isStale at hstale
    split at hstale
    next hempty => exact .inl hempty
    next => exact .inr hstale

theorem notNewer_calls (hfor : ∀ c ∈ calls, c.For engine) :
    NotNewer env.tables (entryAt w.files engine).version
      (entryAt (afterCalls env calls w).files engine).version := by
  induction calls generalizing w with
  | nil => exact .inr (versionLt_self _ _)
  | cons call calls ih =>
    obtain ⟨hstep, hnonempty⟩ := notNewer_call env w (hfor call List.mem_cons_self)
    have hrest := ih (w := (call.run env w).2) fun c hc => hfor c (List.mem_cons_of_mem _ hc)
    rcases hstep with hempty | hstep
    · exact .inl hempty
    · by_cases hempty : (entryAt w.files engine).version = ""
      · exact .inl hempty
      · rcases hrest with hnow | hrest
        · exact absurd hnow (hnonempty hempty)
        · exact .inr (versionLt_chain _ hstep hrest)

theorem afterCalls_append (earlier later : List ApplyCall) (w : RuleWorld) :
    afterCalls env (earlier ++ later) w = afterCalls env later (afterCalls env earlier w) := by
  induction earlier generalizing w with
  | nil => rfl
  | cons call earlier ih => exact ih _

/-- The run lemma. -/
theorem Agrees.run (h : Agrees engine active w) (hfor : ∀ c ∈ calls, c.For engine) :
    Agrees engine (lastApplied env calls w active) (afterCalls env calls w) := by
  induction calls generalizing w active with
  | nil => exact h
  | cons call calls ih =>
    exact ih (h.step (hfor call List.mem_cons_self))
      fun c hc => hfor c (List.mem_cons_of_mem _ hc)

theorem NoRules.agrees (h : NoRules engine w) : Agrees engine none w := by
  have hentry : entryAt w.files engine = {} := by
    unfold entryAt
    rw [h.status]
    rfl
  refine ⟨h.rules, ?_, ?_, ?_, ?_⟩
  · rw [hentry]
    rfl
  · rw [hentry]
    rfl
  · rw [hentry]
    rfl
  · rw [hentry, h.acks]
    rfl

/-- Hash functions of no account, ASCII tables. -/
def sampleRuleEnv : RuleEnv where
  tables := { decimal := fun _ => none, digit := fun _ => false }
  hash := { sha256 := fun _ => [], hmacSha256 := fun _ _ => [0, 0, 0] }
  decodeReplace := fun body => String.ofList (body.map fun b => Char.ofNat b.toNat)

/-- A bundle of one rule, on an agent whose commands all end with the same status. -/
def sampleCall (version : String) (status : Int) : ApplyCall where
  cfg := { healthcheckCmd := "suricata -T" }
  artifact := { content := "alert", engine := "suricata", tenantId := "t", version, etag := version }
  choices := fun _ => { cmd := .exited status "" "" }

end EdgeSensor.Agent
