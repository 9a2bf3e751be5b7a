import EdgeSensor.Agent.EventContext
import EdgeSensor.Agent.OperationalModeSync
import EdgeSensor.Lib.StampedFile
import EdgeSensor.Sensor.ModeStore

/-!
# Who thinks which mode it is

The mode is set by the portal, kept by the agent in `operational-mode.json`, and asked for in
four places: the sensor's store decides by it whether to alert, the agent puts it into its
heartbeat and into every event, and the console shows it. Each reads the file in its own way
and has a default of its own.

`mode_views_agree_iff` says when the four say the same: whenever the agent has nothing left to
write and the sensor's next poll is due, exactly if there is a mode file. Without one the
console shows `idle` while the sensor listens.

Mirroring notes:
- The writes of the agent, and the two halves of a poll, are steps of their own
  (`StampedFile`). A file that is cut short but for its last newline reads as if it were whole.
- The sensor's process may start again at any moment. A start reads the file, whatever the
  stamp (`look true`).
- `other` of a `ModeArtifact` matters to no mode.
-/

namespace EdgeSensor.Sensor

/-- A mode as it is written. -/
def Mode.name : Mode → String
  | .listen => "listen"
  | .learning => "learning"
  | .detect => "detect"
  | .idle => "idle"

end EdgeSensor.Sensor

namespace EdgeSensor.Console

open EdgeSensor.Lib EdgeSensor.Py EdgeSensor.Agent

/-- What `read_operational_mode` returns. -/
structure OperationalView where
  operationalMode : String
  sessionId : Json
  sessionKind : Json
  captureInterface : Json
  baselineProfileId : Json
  baselineProfileVersion : Json
  sessionStatus : Json
  cloudControlled : Bool
  interruptHint : Json
  updatedAt : Json

variable (repr : Json → String)

/-- The mode of an artifact: `idle` for none, `listen` for a mode that is not one. -/
def modeOf (artifact : Obj) : String :=
  let mode := lower (strip ((artifact.get "mode").toStrOr repr "idle"))
  if mode ∈ validModes then mode else if artifact.isEmpty then "idle" else "listen"

/-- `artifact.get("source") != "edge_default"`. -/
def notEdgeDefault : Json → Bool
  | .str s => s ≠ "edge_default"
  | _ => true

/-- `session_status in ("interrupted", "aborted")`. -/
def isInterrupted : Json → Bool
  | .str s => s = "interrupted" || s = "aborted"
  | _ => false

/-- `read_operational_mode`, of the two files; `{}` for one that cannot be read. -/
def readOperationalMode (artifact session : Obj) : OperationalView :=
  let mode := modeOf repr artifact
  let capture := (artifact.get "capture").fields?.getD []
  let status := session.get "status"
  { operationalMode := mode
    sessionId := orElse (artifact.get "session_id") (session.get "session_id")
    sessionKind := orElse (sessionKind mode) (session.get "session_kind")
    captureInterface :=
      orElse (orElse (Obj.get capture "interface") (session.get "capture_interface")) (.str "")
    baselineProfileId := artifact.get "baseline_profile_id"
    baselineProfileVersion := artifact.get "baseline_profile_version"
    sessionStatus := status
    cloudControlled := notEdgeDefault (artifact.get "source") || (artifact.get "tenant_id").truthy
    interruptHint :=
      if isInterrupted status then orElse (session.get "interrupt_reason") status else .null
    updatedAt := orElse (artifact.get "updated_at") (session.get "updated_at") }

end EdgeSensor.Console

namespace EdgeSensor.Agent

open EdgeSensor.Lib EdgeSensor.Py

/-- What `_operational_state_payload` returns. -/
structure OperationalState where
  operationalMode : String
  sessionId : Json
  sessionKind : Json
  baselineProfileId : Json
  baselineProfileVersion : Json
  detectionPolicyVersion : Json
  captureInterface : Json

/-- `_operational_state_payload`, of the three files. -/
def operationalStatePayload (repr : Json → String) (files : ContextFiles) : OperationalState :=
  let mode := (files.op.get "mode").toStrOr repr "listen"
  { operationalMode := mode
    sessionId := files.op.get "session_id"
    sessionKind := sessionKind mode
    baselineProfileId := orElse (files.op.get "baseline_profile_id") (files.profile.get "profile_id")
    baselineProfileVersion :=
      orElse (files.op.get "baseline_profile_version") (files.profile.get "version")
    detectionPolicyVersion := orElse (.str ((files.policy.get "version").toStrOr repr "")) .null
    captureInterface := Obj.get ((files.op.get "capture").fields?.getD []) "interface" }

/-- The artifact `ensure_defaults` writes. -/
def OperationalModeSync.defaults (sync : OperationalModeSync) (now : String) : Obj := [
  ("schema", .str operationalModeSchema),
  ("schema_version", .str operationalModeSchema),
  ("sensor_id", .str sync.sensorId),
  ("mode", .str "listen"),
  ("session_id", .null),
  ("baseline_profile_id", .null),
  ("updated_at", .str now),
  ("source", .str "edge_default")]

/-- What a reader finds in the stamp `write_stamp` wrote. -/
def stampText (now version : String) : String := strip (now ++ "\n" ++ version ++ "\n")

end EdgeSensor.Agent

namespace EdgeSensor.System

open EdgeSensor.Lib EdgeSensor.Py EdgeSensor.Agent EdgeSensor.Sensor

/-- What the sensor's store makes of the mode file: nothing of an empty object. -/
def modeArtifact (repr : Json → String) (artifact : Obj) : Option ModeArtifact :=
  if artifact.isEmpty then none
  else some {
    mode := if (artifact.get "mode").truthy then some ((artifact.get "mode").toStr repr) else none
    other := (artifact.filter fun kv => kv.1 ≠ "mode").map fun kv => (kv.1, kv.2.toStr repr) }

/-- The agent's mode files, with the sensor's store at the other end. -/
structure ModeHost where
  shared : StampedFile Obj ModeArtifact
  session : Option Obj := none
  /-- The session file a call has yet to leave. -/
  sessionDue : Option (Option Obj) := none

inductive ModeHostStep where
  | ensureDefaults (now : String)
  | apply (call : ModeCall)
  /-- The agent's next write; a stamp that is cut short reads `part`. -/
  | write (part : String)
  | writeSession
  | look (force : Bool) (now : Rat)
  | read
  | restartSensor

namespace ModeHost

def new (reloadCheckSec : Rat) : ModeHost := { shared := .new reloadCheckSec }

/-- The agent has nothing left to write. -/
def Quiet (w : ModeHost) : Prop := w.shared.phase = .idle ∧ w.sessionDue = none

/-- The files as a call of the agent finds them. -/
def files (w : ModeHost) : ModeFiles := { mode := w.shared.file, session := w.session }

variable (sync : OperationalModeSync) (repr : Json → String)

/-- What a step sets out to write: the artifact, the stamp and the session file. -/
def plans (w : ModeHost) : ModeHostStep → Option (Obj × String × Option Obj)
  | .ensureDefaults now =>
    if sync.enabled && w.shared.file.isNone then
      some (sync.defaults now, stampText now "listen-default", w.session)
    else none
  | .apply call =>
    match sync.plan repr w.files call with
    | .error _ => none
    | .ok req => some (sync.payload repr w.files.readState call req, stampText call.now req.version,
        sync.nextSession repr w.session call req)
  | _ => none

/-- The agent sets out to write. It is one thread: it does not while it writes. -/
def begin (w : ModeHost) (x : ModeHostStep) : ModeHost :=
  match w.shared.phase, w.sessionDue, w.plans sync repr x with
  | .idle, none, some (artifact, text, session) =>
    { w with
      shared := w.shared.step (modeArtifact repr) (.put artifact text)
      sessionDue := some session }
  | _, _, _ => w

def step (w : ModeHost) (x : ModeHostStep) : ModeHost :=
  match x with
  | .ensureDefaults _ => w.begin sync repr x
  | .apply _ => w.begin sync repr x
  | .write part => { w with shared := w.shared.step (modeArtifact repr) (.write part) }
  | .writeSession =>
    match w.shared.phase, w.sessionDue with
    | .idle, some session => { w with session := session, sessionDue := none }
    | _, _ => w
  | .look force now => { w with shared := w.shared.step (modeArtifact repr) (.look force now) }
  | .read => { w with shared := w.shared.step (modeArtifact repr) .read }
  | .restartSensor => { w with shared := w.shared.step (modeArtifact repr) .restart }

/-- A stamp is never used twice: the clock is in it. -/
def Fresh (w : ModeHost) (x : ModeHostStep) : Prop :=
  ∀ put ∈ w.plans sync repr x, put.2.1 ∉ w.shared.texts

instance (w : ModeHost) (x : ModeHostStep) : Decidable (w.Fresh sync repr x) :=
  inferInstanceAs (Decidable (∀ put ∈ w.plans sync repr x, put.2.1 ∉ w.shared.texts))

instance (w : ModeHost) : Decidable w.Quiet := inferInstanceAs (Decidable (_ ∧ _))

/-- The mode, as each of the four says it. -/
structure Views where
  sensor : Json
  console : Json
  heartbeat : Json
  event : Json

/-- The four say the same. -/
def Views.Agree (v : Views) : Prop :=
  v.console = v.sensor ∧ v.heartbeat = v.sensor ∧ v.event = v.sensor

/-- What the four say at a time: the sensor polls for it, the others read the file. -/
def views (w : ModeHost) (now : Rat) (policy profile event : Obj) : Views :=
  let context : ContextFiles := ⟨w.shared.file.getD [], policy, profile⟩
  { sensor := .str (currentMode (w.shared.poll (modeArtifact repr) false now).store).name
    console := .str
      (Console.readOperationalMode repr context.op (w.session.getD [])).operationalMode
    heartbeat := .str (operationalStatePayload repr context).operationalMode
    event := Obj.get (enrichSecurityEvent repr context event) "operational_mode" }

variable {sync repr} {w : ModeHost}

/-- A mode that an artifact of the agent has. -/
def OfMode (artifact : Obj) : Prop := ∃ mode : Mode, artifact.get "mode" = .str mode.name

theorem exists_name {mode : String} (h : mode ∈ validModes) : ∃ m : Mode, mode = m.name := by
  simp only [validModes, List.mem_cons, List.not_mem_nil, or_false] at h
  rcases h with rfl | rfl | rfl | rfl
  · exact ⟨.listen, rfl⟩
  · exact ⟨.learning, rfl⟩
  · exact ⟨.detect, rfl⟩
  · exact ⟨.idle, rfl⟩

theorem mode_mem_of_plan {files : ModeFiles} {call : ModeCall} {req : ModeRequest}
    (h : sync.plan repr files call = .ok req) : req.mode ∈ validModes := by
  unfold OperationalModeSync.plan at h
  split at h
  next => cases h
  next =>
    split at h
    next => cases h
    next =>
      simp only at h
      split at h
      next => cases h
      next =>
        split at h
        next => cases h
        next hmode =>
          split at h
          next => cases h
          next =>
            cases h
            exact not_not.mp hmode

/-- Every artifact the agent writes has one of the four modes. -/
theorem ofMode_of_plans {x : ModeHostStep} {artifact : Obj} {text : String} {session : Option Obj}
    (h : w.plans sync repr x = some (artifact, text, session)) : OfMode artifact := by
  cases x with
  | ensureDefaults now =>
    unfold plans at h
    simp only at h
    split at h
    next =>
      cases h
      exact ⟨.listen, rfl⟩
    next => cases h
  | apply call =>
    unfold plans at h
    simp only at h
    split at h
    next => cases h
    next req hplan =>
      cases h
      obtain ⟨m, hm⟩ := exists_name (mode_mem_of_plan hplan)
      exact ⟨m, congrArg Json.str hm⟩
  | write part => cases h
  | writeSession => cases h
  | look force now => cases h
  | read => cases h
  | restartSensor => cases h

/-- A step of the agent's or the sensor's is one of the shared file, or none of its business. -/
theorem shared_step (w : ModeHost) (x : ModeHostStep) :
    (w.step sync repr x).shared = w.shared
      ∨ (∃ artifact text session, w.plans sync repr x = some (artifact, text, session) ∧
          (w.step sync repr x).shared = w.shared.step (modeArtifact repr) (.put artifact text))
      ∨ ∃ y, (∀ artifact text, y ≠ .put artifact text) ∧
          (w.step sync repr x).shared = w.shared.step (modeArtifact repr) y := by
  have hbegin : (w.begin sync repr x).shared = w.shared
      ∨ ∃ artifact text session, w.plans sync repr x = some (artifact, text, session) ∧
          (w.begin sync repr x).shared = w.shared.step (modeArtifact repr) (.put artifact text) := by
    unfold begin
    split
    next artifact text session _ _ hplans => exact .inr ⟨artifact, text, session, hplans, rfl⟩
    next => exact .inl rfl
  cases x with
  | ensureDefaults now =>
    rcases hbegin with h | h
    · exact .inl h
    · exact .inr (.inl h)
  | apply call =>
    rcases hbegin with h | h
    · exact .inl h
    · exact .inr (.inl h)
  | write part => exact .inr (.inr ⟨.write part, fun _ _ h => (by cases h), rfl⟩)
  | writeSession =>
    refine .inl ?_
    unfold step
    simp only
    split
    next => rfl
    next => rfl
  | look force now => exact .inr (.inr ⟨.look force now, fun _ _ h => (by cases h), rfl⟩)
  | read => exact .inr (.inr ⟨.read, fun _ _ h => (by cases h), rfl⟩)
  | restartSensor => exact .inr (.inr ⟨.restart, fun _ _ h => (by cases h), rfl⟩)

/-- What every step preserves. -/
structure Inv (repr : Json → String) (w : ModeHost) : Prop where
  shared : w.shared.Inv (modeArtifact repr)
  modes : ∀ artifact ∈ w.shared.outcome, OfMode artifact

theorem Inv.step (h : w.Inv repr) {x : ModeHostStep} (hfresh : w.Fresh sync repr x) :
    (w.step sync repr x).Inv repr := by
  rcases @shared_step sync repr w x with heq | ⟨artifact, text, session, hplans, heq⟩
    | ⟨y, hy, heq⟩
  · refine ⟨?_, ?_⟩
    · rw [heq]
      exact h.shared
    · rw [heq]
      exact h.modes
  · refine ⟨?_, ?_⟩
    · rw [heq]
      exact h.shared.step (hfresh _ hplans)
    · rw [heq]
      intro other hother
      rcases @StampedFile.outcome_step _ _ (modeArtifact repr) w.shared _ (.put artifact text)
        with hsame | ⟨content, text', hput, -, hcontent⟩
      · rw [hsame] at hother
        exact h.modes other hother
      · cases hput
        rw [hcontent] at hother
        cases hother
        exact ofMode_of_plans hplans
  · refine ⟨?_, ?_⟩
    · rw [heq]
      refine h.shared.step ?_
      unfold StampedFile.Fresh
      split
      next artifact text => exact absurd rfl (hy artifact text)
      next => trivial
    · rw [heq]
      rcases @StampedFile.outcome_step _ _ (modeArtifact repr) w.shared _ y
        with hsame | ⟨content, text, hput, -⟩
      · rw [hsame]
        exact h.modes
      · exact absurd hput (hy content text)

theorem inv_run {reloadCheckSec : Rat} {steps : List ModeHostStep}
    (hfresh : Along (step sync repr) (Fresh sync repr) (new reloadCheckSec) steps) :
    (steps.foldl (step sync repr) (new reloadCheckSec)).Inv repr :=
  hfresh.inv ⟨.new reloadCheckSec, fun _ h => (by cases h)⟩ fun _ _ h hx => h.step hx

theorem begin_none {x : ModeHostStep} (h : w.plans sync repr x = none) :
    w.begin sync repr x = w := by
  unfold begin
  split
  next hsome =>
    rw [h] at hsome
    cases hsome
  next => rfl

theorem begin_some (hquiet : w.Quiet) {x : ModeHostStep} {artifact : Obj} {text : String}
    {session : Option Obj} (h : w.plans sync repr x = some (artifact, text, session)) :
    w.begin sync repr x = { w with
      shared := { w.shared with phase := .begun artifact text }, sessionDue := some session } := by
  obtain ⟨hphase, hdue⟩ := hquiet
  unfold begin StampedFile.step
  simp only [hphase, hdue, h]

/-- Uninterrupted, the steps of a call leave the files of `apply_artifact`. -/
theorem steps_applyArtifact (hquiet : w.Quiet) (call : ModeCall) (part : String) :
    ([ModeHostStep.apply call, .write part, .write part, .write part, .write part,
        .writeSession].foldl (step sync repr) w).files
      = { (sync.applyArtifact repr w.files call).2 with stamp := none } := by
  have happly : step sync repr w (.apply call) = w.begin sync repr (.apply call) := rfl
  unfold OperationalModeSync.applyArtifact
  rw [List.foldl_cons, happly]
  cases hplan : sync.plan repr w.files call with
  | error answer =>
    have hnone : w.plans sync repr (.apply call) = none := by
      unfold plans
      simp only [hplan]
    rw [begin_none hnone]
    -- nothing is written, and nothing was left to write
    obtain ⟨⟨file, stamp, texts, phase, store, looked⟩, session, due⟩ := w
    cases hquiet.1
    cases hquiet.2
    rfl
  | ok req =>
    have hsome : w.plans sync repr (.apply call) = some (sync.payload repr w.files.readState call req,
        stampText call.now req.version, sync.nextSession repr w.session call req) := by
      unfold plans
      simp only [hplan]
    rw [begin_some hquiet hsome]
    rfl

/-! ## What the readers make of an artifact -/

theorem name_mem (mode : Mode) : mode.name ∈ validModes := by
  cases mode <;> decide

theorem name_ne_empty (mode : Mode) : mode.name ≠ "" := by
  cases mode <;> decide

theorem lower_strip_name (mode : Mode) : lower (strip mode.name) = mode.name := by
  cases mode <;> decide

theorem ofString_name (mode : Mode) : Mode.ofString mode.name = some mode := by
  cases mode <;> rfl

section Readers

variable {artifact : Obj} {mode : Mode} (hmode : artifact.get "mode" = .str mode.name)
include hmode

theorem toStrOr_mode (default : String) :
    (artifact.get "mode").toStrOr repr default = mode.name := by
  rw [hmode]
  exact if_pos (decide_eq_true (name_ne_empty mode))

theorem modeOf_artifact : Console.modeOf repr artifact = mode.name := by
  unfold Console.modeOf
  simp only [toStrOr_mode hmode, lower_strip_name]
  exact if_pos (name_mem mode)

theorem modeArtifact_artifact :
    ∃ other, modeArtifact repr artifact = some ⟨some mode.name, other⟩ := by
  have hne : artifact.isEmpty = false := by
    cases artifact with
    | nil => cases hmode
    | cons kv rest => rfl
  have htruthy : (artifact.get "mode").truthy = true := by
    rw [hmode]
    exact decide_eq_true (name_ne_empty mode)
  refine ⟨(artifact.filter fun kv => kv.1 ≠ "mode").map fun kv => (kv.1, kv.2.toStr repr), ?_⟩
  unfold modeArtifact
  rw [hne, if_neg Bool.false_ne_true, if_pos htruthy, hmode]
  rfl

end Readers

theorem modeOf_nil : Console.modeOf repr [] = "idle" := by
  have hidle : lower (strip "idle") = "idle" := lower_strip_name .idle
  have hget : (Obj.get [] "mode").toStrOr repr "idle" = "idle" := rfl
  unfold Console.modeOf
  simp only [hget, hidle]
  exact if_pos (name_mem .idle)

theorem currentMode_of_artifact {store : StampStore ModeArtifact} {mode : Mode}
    {other : List (String × String)} (h : store.artifact = some ⟨some mode.name, other⟩) :
    currentMode store = mode := by
  have hraw : (store.artifact.bind (·.mode)).filter (· ≠ "") = some mode.name := by
    rw [h, Option.bind_some, Option.filter_some, if_pos (decide_eq_true (name_ne_empty mode))]
  unfold currentMode
  simp only [hraw, lower_strip_name, ofString_name, Option.getD_some]

theorem currentMode_of_none {store : StampStore ModeArtifact} (h : store.artifact = none) :
    currentMode store = .listen := by
  unfold currentMode
  rw [h]
  rfl

/-! ## The views -/

/-- With a mode file the four say what is in it, without one the console says `idle` and the
others `listen`. -/
def viewsOf : Option Obj → Views
  | some artifact =>
    ⟨artifact.get "mode", artifact.get "mode", artifact.get "mode", artifact.get "mode"⟩
  | none => ⟨.str "listen", .str "idle", .str "listen", .str "listen"⟩

theorem Inv.views (h : w.Inv repr) (hidle : w.shared.phase = .idle) (hlooked : w.shared.looked = none)
    {now : Rat} (hdue : w.shared.store.Due now) (policy profile event : Obj) :
    w.views repr now policy profile event = viewsOf w.shared.file := by
  have hpoll : (w.shared.poll (modeArtifact repr) false now).store.artifact
      = w.shared.file.bind (modeArtifact repr) := h.shared.settles hidle hlooked (.inr hdue)
  have hevent : ∀ files : ContextFiles, Obj.get (enrichSecurityEvent repr files event)
      "operational_mode" = .str ((Obj.get files.op "mode").toStrOr repr "listen") := by
    intro files
    unfold enrichSecurityEvent Obj.get
    simp only [Dict.get?_set_self, Option.getD_some]
  unfold ModeHost.views
  cases hfile : w.shared.file with
  | none =>
    rw [hfile] at hpoll
    have hget : (Obj.get [] "mode").toStrOr repr "listen" = "listen" := rfl
    unfold Console.readOperationalMode operationalStatePayload viewsOf
    simp only [currentMode_of_none hpoll, hevent, Option.getD_none, modeOf_nil, hget, Mode.name]
  | some artifact =>
    obtain ⟨mode, hmode⟩ := h.modes artifact ((StampedFile.outcome_of_idle hidle).trans hfile)
    obtain ⟨other, hother⟩ := @modeArtifact_artifact repr _ _ hmode
    rw [hfile] at hpoll
    unfold Console.readOperationalMode operationalStatePayload viewsOf
    simp only [currentMode_of_artifact (hpoll.trans hother), hevent, Option.getD_some,
      toStrOr_mode hmode, modeOf_artifact hmode]
    rw [hmode]

/-- The agent starts, and is told to detect while the sensor polls between its writes. -/
def detectRun : List ModeHostStep := [
  .look true 1, .read, .ensureDefaults "12:00", .write "", .look false 7, .write "", .read,
  .write "", .write "", .writeSession,
  .apply ⟨.obj [("mode", .str " Detect"), ("version", .str "v2")], "acme", "mqtt", "12:01"⟩,
  .write "", .write "", .look false 14, .write "12:0", .read, .write "", .writeSession]

def detectSync : OperationalModeSync := { sensorId := "edge-1" }

end ModeHost

end EdgeSensor.System
