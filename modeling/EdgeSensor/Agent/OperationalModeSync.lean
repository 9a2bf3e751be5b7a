import EdgeSensor.Lib.Run
import EdgeSensor.Py.Json
import EdgeSensor.Py.Text

/-!
# The mode artifact and the session file (`policy/operational_mode_sync.py`)

An artifact from the portal sets the mode, and may start a session or abort one. What it
sets is kept in `operational-mode.json`; the session that runs is kept in
`learning-session.json` as well. `Agrees` says that the two tell the same.

`apply_artifact` writes the mode file and then looks at one of three things: an abort, or a
session to start, or a mode without sessions. The step lemma `agrees_applyArtifact` says
after which calls the files agree, and `files_agree_iff` is the same for whole runs.

Mirroring notes:
- A file is the object in it. `json.dumps` and `json.loads` are inverse on what is written.
- The clock is read once in a call.
- `plan` is the first half of `apply_artifact`, up to the last early return.
-/

namespace EdgeSensor.Agent

open EdgeSensor.Lib EdgeSensor.Py

def operationalModeSchema : String := "sensel.operational_mode.v1"

/-- `VALID_MODES`. -/
def validModes : List String := ["listen", "learning", "detect", "idle"]

/-- `OperationalModeResult`. -/
structure OperationalModeResult where
  ok : Bool
  changed : Bool
  mode : String := ""
  sessionId : String := ""
  tenantId : String := ""
  error : Option String := none

/-- `OperationalModeSync`. -/
structure OperationalModeSync where
  enabled : Bool := true
  sensorId : String

/-- The mode artifact, the stamp (when, which version) and the session file. -/
structure ModeFiles where
  mode : Option Obj := none
  stamp : Option (String × String) := none
  session : Option Obj := none

/-- A call of `apply_artifact`, and the clock it reads. -/
structure ModeCall where
  artifact : Json
  tenantId : String
  source : String
  now : String

/-- What an artifact asks for. -/
structure ModeRequest where
  artifact : Obj
  mode : String
  sessionId : String
  abortSessionId : String
  version : String

/-- `_session_kind`. -/
def sessionKind (mode : String) : Json :=
  if mode = "listen" then .str "observe"
  else if mode = "learning" then .str "learn"
  else .null

/-- `read_state`. -/
def ModeFiles.readState (files : ModeFiles) : Obj := files.mode.getD []

section Apply

variable (repr : Json → String)

/-- The fields of an artifact that `apply_artifact` goes by. -/
def modeRequest (artifact : Obj) (now : String) : ModeRequest where
  artifact := artifact
  mode := lower (strip ((artifact.get "mode").toStrOr repr ""))
  sessionId :=
    if (artifact.get "session_id").truthy then strip ((artifact.get "session_id").toStr repr) else ""
  abortSessionId := strip ((artifact.get "abort_session_id").toStrOr repr "")
  version :=
    if (artifact.get "version").truthy then (artifact.get "version").toStr repr
    else (artifact.get "updated_at").toStrOr repr now

/-- The request is what the mode file says already. -/
def ModeRequest.isDuplicate (req : ModeRequest) (existing : Obj) (tenantId : String) : Bool :=
  !existing.isEmpty
    && (existing.get "mode").toStrOr repr "" = req.mode
    && (existing.get "session_id").toStrOr repr "" = req.sessionId
    && (existing.get "tenant_id").toStrOr repr "" = tenantId
    && (if (existing.get "version").truthy then (existing.get "version").toStr repr
        else (existing.get "updated_at").toStrOr repr "") = req.version
    && req.abortSessionId = ""

/-- What a call is answered at once, or the request it goes on to write. -/
def OperationalModeSync.plan (sync : OperationalModeSync) (files : ModeFiles) (call : ModeCall) :
    Except OperationalModeResult ModeRequest :=
  if !sync.enabled then
    .error { ok := true, changed := false, error := some "operational_mode_disabled" }
  else
    match call.artifact.fields? with
    | none => .error { ok := false, changed := false, error := some "payload is not an object" }
    | some artifact =>
      let sensorId := strip ((artifact.get "sensor_id").toStrOr repr "")
      if sensorId ≠ "" ∧ sensorId ≠ sync.sensorId then
        .error { ok := false, changed := false,
                 error := some ("sensor_id mismatch: expected " ++ sync.sensorId) }
      else
        let req := modeRequest repr artifact call.now
        if req.mode ∉ validModes then
          .error { ok := false, changed := false,
                   error := some ("invalid mode: " ++ repr (.str req.mode)) }
        else if req.isDuplicate repr files.readState call.tenantId then
          .error { ok := true, changed := false, mode := req.mode, sessionId := req.sessionId,
                   tenantId := call.tenantId }
        else .ok req

/-- `capture_block`. -/
def ModeRequest.captureBlock (req : ModeRequest) : Obj :=
  match (req.artifact.get "capture").fields? with
  | none => []
  | some capture => [
      ("interface", .str (strip ((capture.get "interface").toStrOr repr ""))),
      ("bpf_filter", .str (strip ((capture.get "bpf_filter").toStrOr repr "")))]

/-- `a or b`, of the artifact and of the file there is. -/
def ModeRequest.orExisting (req : ModeRequest) (existing : Obj) (key : String) : Json :=
  if (req.artifact.get key).truthy then req.artifact.get key else existing.get key

/-- The artifact that is kept. -/
def OperationalModeSync.payload (sync : OperationalModeSync) (existing : Obj) (call : ModeCall)
    (req : ModeRequest) : Obj := [
  ("schema", .str ((req.artifact.get "schema").toStrOr repr operationalModeSchema)),
  ("schema_version", .str ((req.artifact.get "schema_version").toStrOr repr operationalModeSchema)),
  ("tenant_id", .str call.tenantId),
  ("sensor_id", .str sync.sensorId),
  ("site_id", .str (strip ((req.orExisting existing "site_id").toStrOr repr ""))),
  ("mode", .str req.mode),
  ("session_id", if req.sessionId = "" then .null else .str req.sessionId),
  ("baseline_profile_id", req.orExisting existing "baseline_profile_id"),
  ("baseline_profile_version", req.orExisting existing "baseline_profile_version"),
  ("capture",
    if !(req.captureBlock repr).isEmpty then .obj (req.captureBlock repr)
    else if (existing.get "capture").truthy then existing.get "capture"
    else .obj []),
  ("version", .str req.version),
  ("updated_at", .str call.now),
  ("source", .str call.source)]

/-- `_write_session`. -/
def OperationalModeSync.sessionPayload (sync : OperationalModeSync) (call : ModeCall)
    (req : ModeRequest) : Obj := [
  ("schema", .str "sensel.learning_session.v1"),
  ("session_id", .str req.sessionId),
  ("session_kind", sessionKind req.mode),
  ("operational_mode", .str req.mode),
  ("tenant_id", .str call.tenantId),
  ("sensor_id", .str sync.sensorId),
  ("status", .str "active"),
  ("capture_interface", .str ((Obj.get (req.captureBlock repr) "interface").toStrOr repr "")),
  ("bpf_filter", .str ((Obj.get (req.captureBlock repr) "bpf_filter").toStrOr repr "")),
  ("updated_at", .str call.now)]

/-- `_clear_session`: the file, or only that of one session. -/
def clearSession (session : Option Obj) (abortSessionId : String) : Option Obj :=
  if abortSessionId = "" then none
  else session.filter fun raw => (raw.get "session_id").toStrOr repr "" ≠ abortSessionId

/-- The session file after a request that is written. -/
def OperationalModeSync.nextSession (sync : OperationalModeSync) (session : Option Obj)
    (call : ModeCall) (req : ModeRequest) : Option Obj :=
  if req.abortSessionId ≠ "" then clearSession repr session req.abortSessionId
  else if (req.mode = "listen" ∨ req.mode = "learning") ∧ req.sessionId ≠ "" then
    some (sync.sessionPayload repr call req)
  else if req.mode = "detect" ∨ req.mode = "idle" then clearSession repr session ""
  else session

/-- `apply_artifact`. -/
def OperationalModeSync.applyArtifact (sync : OperationalModeSync) (files : ModeFiles)
    (call : ModeCall) : OperationalModeResult × ModeFiles :=
  match sync.plan repr files call with
  | .error answer => (answer, files)
  | .ok req =>
    ({ ok := true, changed := true, mode := req.mode, sessionId := req.sessionId,
       tenantId := call.tenantId },
     { mode := some (sync.payload repr files.readState call req)
       stamp := some (call.now, req.version)
       session := sync.nextSession repr files.session call req })

/-- The files after a call. -/
def OperationalModeSync.next (sync : OperationalModeSync) (files : ModeFiles) (call : ModeCall) :
    ModeFiles := (sync.applyArtifact repr files call).2

/-! ## When the files agree -/

/-- The artifact is of a mode with sessions, and names one. -/
def InSession (artifact : Obj) : Prop :=
  (artifact.get "mode" = .str "listen" ∨ artifact.get "mode" = .str "learning")
    ∧ (artifact.get "session_id").truthy = true

/-- The session file is there exactly in a session, and names it and its mode. -/
def ModeFiles.Agrees (files : ModeFiles) : Prop :=
  match files.session with
  | none => ¬ InSession files.readState
  | some session => InSession files.readState
      ∧ session.get "session_id" = files.readState.get "session_id"
      ∧ session.get "operational_mode" = files.readState.get "mode"

/-- The request is for a session in one of the two modes. -/
def ModeRequest.InSession (req : ModeRequest) : Prop :=
  (req.mode = "listen" ∨ req.mode = "learning") ∧ req.sessionId ≠ ""

instance (req : ModeRequest) : Decidable req.InSession :=
  inferInstanceAs (Decidable ((_ ∨ _) ∧ _))

/-- The request finds a session file that it deals with rightly. An abort leaves another
session's file alone, so that one has to be the file of the request's own session; without a
session to start, there must be no file but that of the aborted session. -/
def ModeRequest.FindsSession (req : ModeRequest) (session : Option Obj) : Prop :=
  if req.abortSessionId ≠ "" then
    if req.InSession then
      req.abortSessionId ≠ req.sessionId ∧ ∃ raw ∈ session,
        raw.get "session_id" = .str req.sessionId ∧ raw.get "operational_mode" = .str req.mode
    else ∀ raw ∈ session, (raw.get "session_id").toStrOr repr "" = req.abortSessionId
  else req.InSession ∨ (req.mode = "detect" ∨ req.mode = "idle") ∨ session = none

/-- A call that is answered at once, or finds a session file it deals with rightly. -/
def OperationalModeSync.KeepsAgreement (sync : OperationalModeSync) (files : ModeFiles)
    (call : ModeCall) : Prop :=
  ∀ req, sync.plan repr files call = .ok req → req.FindsSession repr files.session

variable {repr} {sync : OperationalModeSync} {files : ModeFiles} {call : ModeCall}
  {req : ModeRequest}

/-- A call either is answered and writes nothing, or is written. -/
theorem next_eq :
    sync.next repr files call = match sync.plan repr files call with
      | .error _ => files
      | .ok req =>
        { mode := some (sync.payload repr files.readState call req)
          stamp := some (call.now, req.version)
          session := sync.nextSession repr files.session call req } := by
  unfold OperationalModeSync.next OperationalModeSync.applyArtifact
  cases sync.plan repr files call with
  | error answer => rfl
  | ok req => rfl

theorem inSession_payload (existing : Obj) :
    Agent.InSession (sync.payload repr existing call req) ↔ req.InSession := by
  have hmode : (sync.payload repr existing call req).get "mode" = .str req.mode := rfl
  have hsession : (sync.payload repr existing call req).get "session_id"
      = if req.sessionId = "" then .null else .str req.sessionId := rfl
  unfold Agent.InSession ModeRequest.InSession
  rw [hmode, hsession, Json.str.injEq, Json.str.injEq]
  refine and_congr_right fun _ => ?_
  by_cases hid : req.sessionId = ""
  · simp [hid, Json.truthy]
  · simp [hid, Json.truthy]

/-- The files after a written request agree by what it asks for and the session file. -/
theorem agrees_written {stamp : Option (String × String)} {session : Option Obj} (existing : Obj) :
    (ModeFiles.mk (some (sync.payload repr existing call req)) stamp session).Agrees
      ↔ (¬ req.InSession ∧ session = none)
        ∨ (req.InSession ∧ ∃ raw ∈ session, raw.get "session_id" = .str req.sessionId
          ∧ raw.get "operational_mode" = .str req.mode) := by
  have hstate : (ModeFiles.mk (some (sync.payload repr existing call req)) stamp session).readState
      = sync.payload repr existing call req := rfl
  have hmode : (sync.payload repr existing call req).get "mode" = .str req.mode := rfl
  have hsession : req.InSession →
      (sync.payload repr existing call req).get "session_id" = .str req.sessionId :=
    fun h => if_neg h.2
  unfold ModeFiles.Agrees
  cases session with
  | none =>
    simp only [hstate, inSession_payload, Option.mem_def, reduceCtorEq, false_and, exists_false,
      and_false, or_false, and_true]
  | some raw =>
    simp only [hstate, inSession_payload, reduceCtorEq, and_false, false_or]
    refine and_congr_right fun hin => ?_
    rw [hsession hin, hmode]
    constructor
    · intro h
      exact ⟨raw, rfl, h⟩
    · rintro ⟨_, ⟨⟩, h⟩
      exact h

/-- The session file after a written request is as it should be exactly if the request finds
one it deals with rightly. -/
theorem nextSession_iff (session : Option Obj) :
    ((¬ req.InSession ∧ sync.nextSession repr session call req = none)
        ∨ (req.InSession ∧ ∃ raw ∈ sync.nextSession repr session call req,
          raw.get "session_id" = .str req.sessionId ∧ raw.get "operational_mode" = .str req.mode))
      ↔ req.FindsSession repr session := by
  unfold OperationalModeSync.nextSession ModeRequest.FindsSession
  by_cases habort : req.abortSessionId = ""
  · rw [if_neg (not_not.mpr habort), if_neg (not_not.mpr habort)]
    by_cases hin : req.InSession
    · -- a session is started
      have hin' : (req.mode = "listen" ∨ req.mode = "learning") ∧ req.sessionId ≠ "" := hin
      rw [if_pos hin']
      exact iff_of_true (.inr ⟨hin, _, rfl, rfl, rfl⟩) (.inl hin)
    · have hin' : ¬ ((req.mode = "listen" ∨ req.mode = "learning") ∧ req.sessionId ≠ "") := hin
      rw [if_neg hin']
      by_cases hclears : req.mode = "detect" ∨ req.mode = "idle"
      · rw [if_pos hclears]
        exact iff_of_true (.inl ⟨hin, rfl⟩) (.inr (.inl hclears))
      · -- neither: the file stays as it was
        rw [if_neg hclears]
        simp [hin, hclears]
  · rw [if_pos habort, if_pos habort]
    unfold clearSession
    rw [if_neg habort]
    by_cases hin : req.InSession
    · rw [if_pos hin]
      constructor
      · rintro (⟨hnot, _⟩ | ⟨_, raw, hraw, hid, hmode'⟩)
        · exact absurd hin hnot
        · obtain ⟨hraw, hother⟩ := Option.mem_filter_iff.mp hraw
          rw [hid, decide_eq_true_eq] at hother
          refine ⟨fun heq => hother ?_, raw, hraw, hid, hmode'⟩
          rw [heq]
          simp [Json.toStrOr, Json.truthy, Json.toStr, hin.2]
      · rintro ⟨hne, raw, hraw, hid, hmode'⟩
        refine .inr ⟨hin, raw, Option.mem_filter_iff.mpr ⟨hraw, ?_⟩, hid, hmode'⟩
        rw [hid, decide_eq_true_eq]
        simpa [Json.toStrOr, Json.truthy, Json.toStr, hin.2] using hne.symm
    · rw [if_neg hin]
      constructor
      · rintro (⟨_, hnone⟩ | ⟨hin', _⟩)
        · intro raw hraw
          by_contra hother
          have hkept : raw ∈ session.filter fun raw =>
              (raw.get "session_id").toStrOr repr "" ≠ req.abortSessionId :=
            Option.mem_filter_iff.mpr ⟨hraw, decide_eq_true hother⟩
          rw [hnone] at hkept
          cases hkept
        · exact absurd hin' hin
      · intro hall
        refine .inl ⟨hin, ?_⟩
        rw [Option.filter_eq_none_iff]
        intro raw hraw
        simpa using hall raw hraw

/-- **The step lemma.** A call that is answered at once leaves the files as they are; after one
that is written they agree exactly if it finds a session file it deals with rightly. -/
theorem agrees_next (h : files.Agrees) :
    (sync.next repr files call).Agrees ↔ sync.KeepsAgreement repr files call := by
  unfold OperationalModeSync.KeepsAgreement
  rw [next_eq]
  cases hplan : sync.plan repr files call with
  | error answer => exact iff_of_true h fun req hreq => by cases hreq
  | ok req =>
    simp only [Except.ok.injEq, forall_eq']
    rw [agrees_written, nextSession_iff]

/-- **When the mode and session files agree.** From files that agree, they agree after every
call of a run exactly if every call keeps it so. -/
theorem files_agree_iff (sync : OperationalModeSync) (hstart : files.Agrees)
    (calls : List ModeCall) :
    (∀ i, (stateAt (sync.next repr) files calls i).Agrees)
      ↔ ∀ i call, calls[i]? = some call →
        sync.KeepsAgreement repr (stateAt (sync.next repr) files calls i) call := by
  constructor
  · intro hall i call hcall
    have hnext := hall (i + 1)
    rw [stateAt_succ hcall] at hnext
    exact (agrees_next (hall i)).mp hnext
  · intro hkeeps
    exact stateAt_inv hstart fun i call hcall hagrees =>
      (agrees_next hagrees).mpr (hkeeps i call hcall)

end Apply

/-! ## Samples -/

def sampleModeSync : OperationalModeSync := { sensorId := "s1" }

/-- An artifact for the sample sensor. -/
def modeCall (fields : Obj) (now : String) : ModeCall where
  artifact := .obj (("sensor_id", .str "s1") :: fields)
  tenantId := "tenant-a"
  source := "mqtt"
  now := now

/-- A session is learnt in, and aborted in favour of listening. -/
def abortedRun : List ModeCall := [
  modeCall [("mode", .str "learning"), ("session_id", .str "sess-1")] "t1",
  modeCall [("mode", .str "listen"), ("abort_session_id", .str "sess-1")] "t2"]

theorem agrees_empty : (ModeFiles.mk none none none).Agrees := by
  rintro ⟨hmode | hmode, _⟩
  · cases hmode
  · cases hmode

theorem files_agree_aborted :
    (stateAt (sampleModeSync.next fun _ => "") {} abortedRun 2).Agrees := by
  refine (@files_agree_iff (fun _ => "") _ sampleModeSync agrees_empty abortedRun).mpr ?_ 2
  intro i call hcall req hreq
  match i, hcall with
  | 0, rfl =>
    cases hreq
    exact .inl ⟨.inr rfl, by decide⟩
  | 1, rfl =>
    cases hreq
    rintro _ ⟨⟩
    rfl

/-- **A session file outlives its session.** Listening without a session comes after learning in
one: the mode artifact has no session, the session file still has that one. -/
theorem session_file_left_over :
    let files := stateAt (sampleModeSync.next fun _ => "") {} [
      modeCall [("mode", .str "learning"), ("session_id", .str "sess-1")] "t1",
      modeCall [("mode", .str "listen")] "t2"] 2
    files.readState.get "mode" = .str "listen"
      ∧ files.readState.get "session_id" = .null
      ∧ (∃ session ∈ files.session, session.get "session_id" = .str "sess-1"
        ∧ session.get "operational_mode" = .str "learning" ∧ session.get "status" = .str "active")
      ∧ ¬ files.Agrees := by
  refine ⟨rfl, rfl, ⟨_, rfl, rfl, rfl, rfl⟩, ?_⟩
  rintro ⟨⟨_, hsession⟩, _⟩
  cases hsession

end EdgeSensor.Agent
