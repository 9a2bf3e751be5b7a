import EdgeSensor.Agent.FeedSigning
import EdgeSensor.Agent.RuleVersion
import EdgeSensor.Lib.Dict
import EdgeSensor.Lib.Files
import EdgeSensor.Lib.Prog

/-!
# Applying IDS rule bundles (`policy/ids_rule_sync.py`, `policy/policy_ack.py`)

`apply_artifact` and `pull_http_feed` as programs over the steps that touch something
outside the thread: one file operation, one command, one ACK, one HTTP request.

Mirroring notes:
- `RuleFile` is what is in a file: a rule file's text, or the `engines` of a status file.
  A file that `_read_status` cannot use reads as empty there. The time stamps and other
  top-level keys of the status file are left out: nothing reads them.
- Reading the status is one step: `_write_status` replaces the file atomically and nothing
  removes it, so nothing shows between its `is_file` and its `read_text`.
- File operations fail only where a source is missing. A command succeeds, fails, times out
  or cannot be started; its template formats and its output decodes.
- The configuration holds the stripped commands, as `__init__` does. The ACK callback is
  there, as the main loop sets it; what it raises is swallowed.
- Logging and `mkdir` are left out.
-/

namespace EdgeSensor.Agent

open EdgeSensor.Lib EdgeSensor.Lib.Prog EdgeSensor.Py

/-! ## Data -/

/-- The files of an engine, and the shared status file. -/
inductive RulePath where
  | target (engine : String)
  | backup (engine : String)
  | tmp (engine : String)
  | status
  | statusTmp
  deriving DecidableEq

/-- A file's name, for the exception that says it is missing. -/
def RulePath.name : RulePath → String
  | .target engine => s!"{engine}.rules"
  | .backup engine => s!"{engine}.rules.bak"
  | .tmp engine => s!"{engine}.rules.tmp"
  | .status => "ids-rule-status.json"
  | .statusTmp => "ids-rule-status.json.tmp"

/-- An engine's entry in the status file. No entry reads like the one with the defaults. -/
structure RuleEntry where
  engine : String := ""
  tenantId : String := ""
  version : String := ""
  etag : String := ""
  ruleCount : Nat := 0
  ok : Bool := false
  rolledBack : Bool := false
  error : Option String := none
  rejectedVersion : Option String := none
  deriving DecidableEq

/-- What is in a file. -/
inductive RuleFile where
  | text (content : String)
  | status (engines : Dict String RuleEntry)
  deriving DecidableEq

structure IdsRuleResult where
  ok : Bool
  changed : Bool
  engine : String
  statusCode : Int := 0
  version : String := ""
  ruleCount : Nat := 0
  rolledBack : Bool := false
  tenantId : String := ""
  error : Option String := none
  deriving DecidableEq

/-- An ACK payload; its schema and artifact type are constants. -/
structure RuleAck where
  engine : String
  status : String
  outcome : String
  version : String
  ruleCount : Nat
  rolledBack : Bool
  tenantId : String
  error : Option String
  deriving DecidableEq

/-- `ids_rule_ack_payload`. -/
def idsRuleAckPayload (result : IdsRuleResult) : RuleAck where
  engine := result.engine
  status := if result.ok && result.changed then "ack" else "nack"
  outcome :=
    if result.ok && result.changed then "applied"
    else if result.rolledBack then "rolled_back"
    else "rejected"
  version := result.version
  ruleCount := result.ruleCount
  rolledBack := result.rolledBack
  tenantId := result.tenantId
  error := result.error

/-- What the functions read of the configuration. -/
structure IdsRuleConfig where
  enabled : Bool := true
  reloadCmd : String := ""
  healthcheckCmd : String := ""
  cmdTimeout : Nat := 30
  signingSecret : String := ""
  feedTenantId : String := ""
  mqttTenantId : String := ""
  requireTenant : Bool := false

/-- The parts of the standard library the functions rest on. -/
structure RuleEnv where
  tables : UnicodeTables
  hash : HashLib
  /-- `body.decode("utf-8", errors="replace")`. -/
  decodeReplace : Bytes → String

/-- The arguments of `apply_artifact`. -/
structure Artifact where
  content : String
  engine : String
  tenantId : String
  version : String := ""
  etag : String := ""
  statusCode : Int := 200

/-- An artifact with its engine normalised and its version and etag filled in. -/
structure Bundle where
  content : String
  engine : String
  tenantId : String
  version : String
  etag : String
  statusCode : Int

/-- The first lines of `apply_artifact`. -/
def Artifact.resolve (hash : HashLib) (a : Artifact) : Bundle :=
  let etag := if a.etag = "" then sha256Hex hash (encodeUtf8 a.content) else a.etag
  { content := a.content
    engine := lower (strip a.engine)
    tenantId := a.tenantId
    version := if a.version = "" then takeChars etag 12 else a.version
    etag
    statusCode := a.statusCode }

/-- A result for the bundle. -/
def Bundle.result (b : Bundle) (ok changed : Bool) (error : Option String) : IdsRuleResult where
  ok
  changed
  engine := b.engine
  statusCode := b.statusCode
  tenantId := b.tenantId
  version := b.version
  error

/-- The bundle as it is written: with a newline at its end. -/
def newlineTerminated (content : String) : String :=
  if content.toList.getLast? = some '\n' then content else content ++ "\n"

/-- Where `splitlines` ends a line. A CR LF counts as two ends, with an empty line between. -/
def isLineBreak (c : Char) : Bool :=
  (10 ≤ c.toNat && c.toNat ≤ 13) || (28 ≤ c.toNat && c.toNat ≤ 30) || c.toNat = 0x85
    || c.toNat = 0x2028 || c.toNat = 0x2029

/-- `_count_rules`: lines that are neither blank nor comments. -/
def countRules (content : String) : Nat :=
  (content.toList.splitOnP isLineBreak).countP fun line =>
    let s := strip (String.ofList line)
    s ≠ "" && s.toList.head? ≠ some '#'

/-- How a command ends. -/
inductive CmdOutcome where
  | exited (returncode : Int) (stdout stderr : String)
  | timedOut
  | osError (msg : String)

/-- The answer to a feed request, where there is one. -/
structure FeedResponse where
  statusCode : Int
  /-- `response.headers.get(name)`. -/
  header : String → Option String
  content : Bytes
  text : String

/-! ## The steps -/

inductive RuleOp where
  | file (what : FileOp RulePath RuleFile)
  | runCmd (cmd engine : String)
  | ack (payload : RuleAck)
  /-- Tenant, engine, and the etag of the `If-None-Match` header. -/
  | get (tenantId engine : String) (ifNoneMatch : Option String)

@[reducible] def RuleOp.Answer : RuleOp → Type
  | .file what => what.Answer
  | .runCmd .. => CmdOutcome
  | .ack _ => Unit
  | .get .. => FeedResponse

/-- The step may change a file. -/
def RuleOp.Writes : RuleOp → Prop
  | .file what => what.changes = true
  | .runCmd .. => False
  | .ack _ => False
  | .get .. => False

/-- What the environment decides at one step. -/
structure RuleChoice where
  cmd : CmdOutcome := .exited 0 "" ""
  ackRaises : Option PyErr := none
  response : Except PyErr FeedResponse := .error (.httpError "")

instance : Inhabited RuleChoice := ⟨{}⟩

/-- The files, and the ACKs the callback has been given. -/
structure RuleWorld where
  files : Files RulePath RuleFile
  acks : List RuleAck := []

abbrev RuleProc (α : Type) := Prog RuleOp RuleOp.Answer PyErr α

def missingFile (path : RulePath) : PyErr := .fileNotFoundError path.name

def ruleMachine : Machine RuleOp RuleOp.Answer PyErr RuleChoice RuleWorld where
  perform
    | .file what, _, w =>
      ((what.step missingFile w.files).1, { w with files := (what.step missingFile w.files).2 })
    | .runCmd .., c, w => (.ok c.cmd, w)
    | .ack payload, c, w =>
      ((match c.ackRaises with | none => .ok () | some e => .error e),
        { w with acks := w.acks ++ [payload] })
    | .get .., c, w => (c.response, w)

/-! ## The programs -/

namespace IdsRule

def fileStep (what : FileOp RulePath RuleFile) : RuleProc what.Answer :=
  perform (RuleOp.file what)

def command (cmd engine : String) : RuleProc CmdOutcome := perform (RuleOp.runCmd cmd engine)

def sendAck (payload : RuleAck) : RuleProc Unit := perform (RuleOp.ack payload)

/-- `_read_status`: its `engines`. -/
def enginesOf : Option RuleFile → Dict String RuleEntry
  | some (.status engines) => engines
  | _ => []

def readStatus : RuleProc (Dict String RuleEntry) := do
  let file ← fileStep (.readIfFile .status)
  return enginesOf file

/-- The engine's entry, as every reader takes it. -/
def entryOf (engines : Dict String RuleEntry) (engine : String) : RuleEntry :=
  (engines.get? engine).getD {}

/-- `_write_status`. -/
def writeStatus (engine : String) (entry : RuleEntry) : RuleProc Unit := do
  let engines ← readStatus
  fileStep (.write .statusTmp (.status (engines.set engine entry)))
  fileStep (.replace .statusTmp .status)

/-- `_emit_ack`, and the result returned. -/
def announce (result : IdsRuleResult) : RuleProc IdsRuleResult := do
  (sendAck (idsRuleAckPayload result)).attempt fun _ => pure ()
  return result

def healthcheckRequiredMsg : String :=
  "IDS_RULE_HEALTHCHECK_CMD is required when ids_rule_enabled "
    ++ "(e.g. suricata -T -S \x7bpath\x7d)"

/-- `_healthcheck_required_error`. -/
def healthcheckRequiredError (cfg : IdsRuleConfig) : Option String :=
  if cfg.enabled && cfg.healthcheckCmd = "" then some healthcheckRequiredMsg else none

/-- What `_run_cmd` makes of a command's end. -/
def cmdResult (timeout : Nat) : CmdOutcome → Bool × String
  | .timedOut => (false, s!"timeout after {timeout}s")
  | .osError msg => (false, msg)
  | .exited returncode stdout stderr =>
    if returncode ≠ 0 then
      let detail := takeChars (strip (if stderr = "" then stdout else stderr)) 300
      (false, if detail = "" then s!"exit {returncode}" else detail)
    else (true, "")

/-- `_run_cmd`. -/
def runCmd (cfg : IdsRuleConfig) (cmd engine : String) (required : Bool) :
    RuleProc (Bool × String) :=
  if cmd = "" then
    return if required then (false, healthcheckRequiredMsg) else (true, "")
  else do
    let outcome ← command cmd engine
    return cmdResult cfg.cmdTimeout outcome

/-- The bundle is older than the active version: the entry keeps that. -/
def rejectStale (b : Bundle) (current : RuleEntry) : RuleProc IdsRuleResult := do
  let activeVersion := current.version
  let bundleVersion := b.version
  let msg := takeChars s!"stale version rejected: {bundleVersion} < active {activeVersion}" 300
  writeStatus b.engine
    { engine := b.engine, tenantId := b.tenantId, version := current.version
      etag := current.etag, ruleCount := current.ruleCount, ok := current.ok
      error := some msg, rejectedVersion := some b.version }
  announce (b.result false false (some msg))

/-- Reload and health check went well. -/
def commit (b : Bundle) : RuleProc IdsRuleResult := do
  writeStatus b.engine
    { engine := b.engine, tenantId := b.tenantId, version := b.version
      etag := b.etag, ruleCount := countRules b.content, ok := true }
  announce { b.result true true none with ruleCount := countRules b.content }

/-- `had_previous and backup.is_file()`. -/
def hasBackup (b : Bundle) (hadPrevious : Bool) : RuleProc Bool :=
  if hadPrevious then fileStep (.isFile (.backup b.engine)) else pure false

/-- Put the backup back, if there is one; else remove the rule file. -/
def putBack (cfg : IdsRuleConfig) (b : Bundle) (backedUp : Bool) : RuleProc Bool :=
  if backedUp then do
    fileStep (.copy (.backup b.engine) (.target b.engine))
    let _ ← runCmd cfg cfg.reloadCmd b.engine false
    return true
  else do
    (fileStep (.unlink (.target b.engine))).attempt fun _ => pure ()
    return false

/-- Reload or health check failed. -/
def rollBack (cfg : IdsRuleConfig) (b : Bundle) (current : RuleEntry) (hadPrevious : Bool)
    (phase failure : String) : RuleProc IdsRuleResult := do
  let backedUp ← hasBackup b hadPrevious
  let rolledBack ← putBack cfg b backedUp
  let error := takeChars s!"{phase} failed: {failure}" 300
  writeStatus b.engine
    { engine := b.engine, tenantId := b.tenantId, version := current.version
      etag := current.etag, ruleCount := current.ruleCount, rolledBack
      error := some error, rejectedVersion := some b.version }
  announce { b.result false false (some error) with rolledBack }

/-- The reload and the health check of the new rules, and what follows from them. -/
def checkRules (cfg : IdsRuleConfig) (b : Bundle) (current : RuleEntry) (hadPrevious : Bool) :
    RuleProc IdsRuleResult := do
  let reload ← runCmd cfg cfg.reloadCmd b.engine false
  if reload.1 then
    let health ← runCmd cfg cfg.healthcheckCmd b.engine true
    if health.1 then commit b
    else rollBack cfg b current hadPrevious "healthcheck" health.2
  else rollBack cfg b current hadPrevious "reload" reload.2

/-- Copy the rule file to the backup, if there is one. -/
def backUp (b : Bundle) : RuleProc Bool := do
  let hadPrevious ← fileStep (.isFile (.target b.engine))
  if hadPrevious then
    fileStep (.copy (.target b.engine) (.backup b.engine))
    return true
  else return false

/-- Back up the rule file and put the new one in its place. -/
def replaceRules (cfg : IdsRuleConfig) (b : Bundle) (current : RuleEntry) :
    RuleProc IdsRuleResult := do
  let hadPrevious ← backUp b
  fileStep (.write (.tmp b.engine) (.text (newlineTerminated b.content)))
  fileStep (.replace (.tmp b.engine) (.target b.engine))
  checkRules cfg b current hadPrevious

/-- The bundle is the active one, and in good order. -/
def isRepeat (b : Bundle) (current : RuleEntry) : Bool :=
  current.etag = b.etag && current.version = b.version && current.ok

/-- `active_version and key(version) < key(active_version)`. -/
def isStale (tables : UnicodeTables) (b : Bundle) (current : RuleEntry) : Except PyErr Bool :=
  if current.version = "" then .ok false else versionLt tables b.version current.version

/-- `apply_artifact` once it has read the engine's entry. -/
def applyBundle (tables : UnicodeTables) (cfg : IdsRuleConfig) (b : Bundle)
    (current : RuleEntry) : RuleProc IdsRuleResult :=
  if isRepeat b current then
    return { b.result true false none with ruleCount := current.ruleCount }
  else
    match healthcheckRequiredError cfg with
    | some err => announce (b.result false false (some err))
    | none =>
      match isStale tables b current with
      | .error e => .raise e
      | .ok true => rejectStale b current
      | .ok false => replaceRules cfg b current

/-- `apply_artifact`. -/
def applyArtifact (env : RuleEnv) (cfg : IdsRuleConfig) (a : Artifact) :
    RuleProc IdsRuleResult := do
  let engines ← readStatus
  let b := a.resolve env.hash
  applyBundle env.tables cfg b (entryOf engines b.engine)

end IdsRule

end EdgeSensor.Agent
