import EdgeSensor.Agent.IdsRuleSync
import EdgeSensor.Lib.Interleave

/-!
# What applying a bundle does

Alone, `apply_artifact` looks at the status, and then either writes nothing, or changes
its engine's rule file and entry and ends with the entry in place and its ACK still to
send (`window_applyBundle`). `Outcome` is the change: the new rules with their entry, or
the rules as they were with the version, etag and rule count of the old entry.

On the way the program always owes a write, so the same theorem serves for calls one
after the other and for two at once.
-/

namespace EdgeSensor.Agent

open EdgeSensor.Lib EdgeSensor.Lib.Prog EdgeSensor.Py

/-- One file written, or removed. -/
def RuleWorld.put (w : RuleWorld) (path : RulePath) (content : Option RuleFile) : RuleWorld :=
  { w with files := Function.update w.files path content }

theorem RuleWorld.put_self (w : RuleWorld) (path : RulePath) (content : Option RuleFile) :
    (w.put path content).files path = content := Function.update_self ..

theorem RuleWorld.put_other (w : RuleWorld) {path other : RulePath} (content : Option RuleFile)
    (h : other ≠ path) : (w.put path content).files other = w.files other :=
  Function.update_of_ne h _ _

namespace IdsRule

/-- The engine's entry in the status file. -/
def entryAt (fs : Files RulePath RuleFile) (engine : String) : RuleEntry :=
  entryOf (enginesOf (fs .status)) engine

abbrev Owing {α : Type} (p : RuleProc α) : Prop := Owes ruleMachine RuleOp.Writes p

abbrev InWindow (F : RuleProc IdsRuleResult → RuleWorld → Prop) (K : RuleWorld → Prop)
    (p : RuleProc IdsRuleResult) (w : RuleWorld) : Prop :=
  Window ruleMachine RuleOp.Writes F K p w

/-! ## Steps in a window -/

section Steps

variable {F : RuleProc IdsRuleResult → RuleWorld → Prop} {K : RuleWorld → Prop} {w : RuleWorld}

theorem window_isFile {path : RulePath} {f : Bool → RuleProc IdsRuleResult}
    (howes : ∀ found, Owing (f found)) (hK : K w)
    (h : InWindow F K (f (w.files path).isSome) w) :
    InWindow F K (fileStep (.isFile path) >>= f) w := by
  refine window_bind ⟨Bool.false_ne_true, fun _ _ => howes _⟩ ?_
  exact ⟨hK, fun _ => ⟨hK, h⟩⟩

theorem window_readStatus {f : Dict String RuleEntry → RuleProc IdsRuleResult}
    (howes : ∀ engines, Owing (f engines)) (hK : K w)
    (h : InWindow F K (f (enginesOf (w.files .status))) w) :
    InWindow F K (readStatus >>= f) w := by
  refine window_bind ⟨Bool.false_ne_true, fun _ _ => howes _⟩ ?_
  exact ⟨hK, fun _ => ⟨hK, h⟩⟩

/-- A command, not configured or run, with any outcome. -/
theorem window_runCmd {cfg : IdsRuleConfig} {cmd engine : String} {required : Bool}
    {f : Bool × String → RuleProc IdsRuleResult} (howes : ∀ r, Owing (f r)) (hK : K w)
    (h : ∀ r, InWindow F K (f r) w) :
    InWindow F K (runCmd cfg cmd engine required >>= f) w := by
  unfold runCmd
  split
  next => exact h _
  next =>
    refine window_bind ⟨id, fun _ _ => howes _⟩ ?_
    exact ⟨hK, fun _ => ⟨hK, h _⟩⟩

theorem window_write {path : RulePath} {content : RuleFile}
    {f : Unit → RuleProc IdsRuleResult} (hK : K w)
    (h : InWindow F K (f ()) (w.put path (some content))) :
    InWindow F K (fileStep (.write path content) >>= f) w :=
  Prog.window_write (m := ruleMachine) (i := RuleOp.file _) rfl hK fun _ => ⟨(), rfl, h⟩

theorem window_copy {src dst : RulePath} {content : RuleFile}
    {f : Unit → RuleProc IdsRuleResult} (hsrc : w.files src = some content) (hK : K w)
    (h : InWindow F K (f ()) (w.put dst (some content))) :
    InWindow F K (fileStep (.copy src dst) >>= f) w := by
  refine Prog.window_write (m := ruleMachine) (i := RuleOp.file _) rfl hK fun c => ⟨(), ?_, ?_⟩
  · exact congrArg Prod.fst (FileOp.step_copy hsrc)
  · have hfiles : ((FileOp.copy src dst).step missingFile w.files).2 = _ :=
      congrArg Prod.snd (FileOp.step_copy hsrc)
    show InWindow F K (f ()) { w with files := ((FileOp.copy src dst).step missingFile w.files).2 }
    rw [hfiles]
    exact h

theorem window_replace {src dst : RulePath} {content : RuleFile}
    {f : Unit → RuleProc IdsRuleResult} (hsrc : w.files src = some content) (hK : K w)
    (h : InWindow F K (f ()) ((w.put src none).put dst (some content))) :
    InWindow F K (fileStep (.replace src dst) >>= f) w := by
  refine Prog.window_write (m := ruleMachine) (i := RuleOp.file _) rfl hK fun c => ⟨(), ?_, ?_⟩
  · exact congrArg Prod.fst (FileOp.step_replace hsrc)
  · have hfiles : ((FileOp.replace src dst).step missingFile w.files).2 = _ :=
      congrArg Prod.snd (FileOp.step_replace hsrc)
    show InWindow F K (f ())
      { w with files := ((FileOp.replace src dst).step missingFile w.files).2 }
    rw [hfiles]
    exact h

/-- An `unlink` that may find nothing. -/
theorem window_unlink {path : RulePath} {f : Unit → RuleProc IdsRuleResult} (hK : K w)
    (h : InWindow F K (f ()) (w.put path none)) :
    InWindow F K ((fileStep (.unlink path)).attempt (fun _ => pure ()) >>= f) w := by
  unfold RuleWorld.put at h
  rw [← @FileOp.step_unlink_files _ _ _ _ missingFile] at h
  refine window_write_attempt (m := ruleMachine) (i := RuleOp.file _) rfl hK fun c => ?_
  split
  next => exact h
  next => exact h

end Steps

/-! ## A write is ahead -/

section Ahead

variable {cfg : IdsRuleConfig} {b : Bundle} {current : RuleEntry} {hadPrevious : Bool}

theorem owing_writeStatus {engine : String} {entry : RuleEntry}
    {f : Unit → RuleProc IdsRuleResult} : Owing (writeStatus engine entry >>= f) := by
  unfold writeStatus
  rw [bind_assoc]
  exact owes_bind ⟨Bool.false_ne_true, fun _ _ => .inl rfl⟩

theorem owing_commit : Owing (commit b) := owing_writeStatus

theorem owing_rejectStale : Owing (rejectStale b current) := owing_writeStatus

theorem owing_putBack {backedUp : Bool} {f : Bool → RuleProc IdsRuleResult} :
    Owing (putBack cfg b backedUp >>= f) := by
  cases backedUp with
  | true => exact .inl rfl
  | false => exact .inl rfl

theorem owing_rollBack {phase failure : String} :
    Owing (rollBack cfg b current hadPrevious phase failure) := by
  unfold rollBack hasBackup
  cases hadPrevious with
  | true => exact owes_bind ⟨Bool.false_ne_true, fun _ _ => owing_putBack⟩
  | false => exact owing_putBack

/-- A command writes no file, so what follows it decides. -/
theorem owing_runCmd {cmd engine : String} {required : Bool}
    {f : Bool × String → RuleProc IdsRuleResult} (h : ∀ r, Owing (f r)) :
    Owing (runCmd cfg cmd engine required >>= f) := by
  unfold runCmd
  split
  next => exact h _
  next => exact owes_bind ⟨id, fun _ _ => h _⟩

/-- What follows the health check. -/
theorem owing_verdict {healthOk : Bool} {phase failure : String} :
    Owing (if healthOk then commit b else rollBack cfg b current hadPrevious phase failure) := by
  split
  next => exact owing_commit
  next => exact owing_rollBack

theorem owing_replaceRules : Owing (replaceRules cfg b current) := by
  unfold replaceRules backUp
  rw [bind_assoc]
  refine owes_bind ⟨Bool.false_ne_true, fun _ _ => ?_⟩
  show Owing ((if _ then _ else _) >>= _)
  split
  next => exact .inl rfl
  next => exact .inl rfl

end Ahead

/-! ## The outcome -/

/-- The bundle is the engine's rule file, and its entry says so. -/
structure InPlace (b : Bundle) (fs : Files RulePath RuleFile) : Prop where
  rules : fs (.target b.engine) = some (.text (newlineTerminated b.content))
  version : (entryAt fs b.engine).version = b.version
  etag : (entryAt fs b.engine).etag = b.etag
  ruleCount : (entryAt fs b.engine).ruleCount = countRules b.content

/-- The engine's rules are what they were, and so is what its entry says of them. -/
structure Kept (engine : String) (fs fs' : Files RulePath RuleFile) : Prop where
  rules : fs' (.target engine) = fs (.target engine)
  version : (entryAt fs' engine).version = (entryAt fs engine).version
  etag : (entryAt fs' engine).etag = (entryAt fs engine).etag
  ruleCount : (entryAt fs' engine).ruleCount = (entryAt fs engine).ruleCount

/-- The call returned ok with `changed=True`. -/
def applied (r : IdsRuleResult) : Bool := r.ok && r.changed

/-- What a call that returns has done. -/
def Outcome (tables : UnicodeTables) (b : Bundle) (fs : Files RulePath RuleFile)
    (r : IdsRuleResult) (fs' : Files RulePath RuleFile) : Prop :=
  r.version = b.version ∧
    (applied r = true ∧ isStale tables b (entryAt fs b.engine) = .ok false ∧ InPlace b fs'
      ∨ applied r = false ∧ Kept b.engine fs fs')

theorem Kept.refl (engine : String) (fs : Files RulePath RuleFile) : Kept engine fs fs :=
  ⟨rfl, rfl, rfl, rfl⟩

/-- The files are as the call leaves them; at most its ACK is ahead. -/
def Landed (tables : UnicodeTables) (b : Bundle) (fs : Files RulePath RuleFile)
    (p : RuleProc IdsRuleResult) (w : RuleWorld) : Prop :=
  ∃ r, Outcome tables b fs r w.files ∧ (p = announce r ∨ p = .ret r ∧ applied r = false)

/-- What holds from the first step to the last: the version in the engine's entry is one
of `V`, and no ACK has been sent. -/
structure Known (V : String → Prop) (acks : List RuleAck) (engine : String) (w : RuleWorld) :
    Prop where
  version : V (entryAt w.files engine).version
  acks : w.acks = acks

theorem entryAt_put {w : RuleWorld} {path : RulePath} {content : Option RuleFile}
    (h : .status ≠ path) (engine : String) :
    entryAt (w.put path content).files engine = entryAt w.files engine := by
  unfold entryAt
  rw [w.put_other content h]

/-- Only the status file says what the version is. -/
theorem Known.put {V : String → Prop} {acks : List RuleAck} {engine : String} {w : RuleWorld}
    (h : Known V acks engine w) {path : RulePath} (hpath : .status ≠ path)
    (content : Option RuleFile) : Known V acks engine (w.put path content) := by
  refine ⟨?_, h.acks⟩
  rw [entryAt_put hpath]
  exact h.version

theorem entryOf_set (engines : Dict String RuleEntry) (engine : String) (entry : RuleEntry) :
    entryOf (engines.set engine entry) engine = entry := by
  unfold entryOf
  rw [Dict.get?_set_self, Option.getD_some]

section Windows

variable {tables : UnicodeTables} {cfg : IdsRuleConfig} {b : Bundle} {V : String → Prop}
  {acks : List RuleAck} {fs : Files RulePath RuleFile} {w : RuleWorld} {hadPrevious : Bool}

/-- The end of a call that writes: the entry goes in, then only the ACK is ahead. -/
theorem window_finish {entry : RuleEntry} {r : IdsRuleResult} (hK : Known V acks b.engine w)
    (hV : V entry.version)
    (hout : ∀ fs', fs' (.target b.engine) = w.files (.target b.engine) →
      entryAt fs' b.engine = entry → Outcome tables b fs r fs') :
    InWindow (Landed tables b fs) (Known V acks b.engine)
      (writeStatus b.engine entry >>= fun _ => announce r) w := by
  unfold writeStatus
  rw [bind_assoc]
  refine window_readStatus (fun _ => .inl rfl) hK ?_
  show InWindow _ _ ((fileStep (.write .statusTmp _) >>= fun _ => fileStep _) >>= _) w
  rw [bind_assoc]
  refine window_write hK ?_
  refine window_replace (RuleWorld.put_self ..) (hK.put (by simp) _) ?_
  have hentry : ∀ w' : RuleWorld, entryAt (w'.put .status
      (some (.status (Dict.set (enginesOf (w.files .status)) b.engine entry)))).files b.engine
        = entry := by
    intro w'
    unfold entryAt
    rw [RuleWorld.put_self, enginesOf, entryOf_set]
  refine window_done ?_ ⟨r, hout _ ?_ (hentry _), .inl rfl⟩
  · refine ⟨?_, hK.acks⟩
    rw [hentry]
    exact hV
  · rw [RuleWorld.put_other _ _ (by simp), RuleWorld.put_other _ _ (by simp),
      RuleWorld.put_other _ _ (by simp)]

theorem window_commit (hK : Known V acks b.engine w) (hV : V b.version)
    (hstale : isStale tables b (entryAt fs b.engine) = .ok false)
    (hrules : w.files (.target b.engine) = some (.text (newlineTerminated b.content))) :
    InWindow (Landed tables b fs) (Known V acks b.engine) (commit b) w := by
  refine window_finish hK hV fun fs' htarget hentry => ?_
  refine ⟨rfl, .inl ⟨rfl, hstale, ?_, ?_, ?_, ?_⟩⟩
  · rw [htarget]
    exact hrules
  · rw [hentry]
  · rw [hentry]
  · rw [hentry]

/-- A call that leaves the rules as they were. -/
theorem window_keep {entry : RuleEntry} {r : IdsRuleResult} (hK : Known V acks b.engine w)
    (hV : V (entryAt fs b.engine).version)
    (hrules : w.files (.target b.engine) = fs (.target b.engine))
    (hentry : entry.version = (entryAt fs b.engine).version
      ∧ entry.etag = (entryAt fs b.engine).etag
      ∧ entry.ruleCount = (entryAt fs b.engine).ruleCount)
    (hr : r.version = b.version ∧ applied r = false) :
    InWindow (Landed tables b fs) (Known V acks b.engine)
      (writeStatus b.engine entry >>= fun _ => announce r) w := by
  have hV' : V entry.version := by
    rw [hentry.1]
    exact hV
  refine window_finish hK hV' fun fs' htarget hat => ⟨hr.1, .inr ⟨hr.2, ?_⟩⟩
  refine ⟨htarget.trans hrules, ?_, ?_, ?_⟩
  · rw [hat, hentry.1]
  · rw [hat, hentry.2.1]
  · rw [hat, hentry.2.2]

/-- The rule file there was is in the backup, or there was none. -/
def Backed (b : Bundle) (fs : Files RulePath RuleFile) (hadPrevious : Bool)
    (w : RuleWorld) : Prop :=
  (hadPrevious = true ∧ ∃ old, fs (.target b.engine) = some old
      ∧ w.files (.backup b.engine) = some old)
    ∨ hadPrevious = false ∧ fs (.target b.engine) = none

theorem window_rollBack {phase failure : String} (hK : Known V acks b.engine w)
    (hV : V (entryAt fs b.engine).version) (hbacked : Backed b fs hadPrevious w) :
    InWindow (Landed tables b fs) (Known V acks b.engine)
      (rollBack cfg b (entryAt fs b.engine) hadPrevious phase failure) w := by
  have hkept : ∀ content, Known V acks b.engine (w.put (.target b.engine) content) :=
    hK.put (by simp)
  unfold rollBack hasBackup
  rcases hbacked with ⟨rfl, old, hold, hbackup⟩ | ⟨rfl, hnone⟩
  · refine window_isFile (fun _ => owing_putBack) hK ?_
    rw [hbackup]
    show InWindow _ _ ((fileStep (.copy _ _) >>= _) >>= _) w
    rw [bind_assoc]
    refine window_copy hbackup hK ?_
    rw [bind_assoc]
    refine window_runCmd (fun _ => owing_writeStatus) (hkept _) fun _ => ?_
    refine window_keep (hkept _) hV ?_ ⟨rfl, rfl, rfl⟩ ⟨rfl, rfl⟩
    rw [hold]
    exact w.put_self _ _
  · show InWindow _ _ (((fileStep (.unlink _)).attempt _ >>= _) >>= _) w
    rw [bind_assoc]
    refine window_unlink hK ?_
    refine window_keep (hkept _) hV ?_ ⟨rfl, rfl, rfl⟩ ⟨rfl, rfl⟩
    rw [hnone]
    exact w.put_self _ _

/-- The new rules are in place; the commands decide whether they stay. -/
theorem window_checkRules (hK : Known V acks b.engine w) (hV : V (entryAt fs b.engine).version)
    (hVb : V b.version) (hstale : isStale tables b (entryAt fs b.engine) = .ok false)
    (hrules : w.files (.target b.engine) = some (.text (newlineTerminated b.content)))
    (hbacked : Backed b fs hadPrevious w) :
    InWindow (Landed tables b fs) (Known V acks b.engine)
      (checkRules cfg b (entryAt fs b.engine) hadPrevious) w := by
  unfold checkRules
  refine window_runCmd (fun reload => ?_) hK fun reload => ?_
  · split
    next => exact owing_runCmd fun health => owing_verdict
    next => exact owing_rollBack
  · split
    next =>
      refine window_runCmd (fun health => owing_verdict) hK fun health => ?_
      · split
        next => exact window_commit hK hVb hstale hrules
        next => exact window_rollBack hK hV hbacked
    next => exact window_rollBack hK hV hbacked

theorem window_replaceRules (hK : Known V acks b.engine w) (hVb : V b.version)
    (hstale : isStale tables b (entryAt w.files b.engine) = .ok false) :
    InWindow (Landed tables b w.files) (Known V acks b.engine)
      (replaceRules cfg b (entryAt w.files b.engine)) w := by
  -- what follows the backup, wherever it left the backup file
  have hrest : ∀ {hadPrevious} {w' : RuleWorld}, Known V acks b.engine w' →
      Backed b w.files hadPrevious w' →
      InWindow (Landed tables b w.files) (Known V acks b.engine) (do
        fileStep (.write (.tmp b.engine) (.text (newlineTerminated b.content)))
        fileStep (.replace (.tmp b.engine) (.target b.engine))
        checkRules cfg b (entryAt w.files b.engine) hadPrevious) w' := by
    intro hadPrevious w' hK' hbacked
    have hwritten : ∀ content, Known V acks b.engine (w'.put (.tmp b.engine) content) :=
      hK'.put (by simp)
    refine window_write hK' (window_replace (RuleWorld.put_self ..) (hwritten _) ?_)
    refine window_checkRules (((hwritten _).put (by simp) _).put (by simp) _) hK.version hVb
      hstale (RuleWorld.put_self ..) ?_
    refine hbacked.imp_left fun ⟨hhad, old, hold, hbackup⟩ => ⟨hhad, old, hold, ?_⟩
    rw [RuleWorld.put_other _ _ (by simp), RuleWorld.put_other _ _ (by simp),
      RuleWorld.put_other _ _ (by simp)]
    exact hbackup
  unfold replaceRules backUp
  rw [bind_assoc]
  refine window_isFile (fun hadPrevious => ?_) hK ?_
  · cases hadPrevious with
    | true => exact .inl rfl
    | false => exact .inl rfl
  · cases hold : w.files (.target b.engine) with
    | none => exact hrest hK (.inr ⟨rfl, hold⟩)
    | some old =>
      show InWindow _ _ ((fileStep (.copy _ _) >>= _) >>= _) w
      rw [bind_assoc]
      exact window_copy hold hK
        (hrest (hK.put (by simp) _) (.inl ⟨rfl, old, hold, RuleWorld.put_self ..⟩))

/-- The call gets through its checks: it is a repeat or blocked, or the versions compare. -/
def Decides (tables : UnicodeTables) (cfg : IdsRuleConfig) (b : Bundle) (current : RuleEntry) :
    Prop :=
  isRepeat b current = true ∨ (∃ err, healthcheckRequiredError cfg = some err)
    ∨ ∃ stale, isStale tables b current = .ok stale

/-- A call that does not raises, before it has written anything. -/
theorem applyBundle_raises (tables : UnicodeTables) (cfg : IdsRuleConfig) (b : Bundle)
    (current : RuleEntry) :
    Decides tables cfg b current ∨ ∃ e, applyBundle tables cfg b current = .raise e := by
  unfold Decides applyBundle
  by_cases hrepeat : isRepeat b current = true
  · exact .inl (.inl hrepeat)
  · rw [if_neg hrepeat]
    cases hcheck : healthcheckRequiredError cfg with
    | some err => exact .inl (.inr (.inl ⟨err, rfl⟩))
    | none =>
      cases hstale : isStale tables b current with
      | ok stale => exact .inl (.inr (.inr ⟨stale, rfl⟩))
      | error e => exact .inr ⟨e, rfl⟩

/-- **One call, alone.** Once it has read its entry, it goes through a window to an
outcome. -/
theorem window_applyBundle (hK : Known V acks b.engine w) (hVb : V b.version)
    (hdecides : Decides tables cfg b (entryAt w.files b.engine)) :
    InWindow (Landed tables b w.files) (Known V acks b.engine)
      (applyBundle tables cfg b (entryAt w.files b.engine)) w := by
  have hkept := Kept.refl b.engine w.files
  unfold applyBundle
  split
  next => exact window_done hK ⟨_, ⟨rfl, .inr ⟨rfl, hkept⟩⟩, .inr ⟨rfl, rfl⟩⟩
  next hrepeat =>
    split
    next => exact window_done hK ⟨_, ⟨rfl, .inr ⟨rfl, hkept⟩⟩, .inl rfl⟩
    next hcheck =>
      split
      next e hraise =>
        rcases hdecides with h | ⟨err, h⟩ | ⟨stale, h⟩
        · exact absurd h hrepeat
        · rw [hcheck] at h
          cases h
        · rw [hraise] at h
          cases h
      next => exact window_keep hK hK.version rfl ⟨rfl, rfl, rfl⟩ ⟨rfl, rfl⟩
      next hstale => exact window_replaceRules hK hVb hstale

end Windows

end IdsRule

end EdgeSensor.Agent
