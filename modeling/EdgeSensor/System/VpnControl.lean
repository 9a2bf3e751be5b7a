import EdgeSensor.Vpn.Attempts
import EdgeSensor.Vpn.ProfileStore

/-!
# From a request to the tunnel

The console keeps profiles and credentials and writes `desired.json`; the supervisor reads it
every two seconds and runs OpenVPN; the child exits when it likes. Here are all of them at once,
one request at a time.

`Coherent` is what ties them together: what `desired.json` asks for is there, and a child that
was started for the epoch in it was started with what it says (`Serves`). A profile that is in
use cannot be deleted, and each request that changes what the tunnel is to be brings a new epoch:
that is all it needs. `tunnel_serves_request` is the outcome, after every call of the supervisor.

Mirroring notes:
- Requests do not overlap here; what comes of it when they do is in `CommandRuns`.
- A `Tick` brings the clock, the exceptions and the state of the link. Its `desired` and `dir` are
  taken from the volume.
-/

namespace EdgeSensor.System

open EdgeSensor.Lib EdgeSensor.Py EdgeSensor.Vpn

/-- The volume, and the supervisor with its children. -/
structure VpnPlant where
  vol : VpnVolume := {}
  station : Station := {}

inductive VpnControlStep where
  | save (name : String) (content : Bytes)
  | delete (name : String)
  | request (r : Request)
  | reconcile (t : Tick)
  | exit (pid : Nat)

namespace VpnPlant

variable (repr : Json → String) (console : VpnAdmin)

/-- What a call of the supervisor finds. -/
def tick (w : VpnPlant) (t : Tick) (desired : Obj) : Tick :=
  { t with desired := desired, dir := console.dir w.vol }

def step (w : VpnPlant) : VpnControlStep → VpnPlant
  | .save name content => { w with vol := (console.saveProfile w.vol name content).2 }
  | .delete name => { w with vol := (console.deleteProfile w.vol name).2 }
  | .request r => { w with vol := console.request w.vol r }
  | .reconcile t =>
    match w.vol.files.readDesired with
    | none => w
    | some desired => { w with station := w.station.reconcileOnce repr (w.tick console t desired) }
  | .exit pid => { w with station := VpnStep.next repr w.station (.exit pid) }

end VpnPlant

/-! ## What a child was started with -/

/-- The command line, by what it depends on. -/
def argvOf (autoReconnect redirect auth : Bool) (profile path : String) : List String :=
  Tick.buildArgv
    { desired := [("auto_reconnect", .bool autoReconnect), ("redirect_gateway", .bool redirect),
        ("auth", .bool auth)]
      dir := { hasAuth := fun _ => true }, now := 0, nowIso := "" } profile path

theorem buildArgv_eq (t : Tick) (profile path : String) :
    t.buildArgv profile path = argvOf t.autoReconnect (t.desired.get "redirect_gateway").truthy
      ((t.desired.get "auth").truthy && t.dir.hasAuth profile) profile path := by
  unfold argvOf Tick.buildArgv
  generalize t.autoReconnect = on, (t.desired.get "redirect_gateway").truthy = redirect,
    (t.desired.get "auth").truthy = auth, t.dir.hasAuth profile = stored
  have hon : ∀ dir now nowIso, Tick.autoReconnect
      ⟨[("auto_reconnect", .bool on), ("redirect_gateway", .bool redirect),
        ("auth", .bool (auth && stored))], dir, now, nowIso, none, 0, none, none, none⟩ = on :=
    fun _ _ _ => rfl
  simp only [hon]
  congr 1
  cases auth with
  | false => rfl
  | true =>
    cases stored with
    | false => rfl
    | true => rfl

/-- A child runs the profile of a `desired.json`, over a split tunnel or not, with the credentials
or not, as it says. -/
def Serves (repr : Json → String) (desired : Obj) (child : Child) : Prop :=
  ∃ autoReconnect, child.argv = argvOf autoReconnect (desired.get "redirect_gateway").truthy
    (desired.get "auth").truthy ((desired.get "profile").toStrOr repr "")
    (profilesDir ++ "/" ++ (desired.get "profile").toStrOr repr "" ++ ".ovpn")

section Reconcile

variable {repr : Json → String} {t : Tick} {v : Station}

theorem startIfDue_children (path : String) {child : Child}
    (hchild : child ∈ (v.startIfDue repr t path).children) :
    child ∈ v.children ∨ child.argv = t.buildArgv (t.wantProfile repr) path := by
  unfold Station.startIfDue at hchild
  split at hchild
  next => exact .inl hchild
  next =>
    split at hchild
    next =>
      unfold Station.start at hchild
      split at hchild
      next => exact .inl hchild
      next =>
        rcases List.mem_append.mp hchild with hold | hnew
        · exact .inl hold
        · rw [List.mem_singleton.mp hnew]
          exact .inr rfl
    next => exact .inl hchild

/-- A child that runs after a call ran before, for the same epoch, or was started in it. -/
theorem reconcileOnce_children (h : Supervised v) {child : Child}
    (hchild : child ∈ (v.reconcileOnce repr t).children) :
    (child ∈ v.children ∧ v.sup.activeEpoch = t.epoch)
      ∨ ∃ path, t.targetPath repr = some path ∧
          child.argv = t.buildArgv (t.wantProfile repr) path := by
  obtain ⟨hproc, hwant, ⟨path, hpath⟩, -, -⟩ :=
    (@reconcileOnce_spec repr t v h).2.up child hchild
  have htarget : t.targetPath repr = some path := by
    unfold Tick.targetPath
    refine (if_neg fun hempty => ?_).trans hpath
    rw [hempty] at hpath
    cases hpath
  have hclear := h.clearLatch t
  obtain ⟨hkept, hfor⟩ := @Supervised.stopIfChanged repr t _ hclear
  unfold Station.reconcileOnce at hchild
  rw [htarget] at hchild
  simp only at hchild
  split at hchild
  next hrun =>
    rw [(writeStatus_frame _ t).1] at hchild
    have hepoch := (hfor (List.ne_nil_of_mem hchild)).2
    rcases stopIfChanged_cases (v.clearLatch t) repr t with ⟨-, -, hstop⟩ | ⟨-, hsame⟩
    · rw [hstop] at hchild
      have hnil := hclear.stopProc_children
      exact absurd hchild (hnil ▸ List.not_mem_nil)
    · rw [hsame, clearLatch_eq] at hchild hepoch
      exact .inl ⟨hchild, hepoch⟩
  next hidle =>
    rw [(writeStatus_frame _ t).1] at hchild
    rcases startIfDue_children path hchild with hold | hnew
    · rw [noteExit_children] at hold
      exact absurd (hkept.running_iff.mpr (List.ne_nil_of_mem hold)) hidle
    · exact .inr ⟨path, htarget, hnew⟩

end Reconcile

/-! ## The invariant -/

namespace VpnPlant

variable {repr : Json → String} {console : VpnAdmin} {w : VpnPlant} {desired : Obj}

/-- What `desired.json` asks for is on the volume. -/
structure Asked (console : VpnAdmin) (vol : VpnVolume) (desired : Obj) : Prop where
  epoch : desired.get "epoch" = .null ∨ ∃ n, desired.get "epoch" = .int n
  connect : (desired.get "connect").truthy = true → ∃ name n, desired.get "profile" = .str name
    ∧ desired.get "epoch" = .int n ∧ (console.console vol).hasPath name = true
    ∧ (vol.profiles name).isSome = true
    ∧ ((desired.get "auth").truthy = true → (vol.files.auth name).isSome = true)

/-- What every step preserves. -/
structure CoherentWith (repr : Json → String) (console : VpnAdmin) (w : VpnPlant) (desired : Obj) :
    Prop where
  read : w.vol.files.readDesired = some desired
  asked : Asked console w.vol desired
  stored : ∀ name, (w.vol.files.auth name).isSome = true → (w.vol.profiles name).isSome = true
  supervised : Supervised w.station
  /-- A child is of no later epoch, and one of this epoch is as `desired.json` says. -/
  child : w.station.children ≠ [] → ∃ e n, w.station.sup.activeEpoch = some e
    ∧ desired.get "epoch" = .int n ∧ e ≤ n
    ∧ (e = n → ∀ child ∈ w.station.children, Serves repr desired child)

def Coherent (repr : Json → String) (console : VpnAdmin) (w : VpnPlant) : Prop :=
  ∃ desired, w.CoherentWith repr console desired

theorem Coherent.start : Coherent repr console {} :=
  ⟨[], rfl, ⟨.inl rfl, fun h => (by cases h)⟩, fun _ h => h, supervised_of_nil rfl,
    fun hne => absurd rfl hne⟩

/-- The volume may change in any way that keeps what is asked for, and no credentials alone. -/
theorem CoherentWith.withVolume (h : w.CoherentWith repr console desired) {vol : VpnVolume}
    (hread : vol.files.readDesired = w.vol.files.readDesired)
    (hstored : ∀ name, (vol.files.auth name).isSome = true → (vol.profiles name).isSome = true)
    (hkept : ∀ name, desired.get "profile" = .str name → (desired.get "connect").truthy = true →
      (w.vol.profiles name).isSome = true → (vol.profiles name).isSome = true
        ∧ ((w.vol.files.auth name).isSome = true → (vol.files.auth name).isSome = true)) :
    CoherentWith repr console { w with vol := vol } desired := by
  refine ⟨hread.trans h.read, ⟨h.asked.epoch, fun hconnect => ?_⟩, hstored, h.supervised, h.child⟩
  obtain ⟨name, n, hprofile, hepoch, hpath, hfile, hauth⟩ := h.asked.connect hconnect
  obtain ⟨hfile', hauth'⟩ := hkept name hprofile hconnect hfile
  exact ⟨name, n, hprofile, hepoch, hpath, hfile', fun hasked => hauth' (hauth hasked)⟩

theorem CoherentWith.save (h : w.CoherentWith repr console desired) (name : String)
    (content : Bytes) :
    CoherentWith repr console { w with vol := (console.saveProfile w.vol name content).2 }
      desired := by
  have hgrows : ∀ text : PyStr, ∀ other, (w.vol.profiles other).isSome = true →
      (Function.update w.vol.profiles name (some text) other).isSome = true := by
    intro text other hother
    by_cases heq : other = name
    · rw [heq, Function.update_self]
      rfl
    · rw [Function.update_of_ne heq]
      exact hother
  rcases saveProfile_cases console w.vol name content with hsame | ⟨text, hsaved⟩
  · rw [hsame]
    exact h
  · rw [hsaved]
    exact h.withVolume rfl (fun other hauth => hgrows text other (h.stored other hauth))
      fun other _ _ hfile => ⟨hgrows text other hfile, id⟩

theorem inUse_of_asked {name : String} (hconnect : (desired.get "connect").truthy = true)
    (hprofile : desired.get "profile" = .str name) : inUse desired name = true := by
  unfold inUse
  rw [hconnect, hprofile]
  exact decide_eq_true rfl

theorem CoherentWith.delete (h : w.CoherentWith repr console desired) (name : String) :
    CoherentWith repr console { w with vol := (console.deleteProfile w.vol name).2 } desired := by
  rcases deleteProfile_cases console w.vol name with hsame | ⟨asked, hread, hfree, hdeleted⟩
  · rw [hsame]
    exact h
  · rw [hdeleted]
    refine h.withVolume rfl (fun other hauth => ?_) fun other hprofile hconnect hfile => ?_
    · by_cases heq : other = name
      · simp only [heq, Function.update_self] at hauth
        cases hauth
      · simp only [Function.update_of_ne heq] at hauth ⊢
        exact h.stored other hauth
    · -- the profile that is asked for is another one
      have hne : other ≠ name := by
        intro heq
        cases hread.symm.trans h.read
        rw [inUse_of_asked hconnect (heq ▸ hprofile)] at hfree
        cases hfree
      simp only [Function.update_of_ne hne]
      exact ⟨hfile, id⟩

/-- The epoch of what is asked can be read. -/
theorem Asked.exists_epoch {vol : VpnVolume} (h : Asked console vol desired) :
    ∃ e, console.number.epoch desired = some e ∧ ∀ n, desired.get "epoch" = .int n → n = e := by
  rcases h.epoch with hnull | ⟨n, hn⟩
  · refine ⟨0, ?_, fun n hn => ?_⟩
    · unfold NumberText.epoch
      rw [hnull]
      rfl
    · rw [hnull] at hn
      cases hn
  · refine ⟨n, epoch_of_get hn, fun m hm => ?_⟩
    rw [hn] at hm
    exact (Json.int.inj hm).symm

/-- A request with a new epoch: what there is of children is of an earlier one. -/
theorem CoherentWith.bump (h : w.CoherentWith repr console desired) {e : Int}
    (he : ∀ n, desired.get "epoch" = .int n → n = e) {files : VpnFiles} {next : Obj}
    (hread : files.readDesired = some next) (hepoch : next.get "epoch" = .int (e + 1))
    (hstored : ∀ name, (files.auth name).isSome = true → (w.vol.profiles name).isSome = true)
    (hasked : Asked console { w.vol with files := files } next) :
    CoherentWith repr console { w with vol := { w.vol with files := files } } next := by
  refine ⟨hread, hasked, hstored, h.supervised, fun hne => ?_⟩
  obtain ⟨e', n, hactive, hn, hle, -⟩ := h.child hne
  have hlt : e' < e + 1 := by
    rw [← he n hn]
    omega
  exact ⟨e', e + 1, hactive, hepoch, hlt.le, fun heq => absurd heq hlt.ne⟩

theorem serves_withAutoReconnect {on : Bool} {now : String} {child : Child} :
    Serves repr (withAutoReconnect on now desired) child ↔ Serves repr desired child := by
  unfold Serves
  rw [withAutoReconnect_get (by decide) (by decide), withAutoReconnect_get (by decide) (by decide),
    withAutoReconnect_get (by decide) (by decide)]

theorem CoherentWith.setAutoReconnect (h : w.CoherentWith repr console desired) (on : Bool)
    (now : String) {files : VpnFiles} (hauth : files.auth = w.vol.files.auth)
    (hread : files.readDesired = some (withAutoReconnect on now desired)) :
    CoherentWith repr console { w with vol := { w.vol with files := files } }
      (withAutoReconnect on now desired) := by
  have hget : ∀ key, "auto_reconnect" ≠ key → "updated_at" ≠ key →
      (withAutoReconnect on now desired).get key = desired.get key :=
    fun key hauto hat => withAutoReconnect_get hauto hat
  refine ⟨hread, ⟨?_, ?_⟩, ?_, h.supervised, fun hne => ?_⟩
  · rw [hget "epoch" (by decide) (by decide)]
    exact h.asked.epoch
  · rw [hget "connect" (by decide) (by decide), hget "profile" (by decide) (by decide),
      hget "epoch" (by decide) (by decide), hget "auth" (by decide) (by decide)]
    simp only [hauth]
    exact h.asked.connect
  · simp only [hauth]
    exact h.stored
  · obtain ⟨e, n, hactive, hn, hle, hserves⟩ := h.child hne
    refine ⟨e, n, hactive, ?_, hle, fun heq child hchild => ?_⟩
    · rw [hget "epoch" (by decide) (by decide)]
      exact hn
    · exact serves_withAutoReconnect.mpr (hserves heq child hchild)

/-- What `connect` goes by is a profile that is there. -/
theorem check_connect {vol : VpnVolume} {profile : String} {redirect auto : Bool}
    {username password : Option String}
    (h : (console.console vol).check (.connect profile redirect auto username password) = none) :
    (console.console vol).hasPath profile = true ∧ (vol.profiles profile).isSome = true := by
  unfold VpnConsole.check at h
  split at h
  next => cases h
  next =>
    simp only at h
    split at h
    next => cases h
    next hpath =>
      split at h
      next => cases h
      next hfile =>
        refine ⟨?_, ?_⟩
        · simpa using hpath
        · have hisFile : (console.console vol).profiles.isFile profile = true := by
            simpa using hfile
          exact hisFile

/-- The credentials after a look: those of the profile are there if they are to be used, and there
are no others than before. -/
theorem lookUp_connect (auth : String → Option String) (profile : String) (redirect auto : Bool)
    (username password : Option String) :
    let looked := (Command.connect profile redirect auto username password).lookUp auth
    (looked.1 = true → (looked.2 profile).isSome = true)
      ∧ ∀ name, (looked.2 name).isSome = true → (auth name).isSome = true ∨ name = profile := by
  unfold Command.lookUp
  simp only
  split
  next =>
    refine ⟨fun _ => ?_, fun name hname => ?_⟩
    · simp only [Function.update_self]
      rfl
    · by_cases heq : name = profile
      · exact .inr heq
      · simp only [Function.update_of_ne heq] at hname
        exact .inl hname
  next => exact ⟨id, fun name hname => .inl hname⟩

theorem Coherent.request (h : w.Coherent repr console) (r : Request) :
    Coherent repr console { w with vol := console.request w.vol r } := by
  obtain ⟨desired, h⟩ := h
  obtain ⟨e, hepoch, he⟩ := h.asked.exists_epoch
  have hnumber : (console.console w.vol).text.epoch desired = some e := hepoch
  unfold VpnAdmin.request Request.exec
  rw [h.read]
  cases hcheck : (console.console w.vol).check r.command with
  | some reply => exact ⟨desired, h⟩
  | none =>
    unfold Request.payload
    cases hcommand : r.command with
    | connect profile redirect auto username password =>
      rw [hcommand] at hcheck
      obtain ⟨hpath, hfile⟩ := check_connect hcheck
      obtain ⟨huse, hold⟩ :=
        lookUp_connect w.vol.files.auth profile redirect auto username password
      simp only [Option.bind_some, hnumber, Option.map_some]
      refine ⟨_, h.bump he rfl rfl (fun name hname => ?_) ⟨.inr ⟨e + 1, rfl⟩, fun _ => ?_⟩⟩
      · rcases hold name hname with hauth | rfl
        · exact h.stored name hauth
        · exact hfile
      · exact ⟨profile, e + 1, rfl, rfl, hpath, hfile, huse⟩
    | setAutoReconnect on => exact ⟨_, h.setAutoReconnect on r.now rfl rfl⟩
    | disconnect =>
      simp only [Option.bind_some, hnumber, Option.map_some]
      exact ⟨_, h.bump he rfl rfl h.stored ⟨.inr ⟨e + 1, rfl⟩, fun hno => (by cases hno)⟩⟩

/-! ## A call of the supervisor -/

theorem tick_epoch {t : Tick} {n : Int} (hn : desired.get "epoch" = .int n) :
    (w.tick console t desired).epoch = some n := by
  unfold Tick.epoch tick
  simp only [hn]

/-- A profile that is asked for is found. -/
theorem CoherentWith.targetPath (h : w.CoherentWith repr console desired) (t : Tick)
    (hconnect : (desired.get "connect").truthy = true) :
    ∃ name n, desired.get "profile" = .str name ∧ desired.get "epoch" = .int n
      ∧ ((desired.get "auth").truthy = true → (w.vol.files.auth name).isSome = true)
      ∧ (w.tick console t desired).wantProfile repr = name
      ∧ (desired.get "profile").toStrOr repr "" = name
      ∧ (w.tick console t desired).targetPath repr
        = some (profilesDir ++ "/" ++ name ++ ".ovpn") := by
  obtain ⟨name, n, hprofile, hn, hpath, hfile, hauth⟩ := h.asked.connect hconnect
  have hhas : validName name = true ∧ console.isInside name = true := by
    have hboth : (validName name && console.isInside name) = true := hpath
    simpa using hboth
  obtain ⟨⟨hne, hmatches⟩, -⟩ : (name ≠ "" ∧ matchesProfile name = true) ∧ _ := by
    have hvalid := hhas.1
    unfold validName at hvalid
    simpa using hvalid
  have htext : (desired.get "profile").toStrOr repr "" = name := by
    rw [hprofile]
    unfold Json.toStrOr
    split
    next => rfl
    next hfalsy => exact absurd (decide_eq_true hne) hfalsy
  have hwant : (w.tick console t desired).wantProfile repr = name := by
    unfold Tick.wantProfile
    exact (if_pos hconnect).trans htext
  refine ⟨name, n, hprofile, hn, hauth, hwant, htext, ?_⟩
  unfold Tick.targetPath profilePath
  rw [hwant, if_neg hne, if_neg (by simp [hne, hmatches])]
  have hinside : (w.tick console t desired).dir.isInside name = true := hhas.2
  have hisFile : (w.tick console t desired).dir.isFile name = true := hfile
  rw [hinside, hisFile]
  rfl

theorem CoherentWith.reconcile (h : w.CoherentWith repr console desired) (t : Tick) :
    CoherentWith repr console
      { w with station := w.station.reconcileOnce repr (w.tick console t desired) } desired := by
  obtain ⟨hsupervised, hline⟩ :=
    @reconcileOnce_spec repr (w.tick console t desired) w.station h.supervised
  refine ⟨h.read, h.asked, h.stored, hsupervised, fun hne => ?_⟩
  obtain ⟨some', hsome'⟩ := List.exists_mem_of_ne_nil _ hne
  obtain ⟨-, hconnect, -, -, hactive⟩ := hline.up some' hsome'
  obtain ⟨name, n, hprofile, hn, hauth, hwant, htext, htarget⟩ := h.targetPath t hconnect
  rw [tick_epoch hn] at hactive
  refine ⟨n, n, hactive, hn, le_refl n, fun _ child hchild => ?_⟩
  rcases reconcileOnce_children h.supervised hchild with ⟨hold, hepoch⟩ | ⟨path, hpath, hargv⟩
  · -- a child of before, for this epoch
    obtain ⟨e, n', hactive', hn', -, hserves⟩ := h.child (List.ne_nil_of_mem hold)
    rw [tick_epoch hn, hactive'] at hepoch
    rw [hn] at hn'
    exact hserves ((Option.some.inj hepoch).trans (Json.int.inj hn')) child hold
  · cases htarget.symm.trans hpath
    refine ⟨(w.tick console t desired).autoReconnect, ?_⟩
    rw [hargv, buildArgv_eq, hwant, htext]
    have hused : ((desired.get "auth").truthy && (w.vol.files.auth name).isSome)
        = (desired.get "auth").truthy := by
      cases htruthy : (desired.get "auth").truthy with
      | false => rfl
      | true => exact hauth htruthy
    show argvOf _ _ ((desired.get "auth").truthy && (w.vol.files.auth name).isSome) _ _ = _
    rw [hused]
    rfl

/-- The step lemma. -/
theorem Coherent.step (h : w.Coherent repr console) (x : VpnControlStep) :
    (w.step repr console x).Coherent repr console := by
  cases x with
  | save name content =>
    obtain ⟨desired, h⟩ := h
    exact ⟨desired, h.save name content⟩
  | delete name =>
    obtain ⟨desired, h⟩ := h
    exact ⟨desired, h.delete name⟩
  | request r => exact h.request r
  | reconcile t =>
    obtain ⟨desired, h⟩ := h
    unfold VpnPlant.step
    simp only [h.read]
    exact ⟨desired, h.reconcile t⟩
  | exit pid =>
    obtain ⟨desired, h⟩ := h
    have hsub : (w.station.children.filter fun child => child.pid ≠ pid).Sublist w.station.children :=
      List.filter_sublist
    have hsupervised : Supervised (VpnStep.next repr w.station (.exit pid)) :=
      h.supervised.next (.exit pid)
    refine ⟨desired, h.read, h.asked, h.stored, hsupervised, fun hne => ?_⟩
    obtain ⟨other, hother⟩ := List.exists_mem_of_ne_nil _ hne
    obtain ⟨e, n, hactive, hn, hle, hserves⟩ := h.child (List.ne_nil_of_mem (hsub.subset hother))
    exact ⟨e, n, hactive, hn, hle, fun heq child hchild => hserves heq child (hsub.subset hchild)⟩

/-- A run from an empty volume. -/
def run (repr : Json → String) (console : VpnAdmin) (steps : List VpnControlStep) : VpnPlant :=
  steps.foldl (step repr console) {}

theorem coherent_run (steps : List VpnControlStep) : (run repr console steps).Coherent repr console := by
  induction steps using List.reverseRecOn with
  | nil => exact Coherent.start
  | append_singleton steps x ih =>
    unfold run
    rw [List.foldl_append]
    exact ih.step x

/-- **The tunnel is the one that was asked for.** Whatever requests there were, one after another,
whenever the supervisor was called and children exited: the profile that `desired.json` asks for is
found, with its credentials if it says so; there are no credentials without a profile; and after
every call of the supervisor a child that runs should run, for that profile, over a split tunnel
or not and with the credentials or not, as `desired.json` says. -/
theorem tunnel_serves_request (repr : Json → String) (console : VpnAdmin)
    (steps : List VpnControlStep) (t : Tick) :
    ∃ desired, (run repr console steps).vol.files.readDesired = some desired
      ∧ ((desired.get "connect").truthy = true → ∃ name, desired.get "profile" = .str name
        ∧ ((run repr console steps).tick console t desired).targetPath repr
          = some (profilesDir ++ "/" ++ name ++ ".ovpn")
        ∧ ((desired.get "auth").truthy = true →
          ((run repr console steps).vol.files.auth name).isSome = true))
      ∧ (∀ name, ((run repr console steps).vol.files.auth name).isSome = true →
        ((run repr console steps).vol.profiles name).isSome = true)
      ∧ ∀ child ∈ (run repr console (steps ++ [.reconcile t])).station.children,
        (desired.get "connect").truthy = true ∧ Serves repr desired child := by
  obtain ⟨desired, h⟩ := @coherent_run repr console steps
  have hafter := h.reconcile t
  have hlast : (run repr console (steps ++ [.reconcile t])).station
      = (run repr console steps).station.reconcileOnce repr
        ((run repr console steps).tick console t desired) := by
    unfold run
    rw [List.foldl_append]
    show (VpnPlant.step repr console (run repr console steps) (.reconcile t)).station = _
    unfold VpnPlant.step
    simp only [h.read]
    rfl
  refine ⟨desired, h.read, fun hconnect => ?_, h.stored, fun child hchild => ?_⟩
  · obtain ⟨name, n, hprofile, -, hauth, -, -, htarget⟩ := h.targetPath t hconnect
    exact ⟨name, hprofile, htarget, hauth⟩
  · rw [hlast] at hchild
    have hup := (@reconcileOnce_spec repr _ _ h.supervised).2.up child hchild
    obtain ⟨e, n, hactive, hn, -, hserves⟩ := hafter.child (List.ne_nil_of_mem hchild)
    refine ⟨hup.2.1, hserves ?_ child hchild⟩
    have hsame : some e = some n := hactive.symm.trans (hup.2.2.2.2.trans (tick_epoch hn))
    exact Option.some.inj hsame

end VpnPlant

end EdgeSensor.System
