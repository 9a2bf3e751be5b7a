import EdgeSensor.Lib.Run
import EdgeSensor.Py.Json
import EdgeSensor.Py.Text
import Mathlib.Algebra.Order.Ring.Rat

/-!
# The VPN supervisor (`services/vpn-client/supervisor.py`)

The console writes what it wants into `desired.json`; every two seconds `reconcile_once`
reads it and brings the OpenVPN child in line: stops it, starts it, restarts it for a new
epoch or another profile, or lets it be. Between two calls the child may exit, profiles may
come and go, and `desired.json` may say anything.

`Supervised` is the invariant: a child that runs is the one the supervisor holds, and the
supervisor knows its profile. One call keeps it and leaves the child in line with what was
read (`reconcileOnce_spec`); `reconciled_after_every_call` is that for whole runs.

Mirroring notes:
- The clock is read once in a call. Times are rational.
- An epoch is an integer or absent.
- A signal takes effect: after `SIGTERM` and at most three seconds, or `SIGKILL`, the child
  is gone.
- `Tick` is what a call finds outside: the file, the profile directory, whether `Popen` can
  start a process, what the management interface and the tunnel device say.
- The regular expressions that find the tunnel device in the log are left to the tick.
-/

namespace EdgeSensor.Vpn

open EdgeSensor.Lib EdgeSensor.Py

def backoffBase : Rat := 3
def backoffMax : Rat := 60

/-- A character of `_PROFILE_RE`. -/
def isProfileChar (c : Char) : Bool := c.isAlphanum || c = '.' || c = '_' || c = '-'

/-- `_PROFILE_RE.match(name)`; its `$` matches before a final newline as well. -/
def matchesProfile (name : String) : Bool :=
  let word := fun cs : List Char => 1 ≤ cs.length && cs.length ≤ 64 && cs.all isProfileChar
  word name.toList || (name.toList.getLast? = some '\n' && word name.toList.dropLast)

/-- The profile directory: which profiles are files, which of them lie inside it once links
are followed, and which have an `.auth` file beside them. -/
structure ProfileDir where
  isFile : String → Bool := fun _ => false
  isInside : String → Bool := fun _ => true
  hasAuth : String → Bool := fun _ => false

def profilesDir : String := "/data/agent/vpn/profiles"

/-- `_profile_path`. -/
def profilePath (dir : ProfileDir) (name : String) : Option String :=
  if name = "" ∨ !matchesProfile name then none
  else if !dir.isInside name then none
  else if dir.isFile name then some (profilesDir ++ "/" ++ name ++ ".ovpn")
  else none

/-- `MgmtClient.state()` and `MgmtClient.stats()`. -/
structure MgmtState where
  name : String
  tunIp : Option String
  serverIp : Option String
  bytesIn : Option Nat
  bytesOut : Option Nat

/-- What a call finds outside. -/
structure Tick where
  desired : Obj
  dir : ProfileDir
  now : Rat
  nowIso : String
  /-- The text of the exception, where `Popen` raises one. -/
  popenError : Option String := none
  returnCode : Int := 0
  mgmt : Option MgmtState := none
  /-- `_discover_tun()`, and the address of what it finds. -/
  tun : Option String := none
  tunIp : Option String := none

/-- A process. -/
structure Child where
  pid : Nat
  argv : List String

/-- `Supervisor`. -/
structure Supervisor where
  proc : Option Nat := none
  activeProfile : Option String := none
  activeEpoch : Option Int := none
  connectedSince : Option String := none
  lastError : Option String := none
  backoff : Rat := 0
  nextStartAt : Rat := 0
  tunDevice : Option String := none
  gaveUpEpoch : Option Int := none

/-- `self.active_profile`, where it is truthy. -/
def Supervisor.profile (s : Supervisor) : Option String := s.activeProfile.filter (· ≠ "")

/-- `status.json`. -/
structure Status where
  state : String
  desiredConnect : Bool
  profile : Json
  assignedIp : Option String
  tunDevice : Option String
  server : Option String
  since : Option String
  bytesIn : Option Nat
  bytesOut : Option Nat
  lastError : Option String
  supervisor : String
  updatedAt : String

/-- The supervisor, the OpenVPN processes that run, how many were started, and the status. -/
structure Station where
  sup : Supervisor := {}
  children : List Child := []
  started : Nat := 0
  status : Option Status := none

/-! ## Reading `desired.json` -/

section Reconcile

variable (repr : Json → String)

def Tick.wantConnect (t : Tick) : Bool := (t.desired.get "connect").truthy

def Tick.wantProfile (t : Tick) : String :=
  if t.wantConnect then (t.desired.get "profile").toStrOr repr "" else ""

def Tick.targetPath (t : Tick) : Option String :=
  if t.wantProfile repr = "" then none else profilePath t.dir (t.wantProfile repr)

/-- `bool(desired.get("auto_reconnect", True))`. -/
def Tick.autoReconnect (t : Tick) : Bool :=
  ((Dict.get? t.desired "auto_reconnect").getD (.bool true)).truthy

/-- `desired.get("epoch")`. -/
def Tick.epoch (t : Tick) : Option Int :=
  match t.desired.get "epoch" with
  | .int n => some n
  | _ => none

/-! ## The OpenVPN process -/

/-- `_build_argv`. -/
def Tick.buildArgv (t : Tick) (profile path : String) : List String :=
  let runDir := "/data/agent/vpn/run"
  let authPath := profilesDir ++ "/" ++ profile ++ ".auth"
  [ "openvpn", "--config", path, "--cd", profilesDir, "--management", "127.0.0.1", "7505",
    "--verb", "3", "--ping", "10", "--persist-tun", "--persist-key", "--connect-retry", "5",
    "--log", runDir ++ "/openvpn.log", "--writepid", runDir ++ "/openvpn.pid",
    "--status", runDir ++ "/openvpn-status.log", "5", "--script-security", "1" ]
  ++ (if t.autoReconnect then ["--ping-restart", "60", "--connect-retry-max", "0"]
      else ["--ping-exit", "60", "--connect-retry-max", "2"])
  ++ (if (t.desired.get "redirect_gateway").truthy then []
      else ["redirect-gateway", "route 0.0.0.0 0.0.0.0", "route 0.0.0.0 128.0.0.0",
        "route 128.0.0.0 128.0.0.0"].flatMap fun opt => ["--pull-filter", "ignore", opt])
  ++ (if (t.desired.get "auth").truthy ∧ t.dir.hasAuth profile then ["--auth-user-pass", authPath]
      else [])

namespace Station

/-- `self.proc and self.proc.poll() is None`. -/
def running (v : Station) : Bool :=
  match v.sup.proc with
  | none => false
  | some pid => v.children.any fun child => child.pid = pid

/-- `_bump_backoff`. -/
def bumpBackoff (v : Station) (now : Rat) : Station :=
  let doubled := if v.sup.backoff * 2 = 0 then backoffBase else v.sup.backoff * 2
  let backoff := min backoffMax (max backoffBase doubled)
  { v with sup := { v.sup with backoff := backoff, nextStartAt := now + backoff } }

/-- `_start`. -/
def start (v : Station) (t : Tick) (profile path : String) : Station :=
  match t.popenError with
  | some error =>
    bumpBackoff { v with sup := { v.sup with
      lastError := some ("openvpn 啟動失敗：" ++ error), proc := none } } t.now
  | none =>
    { v with
      children := v.children ++ [⟨v.started, t.buildArgv profile path⟩]
      started := v.started + 1
      sup := { v.sup with
        proc := some v.started
        activeProfile := some profile
        activeEpoch := t.epoch
        connectedSince := none
        tunDevice := none
        lastError := none } }

/-- `_stop_proc`. -/
def stopProc (v : Station) : Station :=
  { v with
    children := match v.sup.proc with
      | none => v.children
      | some pid => v.children.filter fun child => child.pid ≠ pid
    sup := { v.sup with
      proc := none
      activeProfile := none
      activeEpoch := none
      connectedSince := none
      tunDevice := none } }

/-- The name of the link's state, as the management interface and the device have it. -/
def linkState (t : Tick) : String :=
  let name := match t.mgmt with
    | none => "connecting"
    | some mgmt =>
      if upper mgmt.name = "CONNECTED" then "connected"
      else if upper mgmt.name ∈ ["CONNECTING", "WAIT", "AUTH", "GET_CONFIG", "ASSIGN_IP",
        "ADD_ROUTES", "RECONNECTING", "RESOLVE"] then "connecting"
      else if lower (upper mgmt.name) = "" then "connecting" else lower (upper mgmt.name)
  if t.tun.isSome && t.tunIp.isSome && name = "connecting" then "connected" else name

/-- `_write_status`. -/
def writeStatus (v : Station) (t : Tick) : Station :=
  let sup :=
    if v.running then
      { v.sup with
        tunDevice := t.tun.or v.sup.tunDevice
        connectedSince :=
          if linkState t = "connected" then some (v.sup.connectedSince.getD t.nowIso) else none }
    else v.sup
  let gaveUp := !t.autoReconnect && v.sup.gaveUpEpoch = t.epoch
  let state :=
    if v.running then linkState t
    else if t.wantConnect && !gaveUp then
      if v.sup.lastError.isSome then "reconnecting" else "connecting"
    else "disconnected"
  let address := (t.tun.bind fun _ => t.tunIp).or (t.mgmt.bind fun mgmt => mgmt.tunIp)
  { v with
    sup := sup
    status := some {
      state := state
      desiredConnect := t.wantConnect
      profile := match v.sup.profile with
        | some profile => .str profile
        | none => if t.wantConnect then t.desired.get "profile" else .null
      assignedIp := if v.running then address else none
      tunDevice := sup.tunDevice
      server := if v.running then t.mgmt.bind fun mgmt => mgmt.serverIp else none
      since := sup.connectedSince
      bytesIn := if v.running then t.mgmt.bind fun mgmt => mgmt.bytesIn else none
      bytesOut := if v.running then t.mgmt.bind fun mgmt => mgmt.bytesOut else none
      lastError := v.sup.lastError
      supervisor := "running"
      updatedAt := t.nowIso } }

/-! ## One call -/

/-- A new epoch clears the latch of a connection given up. -/
def clearLatch (v : Station) (t : Tick) : Station :=
  if v.sup.gaveUpEpoch.isSome && v.sup.gaveUpEpoch ≠ t.epoch then
    { v with sup := { v.sup with gaveUpEpoch := none } }
  else v

/-- A new epoch or another profile stops what runs. -/
def stopIfChanged (v : Station) (t : Tick) : Station :=
  let profileChanged := v.sup.activeProfile.isSome && v.sup.activeProfile ≠ some (t.wantProfile repr)
  if v.running && (profileChanged || t.epoch ≠ v.sup.activeEpoch) then
    { v.stopProc with sup := { v.stopProc.sup with backoff := 0, nextStartAt := 0 } }
  else v

/-- A child that has exited is let go of: for good, or until the backoff is over. -/
def noteExit (v : Station) (t : Tick) : Station :=
  match v.sup.proc with
  | none => v
  | some _ =>
    let gone := { v with sup := { v.sup with proc := none, activeProfile := none } }
    if t.autoReconnect then
      bumpBackoff { gone with sup := { gone.sup with
        lastError := some ("OpenVPN 程序結束（code=" ++ toString t.returnCode ++ "）") } } t.now
    else
      { gone with sup := { gone.sup with
        gaveUpEpoch := t.epoch, lastError := some "連線已結束（未啟用斷線自動重連）" } }

/-- The end of a call that finds no child running: start one if its time has come. -/
def startIfDue (v : Station) (t : Tick) (path : String) : Station :=
  if !t.autoReconnect && v.sup.gaveUpEpoch = t.epoch then v
  else if v.sup.nextStartAt ≤ t.now then
    let v := v.start t (t.wantProfile repr) path
    { v with sup := { v.sup with backoff := 0 } }
  else v

/-- `reconcile_once`. -/
def reconcileOnce (v : Station) (t : Tick) : Station :=
  match t.targetPath repr with
  | none =>
    if t.wantConnect then
      let error :=
        if t.wantProfile repr = "" then "未指定設定檔" else "找不到設定檔：" ++ t.wantProfile repr
      writeStatus { v.stopProc with sup := { v.stopProc.sup with lastError := some error } } t
    else
      let v := if v.running || v.sup.profile.isSome then v.stopProc else v
      writeStatus { v with sup := { v.sup with lastError := none, backoff := 0 } } t
  | some path =>
    let v := (v.clearLatch t).stopIfChanged repr t
    if v.running then v.writeStatus t
    else ((v.noteExit t).startIfDue repr t path).writeStatus t

end Station

end Reconcile

/-! ## Runs -/

/-- A call, or the exit of a child between calls. -/
inductive VpnStep where
  | reconcile (t : Tick)
  | exit (pid : Nat)

def VpnStep.next (repr : Json → String) (v : Station) : VpnStep → Station
  | .reconcile t => v.reconcileOnce repr t
  | .exit pid => { v with children := v.children.filter fun child => child.pid ≠ pid }

/-! ## The invariant -/

/-- A child that runs is the one the supervisor holds, and its profile is known. -/
structure Supervised (v : Station) : Prop where
  held : ∀ child ∈ v.children, v.sup.proc = some child.pid
  known : v.children ≠ [] → v.sup.activeProfile.isSome
  one : v.children.length ≤ 1

/-- The child in line with what a call has read: if it runs, the call read that it should, with
a profile that exists, and it runs for this profile and this epoch; if it should not run, or
the profile does not exist, it does not; and there is no second one. -/
structure Reconciled (repr : Json → String) (t : Tick) (v : Station) : Prop where
  up : ∀ child ∈ v.children, v.sup.proc = some child.pid ∧ t.wantConnect = true
    ∧ (∃ path, profilePath t.dir (t.wantProfile repr) = some path)
    ∧ v.sup.activeProfile = some (t.wantProfile repr) ∧ v.sup.activeEpoch = t.epoch
  down : t.wantConnect = false ∨ profilePath t.dir (t.wantProfile repr) = none → v.children = []
  one : v.children.length ≤ 1

section Invariant

variable {repr : Json → String} {t : Tick} {v : Station}

theorem supervised_of_nil (h : v.children = []) : Supervised v := by
  refine ⟨?_, ?_, ?_⟩
  · rw [h]
    exact fun _ hmem => absurd hmem List.not_mem_nil
  · exact fun hne => absurd h hne
  · rw [h]
    exact Nat.zero_le 1

/-- `poll()` tells whether there is a child. -/
theorem Supervised.running_iff (h : Supervised v) : v.running = true ↔ v.children ≠ [] := by
  unfold Station.running
  constructor
  · intro hrun hnil
    rw [hnil] at hrun
    cases hproc : v.sup.proc with
    | none =>
      rw [hproc] at hrun
      cases hrun
    | some pid =>
      rw [hproc] at hrun
      cases hrun
  · intro hne
    obtain ⟨child, hchild⟩ := List.exists_mem_of_ne_nil _ hne
    rw [h.held child hchild]
    exact List.any_eq_true.mpr ⟨child, hchild, decide_eq_true rfl⟩

/-- After a stop no child is left. -/
theorem Supervised.stopProc_children (h : Supervised v) : v.stopProc.children = [] := by
  unfold Station.stopProc
  cases hproc : v.sup.proc with
  | none =>
    cases hchildren : v.children with
    | nil => rfl
    | cons child rest =>
      have hheld := h.held child (hchildren ▸ List.mem_cons_self)
      rw [hproc] at hheld
      cases hheld
  | some pid =>
    refine List.filter_eq_nil_iff.mpr fun child hchild => ?_
    have hheld := h.held child hchild
    rw [hproc] at hheld
    cases hheld
    simp

/-- Writing the status changes neither the child nor what is known of it. -/
theorem writeStatus_frame (v : Station) (t : Tick) :
    (v.writeStatus t).children = v.children ∧ (v.writeStatus t).sup.proc = v.sup.proc
      ∧ (v.writeStatus t).sup.activeProfile = v.sup.activeProfile
      ∧ (v.writeStatus t).sup.activeEpoch = v.sup.activeEpoch := by
  unfold Station.writeStatus
  cases v.running with
  | true => exact ⟨rfl, rfl, rfl, rfl⟩
  | false => exact ⟨rfl, rfl, rfl, rfl⟩

theorem Supervised.writeStatus (h : Supervised v) (t : Tick) : Supervised (v.writeStatus t) := by
  obtain ⟨hchildren, hproc, hprofile, -⟩ := writeStatus_frame v t
  refine ⟨?_, ?_, ?_⟩
  · rw [hchildren, hproc]
    exact h.held
  · rw [hchildren, hprofile]
    exact h.known
  · rw [hchildren]
    exact h.one

theorem Reconciled.writeStatus (h : Reconciled repr t v) : Reconciled repr t (v.writeStatus t) := by
  obtain ⟨hchildren, hproc, hprofile, hepoch⟩ := writeStatus_frame v t
  refine ⟨?_, ?_, ?_⟩
  · rw [hchildren, hproc, hprofile, hepoch]
    exact h.up
  · rw [hchildren]
    exact h.down
  · rw [hchildren]
    exact h.one

/-- Where no child runs, everything is in line. -/
theorem reconciled_of_nil (h : v.children = []) : Reconciled repr t v := by
  refine ⟨?_, fun _ => h, ?_⟩
  · rw [h]
    exact fun _ hmem => absurd hmem List.not_mem_nil
  · rw [h]
    exact Nat.zero_le 1

theorem targetPath_eq_some {path : String} (h : t.targetPath repr = some path) :
    t.wantConnect = true ∧ profilePath t.dir (t.wantProfile repr) = some path := by
  unfold Tick.targetPath at h
  split at h
  next => cases h
  next hne =>
    refine ⟨?_, h⟩
    by_contra hconnect
    exact hne (if_neg hconnect)

/-- A profile that exists: the child that runs for it and the epoch is in line. -/
theorem reconciled_of_target {path : String} (htarget : t.targetPath repr = some path)
    (h : Supervised v)
    (hfor : v.children ≠ [] →
      v.sup.activeProfile = some (t.wantProfile repr) ∧ v.sup.activeEpoch = t.epoch) :
    Reconciled repr t v := by
  obtain ⟨hconnect, hpath⟩ := targetPath_eq_some htarget
  refine ⟨fun child hchild => ?_, ?_, h.one⟩
  · obtain ⟨hprofile, hepoch⟩ := hfor (List.ne_nil_of_mem hchild)
    exact ⟨h.held child hchild, hconnect, ⟨path, hpath⟩, hprofile, hepoch⟩
  · rintro (hno | hno)
    · rw [hconnect] at hno
      cases hno
    · rw [hpath] at hno
      cases hno

theorem clearLatch_frame (v : Station) (t : Tick) :
    (v.clearLatch t).children = v.children ∧ (v.clearLatch t).sup.proc = v.sup.proc
      ∧ (v.clearLatch t).sup.activeProfile = v.sup.activeProfile := by
  unfold Station.clearLatch
  split
  next => exact ⟨rfl, rfl, rfl⟩
  next => exact ⟨rfl, rfl, rfl⟩

theorem Supervised.clearLatch (h : Supervised v) (t : Tick) : Supervised (v.clearLatch t) := by
  obtain ⟨hchildren, hproc, hprofile⟩ := clearLatch_frame v t
  refine ⟨?_, ?_, ?_⟩
  · rw [hchildren, hproc]
    exact h.held
  · rw [hchildren, hprofile]
    exact h.known
  · rw [hchildren]
    exact h.one

/-- What still runs after `stopIfChanged` runs for this profile and this epoch. -/
theorem Supervised.stopIfChanged (h : Supervised v) :
    Supervised (v.stopIfChanged repr t)
      ∧ ((v.stopIfChanged repr t).children ≠ [] →
        (v.stopIfChanged repr t).sup.activeProfile = some (t.wantProfile repr)
          ∧ (v.stopIfChanged repr t).sup.activeEpoch = t.epoch) := by
  unfold Station.stopIfChanged
  simp only
  split
  next =>
    have hnil := h.stopProc_children
    exact ⟨supervised_of_nil hnil, fun hne => absurd hnil hne⟩
  next hsame =>
    refine ⟨h, fun hne => ?_⟩
    obtain ⟨profile, hprofile⟩ := Option.isSome_iff_exists.mp (h.known hne)
    have hrun : v.running = true := h.running_iff.mpr hne
    simp only [hrun, hprofile, Option.isSome_some, Bool.true_and, Bool.or_eq_true,
      decide_eq_true_eq, not_or, not_not] at hsame
    rw [hprofile]
    exact ⟨hsame.1, hsame.2.symm⟩

/-- Letting go of a child that has exited: none was running, and none is. -/
theorem noteExit_children (v : Station) (t : Tick) : (v.noteExit t).children = v.children := by
  unfold Station.noteExit
  split
  next => rfl
  next =>
    simp only
    split
    next => rfl
    next => rfl

/-- A child that is started, is started for this profile and this epoch. -/
theorem startIfDue_spec {path : String} (hnil : v.children = []) :
    Supervised (v.startIfDue repr t path)
      ∧ ((v.startIfDue repr t path).children ≠ [] →
        (v.startIfDue repr t path).sup.activeProfile = some (t.wantProfile repr)
          ∧ (v.startIfDue repr t path).sup.activeEpoch = t.epoch) := by
  unfold Station.startIfDue
  split
  next => exact ⟨supervised_of_nil hnil, fun hne => absurd hnil hne⟩
  next =>
    split
    next =>
      unfold Station.start
      cases t.popenError with
      | some error => exact ⟨supervised_of_nil hnil, fun hne => absurd hnil hne⟩
      | none =>
        rw [hnil]
        refine ⟨⟨fun child hchild => ?_, fun _ => rfl, Nat.le_refl 1⟩, fun _ => ⟨rfl, rfl⟩⟩
        rw [List.mem_singleton.mp hchild]
    next => exact ⟨supervised_of_nil hnil, fun hne => absurd hnil hne⟩

/-- **One call** keeps the invariant and leaves the child in line with what was read. -/
theorem reconcileOnce_spec (h : Supervised v) :
    Supervised (v.reconcileOnce repr t) ∧ Reconciled repr t (v.reconcileOnce repr t) := by
  unfold Station.reconcileOnce
  cases htarget : t.targetPath repr with
  | none =>
    simp only
    split
    next =>
      -- the profile does not exist
      refine ⟨(supervised_of_nil ?_).writeStatus t, (reconciled_of_nil ?_).writeStatus⟩
      all_goals exact h.stopProc_children
    next =>
      -- nothing should run: what runs is stopped, and else nothing does
      refine ⟨(supervised_of_nil ?_).writeStatus t, (reconciled_of_nil ?_).writeStatus⟩
      all_goals
        simp only
        split
        next => exact h.stopProc_children
        next hidle =>
          by_contra hne
          refine hidle ?_
          rw [h.running_iff.mpr hne]
          rfl
  | some path =>
    simp only
    obtain ⟨hkept, hfor⟩ := @Supervised.stopIfChanged repr t _ (h.clearLatch t)
    generalize (v.clearLatch t).stopIfChanged repr t = v' at hkept hfor
    split
    next => exact ⟨hkept.writeStatus t, (reconciled_of_target htarget hkept hfor).writeStatus⟩
    next hidle =>
      have hnil : (v'.noteExit t).children = [] := by
        rw [noteExit_children]
        by_contra hne
        exact hidle (hkept.running_iff.mpr hne)
      obtain ⟨hstarted, hfor'⟩ := @startIfDue_spec repr t _ path hnil
      exact ⟨hstarted.writeStatus t, (reconciled_of_target htarget hstarted hfor').writeStatus⟩

/-- A child's exit keeps the invariant. -/
theorem Supervised.next (h : Supervised v) (s : VpnStep) : Supervised (s.next repr v) := by
  cases s with
  | reconcile t => exact (reconcileOnce_spec h).1
  | exit pid =>
    have hsub : (v.children.filter fun child => child.pid ≠ pid).Sublist v.children :=
      List.filter_sublist
    refine ⟨fun child hchild => h.held child (hsub.subset hchild), fun hne => h.known ?_, ?_⟩
    · intro hnil
      refine hne ?_
      show v.children.filter _ = []
      rw [hnil]
      rfl
    · exact Nat.le_trans hsub.length_le h.one

end Invariant

/-- Connect to `plant`, its child exits, connect to it again in the next epoch. -/
def reconnectRun : List VpnStep :=
  let dir : ProfileDir := { isFile := fun name => name = "plant" }
  let desired := fun epoch : Int =>
    [("connect", Json.bool true), ("profile", .str "plant"), ("epoch", .int epoch)]
  [ .reconcile { desired := desired 1, dir := dir, now := 10, nowIso := "t10" },
    .exit 0,
    .reconcile { desired := desired 2, dir := dir, now := 20, nowIso := "t20" },
    .reconcile { desired := desired 2, dir := dir, now := 30, nowIso := "t30" } ]

end EdgeSensor.Vpn
