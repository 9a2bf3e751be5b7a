import EdgeSensor.Vpn.Commands
import EdgeSensor.Vpn.ProfileView

/-!
# Profiles come and go (`save_profile`, `delete_profile` in `vpn_service.py`)

The console keeps the profiles on the volume that it shares with the supervisor, and beside a
profile the credentials of the last connection that brought any. A profile that
`desired.json` asks for cannot be deleted; with one that is deleted, its credentials go.

Mirroring notes:
- A file of the volume is found by the profile's name. That `resolve` follows links matters
  only to `isInside`.
- UTF-8 is the parameter `decode`; the disk does what it is told.
-/

namespace EdgeSensor.Vpn

open EdgeSensor.Lib EdgeSensor.Py EdgeSensor.Py.Regex

/-- The volume: the text of each profile, `desired.json` and the credentials. -/
structure VpnVolume where
  profiles : String → Option PyStr := fun _ => none
  files : VpnFiles := { desired := none, auth := fun _ => none }

/-- The console, whatever is on the volume. -/
structure VpnAdmin where
  admin : Bool := true
  isInside : String → Bool := fun _ => true
  number : NumberText
  view : ViewText
  /-- `content.decode("utf-8")`, `none` where it raises. -/
  decode : Bytes → Option PyStr

/-- What is in the directory of profiles. -/
def VpnAdmin.dir (console : VpnAdmin) (vol : VpnVolume) : ProfileDir where
  isFile name := (vol.profiles name).isSome
  isInside := console.isInside
  hasAuth name := (vol.files.auth name).isSome

/-- The console as a request finds it. -/
def VpnAdmin.console (console : VpnAdmin) (vol : VpnVolume) : VpnConsole where
  admin := console.admin
  profiles := console.dir vol
  text := console.number

/-- `word in low` -/
def mentions (low : PyStr) (text : String) : Bool := (search (word text) low).isSome

/-- `validate_ovpn`. -/
def VpnAdmin.validateOvpn (console : VpnAdmin) (content : Bytes) : Option String :=
  if content = [] then some "空的設定內容"
  else if 512 * 1024 < content.length then some "設定檔超過 512KB 上限"
  else
    match console.decode content with
    | none => some "設定檔非 UTF-8 文字（請確認為 .ovpn 純文字）"
    | some text =>
      let low := console.view.lower text
      if !mentions low "remote " && !mentions low "<connection>" then
        some "設定檔缺少 remote 指令，無法判定 VPN 伺服器"
      else if !mentions low "client" && !mentions low "tls-client" then
        some "僅支援 client 模式的 .ovpn 設定檔"
      else none

/-- What `save_profile` returns. -/
inductive SaveReply where
  | refused (status : Nat) (error : String)
  | saved (name : String) (remote : Option PyStr) (needsAuth : Bool) (warnings : List String)

/-- `save_profile`. -/
def VpnAdmin.saveProfile (console : VpnAdmin) (vol : VpnVolume) (name : String) (content : Bytes) :
    SaveReply × VpnVolume :=
  if !console.admin then
    (.refused 403 "VPN 控制未啟用（請設定 EDGE_CONSOLE_VPN_ADMIN=true 並重啟 Console）", vol)
  else if !validName name then
    (.refused 400 "設定檔名稱無效（僅允許英數 . _ -，長度 1–64）", vol)
  else
    match console.validateOvpn content with
    | some error => (.refused 400 error, vol)
    | none =>
      if !(console.console vol).hasPath name then (.refused 400 "設定檔名稱無效", vol)
      else
        -- what is valid can be decoded
        let text := (console.decode content).getD []
        (.saved name (extractRemote console.view text) (needsAuth text)
            (profileWarnings console.view text),
          { vol with profiles := Function.update vol.profiles name (some text) })

/-- `desired.get("connect") and desired.get("profile") == name` -/
def inUse (desired : Obj) (name : String) : Bool :=
  (desired.get "connect").truthy &&
    match desired.get "profile" with
    | .str profile => profile = name
    | _ => false

/-- `delete_profile`; `none` where it raises. -/
def VpnAdmin.deleteProfile (console : VpnAdmin) (vol : VpnVolume) (name : String) :
    Option Obj × VpnVolume :=
  if !console.admin then
    (some (refusal 403 "VPN 控制未啟用（請設定 EDGE_CONSOLE_VPN_ADMIN=true 並重啟 Console）"), vol)
  else if !(console.console vol).hasPath name then (some (refusal 400 "設定檔名稱無效"), vol)
  else if (vol.profiles name).isNone then (some (refusal 404 ("找不到設定檔 " ++ name)), vol)
  else
    match vol.files.readDesired with
    | none => (none, vol)
    | some desired =>
      if inUse desired name then
        (some (refusal 409 "此設定檔正在使用中，請先中斷連線"), vol)
      else
        (some [("ok", .bool true), ("message", .str ("已刪除設定檔 " ++ name))],
          { profiles := Function.update vol.profiles name none
            files := { vol.files with auth := Function.update vol.files.auth name none } })

/-- A profile is saved, or nothing happens. -/
theorem saveProfile_cases (console : VpnAdmin) (vol : VpnVolume) (name : String) (content : Bytes) :
    (console.saveProfile vol name content).2 = vol
      ∨ ∃ text, (console.saveProfile vol name content).2
          = { vol with profiles := Function.update vol.profiles name (some text) } := by
  unfold VpnAdmin.saveProfile
  split
  next => exact .inl rfl
  next =>
    split
    next => exact .inl rfl
    next =>
      split
      next => exact .inl rfl
      next =>
        split
        next => exact .inl rfl
        next => exact .inr ⟨_, rfl⟩

/-- A profile is deleted that is not in use, and its credentials with it, or nothing happens. -/
theorem deleteProfile_cases (console : VpnAdmin) (vol : VpnVolume) (name : String) :
    (console.deleteProfile vol name).2 = vol
      ∨ ∃ desired, vol.files.readDesired = some desired ∧ inUse desired name = false
          ∧ (console.deleteProfile vol name).2
            = { profiles := Function.update vol.profiles name none
                files := { vol.files with auth := Function.update vol.files.auth name none } } := by
  unfold VpnAdmin.deleteProfile
  split
  next => exact .inl rfl
  next =>
    split
    next => exact .inl rfl
    next =>
      split
      next => exact .inl rfl
      next =>
        split
        next => exact .inl rfl
        next desired hread =>
          split
          next => exact .inl rfl
          next hfree => exact .inr ⟨desired, hread, Bool.eq_false_iff.mpr hfree, rfl⟩

/-- A request of `connect`, `disconnect` or `set_auto_reconnect`, in one go. -/
def VpnAdmin.request (console : VpnAdmin) (vol : VpnVolume) (r : Request) : VpnVolume :=
  { vol with files := r.exec (console.console vol) vol.files }

end EdgeSensor.Vpn
