import EdgeSensor.Console.WifiPriority

/-!
# The uplink (`src/wifi_service.py`)

The default route goes over the Wi-Fi device whose active profile has `never-default` at no.
`connect` sets it so that one device has it, if an interface is named, `set_primary` gives it to a
device and takes it from the others, and `disconnect` takes a device down.

Mirroring notes:
- What comes of each command of `nmcli` is given with the call: for those that are run once a
  device, by the name of the device.
- `connection up` brings the profile up on the device that it was read of.
- The radio is what `radio wifi` prints of it. No device comes up with it.
- `lower` is only looked at for words in ASCII.
-/

namespace EdgeSensor.Console

open EdgeSensor.Py

/-! ## What is read -/

/-- A row of `_wifi_devices`. -/
structure DeviceRow where
  device : PyStr
  state : PyStr
  connection : PyStr
  deriving DecidableEq

/-- A line of `_wifi_devices`. -/
def deviceRow : List PyStr → Option DeviceRow
  | device :: type :: state :: connection :: _ =>
    if type = lit "wifi" then some ⟨device, state, connection⟩ else none
  | _ => none

/-- `_wifi_devices`. -/
def wifiDevices (stdout : Option PyStr) : List DeviceRow := readTable deviceRow stdout

/-- `state.startswith("connected")` -/
def isConnectedState (state : PyStr) : Bool := (lit "connected").isPrefixOf state

/-- `_device_connected`. -/
def deviceConnected (dev : DeviceRow) : Bool :=
  isConnectedState dev.state && decide (dev.connection ≠ []) && decide (dev.connection ≠ lit "--")

/-- A line of `_active_connection_for`: a name and a device. -/
def activeRow : List PyStr → Option (PyStr × PyStr)
  | name :: device :: _ => some (name, device)
  | _ => none

/-- `_active_connection_for`. -/
def activeConnectionFor (stdout : Option PyStr) (device : PyStr) : Option PyStr :=
  ((readTable activeRow stdout).find? fun r => r.2 = device).map (·.1)

/-- `s.lower()`: A to Z, and the Kelvin sign. -/
def lowerWords (s : PyStr) : PyStr :=
  s.map fun c => if 65 ≤ c ∧ c ≤ 90 then c + 32 else if c = 0x212A then 107 else c

/-- `_connection_never_default`. -/
def connectionNeverDefault (stdout : Option PyStr) : Bool :=
  match stdout with
  | none => false
  | some stdout =>
    match (splitTerse (PyStr.strip stdout)).getLast? with
    | none => false
    | some last => lowerWords (PyStr.strip last) = lit "yes"

/-- What comes of the commands of `_has_other_primary`. -/
structure RouteReads where
  status : Bool := true
  active : PyStr → Bool := fun _ => true
  neverDefault : PyStr → Bool := fun _ => true

/-- `_has_other_primary`. -/
def hasOtherPrimary (r : RouteReads) (nm : Nm) (exclude : PyStr) : Bool :=
  (wifiDevices (if r.status then some nm.devStatus else none)).any fun d =>
    decide (d.device ≠ exclude) && deviceConnected d &&
      match activeConnectionFor (if r.active d.device then some nm.showActive else none) d.device with
      | none => false
      | some conn => decide (conn ≠ []) && !connectionNeverDefault
          (if r.neverDefault d.device then nm.showNeverDefault conn else none)

/-! ## `_set_device_never_default` -/

/-- What comes of `connection up`. One that is not done may leave the device down. -/
inductive UpReply where
  | done
  | failed (dropped : Bool)
  | timedOut (dropped : Bool)
  deriving DecidableEq, Repr

/-- `connection up`, of a profile on a device. -/
def Nm.up (nm : Nm) (device uuid : PyStr) : UpReply → Nm
  | .done => nm.activate device uuid
  | .failed dropped => if dropped then nm.disconnect device else nm
  | .timedOut dropped => if dropped then nm.disconnect device else nm

/-- What comes of the commands of `_set_device_never_default`. -/
structure FlagReplies where
  active : Bool := true
  modify : Reply := .done
  up : UpReply := .done
  deriving DecidableEq

/-- `connection modify CONN ipv4.never-default VAL ipv6.never-default VAL`. -/
def Nm.setNeverDefault (nm : Nm) (reply : Reply) (uuid : PyStr) (neverDefault : Bool) : Nm :=
  if reply.carriedOut then nm.modify uuid fun p => { p with neverDefault := neverDefault } else nm

/-- `_set_device_never_default`. -/
def setDeviceNeverDefault (r : FlagReplies) (nm : Nm) (device : PyStr) (neverDefault : Bool) :
    Nm × Bool :=
  match activeConnectionFor (if r.active then some nm.showActive else none) device with
  | none => (nm, false)
  | some conn =>
    if conn = [] then (nm, false)
    else
      match nm.named conn with
      | none => (nm, false)
      | some p =>
        let after := nm.setNeverDefault r.modify p.uuid neverDefault
        match r.modify, r.up with
        | .done, .timedOut dropped => (after.up device p.uuid (.timedOut dropped), false)
        | .done, reply => (after.up device p.uuid reply, true)
        | _, _ => (after, false)

/-! ## `connect` -/

/-- `{"ok": False, "status": .., "error": .., "detail": ..}` -/
structure UplinkError where
  status : Nat
  error : PyStr
  detail : Option PyStr := none
  deriving DecidableEq

def notEnabled : UplinkError := ⟨403, lit "Wi-Fi 控制未啟用", none⟩

/-- How a command ends: with what it prints if it fails (`stderr or stdout`), or with an exception. -/
inductive Outcome where
  | done
  | failed (stderr : PyStr)
  | raised (exc : PyStr)
  deriving DecidableEq

def passwordMax : Nat := 128

/-- `_validate_ssid`. -/
def validateSsid (ssid : PyStr) : Option PyStr :=
  if ssid = [] || PyStr.strip ssid = [] then some (lit "SSID 不可為空")
  else if ssidMax < ssid.length || hasControl ssid then some (lit "SSID 無效")
  else none

/-- `[A-Za-z0-9]` -/
def isAlnum (c : Nat) : Bool := (48 ≤ c && c ≤ 57) || (65 ≤ c && c ≤ 90) || (97 ≤ c && c ≤ 122)

/-- `[A-Za-z0-9][A-Za-z0-9_.@:-]{0,14}` -/
def isIfaceName : PyStr → Bool
  | [] => false
  | c :: rest => isAlnum c && decide (rest.length ≤ 14) && rest.all fun c => isAlnum c || c ∈ lit "_.@:-"

/-- `re.match(r"^..$", iface)`: `$` also matches before a newline at the end. -/
def validIface (iface : PyStr) : Bool :=
  isIfaceName iface || (iface.getLast? = some 10 && isIfaceName iface.dropLast)

/-- `radio_on`. -/
def radioOn (stdout : Option PyStr) : Option Bool :=
  stdout.map fun stdout => lowerWords (PyStr.strip stdout) = lit "enabled"

/-- `set_radio(True)`, which `connect` calls only where it is enabled. -/
def setRadioOn : Outcome → Except UplinkError Unit
  | .done => .ok ()
  | .raised exc => .error ⟨503, lit "nmcli 失敗：" ++ exc, none⟩
  | .failed stderr => .error ⟨502, (PyStr.strip stderr).take 200, none⟩

/-- `word in s` -/
def hasWord (word s : PyStr) : Bool := s.tails.any fun t => word.isPrefixOf t

/-- The message for what `nmcli` says. -/
def connectError (ssid stderr : PyStr) : UplinkError :=
  let detail := PyStr.strip stderr
  let low := lowerWords detail
  let msg :=
    if hasWord (lit "secrets were required") low || hasWord (lit "802-11-wireless-security") low
        || hasWord (lit "no key") low then lit "連線失敗：密碼錯誤或需要認證"
    else if hasWord (lit "not found") low || hasWord (lit "no network") low then
      lit "連線失敗：找不到 SSID " ++ ssid
    else lit "連線失敗"
  ⟨502, msg, some (detail.take 200)⟩

/-- What `dev wifi connect` has done: a device has gone down, or has come up with a profile, that
was there or is new. -/
inductive Move where
  | nothing
  | dropped (device : PyStr)
  | joined (device : PyStr) (profile : Profile)
  deriving DecidableEq

/-- The profile is there. -/
def Nm.save (nm : Nm) (p : Profile) : Nm :=
  if nm.profiles.any fun q => q.uuid = p.uuid then nm else { nm with profiles := nm.profiles ++ [p] }

def Nm.move (nm : Nm) : Move → Nm
  | .nothing => nm
  | .dropped device => nm.disconnect device
  | .joined device profile => (nm.save profile).activate device profile.uuid

/-- What comes of the commands of `connect`. -/
structure ConnectReplies where
  enabled : Bool := true
  /-- What `radio wifi` prints, if it succeeds. -/
  radio : Option PyStr := some (lit "enabled")
  setRadio : Outcome := .done
  connect : Outcome := .done
  move : Move
  reads : RouteReads := {}
  flag : FlagReplies := {}
  prune : PruneReplies := {}
  /-- The file of the pinned names. -/
  pinned : Option Value := none

/-- `{"ok": True, "ssid": .., "message": .., "history": ..}` -/
structure Connected where
  ssid : PyStr
  message : PyStr
  history : PruneResult
  deriving DecidableEq

/-- `connect` comes to `dev wifi connect`, or refuses. -/
def beforeConnect (r : ConnectReplies) (ssid : PyStr) (password iface : Option PyStr) :
    Except UplinkError Unit :=
  if !r.enabled then .error notEnabled
  else
    match validateSsid ssid with
    | some err => .error ⟨400, err, none⟩
    | none =>
      if password.any fun password => passwordMax < password.length || hasControl password then
        .error ⟨400, lit "密碼無效", none⟩
      else if iface.any fun iface => !validIface iface then .error ⟨400, lit "介面名稱無效", none⟩
      else if radioOn r.radio = some false then setRadioOn r.setRadio
      else .ok ()

/-- What `connect` does about the default route. A valid name is not empty. -/
def routeConnected (r : ConnectReplies) (nm : Nm) (iface : Option PyStr) : Nm :=
  match iface with
  | none => nm
  | some iface => (setDeviceNeverDefault r.flag nm iface (hasOtherPrimary r.reads nm iface)).1

/-- `connect`. -/
def connect (toInt : PyStr → Option Int) (r : ConnectReplies) (nm : Nm) (ssid : PyStr)
    (password iface : Option PyStr) : Nm × Except UplinkError Connected :=
  match beforeConnect r ssid password iface with
  | .error e => (nm, .error e)
  | .ok _ =>
    match r.connect with
    | .raised exc => (nm.move r.move, .error ⟨504, lit "連線逾時：" ++ exc, none⟩)
    | .failed stderr => (nm.move r.move, .error (connectError ssid stderr))
    | .done =>
      let (after, history) := promoteAndPruneWifi toInt r.prune (routeConnected r (nm.move r.move) iface)
        r.pinned ssid wifiHistoryKeep
      (after, .ok ⟨ssid, lit "已連線到 " ++ ssid, history⟩)

/-! ## `set_primary` -/

/-- What comes of the commands of `set_primary`. -/
structure PrimaryReplies where
  enabled : Bool := true
  status : Bool := true
  flag : PyStr → FlagReplies := fun _ => {}

/-- The other devices that are connected lose the default route. -/
def demoteRest (flag : PyStr → FlagReplies) (iface : PyStr) : Nm → List DeviceRow → Nm
  | nm, [] => nm
  | nm, d :: devices =>
    demoteRest flag iface
      (if d.device = iface || !deviceConnected d then nm
        else (setDeviceNeverDefault (flag d.device) nm d.device true).1) devices

/-- `set_primary`: its message. -/
def setPrimary (r : PrimaryReplies) (nm : Nm) (iface : PyStr) : Nm × Except UplinkError PyStr :=
  if !r.enabled then (nm, .error notEnabled)
  else if iface = [] || !validIface iface then (nm, .error ⟨400, lit "介面名稱無效", none⟩)
  else
    let devices := wifiDevices (if r.status then some nm.devStatus else none)
    match devices.find? fun d => d.device = iface with
    | none => (nm, .error ⟨404, lit "找不到 Wi-Fi 介面 " ++ iface, none⟩)
    | some target =>
      if !deviceConnected target then
        (nm, .error ⟨409, iface ++ lit " 尚未連線，無法設為主要上行", none⟩)
      else
        match setDeviceNeverDefault (r.flag iface) nm iface false with
        | (after, false) => (after, .error ⟨502, lit "設定主要上行失敗", none⟩)
        | (after, true) =>
          (demoteRest r.flag iface after devices, .ok (lit "已將 " ++ iface ++ lit " 設為主要上行"))

/-! ## `disconnect` -/

/-- What comes of the commands of `disconnect`. -/
structure DisconnectReplies where
  enabled : Bool := true
  status : Bool := true
  reply : Reply := .done
  text : PyStr := []

/-- The device that `disconnect` takes down: the first one, if none is named. -/
def disconnectTarget (r : DisconnectReplies) (nm : Nm) (iface : Option PyStr) : Option PyStr :=
  let first := (wifiDevices (if r.status then some nm.devStatus else none)).head?.map (·.device)
  ((iface.filter fun dev => dev ≠ []).or first).filter validIface

/-- `disconnect`: its message. -/
def disconnect (r : DisconnectReplies) (nm : Nm) (iface : Option PyStr) : Nm × Except UplinkError PyStr :=
  if !r.enabled then (nm, .error notEnabled)
  else
    match disconnectTarget r nm iface with
    | none => (nm, .error ⟨400, lit "找不到 Wi-Fi 介面", none⟩)
    | some dev =>
      let after := if r.reply.carriedOut then nm.disconnect dev else nm
      match r.reply with
      | .timedOut _ => (after, .error ⟨503, lit "nmcli 失敗：" ++ r.text, none⟩)
      | .failed => (after, .error ⟨502, (PyStr.strip r.text).take 200, none⟩)
      | .done => (after, .ok (dev ++ lit " 已斷線"))

/-! ## Runs -/

/-- A call, and what comes of its commands. -/
inductive UplinkCall where
  | connect (r : ConnectReplies) (ssid : PyStr) (password iface : Option PyStr)
  | setPrimary (r : PrimaryReplies) (iface : PyStr)
  | disconnect (r : DisconnectReplies) (iface : Option PyStr)

/-- NetworkManager after the call, and whether it returned ok. -/
def UplinkCall.run (toInt : PyStr → Option Int) (nm : Nm) : UplinkCall → Nm × Bool
  | .connect r ssid password iface =>
    let (after, result) := Console.connect toInt r nm ssid password iface
    (after, result.isOk)
  | .setPrimary r iface =>
    let (after, result) := Console.setPrimary r nm iface
    (after, result.isOk)
  | .disconnect r iface =>
    let (after, result) := Console.disconnect r nm iface
    (after, result.isOk)

/-- NetworkManager after the call. -/
def uplinkStep (toInt : PyStr → Option Int) (nm : Nm) (call : UplinkCall) : Nm := (call.run toInt nm).1

end EdgeSensor.Console
