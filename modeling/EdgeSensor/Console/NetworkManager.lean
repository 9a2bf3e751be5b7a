import EdgeSensor.Console.Nmcli

/-!
# NetworkManager, as `wifi_service.py` drives it

The devices and the saved profiles of the host, what `nmcli` prints of them, and what its commands
do. A profile is active on one device at most.

Mirroring notes:
- A command that succeeds has done what it says, one that fails has done nothing, and one that runs
  into the timeout has been carried out or not. `nmcli` missing is a timeout with nothing done.
- `never-default` is set for IPv4 and IPv6 in one command, and the one for IPv4 is read.
- Nothing happens in between: no device connects or drops of itself.
-/

namespace EdgeSensor.Console

open EdgeSensor.Py

/-- A saved connection. -/
structure Profile where
  uuid : PyStr
  name : PyStr
  type : PyStr
  /-- Of the last activation, as it is printed. -/
  timestamp : PyStr
  autoconnect : Bool := true
  priority : Int := 0
  neverDefault : Bool := false
  deriving DecidableEq

/-- `802-11-wireless` -/
def Profile.isWifi (p : Profile) : Bool := p.type = lit "802-11-wireless"

/-- A device, and the profile that is active on it. -/
structure Device where
  name : PyStr
  type : PyStr
  state : PyStr
  active : Option PyStr := none
  deriving DecidableEq

structure Nm where
  devices : List Device
  profiles : List Profile
  deriving DecidableEq

/-- What comes of a command that changes something. -/
inductive Reply where
  | done
  | failed
  | timedOut (carriedOut : Bool)
  deriving DecidableEq, Repr

/-- The command has had its effect. -/
def Reply.carriedOut : Reply → Bool
  | .done => true
  | .failed => false
  | .timedOut carriedOut => carriedOut

namespace Nm

/-! ## What is printed -/

/-- `-f NAME,UUID,TYPE,TIMESTAMP connection show` -/
def showSaved (nm : Nm) : PyStr :=
  terseTable (nm.profiles.map fun p => p.name :: [p.uuid, p.type, p.timestamp])

/-- The profile that is active on a device. -/
def activeProfile (nm : Nm) (d : Device) : Option Profile :=
  d.active.bind fun uuid => nm.profiles.find? fun p => p.uuid = uuid

/-- `-f DEVICE,TYPE,STATE,CONNECTION dev status` -/
def devStatus (nm : Nm) : PyStr :=
  terseTable (nm.devices.map fun d =>
    [d.name, d.type, d.state] ++ [((nm.activeProfile d).map (·.name)).getD []])

/-- `-f NAME,DEVICE connection show --active` -/
def showActive (nm : Nm) : PyStr :=
  terseTable (nm.devices.filterMap fun d => (nm.activeProfile d).map fun p => p.name :: [d.name])

/-- The profile that a command takes by its name. -/
def named (nm : Nm) (conn : PyStr) : Option Profile := nm.profiles.find? fun p => p.name = conn

/-- `-f ipv4.never-default connection show CONN`: fails for a name that no profile has. -/
def showNeverDefault (nm : Nm) (conn : PyStr) : Option PyStr :=
  (nm.named conn).map fun p =>
    lit "ipv4.never-default:" ++ (if p.neverDefault then lit "yes" else lit "no") ++ [10]

/-! ## What is done -/

/-- A profile is modified. -/
def modify (nm : Nm) (uuid : PyStr) (f : Profile → Profile) : Nm :=
  { nm with profiles := nm.profiles.map fun p => if p.uuid = uuid then f p else p }

/-- A device goes down. -/
def Device.down (d : Device) : Device := { d with state := lit "disconnected", active := none }

/-- `dev disconnect`. -/
def disconnect (nm : Nm) (device : PyStr) : Nm :=
  { nm with devices := nm.devices.map fun d => if d.name = device then Device.down d else d }

/-- `connection delete`: the devices on which the profile is active go down. -/
def delete (nm : Nm) (uuid : PyStr) : Nm where
  devices := nm.devices.map fun d => if d.active = some uuid then Device.down d else d
  profiles := nm.profiles.filter fun p => p.uuid ≠ uuid

/-- A profile becomes active on a device, and leaves the one it was active on. -/
def activate (nm : Nm) (device uuid : PyStr) : Nm :=
  { nm with devices := nm.devices.map fun d =>
      if d.name = device then { d with state := lit "connected", active := some uuid }
      else if d.active = some uuid then Device.down d else d }

end Nm

end EdgeSensor.Console
