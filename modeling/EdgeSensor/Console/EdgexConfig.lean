import EdgeSensor.Py.Lines
import EdgeSensor.Py.Regex
import Mathlib.Data.List.Infix
import Mathlib.Data.List.Lex
import Mathlib.Data.List.Sort

/-!
# EdgeX device files (`edgex_config_service.py`)

A device is a YAML file that the console writes by formatting strings, and reads back by a
regular expression, line by line: `list_config_devices` and `delete_config_device` know a device by the
lines that `_parse_names` takes for one.

Mirroring notes:
- A payload is anybody's JSON object. What `str` and `int` make of a value is the parameter
  `ConfigText`.
- A file is its characters, decoded; one may also be no UTF-8, or not be read at all.
- `write_text` empties the file before it encodes the text.
- The disk does what it is told. What docker says is the parameter `DockerHost`.
-/

namespace EdgeSensor.Console

open EdgeSensor.Lib EdgeSensor.Py EdgeSensor.Py.Regex

/-- Python's conversions to text and to a number. -/
structure ConfigText extends Value.Text where
  toInt : Value → Except PyErr Int

/-- What leaves the functions as an exception. -/
inductive ConfigError where
  | valueError (msg : PyStr)
  | unicodeDecodeError
  | unicodeEncodeError
  | osError
  | other (e : PyErr)

/-! ## Names -/

def isLetterPoint (c : Nat) : Bool := (65 ≤ c && c ≤ 90) || (97 ≤ c && c ≤ 122)

/-- `[a-zA-Z0-9_-]` -/
def isNamePoint (c : Nat) : Bool :=
  isLetterPoint c || (48 ≤ c && c ≤ 57) || c == 95 || c == 45

/-- `[a-zA-Z][a-zA-Z0-9_-]{0,62}`, for a whole text. -/
def fitsName : PyStr → Bool
  | [] => false
  | c :: s => isLetterPoint c && s.all isNamePoint && s.length ≤ 62

/-- `_NAME_RE.match(name)`; its `$` matches before a final newline as well. -/
def matchesName (name : PyStr) : Bool :=
  fitsName name || (name.getLast? = some 10 && fitsName name.dropLast)

/-- `_validate_name`. -/
def validateName (name : PyStr) : Except ConfigError PyStr :=
  if matchesName name.strip then .ok name.strip
  else .error (.valueError (lit "設備名稱須為英數、-、_，且以字母開頭"))

/-! ## The directory -/

/-- What is in a file. -/
inductive ConfigFile where
  | text (s : PyStr)
  | notUtf8
  | unreadable

/-- `path.read_text(encoding="utf-8")`. -/
def ConfigFile.readText : ConfigFile → Except ConfigError PyStr
  | .text s => .ok (universalNewlines s)
  | .notUtf8 => .error .unicodeDecodeError
  | .unreadable => .error .osError

/-- The directory of device files, in the order in which `glob` finds them. -/
structure DevicesDir where
  path : PyStr := lit "/config/edgex/devices"
  isDir : Bool := true
  writable : Bool := true
  files : Dict PyStr ConfigFile := []
  distinct : (files.map Prod.fst).Nodup := by exact .nil

namespace DevicesDir

/-- `devices_dir.glob("*" + suffix)`. -/
def glob (dir : DevicesDir) (suffix : String) : List PyStr :=
  (dir.files.map Prod.fst).filter fun file => lit suffix <:+ file

/-- `path.read_text(encoding="utf-8")`; a file that is gone cannot be read. -/
def readText (dir : DevicesDir) (file : PyStr) : Except ConfigError PyStr :=
  ((Dict.get? dir.files file).getD .unreadable).readText

/-- `path.unlink(missing_ok=True)`. -/
def unlink (dir : DevicesDir) (file : PyStr) : DevicesDir :=
  { dir with
    files := dir.files.filter fun entry => entry.1 ≠ file
    distinct := dir.distinct.sublist (List.filter_sublist.map _) }

/-- The file with these characters in it. -/
def put (dir : DevicesDir) (file : PyStr) (content : ConfigFile) : DevicesDir :=
  { dir with
    files := Dict.set dir.files file content
    distinct := Dict.nodup_set dir.distinct file content }

/-- `sorted(devices_dir.glob("*.yaml")) + sorted(devices_dir.glob("*.yml"))`. -/
def sortedFiles (dir : DevicesDir) : List PyStr :=
  (dir.glob ".yaml").mergeSort (fun a b => decide (a ≤ b))
    ++ (dir.glob ".yml").mergeSort fun a b => decide (a ≤ b)

end DevicesDir

/-! ## Reading devices -/

/-- `^\s+-\s+name:\s+` and the pattern of a name, and `\s*$`. -/
def deviceLine (name : Regex) : Regex :=
  .seq .lineStart (.seq (plus true isSpacePoint) (.seq (word "-") (.seq (plus true isSpacePoint)
    (.seq (word "name:") (.seq (plus true isSpacePoint) (.seq name
      (.seq (.many true isSpacePoint) .lineEnd)))))))

/-- `^\s+-\s+name:\s+(\S+)\s*$` -/
def anyDevice : Regex := deviceLine (.group 1 (plus true fun c => !isSpacePoint c))

/-- `^\s+-\s+name:\s+{re.escape(safe)}\s*$` -/
def deviceNamed (safe : PyStr) : Regex := deviceLine (classes (safe.map fun c x => c == x))

/-- The names in a text. -/
def namesIn (text : PyStr) : List PyStr := findall anyDevice text

/-- `_parse_names`: of a file that cannot be read there are none. -/
def parseNames (dir : DevicesDir) (file : PyStr) : Except ConfigError (List PyStr) :=
  match dir.readText file with
  | .ok text => .ok (namesIn text)
  | .error .osError => .ok []
  | .error e => .error e

/-- An item of `list_config_devices`. -/
structure ListedDevice where
  name : PyStr
  file : PyStr
  path : PyStr
  deriving DecidableEq

/-- What `list_config_devices` returns. -/
structure DeviceListing where
  devices : List ListedDevice
  configDir : PyStr
  writable : Bool

/-- `path.name.endswith(".example.yaml") or path.name.endswith(".example.yml")`. -/
def isExample (file : PyStr) : Bool := lit ".example.yaml" <:+ file || lit ".example.yml" <:+ file

/-- The items of one file. -/
def listFile (dir : DevicesDir) (file : PyStr) : Except ConfigError (List ListedDevice) :=
  if isExample file then .ok []
  else (parseNames dir file).map fun names =>
    names.map fun name => ⟨name, file, dir.path ++ lit "/" ++ file⟩

/-- `list_config_devices`. -/
def listConfigDevices (dir : DevicesDir) : Except ConfigError DeviceListing :=
  if !dir.isDir then .ok ⟨[], dir.path, false⟩
  else (dir.sortedFiles.mapM (listFile dir)).map fun items => ⟨items.flatten, dir.path, dir.writable⟩

/-! ## Writing a device -/

/-- Lines of a file. -/
def yaml (lines : List String) : PyStr := lines.flatMap fun line => lit line ++ [10]

/-- Up to the name. -/
def yamlHead : PyStr := yaml ["# Managed by SenseL EdgeX Console", "deviceList:"] ++ lit "  - name: "

/-- `_device_yaml_modbus`. -/
def deviceYamlModbus (name host : PyStr) (port unitId : Int) (interval : PyStr) : PyStr :=
  yamlHead ++ name ++ [10]
    ++ yaml ["    profileName: ModbusRelay", "    description: Modbus TCP device",
      "    adminState: UNLOCKED", "    operatingState: UP", "    labels: [ot, modbus]",
      "    protocols:", "      modbus-tcp:"]
    ++ lit "        Address: " ++ host ++ [10]
    ++ lit "        Port: \"" ++ lit (toString port) ++ lit "\"\n"
    ++ lit "        UnitID: \"" ++ lit (toString unitId) ++ lit "\"\n"
    ++ yaml ["        Timeout: \"5\"", "        IdleTimeout: \"5\"", "    autoEvents:"]
    ++ lit "      - interval: " ++ interval ++ [10]
    ++ yaml ["        onChange: false", "        sourceName: Status"]

/-- `_device_yaml_mqtt`. -/
def deviceYamlMqtt (name host : PyStr) (port : Int) (interval : PyStr) : PyStr :=
  yamlHead ++ name ++ [10]
    ++ yaml ["    profileName: FeatureSummary", "    description: MQTT feature bridge",
      "    adminState: UNLOCKED", "    operatingState: UP", "    serviceName: device-mqtt",
      "    labels: [ot, mqtt]", "    protocols:", "      mqtt:"]
    ++ lit "        CommandTopic: command/" ++ name ++ [10]
    ++ lit "        Host: " ++ host ++ [10]
    ++ lit "        Port: \"" ++ lit (toString port) ++ lit "\"\n"
    ++ lit "        ClientId: edgex-mqtt-" ++ name ++ [10]
    ++ yaml ["        QoS: \"0\"", "    autoEvents:"]
    ++ lit "      - interval: " ++ interval ++ [10]
    ++ yaml ["        onChange: false", "        sourceName: FeatureSummary"]

/-- `_device_yaml_opcua`. -/
def deviceYamlOpcua (name endpoint interval : PyStr) : PyStr :=
  yamlHead ++ name ++ [10]
    ++ yaml ["    profileName: OPCUASample", "    description: OPC UA device",
      "    adminState: UNLOCKED", "    operatingState: UP", "    serviceName: device-opc-ua",
      "    labels: [ot, opcua]", "    protocols:", "      opc-ua:"]
    ++ lit "        Endpoint: \"" ++ endpoint ++ lit "\"\n"
    ++ yaml ["        SecurityPolicy: \"None\"", "        SecurityMode: \"None\"",
      "        AuthMode: \"Anonymous\"", "    autoEvents:"]
    ++ lit "      - interval: " ++ interval ++ [10]
    ++ yaml ["        onChange: false", "        sourceName: AllResources"]

/-- `_device_yaml_s7`. -/
def deviceYamlS7 (name host : PyStr) (port rack slot : Int) (interval : PyStr) : PyStr :=
  yamlHead ++ name ++ [10]
    ++ yaml ["    profileName: S7Sample", "    description: Siemens S7 PLC",
      "    adminState: UNLOCKED", "    operatingState: UP", "    serviceName: device-s7",
      "    labels: [ot, s7]", "    protocols:", "      s7:"]
    ++ lit "        Host: \"" ++ host ++ lit "\"\n"
    ++ lit "        Port: \"" ++ lit (toString port) ++ lit "\"\n"
    ++ lit "        Rack: \"" ++ lit (toString rack) ++ lit "\"\n"
    ++ lit "        Slot: \"" ++ lit (toString slot) ++ lit "\"\n"
    ++ yaml ["        Timeout: \"30\"", "        IdleTimeout: \"30\"", "    autoEvents:"]
    ++ lit "      - interval: " ++ interval ++ [10]
    ++ yaml ["        onChange: false", "        sourceName: AllResource"]

/-- `_PROTOCOL_SPECS`. -/
inductive DeviceProtocol where
  | modbus
  | mqtt
  | opcua
  | s7
  deriving DecidableEq, Repr

namespace DeviceProtocol

def name : DeviceProtocol → String
  | .modbus => "modbus"
  | .mqtt => "mqtt"
  | .opcua => "opcua"
  | .s7 => "s7"

def service : DeviceProtocol → String
  | .modbus => "device-modbus"
  | .mqtt => "device-mqtt"
  | .opcua => "device-opc-ua"
  | .s7 => "device-s7"

def container : DeviceProtocol → String
  | .modbus => "edgex-device-modbus"
  | .mqtt => "edgex-device-mqtt"
  | .opcua => "edgex-device-opc-ua"
  | .s7 => "edgex-device-s7"

def filePrefix : DeviceProtocol → String
  | .modbus => "modbus"
  | .mqtt => "mqtt"
  | .opcua => "opcua"
  | .s7 => "s7"

def all : List DeviceProtocol := [.modbus, .mqtt, .opcua, .s7]

/-- `_PROTOCOL_SPECS.get(protocol)`. -/
def ofText (s : PyStr) : Option DeviceProtocol := all.find? fun protocol => lit protocol.name = s

end DeviceProtocol

section Upsert

variable (text : ConfigText)

/-- `str(payload.get(key) or default)`. -/
def textField (payload : Value) (key : String) (default : PyStr) : PyStr :=
  if (payload.get key).truthy then text.str (payload.get key) else default

/-- `int(payload.get(key) or default)`. -/
def intField (payload : Value) (key : String) (default : Int) : Except ConfigError Int :=
  if (payload.get key).truthy then (text.toInt (payload.get key)).mapError .other else .ok default

/-- What is written for a protocol. -/
def deviceContent (protocol : DeviceProtocol) (payload : Value) (name interval : PyStr) :
    Except ConfigError PyStr :=
  match protocol with
  | .modbus => do
    let host := textField text payload "host" (lit "modbus-simulator")
    let port ← intField text payload "port" 1502
    let unitId ← intField text payload "unit_id" 1
    return deviceYamlModbus name host port unitId interval
  | .mqtt => do
    let host := textField text payload "host" (lit "local-mqtt")
    let port ← intField text payload "port" 1883
    return deviceYamlMqtt name host port interval
  | .opcua => do
    let host := textField text payload "host" (lit "127.0.0.1")
    let port ← intField text payload "port" 4840
    let endpoint := textField text payload "endpoint"
      (lit "opc.tcp://" ++ host ++ lit ":" ++ lit (toString port))
    return deviceYamlOpcua name endpoint interval
  | .s7 => do
    let host := textField text payload "host" (lit "192.168.1.60")
    let port ← intField text payload "port" 102
    let rack ← intField text payload "rack" 0
    let slot ← intField text payload "slot" 1
    return deviceYamlS7 name host port rack slot interval

/-- A device that is about to be written. -/
structure DeviceDraft where
  protocol : DeviceProtocol
  name : PyStr
  content : PyStr

/-- `f"{spec['file_prefix']}-{name}.yaml"`. -/
def deviceFile (protocol : DeviceProtocol) (name : PyStr) : PyStr :=
  lit protocol.filePrefix ++ lit "-" ++ name ++ lit ".yaml"

def DeviceDraft.file (draft : DeviceDraft) : PyStr := deviceFile draft.protocol draft.name

/-- `upsert_config_device` up to `path.write_text`. -/
def draftDevice (dir : DevicesDir) (payload : Value) : Except ConfigError DeviceDraft :=
  let protocolText := text.lower (textField text payload "protocol" [])
  match DeviceProtocol.ofText protocolText with
  | none => .error (.valueError (lit "不支援的協定: " ++ protocolText))
  | some protocol => do
    let name ← validateName (textField text payload "name" [])
    let interval := textField text payload "interval" (lit "10s")
    if !dir.isDir then .error (.valueError (lit "config 目錄不存在: " ++ dir.path))
    else if !dir.writable then .error (.valueError (lit "config 目錄唯讀，無法寫入設備"))
    else do
      let content ← deviceContent text protocol payload name interval
      return ⟨protocol, name, content⟩

/-- What docker says of a container, and of an attempt to restart it. -/
structure DockerHost where
  running : String → Bool := fun _ => false
  restart : String → Except PyErr (Bool × String) := fun _ => .ok (true, "")

/-- What `upsert_config_device` returns. -/
structure UpsertedDevice where
  name : PyStr
  protocol : DeviceProtocol
  file : PyStr
  service : String
  restart : Option (Bool × String)

/-- From `path.write_text` on. -/
def writeDevice (docker : DockerHost) (dir : DevicesDir) (draft : DeviceDraft) :
    DevicesDir × Except ConfigError UpsertedDevice :=
  let file := draft.file
  if draft.content.encodable then
    let restarted := if docker.running draft.protocol.container then
        (docker.restart draft.protocol.container).map some
      else .ok none
    (dir.put file (.text draft.content), (restarted.mapError .other).map fun restart =>
      ⟨draft.name, draft.protocol, file, draft.protocol.service, restart⟩)
  else (dir.put file (.text []), .error .unicodeEncodeError)

/-- `upsert_config_device`: the directory afterwards, and what is returned. -/
def upsertConfigDevice (docker : DockerHost) (dir : DevicesDir) (payload : Value) :
    DevicesDir × Except ConfigError UpsertedDevice :=
  match draftDevice text dir payload with
  | .error e => (dir, .error e)
  | .ok draft => writeDevice docker dir draft

end Upsert

/-! ## Deleting a device -/

/-- The loop of `delete_config_device`; `removed` is the file that went last. -/
def deleteFrom (safe : PyStr) : List PyStr → DevicesDir → Option PyStr →
    DevicesDir × Except ConfigError (Option PyStr)
  | [], dir, removed => (dir, .ok removed)
  | file :: files, dir, removed =>
    match dir.readText file with
    | .error e => (dir, .error e)
    | .ok text =>
      if (search (deviceNamed safe) text).isNone then deleteFrom safe files dir removed
      else if (namesIn text).length ≤ 1 then deleteFrom safe files (dir.unlink file) (some file)
      else (dir, .error (.valueError (lit "多設備共用檔案，請手動編輯 YAML")))

/-- What `delete_config_device` returns. -/
inductive DeletedDevice where
  | removed (file name : PyStr)
  | notFound (error : PyStr)
  deriving DecidableEq

/-- `delete_config_device`. -/
def deleteConfigDevice (dir : DevicesDir) (name : PyStr) :
    DevicesDir × Except ConfigError DeletedDevice :=
  match validateName name with
  | .error e => (dir, .error e)
  | .ok safe =>
    let (after, result) := deleteFrom safe (dir.glob ".yaml" ++ dir.glob ".yml") dir none
    (after, result.map fun
      | some file => .removed file safe
      | none => .notFound (lit "找不到設備 " ++ safe))

end EdgeSensor.Console
