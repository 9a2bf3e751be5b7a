import EdgeSensor.Vpn.Supervisor
import EdgeSensor.Lib.SharedTemp
import EdgeSensor.Py.Number

/-!
# VPN commands from the console (`services/edge-console/src/vpn_service.py`)

`connect`, `disconnect` and `set_auto_reconnect` read `desired.json`, make the next one from
it, write that to `desired.json.tmp` and rename it. The web server runs requests in threads of
a pool; nothing keeps them apart.

A request is a party with a phase; `ConsoleRun.step` is the next step of one. `Request.exec`
is the same request in one go.

Mirroring notes:
- `desired.json` is a JSON value; one that is missing or cannot be parsed is `none`.
- Of a file of credentials it matters that it is there.
- `int` of a text or a float is as Python has it, by `NumberText`.
- The disk does what it is told. Profiles neither come nor go.
-/

namespace EdgeSensor.Vpn

open EdgeSensor.Lib EdgeSensor.Py

/-- What `int` makes of a float, by its text, and of digits beyond ASCII. -/
structure NumberText where
  tables : UnicodeTables
  truncate : String → Option Int

/-- `int(x)`, `none` where it raises. -/
def NumberText.toInt (text : NumberText) : Json → Option Int
  | .int n => some n
  | .bool b => some (if b then 1 else 0)
  | .float x => text.truncate x
  | .str s => readInt text.tables s.toList
  | _ => none

/-- `int(prev.get("epoch") or 0)`. -/
def NumberText.epoch (text : NumberText) (desired : Obj) : Option Int :=
  if (desired.get "epoch").truthy then text.toInt (desired.get "epoch") else some 0

/-- What a request asks for. -/
inductive Command where
  | connect (profile : String) (redirectGateway autoReconnect : Bool)
      (username password : Option String)
  | setAutoReconnect (on : Bool)
  | disconnect

/-- A request, and its clock. -/
structure Request where
  command : Command
  now : String

/-- The console: `EDGE_CONSOLE_VPN_ADMIN`, the profiles, and `int`. -/
structure VpnConsole where
  admin : Bool := true
  profiles : ProfileDir
  text : NumberText

/-- `desired.json` and the files of credentials, by profile. -/
structure VpnFiles where
  desired : Option Json
  auth : String → Option String

/-- `_read_json(_desired_path())`; what is not an object has no `get`. -/
def VpnFiles.readDesired (files : VpnFiles) : Option Obj :=
  match files.desired with
  | none => some []
  | some (.obj fields) => some fields
  | some _ => none

/-! ## A request -/

/-- `{"ok": False, "status": status, "error": error}`. -/
def refusal (status : Int) (error : String) : Obj :=
  [("ok", .bool false), ("status", .int status), ("error", .str error)]

/-- `_valid_name`. -/
def validName (name : String) : Bool :=
  name ≠ "" && matchesProfile name && !(name.toList.zip name.toList.tail).contains ('.', '.')

/-- `_profile_file`; whether there is such a file is another matter. -/
def VpnConsole.hasPath (console : VpnConsole) (name : String) : Bool :=
  validName name && console.profiles.isInside name

/-- A username or password that is refused: `_CTRL_RE`, `_CRED_MAX`. -/
def badCredential (value : String) : Bool :=
  value.toList.any (fun c => c.toNat ≤ 8 || c.toNat = 11 || c.toNat = 12
    || (14 ≤ c.toNat && c.toNat ≤ 31) || c.toNat = 127) || 256 < value.length

/-- `username or password`, by their texts. -/
def hasCredentials (username password : Option String) : Bool :=
  username.getD "" ≠ "" || password.getD "" ≠ ""

/-- `connect` stores credentials for the profile. -/
def Command.stores (profile : String) : Command → Bool
  | .connect name _ _ username password => name = profile && hasCredentials username password
  | _ => false

/-- A new epoch comes with the command. -/
def Command.bumps : Command → Bool
  | .connect .. => true
  | .setAutoReconnect _ => false
  | .disconnect => true

/-- What is refused before anything is looked up. -/
def VpnConsole.check (console : VpnConsole) (command : Command) : Option Obj :=
  if !console.admin then
    some (refusal 403 "VPN 控制未啟用（請設定 EDGE_CONSOLE_VPN_ADMIN=true 並重啟 Console）")
  else
    match command with
    | .connect profile _ _ username password =>
      if !console.hasPath profile then some (refusal 400 "設定檔名稱無效")
      else if !console.profiles.isFile profile then some (refusal 404 ("找不到設定檔 " ++ profile))
      else if badCredential (username.getD "") then some (refusal 400 "帳號格式無效")
      else if badCredential (password.getD "") then some (refusal 400 "密碼格式無效")
      else none
    | _ => none

/-- The credentials are stored, or looked for: `use_auth`, and the files. -/
def Command.lookUp (command : Command) (auth : String → Option String) :
    Bool × (String → Option String) :=
  match command with
  | .connect profile _ _ username password =>
    if hasCredentials username password then
      (true, Function.update auth profile
        (some (username.getD "" ++ "\n" ++ password.getD "" ++ "\n")))
    else ((auth profile).isSome, auth)
  | _ => (false, auth)

/-- The next `desired.json`, by the one that was read; `none` where `int` raises. -/
def Request.payload (text : NumberText) (r : Request) (useAuth : Bool) (prev : Obj) : Option Obj :=
  match r.command with
  | .connect profile redirectGateway autoReconnect _ _ =>
    (text.epoch prev).map fun epoch =>
      [ ("connect", .bool true), ("profile", .str profile),
        ("redirect_gateway", .bool redirectGateway), ("auth", .bool useAuth),
        ("auto_reconnect", .bool autoReconnect), ("epoch", .int (epoch + 1)),
        ("updated_at", .str r.now) ]
  | .setAutoReconnect on =>
    some (Dict.set (Dict.set prev "auto_reconnect" (.bool on)) "updated_at" (.str r.now))
  | .disconnect =>
    (text.epoch prev).map fun epoch =>
      [ ("connect", .bool false), ("profile", prev.get "profile"), ("epoch", .int (epoch + 1)),
        ("updated_at", .str r.now) ]

/-- What is returned in the end. -/
def Request.reply (r : Request) (payload : Obj) : Obj :=
  match r.command with
  | .connect profile _ _ _ _ =>
    [ ("ok", .bool true), ("profile", .str profile), ("epoch", payload.get "epoch"),
      ("message", .str ("已要求連線 " ++ profile ++ "（背景建立中）")) ]
  | .setAutoReconnect on =>
    [ ("ok", .bool true), ("auto_reconnect", .bool on),
      ("message", .str (if on then "已啟用斷線自動重連" else "已停用斷線自動重連（連線中斷後不會自動重連）")) ]
  | .disconnect => [("ok", .bool true), ("message", .str "已要求中斷連線")]

/-- What is said where `desired.json.tmp` cannot be renamed. -/
def Command.writeError : Command → String
  | .connect .. => "寫入連線指令失敗："
  | .setAutoReconnect _ => "寫入設定失敗："
  | .disconnect => "寫入中斷指令失敗："

/-- The text of the exception of `os.replace` for a file that is gone. -/
def noTempFile : String :=
  "[Errno 2] No such file or directory: " ++
    "'/data/agent/vpn/desired.json.tmp' -> '/data/agent/vpn/desired.json'"

/-- The request in one go: the files afterwards. One that is refused or raises replaces nothing. -/
def Request.exec (console : VpnConsole) (files : VpnFiles) (r : Request) : VpnFiles :=
  match console.check r.command with
  | some _ => files
  | none =>
    let looked := r.command.lookUp files.auth
    match files.readDesired.bind (r.payload console.text looked.1) with
    | none => { files with auth := looked.2 }
    | some payload => { desired := some (.obj payload), auth := looked.2 }

/-! ## Requests at once -/

/-- Where a request is. -/
inductive RequestPhase where
  | enter
  | read (useAuth : Bool)
  | write (useAuth : Bool) (prev payload : Obj)
  | replace (useAuth : Bool) (prev payload : Obj)
  | accepted (reply payload : Obj)
  /-- Refused with this reply, or ended by an exception. -/
  | failed (reply : Option Obj)

/-- Requests, any number of them, and the files they share. -/
structure ConsoleRun (ι : Type) where
  phase : ι → RequestPhase := fun _ => .enter
  files : VpnFiles
  temp : Option Json

section Step

variable {ι : Type} [DecidableEq ι]

/-- The request `p` goes on to `phase`. -/
def ConsoleRun.goto (s : ConsoleRun ι) (p : ι) (phase : RequestPhase) : ConsoleRun ι :=
  { s with phase := Function.update s.phase p phase }

/-- The next step of a request; one that has returned makes none. -/
def ConsoleRun.step (console : VpnConsole) (requests : ι → Request) (s : ConsoleRun ι) (p : ι) :
    ConsoleRun ι :=
  match s.phase p with
  | .enter =>
    match console.check (requests p).command with
    | some reply => s.goto p (.failed (some reply))
    | none =>
      let looked := (requests p).command.lookUp s.files.auth
      { s.goto p (.read looked.1) with files := { s.files with auth := looked.2 } }
  | .read useAuth =>
    match s.files.readDesired with
    | none => s.goto p (.failed none)
    | some prev =>
      match (requests p).payload console.text useAuth prev with
      | none => s.goto p (.failed none)
      | some payload => s.goto p (.write useAuth prev payload)
  | .write useAuth prev payload =>
    { s.goto p (.replace useAuth prev payload) with temp := some (.obj payload) }
  | .replace _ _ payload =>
    match s.temp with
    | none =>
      s.goto p (.failed (some (refusal 500 ((requests p).command.writeError ++ noTempFile))))
    | some content =>
      { s.goto p (.accepted ((requests p).reply payload) payload) with
        files := { s.files with desired := some content }, temp := none }
  | .accepted _ _ => s
  | .failed _ => s

end Step

/-! ## What a request makes of what it read -/

section Payload

variable {text : NumberText} {r : Request} {useAuth : Bool} {prev payload : Obj}

theorem epoch_congr {o o' : Obj} (h : o.get "epoch" = o'.get "epoch") : text.epoch o = text.epoch o' := by
  unfold NumberText.epoch
  rw [h]

theorem epoch_of_get {o : Obj} {n : Int} (h : o.get "epoch" = .int n) : text.epoch o = some n := by
  unfold NumberText.epoch
  rw [h]
  by_cases hn : n = 0
  · rw [hn]
    rfl
  · rw [if_pos (show (Json.int n).truthy = true from decide_eq_true hn)]
    rfl

/-- A command with a new epoch: it follows the one that was read. -/
theorem payload_epoch (hbumps : r.command.bumps = true)
    (h : r.payload text useAuth prev = some payload) :
    ∃ e, text.epoch prev = some e ∧ text.epoch payload = some (e + 1) := by
  unfold Request.payload at h
  cases hcommand : r.command with
  | connect profile redirectGateway autoReconnect username password =>
    rw [hcommand] at h
    obtain ⟨e, he, rfl⟩ := Option.map_eq_some_iff.mp h
    exact ⟨e, he, epoch_of_get rfl⟩
  | setAutoReconnect on =>
    rw [hcommand] at hbumps
    cases hbumps
  | disconnect =>
    rw [hcommand] at h
    obtain ⟨e, he, rfl⟩ := Option.map_eq_some_iff.mp h
    exact ⟨e, he, epoch_of_get rfl⟩

/-- What `set_auto_reconnect` makes of an object. -/
def withAutoReconnect (on : Bool) (now : String) (o : Obj) : Obj :=
  Dict.set (Dict.set o "auto_reconnect" (.bool on)) "updated_at" (.str now)

/-- A command without a new epoch is `set_auto_reconnect`. -/
theorem payload_keeps (hkeeps : r.command.bumps = false) :
    ∃ on, ∀ (useAuth : Bool) (prev : Obj),
      r.payload text useAuth prev = some (withAutoReconnect on r.now prev) := by
  unfold Request.payload
  cases hcommand : r.command with
  | connect profile redirectGateway autoReconnect username password =>
    rw [hcommand] at hkeeps
    cases hkeeps
  | setAutoReconnect on => exact ⟨on, fun _ _ => rfl⟩
  | disconnect =>
    rw [hcommand] at hkeeps
    cases hkeeps

theorem withAutoReconnect_get {on : Bool} {now key : String} {o : Obj} (hauto : "auto_reconnect" ≠ key)
    (hat : "updated_at" ≠ key) : (withAutoReconnect on now o).get key = o.get key := by
  unfold withAutoReconnect
  rw [Obj.get_set_ne _ _ hat, Obj.get_set_ne _ _ hauto]

/-- `set_auto_reconnect` changes neither the connection, nor its profile, nor the epoch. -/
theorem withAutoReconnect_frame (on : Bool) (now : String) (o : Obj) :
    (withAutoReconnect on now o).get "connect" = o.get "connect"
      ∧ (withAutoReconnect on now o).get "profile" = o.get "profile"
      ∧ text.epoch (withAutoReconnect on now o) = text.epoch o :=
  ⟨withAutoReconnect_get (by decide) (by decide), withAutoReconnect_get (by decide) (by decide),
    epoch_congr (withAutoReconnect_get (by decide) (by decide))⟩

/-- What `set_auto_reconnect` has changed in between, a request does not see. -/
theorem payload_withAutoReconnect (on : Bool) (now : String) :
    r.payload text useAuth (withAutoReconnect on now prev) = r.payload text useAuth prev := by
  obtain ⟨-, hprofile, hepoch⟩ := @withAutoReconnect_frame text on now prev
  unfold Request.payload
  cases r.command with
  | connect profile redirectGateway autoReconnect username password =>
    simp only
    rw [hepoch]
  | setAutoReconnect on' =>
    simp only [withAutoReconnect]
    have hthere : Dict.get? (Dict.set prev "auto_reconnect" (.bool on)) "auto_reconnect" ≠ none := by
      rw [Dict.get?_set_self]
      exact Option.some_ne_none _
    rw [← Dict.set_comm_of_get? (by decide) hthere, Dict.set_set, Dict.set_set]
  | disconnect =>
    simp only
    rw [hepoch, hprofile]

/-- The objects are the same but for what they say of the credentials. -/
def ButAuth (o o' : Obj) : Prop :=
  Dict.get? o' "auth" ≠ none ∧ ∃ x, o = Dict.set o' "auth" x

theorem ButAuth.get {o o' : Obj} (h : ButAuth o o') {key : String} (hkey : "auth" ≠ key) :
    o.get key = o'.get key := by
  obtain ⟨-, x, rfl⟩ := h
  exact Obj.get_set_ne o' x hkey

/-- A command with a new epoch does not see what an object says of the credentials. -/
theorem payload_butAuth {o o' : Obj} (h : ButAuth o o') (hbumps : r.command.bumps = true) :
    r.payload text useAuth o = r.payload text useAuth o' := by
  have hepoch : text.epoch o = text.epoch o' := epoch_congr (h.get (by decide))
  unfold Request.payload
  cases hcommand : r.command with
  | connect profile redirectGateway autoReconnect username password =>
    simp only
    rw [hepoch]
  | setAutoReconnect on =>
    rw [hcommand] at hbumps
    cases hbumps
  | disconnect =>
    simp only
    rw [hepoch, h.get (by decide)]

theorem ButAuth.withAutoReconnect {o o' : Obj} (h : ButAuth o o') (on : Bool) (now : String) :
    ButAuth (withAutoReconnect on now o) (withAutoReconnect on now o') := by
  obtain ⟨hthere, x, rfl⟩ := h
  have hthere' : Dict.get? (Dict.set o' "auto_reconnect" (.bool on)) "auth" ≠ none := by
    rw [Dict.get?_set_ne _ _ (by decide)]
    exact hthere
  refine ⟨?_, x, ?_⟩
  · unfold Vpn.withAutoReconnect
    rw [Dict.get?_set_ne _ _ (by decide)]
    exact hthere'
  · unfold Vpn.withAutoReconnect
    rw [Dict.set_comm_of_get? (by decide) hthere, Dict.set_comm_of_get? (by decide) hthere']

/-- What a request found of the credentials shows in one place at most. -/
theorem payload_useAuth (h : r.payload text useAuth prev = some payload) (useAuth' : Bool) :
    ∃ payload', r.payload text useAuth' prev = some payload'
      ∧ (payload = payload' ∨ ButAuth payload payload') := by
  unfold Request.payload at h ⊢
  cases hcommand : r.command with
  | connect profile redirectGateway autoReconnect username password =>
    rw [hcommand] at h
    obtain ⟨e, he, rfl⟩ := Option.map_eq_some_iff.mp h
    refine ⟨_, Option.map_eq_some_iff.mpr ⟨e, he, rfl⟩, .inr ⟨?_, .bool useAuth, rfl⟩⟩
    exact Option.some_ne_none (Json.bool useAuth')
  | setAutoReconnect on =>
    rw [hcommand] at h
    exact ⟨payload, h, .inl rfl⟩
  | disconnect =>
    rw [hcommand] at h
    exact ⟨payload, h, .inl rfl⟩

end Payload

section Alone

variable {ι : Type} [DecidableEq ι] {console : VpnConsole} {requests : ι → Request}
  {s : ConsoleRun ι} {p : ι}

theorem goto_phase_self {phase : RequestPhase} : (s.goto p phase).phase p = phase :=
  Function.update_self ..

theorem goto_phase_other {phase : RequestPhase} {q : ι} (h : q ≠ p) :
    (s.goto p phase).phase q = s.phase q :=
  Function.update_of_ne h _ _

/-- **Four steps of one request and of no other are the request in one go.** -/
theorem alone_exec (hphase : s.phase p = .enter) :
    ((List.replicate 4 p).foldl (ConsoleRun.step console requests) s).files
      = (requests p).exec console s.files := by
  unfold Request.exec
  cases hcheck : console.check (requests p).command with
  | some reply => simp [ConsoleRun.step, ConsoleRun.goto, List.replicate_succ, hphase, hcheck]
  | none =>
    cases hread : s.files.readDesired with
    | none =>
      have hread' : ∀ auth, ({ s.files with auth := auth } : VpnFiles).readDesired = none :=
        fun _ => hread
      simp [ConsoleRun.step, ConsoleRun.goto, List.replicate_succ, hphase, hcheck, hread']
    | some prev =>
      have hread' : ∀ auth, ({ s.files with auth := auth } : VpnFiles).readDesired = some prev :=
        fun _ => hread
      cases hpayload : (requests p).payload console.text
          ((requests p).command.lookUp s.files.auth).1 prev with
      | none =>
        simp [ConsoleRun.step, ConsoleRun.goto, List.replicate_succ, hphase, hcheck, hread', hpayload]
      | some payload =>
        simp [ConsoleRun.step, ConsoleRun.goto, List.replicate_succ, hphase, hcheck, hread', hpayload]

end Alone

end EdgeSensor.Vpn
