import EdgeSensor.Console.NetworkManager
import Mathlib.Data.List.Sort

/-!
# The order in which Wi-Fi networks are tried (`src/wifi_service.py`)

NetworkManager tries the saved profiles by their priority. The operator pins some, in an order, with
`set_wifi_priority`: they get 200, 199 and so on, and are never deleted. Of the others
`promote_and_prune_wifi` keeps the most recent few, with 100, 99 and so on, and deletes the rest.

Mirroring notes:
- The file of the pinned names is the value it holds; a write that fails leaves it as it was.
- `int` of a timestamp is a parameter. It decides which profiles are kept, not how many.
-/

namespace EdgeSensor.Console

open EdgeSensor.Py

def ssidMax : Nat := 64

def wifiHistoryKeep : Int := 3

def wifiPriorityBase : Int := 100

def wifiPinnedBase : Int := 200

def wifiPinnedMax : Nat := 10

/-- `_CTRL_RE.search(s)`. -/
def hasControl (s : PyStr) : Bool := s.any fun c => c ≤ 0x1F || c = 0x7F

/-- `_load_pinned`: the texts of the list in the file that are not empty. -/
def loadPinned (file : Option Value) : List PyStr :=
  match file with
  | none => []
  | some data =>
    let order := if data.isObj then data.get "order" else data
    match order with
    | .arr xs => xs.filterMap fun
      | .str s => if s = [] then none else some s
      | _ => none
    | _ => []

/-- What `_save_pinned` writes. -/
def pinnedFile (order : List PyStr) : Value := .obj [(lit "order", .arr (order.map .str))]

/-- A row of `_saved_wifi_connections`. -/
structure SavedRow where
  name : PyStr
  uuid : PyStr
  timestamp : Int
  deriving DecidableEq

section Service

variable (toInt : PyStr → Option Int)

/-- A line of `_saved_wifi_connections`. -/
def savedRow : List PyStr → Option SavedRow
  | name :: uuid :: type :: timestamp :: _ =>
    if type = lit "802-11-wireless" then some ⟨name, uuid, (toInt timestamp).getD 0⟩ else none
  | _ => none

/-- `_saved_wifi_connections`. -/
def savedWifiConnections (stdout : Option PyStr) : List SavedRow := readTable (savedRow toInt) stdout

/-! ## `promote_and_prune_wifi` -/

/-- What comes of its commands. -/
structure PruneReplies where
  /-- `connection show` succeeds. -/
  saved : Bool := true
  modify : PyStr → Reply := fun _ => .done
  delete : PyStr → Reply := fun _ => .done

structure PruneResult where
  kept : List PyStr := []
  deleted : List PyStr := []
  pinned : List PyStr := []
  deriving DecidableEq

/-- The order of the rows: the active network, then the most recent. -/
def recentFirst (activeSsid : PyStr) (a b : SavedRow) : Bool :=
  if decide (a.name = activeSsid) = decide (b.name = activeSsid) then b.timestamp ≤ a.timestamp
  else a.name = activeSsid

/-- The rows that are not pinned, in their order. -/
def unpinnedRows (pinned : List PyStr) (activeSsid : PyStr) (conns : List SavedRow) : List SavedRow :=
  (conns.filter fun c => c.name ∉ pinned).insertionSort fun a b => recentFirst activeSsid a b

/-- `connection modify UUID connection.autoconnect yes connection.autoconnect-priority PRIO`. -/
def setPriority (nm : Nm) (reply : Reply) (uuid : PyStr) (prio : Int) : Nm :=
  if reply.carriedOut then nm.modify uuid fun p => { p with autoconnect := true, priority := prio }
  else nm

/-- Rows get the priorities from `base` on downwards. -/
def setPriorities (modify : PyStr → Reply) (base : Int) : Nm → List SavedRow → Nm
  | nm, [] => nm
  | nm, c :: rows => setPriorities modify (base - 1) (setPriority nm (modify c.uuid) c.uuid base) rows

/-- Rows are deleted; the names of those whose command succeeds. -/
def deleteRows (delete : PyStr → Reply) : Nm → List SavedRow → Nm × List PyStr
  | nm, [] => (nm, [])
  | nm, c :: rows =>
    let after := if (delete c.uuid).carriedOut then nm.delete c.uuid else nm
    let (after, deleted) := deleteRows delete after rows
    (after, if delete c.uuid = .done then c.name :: deleted else deleted)

/-- `promote_and_prune_wifi`. -/
def promoteAndPruneWifi (r : PruneReplies) (nm : Nm) (file : Option Value) (activeSsid : PyStr)
    (keep : Int) : Nm × PruneResult :=
  if keep ≤ 0 then (nm, {})
  else
    let conns := savedWifiConnections toInt (if r.saved then some nm.showSaved else none)
    if conns = [] then (nm, {})
    else
      let pinned := loadPinned file
      let nonPinned := unpinnedRows pinned activeSsid conns
      let kept := nonPinned.take keep.toNat
      let pruned := nonPinned.drop keep.toNat
      let (after, deleted) :=
        deleteRows r.delete (setPriorities r.modify wifiPriorityBase nm kept) pruned
      (after, {
        kept := kept.map (·.name)
        deleted := deleted
        pinned := (conns.filter fun c => c.name ∈ pinned).map (·.name) })

/-! ## `set_wifi_priority` -/

/-- The rows by name, a later one in place of an earlier one. -/
def savedNamed (conns : List SavedRow) (ssid : PyStr) : Option SavedRow :=
  conns.reverse.find? fun c => c.name = ssid

/-- A row of `pinned_networks`. -/
structure PinnedNetwork where
  ssid : PyStr
  order : Nat
  lastConnectedTs : Option Int
  deriving DecidableEq

/-- `pinned_networks`. -/
def pinnedNetworks (conns : List SavedRow) (file : Option Value) : List PinnedNetwork :=
  (loadPinned file).zipIdx.filterMap fun (ssid, idx) =>
    (savedNamed conns ssid).map fun c =>
      ⟨ssid, idx + 1, if c.timestamp = 0 then none else some c.timestamp⟩

/-- The order as it is taken: texts, stripped, not empty nor too long, and each once. -/
def cleanedOrder (order : List Value) : List PyStr :=
  order.foldl (fun cleaned x =>
    match x with
    | .str s =>
      let s := PyStr.strip s
      if s = [] || ssidMax < s.length || hasControl s || s ∈ cleaned then cleaned
      else cleaned ++ [s]
    | _ => cleaned) []

/-- What comes of its commands and its write. -/
structure OrderReplies where
  saved : Bool := true
  modify : PyStr → Reply := fun _ => .done
  /-- The second `connection show`, for the answer. -/
  savedAfter : Bool := true
  /-- The file is written. -/
  written : Bool := true

/-- A refusal: its status and text. -/
structure WifiError where
  status : Nat
  error : String
  deriving DecidableEq, Repr

/-- `connection modify UUID connection.autoconnect-priority 0`, for the rows that are unpinned. -/
def unpin (modify : PyStr → Reply) : Nm → List SavedRow → Nm
  | nm, [] => nm
  | nm, c :: rows =>
    unpin modify
      (if (modify c.uuid).carriedOut then nm.modify c.uuid fun p => { p with priority := 0 } else nm) rows

/-- `set_wifi_priority`. -/
def setWifiPriority (enabled : Bool) (r : OrderReplies) (nm : Nm) (file : Option Value) (order : Value) :
    Nm × Option Value × Except WifiError (List PinnedNetwork) :=
  if !enabled then (nm, file, .error ⟨403, "Wi-Fi 控制未啟用"⟩)
  else
    match order with
    | .arr order =>
      let cleaned := cleanedOrder order
      if wifiPinnedMax < cleaned.length then
        (nm, file, .error ⟨400, s!"釘選數量上限為 {wifiPinnedMax}"⟩)
      else
        let conns := savedWifiConnections toInt (if r.saved then some nm.showSaved else none)
        let newOrder := cleaned.filter fun s => (savedNamed conns s).isSome
        let oldOrder := loadPinned file
        let nm := setPriorities r.modify wifiPinnedBase nm (newOrder.filterMap (savedNamed conns))
        let nm := unpin r.modify nm
          ((oldOrder.filter fun s => s ∉ newOrder).filterMap (savedNamed conns))
        let file := if r.written then some (pinnedFile newOrder) else file
        let after := savedWifiConnections toInt (if r.savedAfter then some nm.showSaved else none)
        (nm, file, .ok (pinnedNetworks after file))
    | _ => (nm, file, .error ⟨400, "順序格式無效"⟩)

end Service

end EdgeSensor.Console
