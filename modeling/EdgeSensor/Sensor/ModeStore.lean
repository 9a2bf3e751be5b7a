import EdgeSensor.Lib.StampStore
import EdgeSensor.Py.Text

/-!
# The operational mode store

`src/policy/operational_mode_store.py`. Asking for the mode is a poll: every access
goes through `maybe_reload` first, so the mode may change between two accesses made
for one packet.

Mirroring notes:
- A mode that is missing, empty or not one of the four falls back to the default,
  which is `listen` for every store the pipeline builds.
- The other keys of the artifact matter only for the `changed` flag.
-/

namespace EdgeSensor.Sensor

open EdgeSensor.Lib EdgeSensor.Py

/-- `VALID_MODES`. -/
inductive Mode where
  | listen
  | learning
  | detect
  | idle
  deriving DecidableEq, Repr

/-- The mode a configured string names, if it names one. -/
def Mode.ofString (s : String) : Option Mode :=
  if s = "listen" then some .listen
  else if s = "learning" then some .learning
  else if s = "detect" then some .detect
  else if s = "idle" then some .idle
  else none

/-- The mode file: its `mode` key as text, and everything else in it. -/
structure ModeArtifact where
  mode : Option String := none
  other : List (String × String) := []
  deriving DecidableEq

def defaultMode : Mode := .listen

/-- The mode the store's artifact stands for. -/
def currentMode (store : StampStore ModeArtifact) : Mode :=
  match (store.artifact.bind (·.mode)).filter (· ≠ "") with
  | none => defaultMode
  | some raw => (Mode.ofString (lower (strip raw))).getD defaultMode

/-- `OperationalModeStore.mode`: poll, then read. -/
def readMode (store : StampStore ModeArtifact) (r : Reading ModeArtifact) :
    StampStore ModeArtifact × Mode :=
  let polled := (store.maybeReload false r).1
  (polled, currentMode polled)

/-- `OperationalModeStore.__init__`. -/
def ModeStore.init (reloadCheckSec : Rat) (r : Reading ModeArtifact) : StampStore ModeArtifact :=
  (StampStore.maybeReload { reloadCheckSec := reloadCheckSec } true r).1

end EdgeSensor.Sensor
