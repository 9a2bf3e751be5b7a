import EdgeSensor.Lib.Emitter
import EdgeSensor.Sensor.Mvp

/-!
# The IoC matcher

`src/detection/ioc.py` (OT-019): look both addresses of a packet up in the IoC
cache, one alert per indicator and direction inside a cooldown.

Mirroring notes:
- The cache is a hot-reloaded file of its own; `IocView` is what one lookup finds
  there, and the version and tenant that go into the event.
-/

namespace EdgeSensor.Sensor

open EdgeSensor.Lib EdgeSensor.Py EdgeSensor.Parser

/-- `IocEntry`, the fields an event uses. -/
structure IocEntry where
  itemId : String
  confidence : Option Int
  deriving DecidableEq, Repr

/-- The cache as one lookup sees it. -/
structure IocView where
  lookup : String → Option IocEntry
  artifactVersion : String := ""
  tenantId : String := ""

/-- `IocMatcher`. -/
structure IocMatcher where
  siteId : String
  sensorId : String
  policy : PolicyObj
  rulesEnabled : Finset String := ∅
  cooldownSec : Rat := 300
  eventSeq : Nat := 0
  lastAlert : Dict String Rat := []

namespace IocMatcher

/-- `f"{ioc_value}:{direction}"`. -/
def cooldownKey (ip : String) (direction : Direction) : String := s!"{ip}:{direction.name}"

/-- `_cooldown_active`. -/
def cooldownActive (m : IocMatcher) (key : String) (now : Rat) : Prop :=
  ∃ last ∈ m.lastAlert.get? key, now - last < m.cooldownSec

instance (m : IocMatcher) (key : String) (now : Rat) : Decidable (m.cooldownActive key now) :=
  inferInstanceAs (Decidable (∃ last ∈ m.lastAlert.get? key, now - last < m.cooldownSec))

/-- The four arguments of `evaluate`. -/
structure Endpoints where
  srcIp : Option String
  dstIp : Option String
  dstPort : Option Nat
  protocol : Option L4Protocol

/-- `protocol or "ip"`. -/
def protocolName : Option L4Protocol → String
  | some .tcp => "tcp"
  | some .udp => "udp"
  | none => "ip"

/-- The loop body of `evaluate` for one direction. -/
def evaluateDirection (doc : PolicyDoc) (whitelisted : String → Bool) (clock : Clock)
    (view : IocView) (ends : Endpoints) (direction : Direction) (ip : Option String) :
    Emitter IocMatcher SecurityEvent := fun m =>
  match truthy ip with
  | none => (m, [])
  | some ip =>
    if ip ∈ (doc.body.globalAllowlists.getD {}).ip ∨ whitelisted ip = true then (m, [])
    else
      match view.lookup ip with
      | none => (m, [])
      | some entry =>
        if m.cooldownActive (cooldownKey ip direction) (clock.cooldownActive direction) then (m, [])
        else
          ({ m with
              lastAlert := m.lastAlert.set (cooldownKey ip direction) (clock.markAlert direction)
              eventSeq := m.eventSeq + 1 },
           [{ eventId := s!"evt-{clock.day}-ioc-{pad5 (m.eventSeq + 1)}"
              siteId := m.siteId
              sensorId := m.sensorId
              eventType := RuleId.ot019.meta.1
              severity := RuleId.ot019.meta.2.1
              ruleId := .ot019
              protocol := protocolName ends.protocol
              description := RuleId.ot019.meta.2.2
              srcIp := ends.srcIp.getD ""
              dstIp := ends.dstIp.getD ""
              dstPort := ends.dstPort
              riskScore := min 95 (max 70 (entry.confidence.getD 80))
              evidence := [("ioc_type", .text "ipv4"), ("ioc_value", .text ip),
                ("intel_item_id", .text entry.itemId),
                ("artifact_version", .text view.artifactVersion),
                ("intel_tenant_id", .text view.tenantId),
                ("direction", .text direction.name), ("mirror_passive", .flag true)]
              timestamp := clock.timestamp }])

/-- `evaluate`: source first, then destination. -/
def evaluate (doc : PolicyDoc) (whitelisted : String → Bool) (clock : Clock)
    (view : Direction → IocView) (ends : Endpoints) : Emitter IocMatcher SecurityEvent := fun m =>
  if enabled m.rulesEnabled .ot019 then
    ((evaluateDirection doc whitelisted clock (view .src) ends .src ends.srcIp).andThen
      (evaluateDirection doc whitelisted clock (view .dst) ends .dst ends.dstIp)) m
  else (m, [])

/-- What matching leaves alone. -/
def config (m : IocMatcher) : PolicyObj × Finset String := (m.policy, m.rulesEnabled)

theorem evaluateDirection_preserves (doc : PolicyDoc) (whitelisted : String → Bool) (clock : Clock)
    (view : IocView) (ends : Endpoints) (direction : Direction) (ip : Option String) :
    (evaluateDirection doc whitelisted clock view ends direction ip).Preserves config := by
  intro m
  unfold evaluateDirection
  split
  · rfl
  · split
    · rfl
    · split
      · rfl
      · split <;> rfl

theorem evaluateDirection_emitsOnly (doc : PolicyDoc) (whitelisted : String → Bool) (clock : Clock)
    (view : IocView) (ends : Endpoints) (direction : Direction) (ip : Option String) :
    (evaluateDirection doc whitelisted clock view ends direction ip).EmitsOnly
      (·.ruleId.phase = .ioc) := by
  intro m e he
  unfold evaluateDirection at he
  split at he
  · cases he
  · split at he
    · cases he
    · split at he
      · cases he
      · split at he
        · cases he
        · rw [List.mem_singleton.mp he]
          rfl

section Evaluate

variable (doc : PolicyDoc) (whitelisted : String → Bool) (clock : Clock)
  (view : Direction → IocView) (ends : Endpoints)

theorem evaluate_preserves : (evaluate doc whitelisted clock view ends).Preserves config := by
  intro m
  unfold evaluate
  split
  · exact (evaluateDirection_preserves doc whitelisted clock (view .src) ends .src ends.srcIp).andThen
      (evaluateDirection_preserves doc whitelisted clock (view .dst) ends .dst ends.dstIp) m
  · rfl

theorem evaluate_emitsOnly :
    (evaluate doc whitelisted clock view ends).EmitsOnly (·.ruleId.phase = .ioc) := by
  intro m
  unfold evaluate
  split
  · exact (evaluateDirection_emitsOnly doc whitelisted clock (view .src) ends .src ends.srcIp).andThen
      (evaluateDirection_emitsOnly doc whitelisted clock (view .dst) ends .dst ends.dstIp) m
  · intro e he
    cases he

end Evaluate

end IocMatcher

end EdgeSensor.Sensor
