import EdgeSensor.Sensor.Pipeline

/-!
# What stops the capture loop

`process` fails on a packet exactly when the GOOSE parser does, whatever the
pipeline's state and whatever the stores and clocks say (`process_ok_iff`), so the
loop gets through a capture exactly when every packet in it is readable
(`captureLoop_ok_iff`). One frame of nine bytes is enough to end the sensor.
-/

namespace EdgeSensor.Sensor.PacketPipeline

open EdgeSensor.Lib EdgeSensor.Py EdgeSensor.Parser

/-- One call fails exactly when the packet's GOOSE bytes are not readable. -/
theorem process_ok_iff (env : PacketEnv) (packet : Packet) (s : PacketPipeline) :
    (process env packet s).2 = none ↔ Goose.ReadablePacket packet := by
  rw [← Goose.parseGoosePacket_ok_iff]
  unfold process
  cases hparse : Goose.parseGoosePacket packet with
  | error e => simp
  | ok frame => simp

/-- The loop runs to the end of the capture exactly when every packet is readable. -/
theorem captureLoop_ok_iff (inputs : List (PacketEnv × Packet)) (s : PacketPipeline) :
    (captureLoop inputs s).2 = none ↔ ∀ input ∈ inputs, Goose.ReadablePacket input.2 := by
  induction inputs generalizing s with
  | nil => simp [captureLoop]
  | cons input rest ih =>
    have hone := process_ok_iff input.1 input.2 s
    rw [List.forall_mem_cons, captureLoop]
    revert hone
    rcases process input.1 input.2 s with ⟨s', e | e⟩ <;> intro hone
    · exact ⟨fun h => ⟨hone.mp rfl, (ih s').mp h⟩, fun h => (ih s').mpr h.2⟩
    · refine ⟨fun h => ?_, fun h => ?_⟩
      · cases h
      · have hnone := hone.mpr h.1
        cases hnone

/-- A GOOSE frame cut off after the tag byte of its APDU. -/
def cutOffFrame : Bytes := [0x03, 0xE8, 0x00, 0x09, 0x00, 0x00, 0x00, 0x00, 0x61]

/-- The packet that carries it. -/
def cutOffPacket : Packet where
  raw := cutOffFrame
  ether := some { src := "00:11:22:33:44:55", dst := "01:0c:cd:01:00:01", type := 0x88B8
                  payload := cutOffFrame }

end EdgeSensor.Sensor.PacketPipeline
