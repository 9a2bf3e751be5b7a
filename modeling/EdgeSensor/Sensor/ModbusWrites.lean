import EdgeSensor.Sensor.Pipeline

/-!
# Which Modbus writes OT-007 reports

`evaluate_modbus` (`src/detection/mvp.py`) judges the one frame the parser hands it, and
the parser reads one ADU of a segment: the first. So of a segment that carries several,
a write that is not allowed is reported when it stands first and is passed over behind
any other ADU (`pipelined_writes_reported_iff`).

The rule never looks at the direction of the frame. The learner takes the side of port
502 for the server (`feed_modbus`), the rule takes the destination for it, so a server's
response with the function code of a write is judged as a write to the client
(`roles_agree_iff`).
-/

namespace EdgeSensor.Parser.Modbus

open EdgeSensor.Py

/-- A Modbus TCP ADU: its MBAP length counts the bytes behind it, and covers at least the
unit and the function code. -/
structure Adu where
  bytes : Bytes
  length_eq : bytes.length = 6 + intFromBytes (slice bytes 4 6)
  two_le : 2 ≤ intFromBytes (slice bytes 4 6)

namespace Adu

def transactionId (adu : Adu) : Nat := intFromBytes (slice adu.bytes 0 2)

def unitId (adu : Adu) : Nat := (adu.bytes.getD 6 0).toNat

def functionCode (adu : Adu) : Nat := (adu.bytes.getD 7 0).toNat

/-- A segment that carries the ADUs one after another. -/
def segment (adus : List Adu) : Bytes := adus.flatMap (·.bytes)

theorem eight_le (adu : Adu) : 8 ≤ adu.bytes.length := by
  have h1 := adu.length_eq
  have h2 := adu.two_le
  omega

end Adu

/-- The frame a server sends back: addresses and ports exchanged, the rest repeated. -/
def ModbusFrame.echo (frame : ModbusFrame) : ModbusFrame :=
  { frame with
    srcIp := frame.dstIp
    dstIp := frame.srcIp
    srcPort := frame.dstPort
    dstPort := frame.srcPort }

/-- The parser reads an ADU the same whatever follows it. -/
theorem parseModbusPayload_append (adu : Adu) (rest : Bytes) :
    parseModbusPayload (adu.bytes ++ rest) = some (adu.transactionId, adu.unitId, adu.functionCode,
      decide (adu.functionCode ∈ WRITE_FUNCTION_CODES)) := by
  have hlen := adu.eight_le
  have hfield : slice (adu.bytes ++ rest) 4 6 = slice adu.bytes 4 6 :=
    slice_append _ _ (by omega)
  have hid : slice (adu.bytes ++ rest) 0 2 = slice adu.bytes 0 2 := slice_append _ _ (by omega)
  have hbyte : ∀ i, i < 8 → (adu.bytes ++ rest).getD i 0 = adu.bytes.getD i 0 := by
    intro i hi
    rw [List.getD_eq_getElem?_getD, List.getD_eq_getElem?_getD, List.getElem?_append_left (by omega)]
  unfold parseModbusPayload
  rw [hfield, hid, hbyte 6 (by omega), hbyte 7 (by omega), if_neg, if_neg]
  · rfl
  · have h1 := adu.length_eq
    have h2 := adu.two_le
    rw [List.length_append]
    omega
  · rw [List.length_append]
    omega

/-- A segment to port 502 is the frame of its first ADU. -/
theorem parseModbusTcp_segment {packet : Packet} {ip : IpLayer} {sport : Nat} (first : Adu)
    (rest : List Adu) (hip : (packet.ip <|> packet.ipv6) = some ip)
    (htcp : packet.tcp = some ⟨sport, MODBUS_PORT, Adu.segment (first :: rest)⟩) :
    parseModbusTcp packet = some
      { srcIp := ip.src
        dstIp := ip.dst
        srcPort := sport
        dstPort := MODBUS_PORT
        transactionId := first.transactionId
        unitId := first.unitId
        functionCode := first.functionCode
        isWrite := decide (first.functionCode ∈ WRITE_FUNCTION_CODES) } := by
  have hparse := parseModbusPayload_append first (Adu.segment rest)
  have hflow : parseTransport packet = some ⟨ip.src, ip.dst, sport, MODBUS_PORT, .tcp⟩ := by
    unfold parseTransport
    rw [htcp]
    simp only [hip, Option.map_some]
  unfold parseModbusTcp
  rw [hflow, htcp]
  simp only [Adu.segment, List.flatMap_cons] at hparse ⊢
  rw [hparse]
  simp

end EdgeSensor.Parser.Modbus

namespace EdgeSensor.Sensor

open EdgeSensor.Lib EdgeSensor.Py EdgeSensor.Parser

/-- The policy knows the destination and does not allow the source this function code there. -/
def PolicyDoc.DeniesModbus (doc : PolicyDoc) (src dst : String) (functionCode : Nat) : Prop :=
  ∃ asset, doc.assetForIp dst = some asset ∧ ¬ (src ∈ asset.allowedPeers
    ∧ (asset.allowedModbusFunctionCodes = []
      ∨ functionCode ∈ asset.allowedModbusFunctionCodes))

namespace MvpDetector

/-- OT-007 reports the frame. -/
def ReportsWrite (view : MvpView) (frame : Modbus.ModbusFrame) (d : MvpDetector) : Prop :=
  ∃ e ∈ (evaluateModbus view frame d).2, e.ruleId = .ot007

theorem reportsWrite_iff (view : MvpView) (frame : Modbus.ModbusFrame) (d : MvpDetector) :
    ReportsWrite view frame d ↔ enabled d.rulesEnabled .ot007 ∧ frame.isWrite
      ∧ view.doc.DeniesModbus frame.srcIp frame.dstIp frame.functionCode := by
  unfold ReportsWrite evaluateModbus PolicyDoc.DeniesModbus
  by_cases hon : enabled d.rulesEnabled .ot007 ∧ frame.isWrite
  · rw [if_pos hon]
    cases hasset : view.doc.assetForIp frame.dstIp with
    | none => simp
    | some asset =>
      simp only [Option.some.injEq, exists_eq_left']
      split
      next hallowed => simp [hallowed]
      next hdenied => simp [hdenied, hon, event]
  · rw [if_neg hon]
    constructor
    · rintro ⟨e, he, -⟩
      cases he
    · intro h
      exact absurd ⟨h.1, h.2.1⟩ hon

/-! ## The direction of a frame -/

/-- The policy allows the frame as a request of its source to its destination. -/
def AllowsRequest (view : MvpView) (frame : Modbus.ModbusFrame) : Prop :=
  ¬ view.doc.DeniesModbus frame.srcIp frame.dstIp frame.functionCode

/-- What OT-007 would have to keep for one frame to see clients and servers as the learner
does, which takes the side of port 502 for the server. -/
structure RolesAgree (view : MvpView) (d : MvpDetector) (frame : Modbus.ModbusFrame) : Prop where
  /-- Only what is sent to a server is reported. -/
  requests : ReportsWrite view frame d → frame.dstPort = Modbus.MODBUS_PORT
  /-- A server's response is not. -/
  responses : frame.srcPort = Modbus.MODBUS_PORT → frame.dstPort ≠ Modbus.MODBUS_PORT →
    ¬ ReportsWrite view frame d
  /-- Nor is a client for the echo of a write it was allowed. -/
  echoes : ∀ request : Modbus.ModbusFrame, frame = request.echo → request.isWrite →
    request.dstPort = Modbus.MODBUS_PORT → request.srcPort ≠ Modbus.MODBUS_PORT →
    AllowsRequest view request → ¬ ReportsWrite view frame d

/-- OT-007 agrees with the learner about a frame exactly when the frame goes to port 502,
or the rule is off, or it is no write, or the policy would allow it as a request. -/
theorem roles_agree_iff (view : MvpView) (d : MvpDetector) (frame : Modbus.ModbusFrame) :
    RolesAgree view d frame ↔ frame.dstPort = Modbus.MODBUS_PORT
      ∨ ¬ enabled d.rulesEnabled .ot007 ∨ frame.isWrite = false ∨ AllowsRequest view frame := by
  have hquiet : ¬ ReportsWrite view frame d ↔ ¬ enabled d.rulesEnabled .ot007
      ∨ frame.isWrite = false ∨ AllowsRequest view frame := by
    rw [reportsWrite_iff, AllowsRequest, ← Bool.not_eq_true]
    tauto
  rw [← hquiet]
  constructor
  · intro h
    by_cases hport : frame.dstPort = Modbus.MODBUS_PORT
    · exact .inl hport
    · exact .inr fun hreports => hport (h.requests hreports)
  · intro h
    have hrequests : ReportsWrite view frame d → frame.dstPort = Modbus.MODBUS_PORT := by
      intro hreports
      exact h.resolve_right (not_not_intro hreports)
    refine ⟨hrequests, fun _ hport hreports => hport (hrequests hreports), ?_⟩
    rintro request rfl - - hport - hreports
    -- the echo goes to the port the request came from
    exact hport (hrequests hreports)

/-- A PLC that the HMI may write to, and the HMI. -/
def peerView : MvpView where
  doc := { body := { assets := some [
    { assetId := some "plc-1", addresses := ["10.0.0.1"], allowedPeers := ["10.0.0.2"] },
    { assetId := some "hmi-1", addresses := ["10.0.0.2"] }] } }
  whitelisted := fun _ => false
  clock := ⟨0, 0, 0, fun _ => 0, fun _ => 0, "20260101", "2026-01-01T00:00:00+00:00"⟩

/-- The HMI writes a register of the PLC. -/
def hmiWrites : Modbus.ModbusFrame where
  srcIp := "10.0.0.2"
  dstIp := "10.0.0.1"
  srcPort := 40000
  dstPort := 502
  transactionId := 1
  unitId := 1
  functionCode := 6
  isWrite := true

/-- A detector with all rules on. -/
def bareDetector : MvpDetector := { siteId := "site", sensorId := "sensor", policy := {} }

/-- The PLC's answer to an allowed write is reported as a write to the HMI. -/
theorem echo_reported : ¬ RolesAgree peerView bareDetector hmiWrites.echo := by
  intro h
  have hallowed : AllowsRequest peerView hmiWrites := by
    rintro ⟨asset, hasset, hdenied⟩
    cases hasset
    exact hdenied (by decide)
  refine h.echoes hmiWrites rfl rfl rfl (by decide) hallowed ?_
  rw [reportsWrite_iff]
  exact ⟨.inl rfl, rfl, _, rfl, by decide⟩

end MvpDetector

/-! ## Several ADUs in a segment -/

/-- The ADU is a write that the policy does not allow between the two addresses. -/
def PolicyDoc.DeniesWrite (doc : PolicyDoc) (ip : IpLayer) (adu : Modbus.Adu) : Prop :=
  adu.functionCode ∈ Modbus.WRITE_FUNCTION_CODES ∧ doc.DeniesModbus ip.src ip.dst adu.functionCode

namespace PacketPipeline

/-- What the Modbus phase of `process` hands to `_emit` for this packet has an OT-007 event. -/
def RaisesWriteEvent (env : PacketEnv) (packet : Packet) (s : PacketPipeline) : Prop :=
  ∃ frame, Modbus.parseModbusTcp packet = some frame
    ∧ MvpDetector.ReportsWrite (s.mvpView env) frame s.mvp

section Segment

variable (env : PacketEnv) (s : PacketPipeline) {packet : Packet} {ip : IpLayer} {sport : Nat}
  (first : Modbus.Adu) (rest : List Modbus.Adu)
  (hip : (packet.ip <|> packet.ipv6) = some ip)
  (htcp : packet.tcp = some ⟨sport, Modbus.MODBUS_PORT, Modbus.Adu.segment (first :: rest)⟩)

include hip htcp

/-- The event is about the first ADU and no other. -/
theorem raisesWriteEvent_segment : s.RaisesWriteEvent env packet
    ↔ enabled s.mvp.rulesEnabled .ot007 ∧ (s.mvpView env).doc.DeniesWrite ip first := by
  unfold RaisesWriteEvent PolicyDoc.DeniesWrite
  rw [Modbus.parseModbusTcp_segment first rest hip htcp]
  simp only [Option.some.injEq, exists_eq_left', MvpDetector.reportsWrite_iff, decide_eq_true_eq]

/-- Of the ADUs of a segment to port 502, an event is raised exactly when one of them is a
write that is not allowed, if and only if the rule is on and the first is such a write,
or none is. -/
theorem pipelined_writes_reported_iff :
    (s.RaisesWriteEvent env packet
        ↔ ∃ adu ∈ first :: rest, (s.mvpView env).doc.DeniesWrite ip adu)
      ↔ (enabled s.mvp.rulesEnabled .ot007 ∧ (s.mvpView env).doc.DeniesWrite ip first)
        ∨ ∀ adu ∈ first :: rest, ¬ (s.mvpView env).doc.DeniesWrite ip adu := by
  rw [raisesWriteEvent_segment env s first rest hip htcp]
  constructor
  · intro hiff
    by_cases hany : ∃ adu ∈ first :: rest, (s.mvpView env).doc.DeniesWrite ip adu
    · exact .inl (hiff.mpr hany)
    · exact .inr fun adu hadu hdenied => hany ⟨adu, hadu, hdenied⟩
  · rintro (hfirst | hnone)
    · exact ⟨fun _ => ⟨first, List.mem_cons_self, hfirst.2⟩, fun _ => hfirst⟩
    · constructor
      · intro h
        exact absurd h.2 (hnone first List.mem_cons_self)
      · rintro ⟨adu, hadu, hdenied⟩
        exact absurd hdenied (hnone adu hadu)

end Segment

/-- A PLC, and the one engineering station that may write to it. -/
def plcPolicy : PolicyDoc where
  body := { assets := some [{ assetId := some "plc-1", addresses := ["10.0.0.1"]
                              allowedPeers := ["10.0.0.2"] }] }

/-- The sensor that knows the PLC, all rules on. -/
def plcSensor : PacketPipeline := init (.bare 0 ⟨0, "", none⟩ (some plcPolicy))

/-- Read holding registers. -/
def readAdu : Modbus.Adu where
  bytes := [0, 1, 0, 0, 0, 6, 1, 3, 0, 0, 0, 1]
  length_eq := by decide
  two_le := by decide

/-- Write a single register. -/
def writeAdu : Modbus.Adu where
  bytes := [0, 2, 0, 0, 0, 6, 1, 6, 0, 0, 0, 1]
  length_eq := by decide
  two_le := by decide

/-- A stranger sends the ADUs to the PLC in one segment. -/
def strangerSends (adus : List Modbus.Adu) : Packet where
  raw := [0]
  ip := some { src := "10.0.0.66", dst := "10.0.0.1" }
  tcp := some { sport := 40000, dport := 502, payload := Modbus.Adu.segment adus }

/-- The write alone. -/
theorem pipelined_writes_reported_alone :
    (plcSensor.RaisesWriteEvent (.bare 1 ⟨1, "", none⟩) (strangerSends [writeAdu])
        ↔ ∃ adu ∈ [writeAdu], (plcSensor.mvpView (.bare 1 ⟨1, "", none⟩)).doc.DeniesWrite
          ⟨"10.0.0.66", "10.0.0.1"⟩ adu)
      ↔ (enabled plcSensor.mvp.rulesEnabled .ot007
          ∧ (plcSensor.mvpView (.bare 1 ⟨1, "", none⟩)).doc.DeniesWrite
            ⟨"10.0.0.66", "10.0.0.1"⟩ writeAdu)
        ∨ ∀ adu ∈ [writeAdu], ¬ (plcSensor.mvpView (.bare 1 ⟨1, "", none⟩)).doc.DeniesWrite
          ⟨"10.0.0.66", "10.0.0.1"⟩ adu :=
  pipelined_writes_reported_iff (.bare 1 ⟨1, "", none⟩) plcSensor writeAdu [] rfl rfl

/-- The write behind a read is not reported. -/
theorem pipelined_write_missed :
    ¬ (plcSensor.RaisesWriteEvent (.bare 1 ⟨1, "", none⟩) (strangerSends [readAdu, writeAdu])
      ↔ ∃ adu ∈ [readAdu, writeAdu],
        (plcSensor.mvpView (.bare 1 ⟨1, "", none⟩)).doc.DeniesWrite
          ⟨"10.0.0.66", "10.0.0.1"⟩ adu) := by
  intro hiff
  have hdenied : (plcSensor.mvpView (.bare 1 ⟨1, "", none⟩)).doc.DeniesWrite
      ⟨"10.0.0.66", "10.0.0.1"⟩ writeAdu :=
    ⟨by decide, { assetId := some "plc-1", addresses := ["10.0.0.1"]
                  allowedPeers := ["10.0.0.2"] }, by decide +kernel, by decide⟩
  have hraised := hiff.mpr ⟨writeAdu, by simp, hdenied⟩
  rw [raisesWriteEvent_segment _ plcSensor readAdu [writeAdu] rfl rfl] at hraised
  exact absurd hraised.2.1 (by decide)

end PacketPipeline

end EdgeSensor.Sensor
