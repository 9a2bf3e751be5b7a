import EdgeSensor.Parser.Packet

/-!
# The Modbus TCP parser

`src/parser/l7/modbus/tcp.py`: the first ADU of a payload to or from port 502. A
payload that is too short, or whose length field does not fit it, is no frame;
nothing here raises.
-/

namespace EdgeSensor.Parser.Modbus

open EdgeSensor.Py

def MODBUS_PORT : Nat := 502

/-- The function codes that count as writes. -/
def WRITE_FUNCTION_CODES : List Nat := [5, 6, 15, 16, 22, 23, 24]

/-- `ModbusFrame`. -/
structure ModbusFrame where
  srcIp : String
  dstIp : String
  srcPort : Nat
  dstPort : Nat
  transactionId : Nat
  unitId : Nat
  functionCode : Nat
  isWrite : Bool
  deriving DecidableEq, Repr

/-- `_parse_modbus_payload`: transaction, unit, function code, is it a write. -/
def parseModbusPayload (raw : Bytes) : Option (Nat × Nat × Nat × Bool) :=
  if raw.length < 8 then none
  else
    let transId := intFromBytes (slice raw 0 2)
    let length := intFromBytes (slice raw 4 6)
    if length < 2 ∨ raw.length < 6 + length then none
    else
      let unitId := (raw.getD 6 0).toNat
      let functionCode := (raw.getD 7 0).toNat
      some (transId, unitId, functionCode, decide (functionCode ∈ WRITE_FUNCTION_CODES))

/-- `parse_modbus_tcp`. -/
def parseModbusTcp (packet : Packet) : Option ModbusFrame :=
  match parseTransport packet, packet.tcp with
  | some flow, some tcp =>
    if flow.dstPort ≠ MODBUS_PORT ∧ flow.srcPort ≠ MODBUS_PORT then none
    else
      (parseModbusPayload tcp.payload).map fun parsed =>
        { srcIp := flow.srcIp
          dstIp := flow.dstIp
          srcPort := flow.srcPort
          dstPort := flow.dstPort
          transactionId := parsed.1
          unitId := parsed.2.1
          functionCode := parsed.2.2.1
          isWrite := parsed.2.2.2 }
  | _, _ => none

end EdgeSensor.Parser.Modbus
