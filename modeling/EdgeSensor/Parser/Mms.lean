import EdgeSensor.Parser.Packet

/-!
# The MMS observer

`src/parser/l7/iec61850/mms.py`: TCP port 102 over IPv4, classified by searching
the payload for service names and, failing that, for a few tag bytes. Every
payload is classified; nothing here raises.

Mirroring notes:
- `bytes.lower()` changes ASCII letters only.
- `payload[4:n]` for `n` below 4 is empty, and an empty body falls back to the
  whole payload.
-/

namespace EdgeSensor.Parser.Mms

open EdgeSensor.Py

def MMS_PORT : Nat := 102

/-- The `pdu_type` of an observation. -/
inductive PduType where
  | write
  | read
  | report
  | getNameList
  | other
  deriving DecidableEq, Repr

/-- The name the events carry. -/
def PduType.name : PduType → String
  | .write => "write"
  | .read => "read"
  | .report => "report"
  | .getNameList => "getNameList"
  | .other => "other"

/-- `MmsObservation`. -/
structure MmsObservation where
  srcIp : String
  dstIp : String
  srcPort : Nat
  dstPort : Nat
  pduType : PduType
  payloadLen : Nat
  deriving DecidableEq, Repr

/-- `needle in haystack`, for byte strings. -/
def containsBytes (needle : Bytes) : Bytes → Bool
  | [] => needle.isEmpty
  | b :: rest => needle.isPrefixOf (b :: rest) || containsBytes needle rest

/-- The bytes of an ASCII literal. -/
def ascii (s : String) : Bytes := s.toList.map fun c => UInt8.ofNat c.toNat

/-- `data.lower()`. -/
def lowerBytes (data : Bytes) : Bytes :=
  data.map fun b => if 65 ≤ b.toNat ∧ b.toNat ≤ 90 then b + 32 else b

/-- `classify_mms_payload`. -/
def classifyMmsPayload (payload : Bytes) : PduType :=
  if payload.length < 8 then .other
  else if payload.getD 0 0 ≠ 0x03 then .other
  else
    let tpktLen := intFromBytes (slice payload 2 4)
    let body := if tpktLen ≤ payload.length then slice payload 4 tpktLen else payload.drop 4
    let haystack := if body = [] then payload else body
    if containsBytes (ascii "write") (lowerBytes haystack) then .write
    else if containsBytes (ascii "read") (lowerBytes haystack) then .read
    else if containsBytes (ascii "report") (lowerBytes haystack) then .report
    else if containsBytes (ascii "getNameList") haystack
        || containsBytes (ascii "GetNameList") haystack then .getNameList
    else if haystack.any fun b => b = 0xA0 || b = 0xA1 || b = 0xA2 then
      if haystack.contains 0xA4 || (haystack.drop (haystack.length - 16)).contains 0x04 then .write
      else .read
    else .other

/-- `parse_mms_packet`. -/
def parseMmsPacket (packet : Packet) : Option MmsObservation :=
  match packet.ip, packet.tcp with
  | some ip, some tcp =>
    if tcp.sport ≠ MMS_PORT ∧ tcp.dport ≠ MMS_PORT then none
    else if tcp.payload = [] then none
    else some {
      srcIp := ip.src
      dstIp := ip.dst
      srcPort := tcp.sport
      dstPort := tcp.dport
      pduType := classifyMmsPayload tcp.payload
      payloadLen := tcp.payload.length }
  | _, _ => none

end EdgeSensor.Parser.Mms
