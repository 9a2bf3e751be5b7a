import EdgeSensor.Py.Bytes

/-!
# A captured packet and its L2 to L4 view

`src/parser/l2/ethernet.py`, `src/parser/l3/ip.py` and `src/parser/l4/transport.py`.
The capture library dissects the frame; what the sensor asks of it is whether a
layer is present and the values of a few of its fields, so `Packet` is the record
of those answers. Nothing relates the layers to one another here (a packet may
claim TCP without IP), which is more than any dissector produces: every theorem
about packets holds of all such records.
-/

namespace EdgeSensor.Parser

open EdgeSensor.Py

/-- The Ethernet layer: addresses as printed, EtherType, and the payload bytes. -/
structure EtherLayer where
  src : String
  dst : String
  type : Nat
  payload : Bytes
  deriving DecidableEq, Repr

/-- The addresses of an IPv4 or IPv6 layer, as printed. -/
structure IpLayer where
  src : String
  dst : String
  deriving DecidableEq, Repr

/-- A TCP or UDP layer: ports and payload bytes. -/
structure PortLayer where
  sport : Nat
  dport : Nat
  payload : Bytes
  deriving DecidableEq, Repr

/-- What `haslayer` and the layer fields answer for one packet; `raw` is
`bytes(packet)`, empty when the library cannot build it. -/
structure Packet where
  raw : Bytes := []
  ether : Option EtherLayer := none
  ip : Option IpLayer := none
  ipv6 : Option IpLayer := none
  tcp : Option PortLayer := none
  udp : Option PortLayer := none
  deriving DecidableEq, Repr

inductive IpVersion where
  | ipv4
  | ipv6
  deriving DecidableEq, Repr

inductive L4Protocol where
  | tcp
  | udp
  deriving DecidableEq, Repr

/-- `FlowTuple`. -/
structure FlowTuple where
  srcIp : String
  dstIp : String
  srcPort : Nat
  dstPort : Nat
  protocol : L4Protocol
  deriving DecidableEq, Repr

/-- `parse_ethernet`: source and destination MAC. -/
def parseEthernet (packet : Packet) : Option String × Option String :=
  match packet.ether with
  | none => (none, none)
  | some eth => (some eth.src, some eth.dst)

/-- `parse_ip`: source, destination, version. -/
def parseIp (packet : Packet) : Option String × Option String × Option IpVersion :=
  match packet.ip with
  | some ip => (some ip.src, some ip.dst, some .ipv4)
  | none =>
    match packet.ipv6 with
    | some ip6 => (some ip6.src, some ip6.dst, some .ipv6)
    | none => (none, none, none)

/-- `parse_transport`: TCP first, then UDP; no flow without an IP layer. -/
def parseTransport (packet : Packet) : Option FlowTuple :=
  match packet.tcp with
  | some tcp => (packet.ip <|> packet.ipv6).map fun ip =>
      ⟨ip.src, ip.dst, tcp.sport, tcp.dport, .tcp⟩
  | none =>
    match packet.udp with
    | some udp => (packet.ip <|> packet.ipv6).map fun ip =>
        ⟨ip.src, ip.dst, udp.sport, udp.dport, .udp⟩
    | none => none

end EdgeSensor.Parser
