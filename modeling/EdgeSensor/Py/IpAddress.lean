import EdgeSensor.Py.Value

/-!
# `ipaddress`

`ip_address`, `ip_network(…, strict=False)` and `in`, on text. What is text to the
rest of the program (two spellings of one address differ) is a number here.

Mirroring notes:
- `none` is a `ValueError`.
- The scope of an IPv6 address (`%eth0`) is checked and dropped: containment never
  looks at it.
- A slash fails where the digits of an address are read, so the check for one has no
  line of its own, except in a scope.
-/

namespace EdgeSensor.Py

open EdgeSensor.Lib

inductive IpAddress where
  | v4 (ip : Nat)
  | v6 (ip : Nat)
  deriving DecidableEq, Repr

/-- A network: the first address and the mask. -/
structure IpNetwork where
  v6 : Bool
  networkAddress : Nat
  netmask : Nat
  deriving DecidableEq, Repr

/-- `addr in net`. -/
def IpNetwork.contains (net : IpNetwork) : IpAddress → Bool
  | .v4 ip => !net.v6 && ip &&& net.netmask == net.networkAddress
  | .v6 ip => net.v6 && ip &&& net.netmask == net.networkAddress

def isAsciiDigit (c : Nat) : Bool := 48 ≤ c && c ≤ 57

/-- The value of a hexadecimal digit. -/
def hexDigit (c : Nat) : Option Nat :=
  if isAsciiDigit c then some (c - 48)
  else if 65 ≤ c ∧ c ≤ 70 then some (c - 55)
  else if 97 ≤ c ∧ c ≤ 102 then some (c - 87)
  else none

/-- `int(s)` of ASCII digits. -/
def decimal (s : PyStr) : Nat := s.foldl (fun n c => 10 * n + (c - 48)) 0

/-- `_parse_octet`. -/
def parseOctet (s : PyStr) : Option Nat :=
  if s = [] ∨ s.all isAsciiDigit = false ∨ 3 < s.length then none
  else if s ≠ lit "0" ∧ s.head? = some 48 then none
  else if 255 < decimal s then none
  else some (decimal s)

/-- `IPv4Address(s)`. -/
def ipv4Address (s : PyStr) : Option Nat :=
  match (s.splitOn 46).mapM parseOctet with
  | some [a, b, c, d] => some (((a * 256 + b) * 256 + c) * 256 + d)
  | _ => none

/-- `_parse_hextet`. -/
def parseHextet (s : PyStr) : Option Nat :=
  if s = [] ∨ 4 < s.length then none
  else (s.mapM hexDigit).map (·.foldl (fun n d => 16 * n + d) 0)

/-- The parts between the colons, an IPv4 part at the end turned into two. -/
def ipv6Parts (s : PyStr) : Option (List PyStr) :=
  let parts := s.splitOn 58
  if parts.length < 3 then none
  else if (parts.getLastD []).contains 46 then
    (ipv4Address (parts.getLastD [])).map fun ip =>
      parts.dropLast ++ [ip / 65536, ip % 65536].map fun half => (Nat.toDigits 16 half).map Char.toNat
  else some parts

/-- The value of some hextets, read after `acc`. -/
def hextets (acc : Nat) (parts : List PyStr) : Option Nat :=
  (parts.mapM parseHextet).map (·.foldl (fun n h => 65536 * n + h) acc)

/-- `_ip_int_from_string` of an IPv6 address. -/
def ipv6Int (s : PyStr) : Option Nat := do
  let parts ← ipv6Parts s
  if 9 < parts.length then none
  else
    -- the inner parts that are empty: the places of `::`
    match (List.range parts.length).filter
        fun i => 1 ≤ i ∧ i + 1 < parts.length ∧ parts.getD i [] = [] with
    | [] => if parts.length = 8 then hextets 0 parts else none
    | [skip] =>
      let hi := if parts.headD [] = [] then skip - 1 else skip
      let lo := if parts.getLastD [] = [] then parts.length - skip - 2 else parts.length - skip - 1
      if parts.headD [] = [] ∧ hi ≠ 0 then none
      else if parts.getLastD [] = [] ∧ lo ≠ 0 then none
      else if 7 < hi + lo then none
      else do
        let high ← hextets 0 (parts.take hi)
        hextets (high * 65536 ^ (8 - (hi + lo))) (parts.drop (parts.length - lo))
    | _ => none

/-- `IPv6Address(s)`, its number. -/
def ipv6Address (s : PyStr) : Option Nat :=
  if s.contains 47 then none
  else
    match s.splitOn 37 with
    | [addr] => ipv6Int addr
    | [addr, scope] => if scope = [] then none else ipv6Int addr
    | _ => none

/-- `ip_address(s)`. -/
def ipAddress (s : PyStr) : Option IpAddress :=
  match ipv4Address s with
  | some ip => some (.v4 ip)
  | none => (ipv6Address s).map .v6

/-- The mask of a prefix length, among `bits`. -/
def maskOf (bits prefixlen : Nat) : Nat := 2 ^ bits - 2 ^ (bits - prefixlen)

/-- `_prefix_from_prefix_string`. -/
def prefixFromPrefixString (bits : Nat) (s : PyStr) : Option Nat :=
  if s = [] ∨ s.all isAsciiDigit = false ∨ bits < decimal s then none else some (decimal s)

/-- `_prefix_from_ip_string`: a netmask, or the reverse of one. -/
def prefixFromIpString (s : PyStr) : Option Nat := do
  let ip ← ipv4Address s
  match (List.range 33).find? fun p => maskOf 32 p = ip with
  | some p => some p
  | none => (List.range 33).find? fun p => maskOf 32 p = 2 ^ 32 - 1 - ip

/-- A network from its address and its prefix length, the host bits cleared. -/
def networkOf (v6 : Bool) (bits ip prefixlen : Nat) : IpNetwork :=
  ⟨v6, ip &&& maskOf bits prefixlen, maskOf bits prefixlen⟩

/-- `IPv4Network(s, strict=False)`. -/
def ipv4Network (s : PyStr) : Option IpNetwork :=
  match s.splitOn 47 with
  | [addr] => (ipv4Address addr).map (networkOf false 32 · 32)
  | [addr, mask] => do
    let ip ← ipv4Address addr
    let prefixlen ← (prefixFromPrefixString 32 mask).orElse fun _ => prefixFromIpString mask
    some (networkOf false 32 ip prefixlen)
  | _ => none

/-- `IPv6Network(s, strict=False)`. -/
def ipv6Network (s : PyStr) : Option IpNetwork :=
  match s.splitOn 47 with
  | [addr] => (ipv6Address addr).map (networkOf true 128 · 128)
  | [addr, mask] => do
    let ip ← ipv6Address addr
    let prefixlen ← prefixFromPrefixString 128 mask
    some (networkOf true 128 ip prefixlen)
  | _ => none

/-- `ip_network(s, strict=False)`. -/
def ipNetwork (s : PyStr) : Option IpNetwork := (ipv4Network s).orElse fun _ => ipv6Network s

example : (ipNetwork (lit "10.1.2.3/255.0.0.0")).map (·.contains (.v4 0x0A636363)) = some true := by
  decide +kernel

example : ipAddress (lit "fe80::1:10.0.0.1%eth0") = some (.v6 0xfe80000000000000000000010a000001) := by
  decide +kernel

end EdgeSensor.Py
