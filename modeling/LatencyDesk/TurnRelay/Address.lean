import LatencyDesk.Lib.Word

/-!
# Transport addresses

`std::net::IpAddr` and `std::net::SocketAddr` as `crates/turn-relay` uses them.
The tests on an address are the documented ones of the standard library: an
IPv6 address is a loopback address only when it is `::1`, and an IPv6 address
that maps an IPv4 address is tested as the IPv6 address that it is.
-/

namespace LatencyDesk.TurnRelay

open Lib

inductive IpAddr where
  | v4 (octets : Bytes 4)
  | v6 (octets : Bytes 16)
deriving DecidableEq

inductive SocketAddr where
  | v4 (octets : Bytes 4) (port : UInt16)
  | v6 (octets : Bytes 16) (port : UInt16) (flowinfo scopeId : UInt32)
deriving DecidableEq

namespace IpAddr

def isIpv4 : IpAddr → Bool
  | v4 _ => true
  | v6 _ => false

/-- `Ipv6Addr::LOCALHOST`. -/
def localhostV6 : Bytes 16 := ⟨List.replicate 15 0 ++ [1], rfl⟩

def isUnspecified : IpAddr → Bool
  | v4 octets => octets = .replicate 4 0
  | v6 octets => octets = .replicate 16 0

def isLoopback : IpAddr → Bool
  | v4 octets => octets.head = 127
  | v6 octets => octets = localhostV6

def isMulticast : IpAddr → Bool
  | v4 octets => 224 ≤ octets.head && octets.head ≤ 239
  | v6 octets => octets.head = 255

/-- `matches!(ip, IpAddr::V4(ip) if ip.is_broadcast())`. -/
def isBroadcast : IpAddr → Bool
  | v4 octets => octets = .replicate 4 255
  | v6 _ => false

/-- `Ipv6Addr::to_ipv4_mapped`. -/
def toIpv4Mapped : IpAddr → Option IpAddr
  | v4 _ => none
  | v6 octets =>
    if octets.toList.take 12 = List.replicate 10 0 ++ [255, 255] then
      some (v4 ⟨octets.toList.drop 12, by simp⟩)
    else
      none

end IpAddr

namespace SocketAddr

/-- `SocketAddr::new`. -/
def new : IpAddr → UInt16 → SocketAddr
  | .v4 octets, port => .v4 octets port
  | .v6 octets, port => .v6 octets port 0 0

def ip : SocketAddr → IpAddr
  | v4 octets _ => .v4 octets
  | v6 octets _ _ _ => .v6 octets

def port : SocketAddr → UInt16
  | v4 _ port => port
  | v6 _ port _ _ => port

def isIpv4 (address : SocketAddr) : Bool := address.ip.isIpv4

/-- The address has no scope and no flow label. -/
def Plain (address : SocketAddr) : Prop := address = new address.ip address.port

end SocketAddr

end LatencyDesk.TurnRelay
