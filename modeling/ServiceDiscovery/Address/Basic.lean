import ServiceDiscovery.Bytes

/-!
# Internet addresses

Addresses of both families, alone and with a port, and how they are written.

* `Ipv4.text`: four decimal numbers with dots;
* `Ipv6.text`: eight hexadecimal groups, where the first longest run of at least two zero groups is
  written `::`, and an embedded IPv4 address is written with dots;
* `SocketAddress.text`: an address and a port, the IPv6 one in brackets and with its scope.
-/

namespace ServiceDiscovery

/-! ### Types -/

/-- An IPv4 address, byte by byte. -/
structure Ipv4 where
  a : UInt8
  b : UInt8
  c : UInt8
  d : UInt8
  deriving DecidableEq

/-- An IPv6 address by its eight groups. -/
structure Ipv6 where
  a : UInt16
  b : UInt16
  c : UInt16
  d : UInt16
  e : UInt16
  f : UInt16
  g : UInt16
  h : UInt16
  deriving DecidableEq

/-- An address of either family. -/
inductive IpAddress where
  | v4 (address : Ipv4)
  | v6 (address : Ipv6)
  deriving DecidableEq

/-- An address with a port; an IPv6 one may name the link it is meant on. -/
inductive SocketAddress where
  | v4 (address : Ipv4) (port : UInt16)
  | v6 (address : Ipv6) (port : UInt16) (scope : UInt32)
  deriving DecidableEq

/-! ### IPv4 -/

namespace Ipv4

def unspecified : Ipv4 := ⟨0, 0, 0, 0⟩

def bytes (x : Ipv4) : Bytes := [x.a, x.b, x.c, x.d]

/-- Four decimal numbers with dots. -/
def text (x : Ipv4) : String :=
  toString x.a ++ "." ++ toString x.b ++ "." ++ toString x.c ++ "." ++ toString x.d

/-- Whether the address is one of a host's own. -/
def isLoopback (x : Ipv4) : Bool := x.a == 127

def isMulticast (x : Ipv4) : Bool := 224 ≤ x.a && x.a ≤ 239

end Ipv4

/-! ### IPv6 -/

namespace Ipv6

def unspecified : Ipv6 := ⟨0, 0, 0, 0, 0, 0, 0, 0⟩

def groups (x : Ipv6) : List UInt16 := [x.a, x.b, x.c, x.d, x.e, x.f, x.g, x.h]

def ofGroups? : List UInt16 → Option Ipv6
  | [a, b, c, d, e, f, g, h] => some ⟨a, b, c, d, e, f, g, h⟩
  | _ => none

def bytes (x : Ipv6) : Bytes := x.groups.flatMap Bytes.ofWord

/-- The IPv4 address that stands in the last two groups, if the ones before mark it as such. -/
def mapped? (x : Ipv6) : Option Ipv4 :=
  if [x.a, x.b, x.c, x.d, x.e, x.f] = [0, 0, 0, 0, 0, 0xFFFF] then
    some ⟨Bytes.high x.g, Bytes.low x.g, Bytes.high x.h, Bytes.low x.h⟩
  else none

/-- A run of zero groups: where it starts and how long it is. -/
structure Run where
  start : Nat
  length : Nat
  deriving DecidableEq

/-- The longest run of zeros in `groups`, the first of several, given the run that ends right
before them and the longest one so far. -/
def longestRun : (groups : List UInt16) → (index : Nat) → (current longest : Run) → Run
  | [], _, _, longest => longest
  | group :: groups, index, current, longest =>
    if group = 0 then
      let current : Run :=
        if current.length = 0 then ⟨index, 1⟩ else ⟨current.start, current.length + 1⟩
      longestRun groups (index + 1) current
        (if current.length > longest.length then current else longest)
    else longestRun groups (index + 1) ⟨0, 0⟩ longest

/-- Groups in lower case hexadecimal without leading zeros, with colons. -/
def groupsText (groups : List UInt16) : String :=
  ":".intercalate (groups.map fun group => String.ofList (Nat.toDigits 16 group.toNat))

/-- The shortest common writing of an address. -/
def text (x : Ipv6) : String :=
  match x.mapped? with
  | some v4 => "::ffff:" ++ v4.text
  | none =>
    let run := longestRun x.groups 0 ⟨0, 0⟩ ⟨0, 0⟩
    if run.length > 1 then
      groupsText (x.groups.take run.start) ++ "::"
        ++ groupsText (x.groups.drop (run.start + run.length))
    else groupsText x.groups

/-- Whether the address is the host's own. -/
def isLoopback (x : Ipv6) : Bool := x = ⟨0, 0, 0, 0, 0, 0, 0, 1⟩

def isMulticast (x : Ipv6) : Bool := x.a.toNat / 256 == 0xFF

end Ipv6

/-! ### Both families -/

namespace IpAddress

def text : IpAddress → String
  | v4 x => x.text
  | v6 x => x.text

def isV4 : IpAddress → Bool
  | v4 _ => true
  | v6 _ => false

def isUnspecified : IpAddress → Bool
  | v4 x => x = Ipv4.unspecified
  | v6 x => x = Ipv6.unspecified

def isLoopback : IpAddress → Bool
  | v4 x => x.isLoopback
  | v6 x => x.isLoopback

def isMulticast : IpAddress → Bool
  | v4 x => x.isMulticast
  | v6 x => x.isMulticast

end IpAddress

namespace SocketAddress

/-- An address with a port; the scope is written unless it is zero. -/
def text : SocketAddress → String
  | v4 address port => address.text ++ ":" ++ toString port
  | v6 address port scope =>
    let scopeText := if scope = 0 then "" else "%" ++ toString scope
    "[" ++ address.text ++ scopeText ++ "]:" ++ toString port

/-- The address without port and scope. -/
def address : SocketAddress → IpAddress
  | v4 x _ => .v4 x
  | v6 x _ _ => .v6 x

def port : SocketAddress → UInt16
  | v4 _ p => p
  | v6 _ p _ => p

/-- The unspecified address of the same family, with the same port. -/
def unspecified : SocketAddress → SocketAddress
  | v4 _ p => v4 Ipv4.unspecified p
  | v6 _ p _ => v6 Ipv6.unspecified p 0

end SocketAddress

end ServiceDiscovery
