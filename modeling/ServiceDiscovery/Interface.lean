import ServiceDiscovery.Address.Basic

/-!
# Network interfaces

An interface address is a place to listen and send on. Not every one that a host reports is fit.

* `Candidate.interface?`: the interface of a candidate that is fit;
* `groupAddress`: where datagrams that leave through an interface are sent.
-/

namespace ServiceDiscovery

structure Interface where
  name : String
  index : UInt32
  address : IpAddress
  deriving DecidableEq

def Interface.text (i : Interface) : String :=
  i.name ++ "#" ++ toString i.index ++ " (" ++ i.address.text ++ ")"

/-! ### Candidates -/

structure Candidate where
  name : String
  index : UInt32
  address? : Option IpAddress
  up : Bool := true
  loopback : Bool := false
  multicast : Bool := true

namespace Candidate

/-- How the names of virtual devices begin. -/
def virtualNames : List String :=
  ["docker", "veth", "br-", "virbr", "vmnet", "vboxnet", "lxcbr", "lxdbr", "cni", "flannel", "cali",
    "vEthernet", "utun", "awdl", "llw", "bridge", "zt"]

/-- Whether a name is that of a virtual device. -/
def looksVirtual (name : String) : Bool :=
  virtualNames.any fun start => start.toList.isPrefixOf name.toList

/-- The interface of a candidate: it has to be up and real, has to reach other hosts, and its
address has to be its own. -/
def interface? (c : Candidate) : Option Interface :=
  if c.up && !c.loopback && c.multicast && !looksVirtual c.name then
    match c.address? with
    | some x =>
      if x.isLoopback || x.isUnspecified || x.isMulticast then none
      else some ⟨c.name, c.index, x⟩
    | none => none
  else none

end Candidate

/-! ### Where to send -/

/-- The IPv4 group of local name queries, 224.0.0.251. -/
def groupV4 : Ipv4 := ⟨224, 0, 0, 251⟩

/-- The IPv6 group of local name queries, ff02::fb. -/
def groupV6 : Ipv6 := ⟨0xFF02, 0, 0, 0, 0, 0, 0, 0xFB⟩

/-- The port of local name queries. -/
def groupPort : UInt16 := 5353

/-- Where datagrams are sent that leave through an interface: to the group of its family, on its
own link. -/
def groupAddress (through : Option Interface) (port : UInt16) : SocketAddress :=
  match through with
  | some ⟨_, index, .v6 _⟩ => .v6 groupV6 port index
  | _ => .v4 groupV4 port

end ServiceDiscovery
