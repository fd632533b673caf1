import ServiceDiscovery.Interface
import ServiceDiscovery.Query

/-!
# Settings

What a session is set up with.

* `Settings`: the settings and their defaults;
* `Settings.allows`: whether an interface is to be used.
-/

namespace ServiceDiscovery

structure Settings where
  /-- How long a query collects answers that does not say so itself, in milliseconds. -/
  queryTimeout : Nat := 3000
  domain : String := Query.defaultDomain
  port : UInt16 := groupPort
  /-- Whether interfaces with IPv4 addresses are used. -/
  ipv4 : Bool := true
  /-- Whether interfaces with IPv6 addresses are used. -/
  ipv6 : Bool := true
  /-- How many bytes of a datagram are read. -/
  bufferSize : Nat := 9000
  /-- The interfaces to use; where none are named, those that the host has. -/
  interfaces : Option (List Interface) := none

/-- Whether the family of an interface is switched on. -/
def Settings.allows (s : Settings) (i : Interface) : Bool :=
  if i.address.isV4 then s.ipv4 else s.ipv6

end ServiceDiscovery
