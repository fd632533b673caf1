import ServiceDiscovery.Address.Basic
import ServiceDiscovery.Record.Attribute

/-!
# Services

A service that was found: its name, where it is and what it says of itself.

* `Service.same`: equality of name and place. Attributes do not count, so an announcement with
  other attributes is of the same service;
* `Service.text`: a service for readers;
* `Catalog`: services in the order they were found, none the same as another.
-/

namespace ServiceDiscovery

/-- An instance of a service. -/
structure Service where
  /-- The full name of the instance. -/
  name : String
  domain : String := ""
  /-- The host that offers the service, empty if unknown. -/
  host : String := ""
  addresses : List IpAddress := []
  port : UInt16 := 0
  attributes : List Attribute := []
  deriving DecidableEq

namespace Service

/-- Whether two services have the same name and place. -/
def same (s s' : Service) : Bool :=
  s.name = s'.name && s.host = s'.host && s.port = s'.port && s.domain = s'.domain
    && s.addresses = s'.addresses

def text (s : Service) : String :=
  s.name ++ (if s.host = "" then "" else " at " ++ s.host ++ ":" ++ toString s.port)
    ++ (if s.addresses.isEmpty then ""
      else " [" ++ ", ".intercalate (s.addresses.map IpAddress.text) ++ "]")
    ++ String.join (s.attributes.map fun a => " " ++ a.text)

end Service

/-- Services in the order they were found. -/
structure Catalog where
  services : List Service := []
  deriving DecidableEq

namespace Catalog

def contains (c : Catalog) (s : Service) : Bool := c.services.any (·.same s)

/-- The catalog with one more service, unless the same one is listed. -/
def insert (c : Catalog) (s : Service) : Catalog :=
  if c.contains s then c else ⟨c.services ++ [s]⟩

def size (c : Catalog) : Nat := c.services.length

end Catalog

end ServiceDiscovery
