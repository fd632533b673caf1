import ServiceDiscovery.Address.Basic
import ServiceDiscovery.Record.Codes
import ServiceDiscovery.Record.Attribute
import ServiceDiscovery.Wire.NameReading
import ServiceDiscovery.Wire.Output

/-!
# What records hold

The data of the record types that service discovery works with. Data of other types stays bytes.

* `Body.type?`: the record type that a body belongs to;
* `Body.write`, `Body.read`: the data on the wire;
* `Body.text?`: the data for readers.
-/

namespace ServiceDiscovery

/-- Where a service is to be found. -/
structure Srv where
  priority : UInt16 := 0
  weight : UInt16 := 0
  port : UInt16 := 0
  target : String
  /-- The service label of the name that the record belongs to. -/
  service : String := ""
  /-- The protocol label of the name that the record belongs to. -/
  protocol : String := ""
  deriving DecidableEq

inductive Body where
  | a (address : Ipv4)
  | aaaa (address : Ipv6)
  | ptr (target : String)
  | srv (location : Srv)
  | txt (strings : List String)
  | nsec
  | unknown
  deriving DecidableEq

namespace Body

/-- The record type that a body belongs to. -/
def type? : Body → Option RecordType
  | a _ => some .a
  | aaaa _ => some .aaaa
  | ptr _ => some .ptr
  | srv _ => some .srv
  | txt _ => some .txt
  | nsec => some .nsec
  | unknown => none

/-! ### On the wire -/

/-- The data of a text record. No strings at all are written as one empty string. -/
def writeTexts (strings : List String) : Except Error Bytes :=
  if strings.isEmpty then .ok [0]
  else if strings.any (· = "") then .error .emptyText
  else (Output.texts strings).complete

/-- The data on the wire, or `none` for bodies that do not determine it. -/
def write : Body → Except Error (Option Bytes)
  | a address => .ok address.bytes
  | aaaa address => .ok address.bytes
  | ptr target => do return ← (Output.name target).complete
  | srv s => do
    let target ← (Output.name s.target).complete
    return Bytes.ofWord s.priority ++ Bytes.ofWord s.weight ++ Bytes.ofWord s.port ++ target
  | txt strings => do return ← writeTexts strings
  | nsec | unknown => .ok none

def readIpv4 : Reader Ipv4 := fun c =>
  match c.rest with
  | w :: x :: y :: z :: _ => .ok ⟨w, x, y, z⟩ (c.skip 4)
  | _ => .error .unexpectedEnd c

/-- The 16-bit numbers of bytes, two by two. -/
def words : Bytes → List UInt16
  | high :: low :: rest => Bytes.toWord high low :: words rest
  | _ => []

def readIpv6 : Reader Ipv6 := do
  let bytes ← Reader.take 16
  match Ipv6.ofGroups? (words bytes) with
  | some address => return address
  | none => throw .unexpectedEnd

/-- Reads the location of the service that `owner` names. -/
def readSrv (owner : String) : Reader Srv := do
  let priority ← Reader.word
  let weight ← Reader.word
  let port ← Reader.word
  let target ← Reader.name
  let (service, protocol) := Name.serviceLabels owner
  return { priority, weight, port, target, service, protocol }

/-- Reads data of a given type that belongs to `owner`; more data than needed may be left. -/
def read (type : RecordType) (owner : String) : Reader Body :=
  match type with
  | .a => do return a (← readIpv4)
  | .aaaa => do return aaaa (← readIpv6)
  | .ptr => do return ptr (← Reader.name)
  | .srv => do return srv (← readSrv owner)
  | .txt => do return txt (← Reader.texts)
  | .nsec => return nsec
  | _ => return unknown

/-! ### For readers -/

/-- The data for readers, unless only its bytes are known. -/
def text? : Body → Option String
  | a address => some address.text
  | aaaa address => some address.text
  | ptr target => some (target ++ ".")
  | srv s => some (toString s.priority ++ " " ++ toString s.weight ++ " " ++ toString s.port
      ++ " " ++ s.target ++ ".")
  | txt strings => some (" ".intercalate (strings.map Text.quote))
  | nsec | unknown => none

end Body

end ServiceDiscovery
