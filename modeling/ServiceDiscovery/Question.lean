import ServiceDiscovery.Record.Codes
import ServiceDiscovery.Wire.NameReading
import ServiceDiscovery.Wire.Output

/-!
# Questions

A question names what is asked for. The top bit of its class field asks for a direct answer.

* `Question.write`, `Question.read`: on the wire;
* `Question.same`: equality up to the spelling of the name and how the answer is sent;
* `Question.text`: a line for readers.
-/

namespace ServiceDiscovery

structure Question where
  name : String
  type : RecordType
  dnsClass : DnsClass := .internet
  /-- Whether the answer is wanted directly rather than by multicast. -/
  unicast : Bool := false
  deriving DecidableEq

namespace Question

def write (q : Question) : Except Error Bytes := do
  let name ← (Output.name q.name).complete
  return name ++ Bytes.ofWord q.type.code ++ Bytes.ofWord (q.dnsClass.field q.unicast)

def read : Reader Question := do
  let name ← Reader.name
  let type ← Reader.word
  let (dnsClass, unicast) := DnsClass.ofField (← Reader.word)
  return { name, type := .ofCode type, dnsClass, unicast }

/-- Whether two questions ask for the same thing. -/
def same (q q' : Question) : Bool :=
  Name.same q.name q'.name && q.type = q'.type && q.dnsClass = q'.dnsClass

def text (q : Question) : String :=
  q.name ++ ".\t" ++ q.dnsClass.text ++ "\t" ++ q.type.text ++ if q.unicast then "\tQU" else ""

end Question

end ServiceDiscovery
