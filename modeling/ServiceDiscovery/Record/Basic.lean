import ServiceDiscovery.Record.Body

/-!
# Records

A record ties data to a name. It keeps the bytes of its data as they were received or first
written, beside what they mean.

* `Record.ofBody`, `ofData`: records from either side, `a`, `aaaa`, `ptr`, `srv`, `txt` for the
  usual ones;
* `Record.write`, `read`: on the wire; `readFrom`, `readAt`: a record on its own;
* `Record.same`: equality of type, name and data as shown;
* `Record.text`: a line for readers.
-/

namespace ServiceDiscovery

/-- What all records have in common. -/
structure RecordHeader where
  name : String
  type : RecordType
  dnsClass : DnsClass := .internet
  /-- Whether the record replaces older ones of its kind. -/
  cacheFlush : Bool := false
  ttl : UInt32
  deriving DecidableEq

/-- A record: its head, the bytes of its data and their meaning. -/
structure Record where
  header : RecordHeader
  data : Bytes
  body : Body
  deriving DecidableEq

namespace Record

/-! ### Making records -/

/-- A record with a given body, whose type goes with the body. -/
def ofBody (header : RecordHeader) (body : Body) : Except Error Record := do
  let data ← body.write
  let header := { header with type := body.type?.getD header.type }
  return { header, data := data.getD [], body }

/-- A record with given data. Names in the data can only refer to the data itself. -/
def ofData (header : RecordHeader) (data : Bytes) : Except Error Record := do
  let body ← Reader.readAll (Body.read header.type header.name) (.start data)
  return { header, data, body }

/-- The IPv4 address of a host. -/
def a (name : String) (ttl : UInt32) (address : Ipv4) : Record :=
  { header := { name, type := .a, ttl }, data := address.bytes, body := .a address }

/-- The IPv6 address of a host. -/
def aaaa (name : String) (ttl : UInt32) (address : Ipv6) : Record :=
  { header := { name, type := .aaaa, ttl }, data := address.bytes, body := .aaaa address }

/-- A name that another one points to. -/
def ptr (name : String) (ttl : UInt32) (target : String) : Except Error Record :=
  ofBody { name, type := .ptr, ttl } (.ptr target)

/-- The location of a service. -/
def srv (name : String) (ttl : UInt32) (priority weight port : UInt16) (target : String) :
    Except Error Record :=
  let (service, protocol) := Name.serviceLabels name
  ofBody { name, type := .srv, ttl }
    (.srv { priority, weight, port, target, service, protocol })

/-- The strings that describe a service. -/
def txt (name : String) (ttl : UInt32) (strings : List String) : Except Error Record :=
  ofBody { name, type := .txt, ttl } (.txt strings)

/-! ### On the wire -/

/-- The bytes of a record. Data whose meaning is known is written anew, since what was received may
hold pointers into another packet. -/
def write (r : Record) : Except Error Bytes := do
  let name ← (Output.name r.header.name).complete
  let data := (← r.body.write).getD r.data
  let framed ← Part.data data
  return name ++ Bytes.ofWord r.header.type.code
    ++ Bytes.ofWord (r.header.dnsClass.field r.header.cacheFlush) ++ Bytes.ofLong r.header.ttl
    ++ framed

/-- Reads a record. Its data is read within its own length, whatever of it is used. -/
def read : Reader Record := do
  let name ← Reader.name
  let type := RecordType.ofCode (← Reader.word)
  let (dnsClass, cacheFlush) := DnsClass.ofField (← Reader.word)
  let ttl ← Reader.long
  let length ← Reader.word
  let data ← Reader.take length.toNat
  let c ← get
  match Reader.readAll (Body.read type name) (.inside c.packet data) with
  | .ok body => return { header := { name, type, dnsClass, cacheFlush, ttl }, data, body }
  | .error e => throw e

/-- The record at the start of `bytes`. -/
def readFrom (bytes : Bytes) : Except Error Record := Reader.readAll read (.start bytes)

/-- The record that starts `offset` bytes into a packet. -/
def readAt (packet : Bytes) (offset : Nat) : Except Error Record :=
  if packet.length < offset then .error .unexpectedEnd
  else Reader.readAll read (.inside packet (packet.drop offset))

/-! ### Comparing and showing -/

def isNamed (r : Record) (name : String) : Bool := Name.same r.header.name name

/-- A byte as a character if it is a visible one or a space, and a dot otherwise. -/
def visible (b : UInt8) : Char :=
  if 0x20 ≤ b ∧ b ≤ 0x7E then Char.ofNat b.toNat else '.'

def dataText (r : Record) : String :=
  r.body.text?.getD (String.ofList (r.data.map visible))

def same (r r' : Record) : Bool :=
  r.header.type = r'.header.type && r.isNamed r'.header.name && r.dataText = r'.dataText

def text (r : Record) : String :=
  r.header.name ++ ".\t" ++ toString r.header.ttl ++ "\t" ++ r.header.dnsClass.text ++ "\t"
    ++ r.header.type.text ++ "\t" ++ r.dataText
    ++ if r.header.cacheFlush then "\t; cache-flush" else ""

end Record

end ServiceDiscovery
