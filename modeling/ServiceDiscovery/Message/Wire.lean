import ServiceDiscovery.Message.Basic

/-!
# Messages on the wire

A packet is a header followed by as many entries of each section as the header announces; bytes
after the last entry do not count.

* `Message.decode`, `decodeFrom`: the message of a packet, the latter with its sender;
* `Message.encode`: the bytes of a message. They are the received ones as long as it is unchanged;
* `Message.build`: the bytes made from the entries.
-/

namespace ServiceDiscovery

namespace Message

/-! ### Reading -/

/-- Reads `count` more entries of a section after `seen`, and says of one that fails where it is. -/
def readEntries {α : Type} (read : Reader α) (place : Section) :
    (count : Nat) → (seen : Array α) → Reader (Array α)
  | 0, seen, c => .ok seen c
  | count + 1, seen, c =>
    match read c with
    | .ok entry c => readEntries read place count (seen.push entry) c
    | .error e c => .error (.malformedEntry place seen.size e) c

/-- Reads as many entries of a section as the header announces. -/
def readSection {α : Type} (read : Reader α) (place : Section) (count : UInt16) :
    Reader (Array α) :=
  readEntries read place count.toNat #[]

/-- Reads a message, which keeps its bytes. -/
def read : Reader Message := do
  let c ← get
  let header ← Header.read
  let questions ← readSection Question.read .question header.counts.questions
  let answers ← readSection Record.read .answer header.counts.answers
  let authorities ← readSection Record.read .authority header.counts.authorities
  let additionals ← readSection Record.read .additional header.counts.additionals
  return { header, questions, answers, authorities, additionals, received := some c.packet }

def decode (packet : Bytes) : Except Error Message := Reader.readAll read (.start packet)

/-- The message of a packet that was received from `sender`. -/
def decodeFrom (packet : Bytes) (sender : SocketAddress) : Except Error Message := do
  return (← decode packet).tagged sender

/-! ### Writing -/

/-- The bytes made from the head and the entries. -/
def build (m : Message) : Except Error Bytes := do
  let questions ← m.questions.toList.mapM Question.write
  let records ← m.records.mapM Record.write
  return m.header.bytes ++ questions.flatten ++ records.flatten

/-- The bytes of a message: those it was read from, if it is unchanged. -/
def encode (m : Message) : Except Error Bytes :=
  match m.received with
  | some packet => .ok packet
  | none => m.build

end Message

end ServiceDiscovery
