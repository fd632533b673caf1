import ServiceDiscovery.Record.Codes
import ServiceDiscovery.Wire.Cursor

/-!
# Headers

A message begins with twelve bytes: an identifier, a word of flags and codes, and the number of
entries in each of its four sections.

* `Header.flags`, `Header.ofFlags`: the word of flags and codes;
* `Header.bytes`, `Header.read`: the twelve bytes;
* `Header.text`: a line for readers.
-/

namespace ServiceDiscovery

/-- The number of entries that a header announces for each section. -/
structure Counts where
  questions : UInt16 := 0
  answers : UInt16 := 0
  authorities : UInt16 := 0
  additionals : UInt16 := 0
  deriving DecidableEq

structure Header where
  id : UInt16 := 0
  response : Bool := false
  /-- The kind of operation; four bits of it are sent. -/
  operation : UInt8 := 0
  authoritative : Bool := false
  truncated : Bool := false
  recursionDesired : Bool := false
  recursionAvailable : Bool := false
  /-- The bit that is reserved. -/
  zero : Bool := false
  authenticData : Bool := false
  checkingDisabled : Bool := false
  /-- How the response went; four bits of it are sent. -/
  code : ResponseCode := .success
  counts : Counts := {}
  deriving DecidableEq

namespace Header

def request : Header := {}

/-- The head of a response by the host that the records belong to. -/
def answer : Header := { response := true, authoritative := true }

def isRequest (h : Header) : Bool := !h.response

/-- Responses on the local link always come from the host that the records belong to. -/
def isResponse (h : Header) : Bool := h.response && h.authoritative

/-! ### The word of flags and codes -/

def bit (set : Bool) (position : Nat) : Nat := if set then 1 <<< position else 0

def flags (h : Header) : UInt16 :=
  UInt16.ofNat <| bit h.response 15 + h.operation.toNat % 16 * 2048 + bit h.authoritative 10
    + bit h.truncated 9 + bit h.recursionDesired 8 + bit h.recursionAvailable 7 + bit h.zero 6
    + bit h.authenticData 5 + bit h.checkingDisabled 4 + h.code.code.toNat % 16

/-- The head that an identifier, a word of flags and the numbers of entries stand for. -/
def ofFlags (id flags : UInt16) (counts : Counts) : Header where
  id := id
  response := flags.toNat.testBit 15
  operation := UInt8.ofNat (flags.toNat / 2048 % 16)
  authoritative := flags.toNat.testBit 10
  truncated := flags.toNat.testBit 9
  recursionDesired := flags.toNat.testBit 8
  recursionAvailable := flags.toNat.testBit 7
  zero := flags.toNat.testBit 6
  authenticData := flags.toNat.testBit 5
  checkingDisabled := flags.toNat.testBit 4
  code := ResponseCode.ofCode (UInt8.ofNat (flags.toNat % 16))
  counts := counts

/-! ### On the wire -/

def size : Nat := 12

def bytes (h : Header) : Bytes :=
  Bytes.ofWord h.id ++ Bytes.ofWord h.flags ++ Bytes.ofWord h.counts.questions
    ++ Bytes.ofWord h.counts.answers ++ Bytes.ofWord h.counts.authorities
    ++ Bytes.ofWord h.counts.additionals

/-- Reads the twelve bytes, or none of them. -/
def read : Reader Header := do
  let c ← get
  if (c.rest.take size).length < size then throw .unexpectedEnd
  let id ← Reader.word
  let flags ← Reader.word
  let questions ← Reader.word
  let answers ← Reader.word
  let authorities ← Reader.word
  let additionals ← Reader.word
  return ofFlags id flags ⟨questions, answers, authorities, additionals⟩

/-! ### For readers -/

/-- The short names of the flags that are set; the reserved one has none. -/
def flagNames (h : Header) : List String :=
  [(h.response, "qr"), (h.authoritative, "aa"), (h.truncated, "tc"), (h.recursionDesired, "rd"),
    (h.recursionAvailable, "ra"), (h.authenticData, "ad"), (h.checkingDisabled, "cd")].filterMap
    fun (set, short) => if set then some short else none

def text (h : Header) : String :=
  "opcode: " ++ toString h.operation ++ ", status: " ++ h.code.text
    ++ ", id: " ++ toString h.id ++ ", flags: " ++ " ".intercalate h.flagNames
    ++ "; QUERY: " ++ toString h.counts.questions ++ ", ANSWER: " ++ toString h.counts.answers
    ++ ", AUTHORITY: " ++ toString h.counts.authorities
    ++ ", ADDITIONAL: " ++ toString h.counts.additionals

end Header

end ServiceDiscovery
