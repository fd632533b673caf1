import ServiceDiscovery.Bytes
import ServiceDiscovery.Error
import ServiceDiscovery.Text.Utf8
import ServiceDiscovery.Name

/-!
# Writing bytes

What is written consists of parts that follow one another. A part that cannot be written ends the
writing; the parts before it stay written.

* `Output.ofParts`: the bytes up to the first part that fails, and its error;
* `Output.text`, `texts`: strings behind a byte with their length;
* `Output.name`: an uncompressed name, label by label;
* `Output.data`: bytes behind a number with their length.
-/

namespace ServiceDiscovery

/-- What has been written, and why no more was if something failed. -/
structure Output where
  bytes : Bytes
  failure : Option Error
  deriving DecidableEq

abbrev Part := Except Error Bytes

namespace Part

def bytes? : Part → Option Bytes
  | .ok bytes => some bytes
  | .error _ => none

def failure? : Part → Option Error
  | .ok _ => none
  | .error e => some e

/-- A string behind a byte with its length. -/
def text (s : String) : Part :=
  let bytes := Text.encode s
  if bytes.length > 255 then .error .stringTooLong
  else .ok (UInt8.ofNat bytes.length :: bytes)

/-- A label behind a byte with its length. -/
def label (s : String) : Part :=
  let bytes := Text.encode s
  if bytes.length > 63 then .error .labelTooLong
  else .ok (UInt8.ofNat bytes.length :: bytes)

/-- Bytes behind a number with their length. -/
def data (bytes : Bytes) : Part :=
  if bytes.length > 65535 then .error .dataTooLong
  else .ok (Bytes.ofWord (UInt16.ofNat bytes.length) ++ bytes)

end Part

namespace Output

/-- The parts up to the first that fails. -/
def ofParts (parts : List Part) : Output where
  bytes := (parts.takeWhile fun part => part.failure? = none).flatMap fun part =>
    part.bytes?.getD []
  failure := parts.findSome? Part.failure?

/-- The bytes of an output without failure. -/
def complete (out : Output) : Except Error Bytes :=
  match out.failure with
  | none => .ok out.bytes
  | some e => .error e

/-- Strings behind their lengths, one after another. -/
def texts (ss : List String) : Output := ofParts (ss.map Part.text)

/-- A name without compression: its labels behind their lengths, and a zero byte. -/
def name (s : String) : Output := ofParts ((Name.labels s).map Part.label ++ [.ok [0]])

end Output

end ServiceDiscovery
