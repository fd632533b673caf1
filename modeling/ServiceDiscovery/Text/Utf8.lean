import ServiceDiscovery.Bytes

/-!
# Text as UTF-8

Writing text gives its UTF-8 bytes. Reading never fails: bytes that begin no character are read as
U+FFFD, one for each longest run that could have begun one.

* `encode`: the bytes of a text;
* `decode`: the text that bytes stand for, by `takeChar`, one character at a time;
* `expected`: which continuation bytes a leading byte asks for.
-/

namespace ServiceDiscovery.Text

def encode (s : String) : Bytes := s.toList.flatMap String.utf8EncodeChar

/-- The character that stands for bytes that cannot be read. -/
def replacement : Char := '\uFFFD'

/-- The range of a continuation byte. -/
abbrev ByteRange := UInt8 × UInt8

/-- The range of a continuation byte that nothing narrows. -/
def continuation : ByteRange := (0x80, 0xBF)

/-- The ranges of the bytes that follow a leading byte, `none` if it can lead no character. -/
def expected (lead : UInt8) : Option (List ByteRange) :=
  if lead < 0x80 then some []
  else if lead < 0xC2 then none
  else if lead < 0xE0 then some [continuation]
  else if lead = 0xE0 then some [(0xA0, 0xBF), continuation]
  else if lead = 0xED then some [(0x80, 0x9F), continuation]
  else if lead < 0xF0 then some [continuation, continuation]
  else if lead = 0xF0 then some [(0x90, 0xBF), continuation, continuation]
  else if lead < 0xF4 then some [continuation, continuation, continuation]
  else if lead = 0xF4 then some [(0x80, 0x8F), continuation, continuation]
  else none

/-- The longest beginning of `bytes` whose members lie in the ranges, one after another. -/
def within : List ByteRange → Bytes → Bytes
  | (low, high) :: ranges, b :: bytes =>
    if low ≤ b ∧ b ≤ high then b :: within ranges bytes else []
  | _, _ => []

/-- The code point of a leading byte and the continuation bytes that it asked for. -/
def codePoint (lead : UInt8) (tail : Bytes) : Nat :=
  let top := match tail.length with
    | 0 => lead.toNat
    | 1 => lead.toNat % 0x20
    | 2 => lead.toNat % 0x10
    | _ => lead.toNat % 0x08
  tail.foldl (fun n b => n * 0x40 + b.toNat % 0x40) top

/-- The character that begins with `lead`, and how many of the bytes that follow belong to it. -/
def takeChar (lead : UInt8) (bytes : Bytes) : Char × Nat :=
  match expected lead with
  | none => (replacement, 0)
  | some ranges =>
    let tail := within ranges bytes
    if tail.length = ranges.length then (Char.ofNat (codePoint lead tail), tail.length)
    else (replacement, tail.length)

def decodeChars : Bytes → List Char
  | [] => []
  | lead :: bytes =>
    let (c, used) := takeChar lead bytes
    c :: decodeChars (bytes.drop used)
termination_by bytes => bytes.length
decreasing_by
  simp only [List.length_drop, List.length_cons]
  omega

def decode (bytes : Bytes) : String := String.ofList (decodeChars bytes)

end ServiceDiscovery.Text
