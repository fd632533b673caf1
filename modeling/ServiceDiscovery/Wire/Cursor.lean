import ServiceDiscovery.Bytes
import ServiceDiscovery.Error
import ServiceDiscovery.Text.Utf8

/-!
# Reading bytes

A cursor stands before the bytes that are still to be read and knows the whole packet, because
compressed names refer back into it. A reader moves the cursor, also when it fails: what it had
read by then stays read.

* `Reader.byte`, `word`, `long`, `take`: fixed amounts; when bytes are missing they do not move;
* `Reader.text`, `texts`: length-prefixed strings, one or all that follow.
-/

namespace ServiceDiscovery

structure Cursor where
  /-- The bytes that pointers of compressed names refer to. -/
  packet : Bytes
  /-- The bytes still to be read. -/
  rest : Bytes
  /-- How many bytes have been read. -/
  offset : Nat
  deriving DecidableEq

namespace Cursor

/-- The start of `bytes`, read on their own. -/
def start (bytes : Bytes) : Cursor := ⟨bytes, bytes, 0⟩

/-- The start of `bytes`, whose pointers refer to `packet`. -/
def inside (packet bytes : Bytes) : Cursor := ⟨packet, bytes, 0⟩

/-- The place in the packet that is `offset` bytes from its start. -/
def jump (c : Cursor) (offset : Nat) : Cursor := ⟨c.packet, c.packet.drop offset, offset⟩

/-- The cursor behind the next `n` bytes. -/
def skip (c : Cursor) (n : Nat) : Cursor :=
  { c with rest := c.rest.drop n, offset := c.offset + n }

theorem length_rest_skip (c : Cursor) (n : Nat) : (c.skip n).rest.length = c.rest.length - n := by
  simp [skip]

end Cursor

/-- Reads a value at a cursor and moves it. -/
abbrev Reader (α : Type) := EStateM Error Cursor α

namespace Reader

/-- The value read from the start of `bytes`. -/
def readAll {α : Type} (read : Reader α) (c : Cursor) : Except Error α :=
  match read c with
  | .ok a _ => .ok a
  | .error e _ => .error e

/-! ### Fixed amounts -/

def byte : Reader UInt8 := fun c =>
  match c.rest with
  | b :: _ => .ok b (c.skip 1)
  | [] => .error .unexpectedEnd c

/-- The next two bytes as a number. -/
def word : Reader UInt16 := fun c =>
  match c.rest with
  | a :: b :: _ => .ok (Bytes.toWord a b) (c.skip 2)
  | _ => .error .unexpectedEnd c

/-- The next four bytes as a number. -/
def long : Reader UInt32 := fun c =>
  match c.rest with
  | a :: b :: d :: e :: _ => .ok (Bytes.toLong a b d e) (c.skip 4)
  | _ => .error .unexpectedEnd c

def take (n : Nat) : Reader Bytes := fun c =>
  let taken := c.rest.take n
  if taken.length = n then .ok taken (c.skip n) else .error .unexpectedEnd c

/-! ### Character strings -/

/-- A string behind a byte that gives its length. -/
def text : Reader String := do
  let length ← byte
  let bytes ← take length.toNat
  return Text.decode bytes

/-- A cursor that a successful reading of a string leaves has fewer bytes before it. -/
theorem length_rest_text {c c' : Cursor} {s : String} (h : text c = .ok s c') :
    c'.rest.length < c.rest.length := by
  unfold text byte take at h
  simp only [bind, EStateM.bind, pure, EStateM.pure] at h
  split at h
  · rename_i hb
    split at hb
    · rename_i hr
      simp only [EStateM.Result.ok.injEq] at hb
      obtain ⟨-, rfl⟩ := hb
      split at h
      · rename_i ht
        split at ht
        · simp only [EStateM.Result.ok.injEq] at h ht
          obtain ⟨-, rfl⟩ := h
          obtain ⟨-, rfl⟩ := ht
          simp only [Cursor.length_rest_skip, hr, List.length_cons]
          omega
        · cases ht
      · cases h
    · cases hb
  · cases h

/-- Strings up to the end, but at least one; the empty ones are left out. -/
def textsFrom (seen : Array String) (c : Cursor) : EStateM.Result Error Cursor (Array String) :=
  match _h : text c with
  | .error e c => .error e c
  | .ok s c' =>
    let seen := if s = "" then seen else seen.push s
    if c'.rest.isEmpty then .ok seen c' else textsFrom seen c'
termination_by c.rest.length
decreasing_by exact length_rest_text (by assumption)

/-- All strings up to the end, but at least one; the empty ones are left out. -/
def texts : Reader (List String) := do
  let seen ← textsFrom #[]
  return seen.toList

end Reader

end ServiceDiscovery
