import ServiceDiscovery.Wire.Cursor
import ServiceDiscovery.Name

/-!
# Reading names

A name in a packet is a run of labels, each behind a byte with its length, and then either a zero
byte or a pointer: two bytes whose first two bits are set and whose other fourteen say where in the
packet the name goes on. At most sixteen pointers are followed.

* `labelRun`: the labels up to the zero byte or the pointer;
* `labelsWithin`: all labels, through a limited number of pointers;
* `name`: the labels with dots between them. The cursor stands behind the first pointer, wherever
  that one led.
-/

namespace ServiceDiscovery

/-- What ends a run of labels. -/
inductive RunEnd where
  | stop
  /-- The first byte of a pointer, which carries the high bits of the target. -/
  | pointer (lead : UInt8)
  deriving DecidableEq

namespace Reader

/-- How many pointers a name may go through. -/
def maxPointers : Nat := 16

/-- The labels from here up to a zero byte or the first byte of a pointer, after `seen`. -/
def labelRun (seen : Array String) (c : Cursor) :
    EStateM.Result Error Cursor (Array String × RunEnd) :=
  match _h : c.rest with
  | [] => .error .unexpectedEnd c
  | lead :: rest =>
    if lead = 0 then .ok (seen, .stop) (c.skip 1)
    else if lead < 0x40 then
      let label := rest.take lead.toNat
      if label.length = lead.toNat then
        labelRun (seen.push (Text.decode label)) (c.skip (lead.toNat + 1))
      else .error .unexpectedEnd (c.skip 1)
    else if lead < 0xC0 then .error .reservedLabel (c.skip 1)
    else .ok (seen, .pointer lead) (c.skip 1)
termination_by c.rest.length
decreasing_by
  simp only [Cursor.length_rest_skip, _h, List.length_cons]
  omega

/-- Where a pointer leads, by its two bytes. -/
def target (lead low : UInt8) : Nat := (Bytes.toWord lead low).toNat % 0x4000

/-- All labels of a name, through at most `budget` pointers. -/
def labelsWithin : (budget : Nat) → Reader (List String)
  | budget, c =>
    match labelRun #[] c with
    | .error e c => .error e c
    | .ok (labels, .stop) c => .ok labels.toList c
    | .ok (labels, .pointer lead) c =>
      match budget with
      | 0 => .error .tooManyPointers c
      | budget + 1 =>
        match byte c with
        | .error e c => .error e c
        | .ok low c =>
          match labelsWithin budget (c.jump (target lead low)) with
          | .error e _ => .error e c
          | .ok more _ => .ok (labels.toList ++ more) c

/-- A name, which may be compressed. -/
def name : Reader String := do
  let labels ← labelsWithin maxPointers
  return Name.ofLabels labels

end Reader

end ServiceDiscovery
