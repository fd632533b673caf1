import ServiceDiscovery.Address.Basic
import ServiceDiscovery.Error

/-!
# Reading addresses

The texts that stand for an address. A reader takes the longest beginning of the characters that it
can and leaves the rest; a whole text is an address when nothing is left.

* `Ipv4.read`, `Ipv6.read`: the two families;
* `IpAddress.ofText`, `SocketAddress.ofText`: whole texts.
-/

namespace ServiceDiscovery

/-- Reads a value from the beginning of a text and leaves the rest, or refuses. -/
abbrev TextReader (α : Type) := List Char → Option (α × List Char)

namespace TextReader

def char (expected : Char) : TextReader Unit
  | c :: rest => if c = expected then some ((), rest) else none
  | [] => none

/-- The value of a digit in a base up to sixteen. -/
def digitValue? (base : Nat) (c : Char) : Option Nat :=
  let value :=
    if '0' ≤ c ∧ c ≤ '9' then c.toNat - '0'.toNat
    else if 'a' ≤ c ∧ c ≤ 'f' then c.toNat - 'a'.toNat + 10
    else if 'A' ≤ c ∧ c ≤ 'F' then c.toNat - 'A'.toNat + 10
    else base
  if value < base then some value else none

/-- All digits at the beginning of a text, as a number below `bound`. -/
def number (base bound : Nat) : TextReader Nat := fun cs =>
  let digits := cs.takeWhile fun c => (digitValue? base c).isSome
  let value := (digits.filterMap (digitValue? base)).foldl (fun n d => n * base + d) 0
  if digits ≠ [] ∧ value < bound then some (value, cs.drop digits.length) else none

/-- A number of at most `width` digits. -/
def narrowNumber (base width bound : Nat) : TextReader Nat := fun cs =>
  if (cs.takeWhile fun c => (digitValue? base c).isSome).length ≤ width then number base bound cs
  else none

/-- A decimal byte, without leading zeros. -/
def octet : TextReader UInt8 := fun cs => do
  let (value, rest) ← narrowNumber 10 3 256 cs
  if cs.head? = some '0' ∧ cs.length - rest.length > 1 then none
  return (UInt8.ofNat value, rest)

/-- A group of up to four hexadecimal digits. -/
def group : TextReader UInt16 := fun cs => do
  let (value, rest) ← narrowNumber 16 4 65536 cs
  return (UInt16.ofNat value, rest)

def port : TextReader UInt16 := fun cs => do
  let (_, rest) ← char ':' cs
  let (value, rest) ← number 10 65536 rest
  return (UInt16.ofNat value, rest)

/-- A percent sign and the number of a link; zero when there is no such thing. -/
def scope (cs : List Char) : UInt32 × List Char :=
  let scope? : Option (UInt32 × List Char) := do
    let (_, rest) ← char '%' cs
    let (value, rest) ← number 10 4294967296 rest
    return (UInt32.ofNat value, rest)
  scope?.getD (0, cs)

/-- The value of a text that a reader takes as a whole. -/
def whole {α : Type} (read : TextReader α) (s : String) : Option α :=
  match read s.toList with
  | some (value, []) => some value
  | _ => none

end TextReader

open TextReader

/-- Four decimal bytes with dots. -/
def Ipv4.read : TextReader Ipv4 := fun cs => do
  let (a, cs) ← octet cs
  let (_, cs) ← char '.' cs
  let (b, cs) ← octet cs
  let (_, cs) ← char '.' cs
  let (c, cs) ← octet cs
  let (_, cs) ← char '.' cs
  let (d, cs) ← octet cs
  return (⟨a, b, c, d⟩, cs)

namespace Ipv6

/-- A run of groups: whether it ends in an embedded IPv4 address, and what follows it. -/
structure GroupRun where
  groups : List UInt16
  embedded : Bool
  rest : List Char

/-- As many groups with colons as there are, up to `limit`; while two groups are still missing an
IPv4 address may take their place and ends the run. -/
def readGroups : (limit : Nat) → (started : Bool) → List Char → GroupRun
  | 0, _, cs => ⟨[], false, cs⟩
  | limit + 1, started, cs =>
    let separated : Option (List Char) :=
      if started then (char ':' cs).map Prod.snd else some cs
    match separated with
    | none => ⟨[], false, cs⟩
    | some after =>
      match if limit = 0 then none else Ipv4.read after with
      | some (v4, rest) => ⟨[Bytes.toWord v4.a v4.b, Bytes.toWord v4.c v4.d], true, rest⟩
      | none =>
        match group after with
        | none => ⟨[], false, cs⟩
        | some (value, rest) =>
          let run := readGroups limit true rest
          { run with groups := value :: run.groups }

/-- Eight groups, or fewer around a double colon that stands for at least one zero group. -/
def read : TextReader Ipv6 := fun cs => do
  let head := readGroups 8 false cs
  if head.groups.length = 8 then
    return (← ofGroups? head.groups, head.rest)
  if head.embedded then none
  let (_, rest) ← char ':' head.rest
  let (_, rest) ← char ':' rest
  let tail := readGroups (7 - head.groups.length) false rest
  let zeros := List.replicate (8 - head.groups.length - tail.groups.length) 0
  return (← ofGroups? (head.groups ++ zeros ++ tail.groups), tail.rest)

end Ipv6

namespace IpAddress

def read : TextReader IpAddress := fun cs =>
  match Ipv4.read cs with
  | some (x, rest) => some (.v4 x, rest)
  | none => (Ipv6.read cs).map fun (x, rest) => (.v6 x, rest)

def ofText (s : String) : Except Error IpAddress :=
  match whole read s with
  | some x => .ok x
  | none => .error (.invalidAddress .address)

end IpAddress

namespace SocketAddress

def readV4 : TextReader SocketAddress := fun cs => do
  let (address, cs) ← Ipv4.read cs
  let (port, cs) ← TextReader.port cs
  return (.v4 address port, cs)

/-- An IPv6 address in brackets, perhaps with a scope, and a port. -/
def readV6 : TextReader SocketAddress := fun cs => do
  let (_, cs) ← char '[' cs
  let (address, cs) ← Ipv6.read cs
  let (scope, cs) := TextReader.scope cs
  let (_, cs) ← char ']' cs
  let (port, cs) ← TextReader.port cs
  return (.v6 address port scope, cs)

def ofText (s : String) : Except Error SocketAddress :=
  match whole (fun cs => readV4 cs <|> readV6 cs) s with
  | some x => .ok x
  | none => .error (.invalidAddress .socketAddress)

end SocketAddress

end ServiceDiscovery
