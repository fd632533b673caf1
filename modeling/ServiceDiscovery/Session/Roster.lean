import ServiceDiscovery.Message.Basic

/-!
# Handlers

A session shows every message that it receives to handlers. A handler notes the message and may
then remove and add registrations, which counts from the next message on.

* `Roster.add`, `remove`: registrations by number; no number is given twice;
* `Roster.showAll`: a message shown to all handlers that are registered when it arrives.

Numbers are natural numbers here. Where they have 64 bits, it is assumed that fewer than `2 ^ 64`
registrations are ever made, since the count of them would overflow otherwise.
-/

namespace ServiceDiscovery

/-- What is done with a message: it is noted under a label, and then registrations change. -/
inductive Handler where
  | mk (label : String) (removes? : Option Nat) (adds? : Option Handler)

inductive Note where
  /-- It has seen a message with this identifier. -/
  | seen (label : String) (id : UInt16) (response : Bool) (sender : Option SocketAddress)
  /-- It has removed a registration, if that was there. -/
  | removed (label : String) (done : Bool)
  /-- It has added a registration, which got this number. -/
  | added (label : String) (id : Nat)

/-- The registered handlers in order, each with its number. -/
structure Roster where
  /-- The last number that was given. -/
  last : Nat := 0
  entries : List (Nat × Handler) := []

namespace Roster

/-- Registers a handler under the next number. -/
def add (r : Roster) (h : Handler) : Nat × Roster :=
  (r.last + 1, { last := r.last + 1, entries := r.entries ++ [(r.last + 1, h)] })

def contains (r : Roster) (id : Nat) : Bool := r.entries.any (·.1 == id)

/-- Removes a registration, and says whether it was present. -/
def remove (r : Roster) (id : Nat) : Bool × Roster :=
  (r.contains id, { r with entries := r.entries.filter (·.1 != id) })

def size (r : Roster) : Nat := r.entries.length

def apply (m : Message) (r : Roster) : Handler → List Note × Roster
  | .mk label removes? adds? =>
    let seen := Note.seen label m.header.id m.isResponse m.sender
    let (removed, r) := match removes? with
      | some id => let (done, r) := r.remove id; ([Note.removed label done], r)
      | none => ([], r)
    let (added, r) := match adds? with
      | some h => let (id, r) := r.add h; ([Note.added label id], r)
      | none => ([], r)
    (seen :: (removed ++ added), r)

/-- Shows a message to several handlers, one after another. -/
def applyAll (m : Message) : List Handler → Roster → List Note × Roster
  | [], r => ([], r)
  | h :: hs, r =>
    let (notes, r) := r.apply m h
    let (more, r) := applyAll m hs r
    (notes ++ more, r)

/-- Shows a message to the handlers that are registered now. -/
def showAll (r : Roster) (m : Message) : List Note × Roster :=
  applyAll m (r.entries.map (·.2)) r

end Roster

end ServiceDiscovery
