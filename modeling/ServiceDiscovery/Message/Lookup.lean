import ServiceDiscovery.Message.Basic
import ServiceDiscovery.Pattern.Reading

/-!
# Finding records

The first record of a message, over answers, authorities and additional records, whose name is as
wanted.

* `Message.named?`: a given name;
* `Message.matching?`, `matchingText`: a name that a pattern matches;
* `Message.startingWith?`, `endingWith?`: a name with a given beginning or end, whatever its case.
-/

namespace ServiceDiscovery

namespace Message

/-- The first record with a given name, up to ASCII case and dots at the end. -/
def named? (m : Message) (name : String) : Option Record := m.records.find? (·.isNamed name)

def matching? (m : Message) (p : Pattern) : Option Record :=
  m.records.find? fun r => p.occursIn r.header.name

def matchingText (m : Message) (pattern : String) : Except Error (Option Record) :=
  (Pattern.ofText pattern).map m.matching?

/-- The pattern of texts that begin with `s`, up to case. -/
def beginningPattern (s : String) : String := "(?i)^" ++ Pattern.escape s

/-- The pattern of texts that end with `s`, up to case. -/
def endingPattern (s : String) : String := "(?i)" ++ Pattern.escape s ++ "$"

/-- The first record whose name begins with `s`, up to case. -/
def startingWith? (m : Message) (s : String) : Option Record :=
  match m.matchingText (beginningPattern s) with
  | .ok found => found
  | .error _ => none

/-- The first record whose name ends with `s`, up to case. -/
def endingWith? (m : Message) (s : String) : Option Record :=
  match m.matchingText (endingPattern s) with
  | .ok found => found
  | .error _ => none

end Message

end ServiceDiscovery
