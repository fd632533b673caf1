import ServiceDiscovery.Text.Folding
import ServiceDiscovery.Text.Word

/-!
# Sets of characters

The sets that patterns write in brackets or by a letter. Where case does not matter, every bracket
holds the case variants of its members, and only then is it negated or combined with another one.

* `CharSet.holds`: whether a character belongs to a set;
* `asciiSet?`: the sets that are named between colons.
-/

namespace ServiceDiscovery

inductive SetOperation where
  | both
  | onlyFirst
  | exactlyOne
  deriving DecidableEq

inductive CharSet where
  /-- The characters in some ranges of code points. -/
  | among (ranges : Text.Ranges)
  | union (s t : CharSet)
  | complement (s : CharSet)
  | bracket (negated : Bool) (s : CharSet)
  | combine (operation : SetOperation) (s t : CharSet)
  deriving DecidableEq

namespace SetOperation

/-- Membership in a combination, from membership in its two sets. -/
def holds : SetOperation → Bool → Bool → Bool
  | both, x, y => x && y
  | onlyFirst, x, y => x && !y
  | exactlyOne, x, y => x != y

end SetOperation

namespace CharSet

def single (c : Char) : CharSet := among [(c.toNat, c.toNat)]

/-- The characters between two characters, both included. -/
def range (first last : Char) : CharSet := among [(first.toNat, last.toNat)]

def empty : CharSet := among []

def digit : CharSet := among Text.digits

def blank : CharSet := among Text.blanks

def word : CharSet := among Text.words

/-- Whether the character, or with `caseless` one of its case variants, passes a test. -/
def someVariant (caseless : Bool) (test : Char → Bool) (c : Char) : Bool :=
  if caseless then (Text.variants c).any test else test c

/-- Whether a character belongs to a set. -/
def holds (caseless : Bool) : CharSet → Char → Bool
  | among ranges, c => ranges.covers c
  | union s t, c => s.holds caseless c || t.holds caseless c
  | complement s, c => !s.holds caseless c
  | bracket negated s, c => someVariant caseless (s.holds caseless) c != negated
  | combine operation s t, c =>
    operation.holds (someVariant caseless (s.holds caseless) c)
      (someVariant caseless (t.holds caseless) c)

/-- The ranges of a set of ASCII characters that is known by name. -/
def asciiRanges? : String → Option Text.Ranges
  | "alnum" => some [(0x30, 0x39), (0x41, 0x5A), (0x61, 0x7A)]
  | "alpha" => some [(0x41, 0x5A), (0x61, 0x7A)]
  | "ascii" => some [(0x00, 0x7F)]
  | "blank" => some [(0x09, 0x09), (0x20, 0x20)]
  | "cntrl" => some [(0x00, 0x1F), (0x7F, 0x7F)]
  | "digit" => some [(0x30, 0x39)]
  | "graph" => some [(0x21, 0x7E)]
  | "lower" => some [(0x61, 0x7A)]
  | "print" => some [(0x20, 0x7E)]
  | "punct" => some [(0x21, 0x2F), (0x3A, 0x40), (0x5B, 0x60), (0x7B, 0x7E)]
  | "space" => some [(0x09, 0x0D), (0x20, 0x20)]
  | "upper" => some [(0x41, 0x5A)]
  | "word" => some [(0x30, 0x39), (0x41, 0x5A), (0x5F, 0x5F), (0x61, 0x7A)]
  | "xdigit" => some [(0x30, 0x39), (0x41, 0x46), (0x61, 0x66)]
  | _ => none

/-- The set of ASCII characters that is known by a name, or its complement. -/
def asciiSet? (negated : Bool) (name : String) : Option CharSet :=
  (asciiRanges? name).map fun ranges => bracket negated (among ranges)

end CharSet

end ServiceDiscovery
