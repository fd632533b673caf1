import ServiceDiscovery.Pattern.CharSet

/-!
# Patterns

What a pattern matches. A pattern takes a place in a text to all places where a match that begins
there can end; places are counted in characters.

* `Pattern`: the ways to build patterns;
* `Pattern.ends`: where matches end, for any of several places to begin;
* `Pattern.occursIn`: whether a text has a match anywhere.
-/

namespace ServiceDiscovery

/-- A condition on a place in a text. -/
inductive Anchor where
  | textStart
  | textEnd
  | lineStart
  | lineEnd
  | wordBoundary
  | noWordBoundary
  | wordStart
  | wordEnd
  /-- Not behind a word character. -/
  | outsideBefore
  /-- Not in front of a word character. -/
  | outsideAfter
  deriving DecidableEq

inductive Pattern where
  | empty
  /-- One character, up to case with `caseless`. -/
  | char (caseless : Bool) (c : Char)
  /-- Any character; a line break only with `breaks`. -/
  | any (breaks : Bool)
  | set (caseless : Bool) (s : CharSet)
  | anchor (a : Anchor)
  | seq (p q : Pattern)
  | alt (p q : Pattern)
  /-- A pattern several times in a row. -/
  | times (p : Pattern) (least : Nat) (most? : Option Nat)
  deriving DecidableEq

/-- Whether a place in a text meets a condition. -/
def Anchor.holds (a : Anchor) (text : Array Char) (i : Nat) : Bool :=
  let before? := if i = 0 then none else text[i - 1]?
  let after? := text[i]?
  let inWord (c? : Option Char) : Bool := (c?.map Text.isWord).getD false
  match a with
  | textStart => i == 0
  | textEnd => i == text.size
  | lineStart => i == 0 || before? == some '\n'
  | lineEnd => i == text.size || after? == some '\n'
  | wordBoundary => inWord before? != inWord after?
  | noWordBoundary => inWord before? == inWord after?
  | wordStart => !inWord before? && inWord after?
  | wordEnd => inWord before? && !inWord after?
  | outsideBefore => !inWord before?
  | outsideAfter => !inWord after?

namespace Pattern

/-- The places of `xs`, and then those of `ys` that are not among them. -/
def join (xs ys : List Nat) : List Nat := xs ++ ys.filter fun i => !xs.contains i

/-- The places behind one character that passes a test. -/
def step (test : Char → Bool) (text : Array Char) (starts : List Nat) : List Nat :=
  starts.filterMap fun i =>
    match text[i]? with
    | some c => if test c then some (i + 1) else none
    | none => none

/-- Whether two characters are equal, up to case with `caseless`. -/
def sameChar (caseless : Bool) (c c' : Char) : Bool :=
  if caseless then Text.fold c == Text.fold c' else c == c'

/-- The places that `advance` leads to in exactly `n` rounds. -/
def rounds (advance : List Nat → List Nat) : (n : Nat) → List Nat → List Nat
  | 0, places => places
  | n + 1, places => if places.isEmpty then [] else rounds advance n (advance places)

/-- The places that `advance` leads to in at most `n` rounds: those in `seen`, where `fresh` are
the ones that it has not been tried on. -/
def upTo (advance : List Nat → List Nat) : (n : Nat) → (fresh seen : List Nat) → List Nat
  | 0, _, seen => seen
  | n + 1, fresh, seen =>
    let next := (advance fresh).filter fun i => !seen.contains i
    if next.isEmpty then seen else upTo advance n next (seen ++ next)

/-- Where matches end that begin at one of `starts`; no place comes twice if none does there.
Without an upper limit, a pattern is repeated as often as there are places, since by then it has led
to all that it can. -/
def ends (text : Array Char) : Pattern → List Nat → List Nat
  | empty, starts => starts
  | char caseless c, starts => step (sameChar caseless c) text starts
  | any breaks, starts => step (fun c => breaks || c != '\n') text starts
  | set caseless s, starts => step (s.holds caseless) text starts
  | anchor a, starts => starts.filter (a.holds text)
  | seq p q, starts => ends text q (ends text p starts)
  | alt p q, starts => join (ends text p starts) (ends text q starts)
  | times p least most?, starts =>
    let first := rounds (ends text p) least starts
    let more := match most? with
      | some most => most - least
      | none => text.size + 1
    upTo (ends text p) more first first

/-- Whether a text has a match anywhere. -/
def occursIn (p : Pattern) (s : String) : Bool :=
  let text := s.toList.toArray
  !(ends text p (List.range (text.size + 1))).isEmpty

end Pattern

end ServiceDiscovery
