import ServiceDiscovery.Error
import ServiceDiscovery.Pattern.Token

/-!
# Reading patterns

How tokens belong together. Bars separate the alternatives of a group, a repetition belongs to the
piece before it, and flags hold up to the end of their group.

* `Pattern.ofTokens?`: the pattern of a row of tokens;
* `Pattern.ofText`: the pattern of a text;
* `Pattern.escape`: the text of a pattern that matches a given text and nothing else.
-/

namespace ServiceDiscovery

namespace Pattern

structure Flags where
  caseless : Bool := false
  multiline : Bool := false
  dotBreaks : Bool := false
  deriving DecidableEq

def Flags.change (flags : Flags) (c : FlagChange) : Flags :=
  match c.flag with
  | .caseless => { flags with caseless := c.on }
  | .multiline => { flags with multiline := c.on }
  | .dotBreaks => { flags with dotBreaks := c.on }
  | .neutral _ => flags

/-! ### Groups -/

/-- A group that is still open. -/
structure Group where
  flags : Flags := {}
  /-- The alternatives that are complete, the last one first. -/
  alternatives : List Pattern := []
  /-- The pieces of the alternative that is not, the last one first. -/
  pieces : List Pattern := []
  /-- Whether the last piece can be repeated. -/
  repeatable : Bool := false

namespace Group

def add (g : Group) (p : Pattern) : Group := { g with pieces := p :: g.pieces, repeatable := true }

def alternative (g : Group) : Pattern := g.pieces.foldl (fun rest p => .seq p rest) .empty

/-- The group at the start of another alternative. -/
def next (g : Group) : Group :=
  { flags := g.flags, alternatives := g.alternative :: g.alternatives }

/-- The pattern of a group that is closed. -/
def close (g : Group) : Pattern := g.alternatives.foldl (fun rest p => .alt p rest) g.alternative

/-- The group with its last piece repeated, if there is one. -/
def repeatLast? (g : Group) (least : Nat) (most? : Option Nat) : Option Group :=
  match g.repeatable, g.pieces with
  | true, p :: pieces => some { g with pieces := .times p least most? :: pieces }
  | _, _ => none

end Group

/-! ### Tokens -/

/-- The pattern of tokens, where `inner` is the innermost open group and `outer` those around it. -/
def ofTokensFrom? : (inner : Group) → (outer : List Group) → List Token → Option Pattern
  | inner, [], [] => some inner.close
  | _, _ :: _, [] => none
  | inner, outer, token :: tokens =>
    match token with
    | .char c => ofTokensFrom? (inner.add (.char inner.flags.caseless c)) outer tokens
    | .any => ofTokensFrom? (inner.add (.any inner.flags.dotBreaks)) outer tokens
    | .set s => ofTokensFrom? (inner.add (.set inner.flags.caseless s)) outer tokens
    | .caret =>
      let a := if inner.flags.multiline then .lineStart else .textStart
      ofTokensFrom? (inner.add (.anchor a)) outer tokens
    | .dollar =>
      let a := if inner.flags.multiline then .lineEnd else .textEnd
      ofTokensFrom? (inner.add (.anchor a)) outer tokens
    | .anchor a => ofTokensFrom? (inner.add (.anchor a)) outer tokens
    | .bar => ofTokensFrom? inner.next outer tokens
    | .repetition least most? => do
      let inner ← inner.repeatLast? least most?
      ofTokensFrom? inner outer tokens
    | .flags changes =>
      let flags := changes.foldl Flags.change inner.flags
      ofTokensFrom? { inner with flags, repeatable := false } outer tokens
    | .opening _ changes =>
      let flags := changes.foldl Flags.change inner.flags
      ofTokensFrom? { flags } (inner :: outer) tokens
    | .closing =>
      match outer with
      | [] => none
      | next :: outer => ofTokensFrom? (next.add inner.close) outer tokens

def groupName? : Token → Option String
  | .opening name? _ => name?
  | _ => none

/-- The pattern of a row of tokens. No two groups have the same name. -/
def ofTokens? (tokens : List Token) : Option Pattern :=
  if (tokens.filterMap groupName?).Nodup then ofTokensFrom? {} [] tokens else none

/-! ### Texts -/

/-- How often some piece of a pattern occurs when its repetitions are written out. -/
def copies : Pattern → Nat
  | seq p q => max p.copies q.copies
  | alt p q => max p.copies q.copies
  | times p least most? => max 1 (most?.getD least) * p.copies
  | _ => 1

/-- The most often that a piece of a pattern may occur. -/
def maxCopies : Nat := 300000

def ofText (s : String) : Except Error Pattern :=
  match Token.readAll? s >>= ofTokens? with
  | none => .error (.invalidPattern s)
  | some p => if p.copies ≤ maxCopies then .ok p else .error (.invalidPattern s)

/-- The text of a pattern that matches `s` and nothing else. -/
def escape (s : String) : String :=
  String.ofList (s.toList.flatMap fun c => if Token.special.contains c then ['\\', c] else [c])

end Pattern

end ServiceDiscovery
