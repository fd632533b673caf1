import ServiceDiscovery.Pattern.Basic

/-!
# Tokens of patterns

A written pattern is a row of tokens: characters, sets, anchors, parentheses, bars, repetitions and
flags. Which characters stand for themselves is decided here; how tokens belong together is not.

* `Token.read?`: the token at the beginning of a text;
* `Token.readAll?`: all tokens of a text.

Readers give `none` where the text follows no rule.
-/

namespace ServiceDiscovery

inductive Flag where
  | caseless
  | multiline
  | dotBreaks
  /-- Flags without influence on whether a text matches. -/
  | neutral (letter : Char)
  deriving DecidableEq

structure FlagChange where
  flag : Flag
  on : Bool
  deriving DecidableEq

inductive Token where
  | char (c : Char)
  | any
  | set (s : CharSet)
  | caret
  | dollar
  | anchor (a : Anchor)
  /-- An opening parenthesis with the name and the flags of its group. -/
  | opening (name? : Option String) (flags : List FlagChange)
  | closing
  | bar
  | repetition (least : Nat) (most? : Option Nat)
  /-- Flags up to the end of the group. -/
  | flags (changes : List FlagChange)
  deriving DecidableEq

namespace Token

/-! ### Escapes -/

/-- What a backslash and the characters behind it stand for. -/
inductive Escape where
  | char (c : Char)
  | set (s : CharSet)
  | anchor (a : Anchor)

/-- The characters that mean something in patterns. -/
def special : List Char := "\\.+*?()|[]\x7b\x7d^$#&-~".toList

/-- Whether a character stands for itself behind a backslash. -/
def isEscapable (c : Char) : Bool :=
  special.contains c || (c.toNat < 0x80 && !c.isAlphanum && c != '<' && c != '>')

def hexValue? (c : Char) : Option Nat :=
  if '0' ≤ c ∧ c ≤ '9' then some (c.toNat - 0x30)
  else if 'a' ≤ c ∧ c ≤ 'f' then some (c.toNat - 0x57)
  else if 'A' ≤ c ∧ c ≤ 'F' then some (c.toNat - 0x37)
  else none

/-- The character with the code point that some hexadecimal digits give. -/
def ofHex? (digits : List Char) : Option Char := do
  if digits.isEmpty then none
  let values ← digits.mapM hexValue?
  let n := values.foldl (fun n d => min (n * 16 + d) 0x110000) 0
  if n.isValidChar then some (Char.ofNat n) else none

/-- A code point in hexadecimal, of `width` digits or in braces. -/
def readHex? (width : Nat) : List Char → Option (Escape × List Char)
  | '\x7b' :: cs => do
    let digits := cs.takeWhile (· ≠ '\x7d')
    let c ← ofHex? digits
    match cs.drop digits.length with
    | _ :: rest => some (.char c, rest)
    | [] => none
  | cs => do
    if (cs.take width).length < width then none
    let c ← ofHex? (cs.take width)
    some (.char c, cs.drop width)

/-- A kind of word boundary that is named in braces, such as `{start}`. Braces that hold no name are
left to stand for a repetition. -/
def readBoundary? (cs : List Char) : Option (Escape × List Char) :=
  let isNameChar (c : Char) : Bool := c.isAlpha || c == '-'
  match cs with
  | ['\x7b'] => none
  | '\x7b' :: c :: rest =>
    if isNameChar c then
      let name := (c :: rest).takeWhile isNameChar
      match (c :: rest).drop name.length, String.ofList name with
      | '\x7d' :: rest, "start" => some (.anchor .wordStart, rest)
      | '\x7d' :: rest, "end" => some (.anchor .wordEnd, rest)
      | '\x7d' :: rest, "start-half" => some (.anchor .outsideBefore, rest)
      | '\x7d' :: rest, "end-half" => some (.anchor .outsideAfter, rest)
      | _, _ => none
    else some (.anchor .wordBoundary, cs)
  | _ => some (.anchor .wordBoundary, cs)

def readEscape? : List Char → Option (Escape × List Char)
  | [] => none
  | 'd' :: cs => some (.set .digit, cs)
  | 'D' :: cs => some (.set (.complement .digit), cs)
  | 's' :: cs => some (.set .blank, cs)
  | 'S' :: cs => some (.set (.complement .blank), cs)
  | 'w' :: cs => some (.set .word, cs)
  | 'W' :: cs => some (.set (.complement .word), cs)
  | 'A' :: cs => some (.anchor .textStart, cs)
  | 'z' :: cs => some (.anchor .textEnd, cs)
  | '<' :: cs => some (.anchor .wordStart, cs)
  | '>' :: cs => some (.anchor .wordEnd, cs)
  | 'b' :: cs => readBoundary? cs
  | 'B' :: cs => some (.anchor .noWordBoundary, cs)
  | 'a' :: cs => some (.char '\x07', cs)
  | 'f' :: cs => some (.char '\x0c', cs)
  | 't' :: cs => some (.char '\t', cs)
  | 'n' :: cs => some (.char '\n', cs)
  | 'r' :: cs => some (.char '\r', cs)
  | 'v' :: cs => some (.char '\x0b', cs)
  | 'x' :: cs => readHex? 2 cs
  | 'u' :: cs => readHex? 4 cs
  | 'U' :: cs => readHex? 8 cs
  | c :: cs => if isEscapable c then some (.char c, cs) else none

/-! ### Sets in brackets -/

/-- A member of a set as it is written: one character, or several. -/
inductive Member where
  | char (c : Char)
  | set (s : CharSet)

def Member.toSet : Member → CharSet
  | char c => .single c
  | set s => s

/-- A member, where every character but a backslash stands for itself. -/
def readMember? : List Char → Option (Member × List Char)
  | '\\' :: cs => do
    match ← readEscape? cs with
    | (.char c, rest) => some (.char c, rest)
    | (.set s, rest) => some (.set s, rest)
    | (.anchor _, _) => none
  | c :: cs => some (.char c, cs)
  | [] => none

/-- A member, or two characters with a dash between them. -/
def readRange? (cs : List Char) : Option (CharSet × List Char) := do
  let (first, rest) ← readMember? cs
  match rest with
  | [] => none
  | '-' :: ']' :: _ | '-' :: '-' :: _ => some (first.toSet, rest)
  | '-' :: rest =>
    match first, ← readMember? rest with
    | .char c, (.char c', rest) => if c ≤ c' then some (.range c c', rest) else none
    | _, _ => none
  | _ => some (first.toSet, rest)

/-- A name between colons and brackets, such as `[:alpha:]`. -/
def readNamedSet? : List Char → Option (CharSet × List Char)
  | '[' :: ':' :: cs =>
    let (negated, cs) := match cs with
      | '^' :: rest => (true, rest)
      | _ => (false, cs)
    let name := cs.takeWhile (· ≠ ':')
    match cs.drop name.length with
    | ':' :: ']' :: rest =>
      (CharSet.asciiSet? negated (String.ofList name)).map fun s => (s, rest)
    | _ => none
  | _ => none

/-- A bracket that is still open. -/
structure OpenBracket where
  negated : Bool
  /-- What stands before the operator that is still waiting for its second set. -/
  waiting? : Option (CharSet × SetOperation)
  /-- The members since the last operator. -/
  members : CharSet

namespace OpenBracket

def fresh (negated : Bool) : OpenBracket := ⟨negated, none, .empty⟩

def add (b : OpenBracket) (s : CharSet) : OpenBracket := { b with members := .union b.members s }

/-- What has been read of the bracket, with the last operator applied. -/
def current (b : OpenBracket) : CharSet :=
  match b.waiting? with
  | some (first, operation) => .combine operation first b.members
  | none => b.members

/-- The bracket after an operator. -/
def operator (b : OpenBracket) (operation : SetOperation) : OpenBracket :=
  ⟨b.negated, some (b.current, operation), .empty⟩

/-- The set of a bracket that is closed. -/
def close (b : OpenBracket) : CharSet := .bracket b.negated b.current

end OpenBracket

/-- The start of a bracket: a sign of negation, dashes, or else a closing bracket that stands for
itself. -/
def openBracket (cs : List Char) : OpenBracket × List Char :=
  let (bracket, cs) := match cs with
    | '^' :: rest => (OpenBracket.fresh true, rest)
    | _ => (OpenBracket.fresh false, cs)
  match cs with
  | ']' :: rest => (bracket.add (.single ']'), rest)
  | '-' :: _ => (bracket.add (.single '-'), cs.dropWhile (· = '-'))
  | _ => (bracket, cs)

/-- The rest of the innermost bracket and of those around it. -/
def readBrackets? : (fuel : Nat) → (inner : OpenBracket) → (outer : List OpenBracket) →
    List Char → Option (CharSet × List Char)
  | 0, _, _, _ => none
  | fuel + 1, inner, outer, cs =>
    match cs with
    | [] => none
    | '[' :: rest =>
      match readNamedSet? cs with
      | some (s, rest) => readBrackets? fuel (inner.add s) outer rest
      | none =>
        let (bracket, rest) := openBracket rest
        readBrackets? fuel bracket (inner :: outer) rest
    | ']' :: rest =>
      match outer with
      | [] => some (inner.close, rest)
      | next :: outer => readBrackets? fuel (next.add inner.close) outer rest
    | '&' :: '&' :: rest => readBrackets? fuel (inner.operator .both) outer rest
    | '-' :: '-' :: rest => readBrackets? fuel (inner.operator .onlyFirst) outer rest
    | '~' :: '~' :: rest => readBrackets? fuel (inner.operator .exactlyOne) outer rest
    | _ => do
      let (s, rest) ← readRange? cs
      readBrackets? fuel (inner.add s) outer rest

/-! ### Repetitions -/

/-- A decimal number of 32 bits, perhaps with white space around it. -/
def readCount? (cs : List Char) : Option (Nat × List Char) :=
  let cs := cs.dropWhile Text.isBlank
  let digits := cs.takeWhile Char.isDigit
  let value := digits.foldl (fun n c => min (n * 10 + (c.toNat - 0x30)) 0x100000000) 0
  if digits.isEmpty || value ≥ 0x100000000 then none
  else some (value, (cs.drop digits.length).dropWhile Text.isBlank)

/-- The numbers between braces, behind the opening one. -/
def readCounts? (cs : List Char) : Option (Token × List Char) := do
  let (least, rest) ← readCount? cs
  match rest with
  | '\x7d' :: rest => some (.repetition least (some least), rest)
  | ',' :: rest =>
    match rest with
    | '\x7d' :: rest => some (.repetition least none, rest)
    | _ =>
      let (most, rest) ← readCount? rest
      match rest with
      | '\x7d' :: rest =>
        if least ≤ most then some (.repetition least (some most), rest) else none
      | _ => none
  | _ => none

/-- A repetition, and a question mark that says to prefer short matches. -/
def readRepetition? : List Char → Option (Token × List Char)
  | '*' :: cs => some (.repetition 0 none, dropLazy cs)
  | '+' :: cs => some (.repetition 1 none, dropLazy cs)
  | '?' :: cs => some (.repetition 0 (some 1), dropLazy cs)
  | '\x7b' :: cs => (readCounts? cs).map fun (token, rest) => (token, dropLazy rest)
  | _ => none
where
  /-- The characters behind a question mark, if there is one. -/
  dropLazy : List Char → List Char
    | '?' :: cs => cs
    | cs => cs

/-! ### Groups and flags -/

def flag? : Char → Option Flag
  | 'i' => some .caseless
  | 'm' => some .multiline
  | 's' => some .dotBreaks
  | 'u' => some (.neutral 'u')
  | 'U' => some (.neutral 'U')
  | _ => none

/-- The flags that letters stand for, those behind the dash unset. No flag comes twice, there is at
most one dash, and a flag follows it. -/
def flagChanges? (letters : List Char) : Option (List FlagChange) := do
  let on := letters.takeWhile (· ≠ '-')
  let off := (letters.drop on.length).drop 1
  if on.length < letters.length ∧ off = [] then none
  let on ← on.mapM flag?
  let off ← off.mapM flag?
  let changes := on.map (FlagChange.mk · true) ++ off.map (FlagChange.mk · false)
  if (changes.map (·.flag)).Nodup then some changes else none

/-- A name up to a closing angle bracket. -/
def readGroupName? (cs : List Char) : Option (String × List Char) :=
  let name := cs.takeWhile (· ≠ '>')
  let isFirst (c : Char) : Bool := c == '_' || (Text.isWord c && !Text.isDigit c)
  let isLater (c : Char) : Bool := Text.isWord c || ['.', '[', ']'].contains c
  match name, cs.drop name.length with
  | first :: later, _ :: rest =>
    if isFirst first && later.all isLater then some (String.ofList name, rest) else none
  | _, _ => none

/-- An opening parenthesis with what belongs to it, or flags in parentheses. -/
def readOpening? : List Char → Option (Token × List Char)
  | '?' :: 'P' :: '<' :: cs | '?' :: '<' :: cs =>
    (readGroupName? cs).map fun (name, rest) => (.opening (some name) [], rest)
  | '?' :: cs => do
    let letters := cs.takeWhile fun c => c ≠ ':' ∧ c ≠ ')'
    let changes ← flagChanges? letters
    match cs.drop letters.length with
    | ':' :: rest => some (.opening none changes, rest)
    | ')' :: rest => if changes.isEmpty then none else some (.flags changes, rest)
    | _ => none
  | cs => some (.opening none [], cs)

/-! ### All tokens -/

/-- The token at the beginning of a text that is not empty. -/
def read? (c : Char) (cs : List Char) : Option (Token × List Char) :=
  match c with
  | '\\' => do
    match ← readEscape? cs with
    | (.char c, rest) => some (.char c, rest)
    | (.set s, rest) => some (.set s, rest)
    | (.anchor a, rest) => some (.anchor a, rest)
  | '.' => some (.any, cs)
  | '^' => some (.caret, cs)
  | '$' => some (.dollar, cs)
  | '|' => some (.bar, cs)
  | ')' => some (.closing, cs)
  | '(' => readOpening? cs
  | '[' =>
    let (bracket, rest) := openBracket cs
    (readBrackets? (rest.length + 1) bracket [] rest).map fun (s, rest) => (.set s, rest)
  | '*' | '+' | '?' | '\x7b' => readRepetition? (c :: cs)
  | c => some (.char c, cs)

/-- The tokens of a text of at most `fuel` characters, after those in `done`. -/
def readFrom? : (fuel : Nat) → (done : Array Token) → List Char → Option (List Token)
  | _, done, [] => some done.toList
  | 0, _, _ => none
  | fuel + 1, done, c :: cs => do
    let (token, rest) ← read? c cs
    readFrom? fuel (done.push token) rest

def readAll? (s : String) : Option (List Token) := readFrom? s.length #[] s.toList

end Token

end ServiceDiscovery
