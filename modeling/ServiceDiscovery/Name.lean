import ServiceDiscovery.Text.Utf8

/-!
# Names

A name is a text whose parts between dots are its labels. Two names are the same when they agree up
to ASCII case and dots at the end.

* `parts`, `labels`: everything between dots, and the parts that are not empty;
* `Name.same`: the comparison, through `folded`;
* `isUnder`: a name that ends with another one after a dot;
* `namesType`, `namesInstance`, `domain`, `serviceLabels`: what the labels of a name say about
  services.
-/

namespace ServiceDiscovery

namespace Name

/-! ### Parts and labels -/

/-- The pieces of `cs` between dots, after `current` (reversed) has been read of the first one and
`done` (reversed) holds the ones before it. -/
def splitFrom : List Char → (current : List Char) → (done : List (List Char)) → List (List Char)
  | [], current, done => (current.reverse :: done).reverse
  | c :: cs, current, done =>
    if c = '.' then splitFrom cs [] (current.reverse :: done)
    else splitFrom cs (c :: current) done

/-- The pieces between dots; a text without dots is one piece. -/
def parts (s : String) : List String := (splitFrom s.toList [] []).map String.ofList

/-- The pieces between dots that are not empty. -/
def labels (s : String) : List String := (parts s).filter (· ≠ "")

def ofLabels (labels : List String) : String := ".".intercalate labels

/-! ### Comparing -/

/-- A text without the dots at its end. -/
def trimEnd (s : String) : String :=
  String.ofList (s.toList.reverse.dropWhile (· = '.')).reverse

def trim (s : String) : String := trimEnd (String.ofList (s.toList.dropWhile (· = '.')))

/-- A text with its ASCII capitals made small. -/
def lower (s : String) : String := s.map Char.toLower

/-- What is compared of a name. -/
def folded (s : String) : String := lower (trimEnd s)

/-- Whether two names are equal up to ASCII case and dots at the end. -/
def same (a b : String) : Bool := folded a = folded b

def endsWith (s ending : String) : Bool := ending.toList.isSuffixOf s.toList

/-- Whether `name` is a further label and a dot in front of `parent`. -/
def isUnder (name parent : String) : Bool :=
  let name := (folded name).toList
  let parent := (folded parent).toList
  let front := name.take (name.length - parent.length)
  parent.isSuffixOf name && front.length > 1 && front.getLast? = some '.'

/-! ### Services -/

def isTransport (label : String) : Bool := lower label = "_tcp" || lower label = "_udp"

def isUnderscored (label : String) : Bool := label.toList.head? = some '_'

/-- Labels around the first one that names a transport protocol. -/
structure Around where
  before : List String
  after : List String

/-- The labels before and after the first one that names a transport protocol. -/
def aroundTransport? (s : String) : Option Around :=
  let all := labels s
  match all.dropWhile fun label => !isTransport label with
  | _ :: after => some ⟨all.takeWhile fun label => !isTransport label, after⟩
  | [] => none

/-- Whether a name maps an address back to a host. -/
def isReverse (s : String) : Bool :=
  endsWith (folded s) ".in-addr.arpa" || endsWith (folded s) ".ip6.arpa"

/-- Whether a name is that of a service type: underscored labels up to the transport protocol, and
a domain. -/
def namesType (s : String) : Bool :=
  !isReverse s &&
    match aroundTransport? s with
    | some around => !around.before.isEmpty && !around.after.isEmpty
        && around.before.all isUnderscored
    | none => false

/-- Whether a name is that of an instance: something in front of a service type. -/
def namesInstance (s : String) : Bool :=
  match aroundTransport? s with
  | some around => around.before.length ≥ 2 && !around.after.isEmpty
      && (around.before.getLast?.map isUnderscored).getD false
  | none => false

/-- The domain of an instance: the labels after the transport protocol, or the last label when
there are none. -/
def domain (s : String) : String :=
  match aroundTransport? s with
  | some ⟨_, after@(_ :: _)⟩ => ofLabels after
  | _ => (labels s).getLast?.getD ""

/-- The first two neighbouring parts that both begin with an underscore. -/
def firstUnderscoredPair : List String → Option (String × String)
  | a :: b :: rest =>
    if isUnderscored a && isUnderscored b then some (a, b) else firstUnderscoredPair (b :: rest)
  | _ => none

/-- The service and protocol labels of a name, empty when it has none. -/
def serviceLabels (s : String) : String × String :=
  (firstUnderscoredPair (parts s)).getD ("", "")

end Name

end ServiceDiscovery
