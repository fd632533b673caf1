import ServiceDiscovery.Message.Basic
import ServiceDiscovery.Service.Basic

/-!
# Services in a message

Pointer records name instances of services, location records belong to them. All records of a
message with the name of an instance are put together into one service.

* `Service.assemble`: the service with a given name;
* `Service.announced`: all services of a message;
* `Service.requested`: those that a request asks for.
-/

namespace ServiceDiscovery

namespace Service

/-! ### One service -/

/-- The first location with a host among the records, or else the last location without one. -/
def locate (records : List Record) : String × UInt16 :=
  let step (found : String × UInt16) (r : Record) : String × UInt16 :=
    match r.body with
    | .srv location => if found.1 = "" then (location.target, location.port) else found
    | _ => found
  records.foldl step ("", 0)

/-- The attributes of strings, without the strings that hold none. -/
def validAttributes (strings : List String) : List Attribute :=
  strings.filterMap fun s => (Attribute.ofText s).toOption

/-- The attributes of the first text record among the records that has some. -/
def describe (records : List Record) : List Attribute :=
  let step (found : List Attribute) (r : Record) : List Attribute :=
    match r.body with
    | .txt strings => if found.isEmpty then validAttributes strings else found
    | _ => found
  records.foldl step []

/-- The address that a record gives. -/
def address? (r : Record) : Option IpAddress :=
  match r.body with
  | .a x => some (.v4 x)
  | .aaaa x => some (.v6 x)
  | _ => none

/-- Values without repetition, each where it occurs first. -/
def firstOccurrences {α : Type} [DecidableEq α] (xs : List α) : List α :=
  xs.foldl (fun seen x => if x ∈ seen then seen else seen ++ [x]) []

/-- The addresses of a host, if it is known. -/
def addressesOf (records : List Record) (host : String) : List IpAddress :=
  if host = "" then []
  else firstOccurrences ((records.filter (·.isNamed host)).filterMap address?)

/-- The service with a given name, put together from records. -/
def assemble (records : List Record) (name : String) : Service :=
  let own := records.filter (·.isNamed name)
  let (host, port) := locate own
  { name, domain := Name.domain name, host, addresses := addressesOf records host, port,
    attributes := describe own }

/-! ### All services -/

/-- The instance that a record names: the target of a pointer record or the owner of a location
record, if the owner is of the right kind. -/
def instance? (pointers locations : String → Bool) (r : Record) : Option String :=
  match r.body with
  | .ptr target => if pointers r.header.name then some target else none
  | .srv _ => if locations r.header.name then some r.header.name else none
  | _ => none

/-- Names that are not empty, each in its first spelling. -/
def distinctNames (names : List String) : List String :=
  let step (seen : List String) (name : String) : List String :=
    if name = "" || seen.any (Name.same · name) then seen else seen ++ [name]
  names.foldl step []

/-- The services that records name, given which owners of pointer and location records count. -/
def gather (pointers locations : String → Bool) (records : List Record) : List Service :=
  (distinctNames (records.filterMap (instance? pointers locations))).map (assemble records)

/-- All services of a message: the pointers of service types and the locations of instances. -/
def announced (m : Message) : List Service :=
  gather Name.namesType Name.namesInstance m.records

/-- Whether a request asks for exactly this name. -/
def isAsked (request : Message) (owner : String) : Bool :=
  request.questions.any fun q => Name.same q.name owner

/-- Whether a request asks for this name or for one that it lies under. -/
def isUnderAsked (request : Message) (owner : String) : Bool :=
  request.questions.any fun q => Name.same q.name owner || Name.isUnder owner q.name

/-- The services of a message that a request asks for. -/
def requested (request m : Message) : List Service :=
  gather (isAsked request) (isUnderAsked request) m.records

end Service

end ServiceDiscovery
