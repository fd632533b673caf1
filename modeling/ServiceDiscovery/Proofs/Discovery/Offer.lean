import ServiceDiscovery.Proofs.Name.Services
import ServiceDiscovery.Proofs.Record.Wire
import ServiceDiscovery.Proofs.Service.Assembly

/-!
# Services as their hosts announce them

A host announces a service with a pointer from its type to the instance, the location and the
attributes of the instance, and its own addresses. Any order of these records makes up the service,
as long as the addresses keep theirs.

* `Offer`, `Offer.IsValid`: what is announced;
* `Offer.records`, `records_eq`: the records of an offer, which can all be made;
* `Offer.IsSound`: records that are sent and read as they are, `isSound_of_mem_list`;
* `Offer.found`, `assemble_eq_found`: the service that the records make up in any order.
-/

namespace ServiceDiscovery

/-- A label that can be written. -/
structure Name.IsWritable (l : String) : Prop where
  label : IsLabel l
  short : (Text.encode l).length ≤ 63

instance (l : String) : Decidable (Name.IsWritable l) :=
  decidable_of_iff (Name.IsLabel l ∧ (Text.encode l).length ≤ 63)
    ⟨fun h => ⟨h.1, h.2⟩, fun h => ⟨h.label, h.short⟩⟩

/-- A service as its host announces it. -/
structure Offer where
  label : String
  service : String
  transport : String
  domain : List String
  host : List String
  port : UInt16
  attributes : List Attribute
  addresses : List IpAddress
  priority : UInt16 := 0
  weight : UInt16 := 0
  /-- How long the records of each type live. -/
  ttl : RecordType → UInt32 := fun _ => 120

namespace Offer

/-! ### Names and records -/

def domainName (o : Offer) : String := Name.ofLabels o.domain

def hostName (o : Offer) : String := Name.ofLabels o.host

/-- The type of the service, with its domain. -/
def type (o : Offer) : String := Name.ofLabels (o.service :: o.transport :: o.domain)

def name (o : Offer) : String := Name.ofLabels (o.label :: o.service :: o.transport :: o.domain)

def addressRecord (o : Offer) : IpAddress → Record
  | .v4 x => .a o.hostName (o.ttl .a) x
  | .v6 x => .aaaa o.hostName (o.ttl .aaaa) x

/-- The records that announce the service. -/
def records (o : Offer) : Except Error (List Record) := do
  let pointer ← Record.ptr o.type (o.ttl .ptr) o.name
  let location ← Record.srv o.name (o.ttl .srv) o.priority o.weight o.port o.hostName
  let texts ← Attribute.textsOf o.attributes
  let description ← Record.txt o.name (o.ttl .txt) texts
  return pointer :: location :: description :: o.addresses.map o.addressRecord

/-- The service that is found by these records. -/
def found (o : Offer) : Service where
  name := o.name
  domain := o.domainName
  host := o.hostName
  addresses := o.addresses.eraseDups
  port := o.port
  attributes := o.attributes

/-- All labels can be written, exactly the transport protocol is named as one up to the domain,
domain and host have labels, and the attributes have keys and fit into strings. -/
structure IsValid (o : Offer) : Prop where
  labels : ∀ l ∈ o.label :: o.service :: o.transport :: o.domain, Name.IsWritable l
  hostLabels : ∀ l ∈ o.host, Name.IsWritable l
  label : Name.isTransport o.label = false
  service : Name.isTransport o.service = false
  transport : Name.isTransport o.transport
  domain : o.domain ≠ []
  host : o.host ≠ []
  keys : ∀ a ∈ o.attributes, a.hasKey
  texts : ∀ a ∈ o.attributes, (Text.encode a.text).length ≤ 255

variable {o : Offer}

/-! ### Facts about the names -/

theorem IsValid.isLabel_of_mem (ho : o.IsValid) :
    ∀ l ∈ o.label :: o.service :: o.transport :: o.domain, Name.IsLabel l :=
  fun l hl => (ho.labels l hl).label

theorem fits_ofLabels {ls : List String} (h : ∀ l ∈ ls, Name.IsWritable l) :
    Name.Fits (Name.ofLabels ls) := by
  rw [Name.Fits, Name.labels_ofLabels fun l hl => (h l hl).label]
  exact fun l hl => (h l hl).short

theorem isTidy_of_writable {ls : List String} (h : ∀ l ∈ ls, Name.IsWritable l) :
    Name.IsTidy (Name.ofLabels ls) := Name.isTidy_ofLabels fun l hl => (h l hl).label

theorem IsValid.typeLabels (ho : o.IsValid) :
    ∀ l ∈ o.service :: o.transport :: o.domain, Name.IsWritable l :=
  (List.forall_mem_cons.1 ho.labels).2

theorem IsValid.name_ne_empty (ho : o.IsValid) : o.name ≠ "" :=
  Name.ofLabels_ne_empty ho.isLabel_of_mem (List.cons_ne_nil _ _)

theorem IsValid.hostName_ne_empty (ho : o.IsValid) : o.hostName ≠ "" :=
  Name.ofLabels_ne_empty (fun l hl => (ho.hostLabels l hl).label) ho.host

theorem IsValid.domain_name (ho : o.IsValid) : Name.domain o.name = o.domainName := by
  obtain ⟨hlabel, hls⟩ := List.forall_mem_cons.1 ho.isLabel_of_mem
  obtain ⟨hservice, hls⟩ := List.forall_mem_cons.1 hls
  obtain ⟨htransport, hdomain⟩ := List.forall_mem_cons.1 hls
  have hbefore : ∀ l ∈ [o.label, o.service], Name.IsLabel l ∧ Name.isTransport l = false :=
    List.forall_mem_cons.2 ⟨⟨hlabel, ho.label⟩, List.forall_mem_singleton.2 ⟨hservice, ho.service⟩⟩
  have h := Name.domain_ofLabels hbefore ⟨htransport, ho.transport⟩ hdomain ho.domain
  rw [List.cons_append, List.cons_append, List.nil_append] at h
  rw [name, h, domainName]

/-! ### The records -/

def location (o : Offer) : Srv where
  priority := o.priority
  weight := o.weight
  port := o.port
  target := o.hostName
  service := (Name.serviceLabels o.name).1
  protocol := (Name.serviceLabels o.name).2

def strings (o : Offer) : List String := o.attributes.map Attribute.text

def pointerRecord (o : Offer) : Record :=
  .made { name := o.type, type := .ptr, ttl := o.ttl .ptr } (.ptr o.name)

def locationRecord (o : Offer) : Record :=
  .made { name := o.name, type := .srv, ttl := o.ttl .srv } (.srv o.location)

def textRecord (o : Offer) : Record :=
  .made { name := o.name, type := .txt, ttl := o.ttl .txt } (.txt o.strings)

/-- The records that announce the service, as they are made. -/
def list (o : Offer) : List Record :=
  o.pointerRecord :: o.locationRecord :: o.textRecord :: o.addresses.map o.addressRecord

theorem IsValid.fits_strings (ho : o.IsValid) : ∀ s ∈ o.strings, Text.Fits s := by
  intro s hs
  obtain ⟨a, ha, rfl⟩ := List.mem_map.1 hs
  exact Attribute.fits_text (ho.texts a ha)

/-- **All records of an offer can be made.** -/
theorem records_eq (ho : o.IsValid) : o.records = .ok o.list := by
  have hpointer : Record.ptr o.type (o.ttl .ptr) o.name = .ok o.pointerRecord :=
    Record.ofBody_eq_ok.2 ⟨fits_ofLabels ho.labels, rfl⟩
  have hlocation : Record.srv o.name (o.ttl .srv) o.priority o.weight o.port o.hostName =
      .ok o.locationRecord :=
    Record.ofBody_eq_ok.2 ⟨fits_ofLabels ho.hostLabels, rfl⟩
  have htexts : Attribute.textsOf o.attributes = .ok o.strings :=
    Attribute.textsOf_eq_ok.2 ⟨ho.keys, rfl⟩
  have htext : Record.txt o.name (o.ttl .txt) o.strings = .ok o.textRecord :=
    Record.ofBody_eq_ok.2 ⟨ho.fits_strings, rfl⟩
  rw [records, hpointer, hlocation, htexts]
  show (do
    let description ← Record.txt o.name (o.ttl .txt) o.strings
    return o.pointerRecord :: o.locationRecord :: description :: _ : Except Error _) = _
  rw [htext]
  rfl

/-- A record that is read as it was sent, and can be sent unless its data is too long. -/
structure IsSound (r : Record) : Prop where
  tidied : r.tidied = r
  sendable : r.IsSendable
  fits : r.data.length ≤ 65535 → r.Fits

theorem isSound_made (type : RecordType) (body : Body) {ttl : UInt32} {ls : List String}
    (h : ∀ l ∈ ls, Name.IsWritable l) (ht : body.type?.isSome) (hb : body.IsTidy) (hf : body.Fits)
    (hl : body.IsLabelled (Name.ofLabels ls)) :
    IsSound (.made { name := Name.ofLabels ls, type, ttl } body) where
  tidied := Record.tidied_eq_self (isTidy_of_writable h) hb hl (Record.payload_made _ _)
  sendable := Record.isSendable_made (show DnsClass.IsSendable .internet by decide) ht
  fits hlen := Record.fits_made (fits_ofLabels h) hf hlen

theorem isSound_of_mem_list (ho : o.IsValid) : ∀ r ∈ o.list, IsSound r := by
  have hpointer : IsSound o.pointerRecord :=
    isSound_made .ptr (.ptr o.name) ho.typeLabels rfl (isTidy_of_writable ho.labels) (fits_ofLabels ho.labels)
      (by rintro _ ⟨⟩)
  have hlocation : IsSound o.locationRecord :=
    isSound_made .srv (.srv o.location) ho.labels rfl (isTidy_of_writable ho.hostLabels)
      (fits_ofLabels ho.hostLabels) (by rintro _ ⟨⟩; rfl)
  have htext : IsSound o.textRecord :=
    isSound_made .txt (.txt o.strings) ho.labels rfl trivial ho.fits_strings (by rintro _ ⟨⟩)
  have haddresses : ∀ r ∈ o.addresses.map o.addressRecord, IsSound r := by
    intro r hr
    obtain ⟨x, -, rfl⟩ := List.mem_map.1 hr
    cases x with
    | v4 x => exact isSound_made .a (.a x) ho.hostLabels rfl trivial trivial (by rintro _ ⟨⟩)
    | v6 x => exact isSound_made .aaaa (.aaaa x) ho.hostLabels rfl trivial trivial (by rintro _ ⟨⟩)
  exact List.forall_mem_cons.2 ⟨hpointer, List.forall_mem_cons.2 ⟨hlocation,
    List.forall_mem_cons.2 ⟨htext, haddresses⟩⟩⟩

/-! ### What the records say -/

theorem filterMap_addressRecords {β : Type} {f : Record → Option β}
    (h : ∀ x, f (o.addressRecord x) = none) : (o.addresses.map o.addressRecord).filterMap f = [] := by
  rw [List.filterMap_map, List.filterMap_eq_nil_iff]
  exact fun x _ => h x

theorem filterMap_location : o.list.filterMap Service.location? = [o.location] := by
  have h := filterMap_addressRecords (o := o) (f := Service.location?) fun x => by cases x <;> rfl
  have hlocation : Service.location? o.locationRecord = some o.location := rfl
  rw [list, List.filterMap_cons_none rfl, List.filterMap_cons_some hlocation,
    List.filterMap_cons_none rfl, h]

theorem filterMap_strings : o.list.filterMap Service.strings? = [o.strings] := by
  have h := filterMap_addressRecords (o := o) (f := Service.strings?) fun x => by cases x <;> rfl
  have htext : Service.strings? o.textRecord = some o.strings := rfl
  rw [list, List.filterMap_cons_none rfl, List.filterMap_cons_none rfl,
    List.filterMap_cons_some htext, h]

theorem filterMap_address : o.list.filterMap Service.address? = o.addresses := by
  have h : Service.address? ∘ o.addressRecord = some := by
    funext x
    cases x <;> rfl
  rw [list, List.filterMap_cons_none rfl, List.filterMap_cons_none rfl,
    List.filterMap_cons_none rfl, List.filterMap_map, h, List.filterMap_some]

theorem filterMap_instance {pointers locations : String → Bool} (hp : pointers o.type)
    (hl : locations o.name) :
    o.list.filterMap (Service.instance? pointers locations) = [o.name, o.name] := by
  have h := filterMap_addressRecords (o := o) (f := Service.instance? pointers locations)
    fun x => by cases x <;> rfl
  have hpointer : Service.instance? pointers locations o.pointerRecord = some o.name := if_pos hp
  have hlocation : Service.instance? pointers locations o.locationRecord = some o.name :=
    if_pos hl
  rw [list, List.filterMap_cons_some hpointer, List.filterMap_cons_some hlocation,
    List.filterMap_cons_none rfl, h]

theorem isNamed_self {r : Record} {name : String} (h : r.header.name = name) : r.isNamed name := by
  rw [Record.isNamed, h]
  exact Name.same_self name

/-- The owners of the records that say something. -/
theorem isNamed_of_mem_list {r : Record} (hr : r ∈ o.list) :
    ((Service.location? r).isSome → r.isNamed o.name) ∧
      ((Service.strings? r).isSome → r.isNamed o.name) ∧
        ((Service.address? r).isSome → r.isNamed o.hostName) := by
  simp only [list, List.mem_cons, List.mem_map] at hr
  rcases hr with rfl | rfl | rfl | ⟨x, -, rfl⟩
  · exact ⟨nofun, nofun, nofun⟩
  · exact ⟨fun _ => isNamed_self rfl, nofun, nofun⟩
  · exact ⟨nofun, fun _ => isNamed_self rfl, nofun⟩
  · cases x with
    | v4 x => exact ⟨nofun, nofun, fun _ => isNamed_self rfl⟩
    | v6 x => exact ⟨nofun, nofun, fun _ => isNamed_self rfl⟩

/-- **The records make up the service in any order that keeps the addresses in theirs.** -/
theorem assemble_eq_found (ho : o.IsValid) {rs : List Record} (hp : rs.Perm o.list)
    (ha : rs.filterMap Service.address? = o.addresses) : Service.assemble rs o.name = o.found := by
  have hl : rs.filterMap Service.location? = [o.location] := by
    rw [← List.perm_singleton, ← filterMap_location]
    exact hp.filterMap _
  have hd : rs.filterMap Service.strings? = [o.strings] := by
    rw [← List.perm_singleton, ← filterMap_strings]
    exact hp.filterMap _
  have hnamed : ∀ r ∈ rs, _ := fun r hr => isNamed_of_mem_list (hp.mem_iff.1 hr)
  rw [Service.assemble_eq hl hd (fun r hr => (hnamed r hr).1) (fun r hr => (hnamed r hr).2.1)
    (fun r hr => (hnamed r hr).2.2) ho.hostName_ne_empty, ha, ho.domain_name, strings,
    Service.validAttributes_map_text ho.keys]
  rfl

end Offer

end ServiceDiscovery
