import ServiceDiscovery.Discovery
import ServiceDiscovery.Proofs.Discovery.Offer
import ServiceDiscovery.Proofs.Message.Building

/-!
# From an announcement to a discovery

A discovery that has asked for a type of service learns of a service of this type from one response,
wherever its records stand in the response. The way goes through the request, the bytes of the
response, the message that is read from them and the services that it answers with.

* `askedRequest`, `request_eq`, `start_eq`: asking for the type of an offer;
* `response`, `Placement`: the records of an offer in the sections of a message;
* `decodeFrom_response`: the response as it arrives;
* `receive_eq`: what a discovery does with it;
* `exists_discovered`: the offer is found as it was announced, and nothing else.
-/

namespace ServiceDiscovery

namespace Offer

variable {o : Offer}

/-! ### Asking -/

def question (o : Offer) : Question := { name := o.type, type := .ptr }

def askedRequest (o : Offer) : Message := Message.request.addAll [.question o.question]

theorem questions_askedRequest (o : Offer) : o.askedRequest.questions = #[o.question] := rfl

theorem request_eq (ho : o.IsValid) :
    Query.request { services := [o.type], domain? := some o.domainName } = .ok o.askedRequest := by
  have hlabels : ∀ l ∈ [o.service, o.transport] ++ o.domain, Name.IsLabel l :=
    fun l hl => (ho.typeLabels l hl).label
  have hdomain : ∀ l ∈ o.domain, Name.IsLabel l :=
    (List.forall_mem_append.1 hlabels).2
  have hname : Query.qualify (Name.trim o.domainName) o.type = o.type := by
    have h := Query.qualify_eq_self hlabels (List.cons_ne_nil _ _) ho.domain
    rw [List.cons_append, List.cons_append, List.nil_append] at h
    rw [domainName, Name.trim_ofLabels hdomain, type, h]
  have hnames : Query.names { services := [o.type], domain? := some o.domainName } = [o.type] :=
    congrArg (fun name => [name]) hname
  rw [Query.request, hnames]
  rfl

theorem fits_askedRequest (ho : o.IsValid) : o.askedRequest.Fits where
  questions q hq := by
    rw [questions_askedRequest, List.mem_singleton] at hq
    rw [hq]
    exact fits_ofLabels ho.typeLabels
  records r hr := absurd hr List.not_mem_nil

/-- A discovery that has asked for the type of the service. -/
def asking (o : Offer) (destination : SocketAddress) (now timeout : Nat) : Discovery where
  destination := destination
  pending := some ⟨o.askedRequest, now + timeout⟩
  recent := [o.askedRequest.wire]
  outgoing := [{ bytes := o.askedRequest.wire, source := destination.unspecified, destination
                 time? := some now }]

theorem start_eq (ho : o.IsValid) (destination : SocketAddress) (now timeout : Nat) :
    ({ destination } : Discovery).start o.askedRequest now timeout =
      (.ok (), o.asking destination now timeout) := by
  have hencode : o.askedRequest.encode = .ok o.askedRequest.wire :=
    Message.build_eq_ok.2 ⟨fits_askedRequest ho, rfl⟩
  unfold Discovery.start Discovery.enqueue
  rw [if_neg Bool.false_ne_true, hencode]
  rfl

/-! ### Announcing -/

/-- Records for the three sections, as entries. -/
def placed (answers authorities additionals : List Record) : List Entry :=
  answers.map .answer ++ authorities.map .authority ++ additionals.map .additional

def response (answers authorities additionals : List Record) : Message :=
  Message.answer.addAll (placed answers authorities additionals)

/-- Records in any order in the three sections. Those of addresses keep their order, and neither a
section nor any data is larger than a packet can say. -/
structure Placement (records answers authorities additionals : List Record) : Prop where
  perm : (answers ++ authorities ++ additionals).Perm records
  addresses : (answers ++ authorities ++ additionals).filter (fun r => (Service.address? r).isSome) =
    records.filter fun r => (Service.address? r).isSome
  answers : answers.length ≤ 65535
  authorities : authorities.length ≤ 65535
  additionals : additionals.length ≤ 65535
  data : ∀ r ∈ records, r.data.length ≤ 65535

variable {an au ad : List Record}

theorem filterMap_eq_of_filter_eq {α β : Type} {f : α → Option β} {as as' : List α}
    (h : as.filter (fun a => (f a).isSome) = as'.filter fun a => (f a).isSome) :
    as.filterMap f = as'.filterMap f := by
  rw [← Service.filterMap_filter_of_isSome (fun a _ ha => ha), h,
    Service.filterMap_filter_of_isSome (fun a _ ha => ha)]

theorem filter_placed (an au ad : List Record) (place : Section) :
    (placed an au ad).filter (·.place = place) =
      (if place = .answer then an.map .answer else []) ++
        (if place = .authority then au.map .authority else []) ++
          if place = .additional then ad.map .additional else [] := by
  simp only [placed, List.filter_append, List.filter_map, Function.comp_def]
  cases place <;> simp [Entry.place]

/-- The sections of the response hold the records that were put there. -/
theorem sections_response (hp : Placement o.list an au ad) :
    (response an au ad).questions.toList = [] ∧ (response an au ad).answers.toList = an ∧
      (response an au ad).authorities.toList = au ∧ (response an au ad).additionals.toList = ad := by
  have hcounted : Message.answer.IsCounted := Message.isCounted_ofHeader .answer
  have hempty : ∀ place, Message.answer.entries place = [] := Message.entries_ofHeader .answer
  have hroom : ∀ place, (Message.answer.entries place).length +
      ((placed an au ad).filter (·.place = place)).length ≤ 65535 := by
    have h1 := hp.answers
    have h2 := hp.authorities
    have h3 := hp.additionals
    intro place
    rw [hempty, filter_placed]
    cases place <;> simp <;> omega
  have hentries : ∀ place,
      (response an au ad).entries place = (placed an au ad).filter (·.place = place) := by
    intro place
    rw [response, Message.entries_addAll hcounted hroom, hempty, List.nil_append]
  simp only [filter_placed] at hentries
  refine ⟨?_, ?_, ?_, ?_⟩
  · exact List.map_eq_nil_iff.1 ((hentries .question).trans (by simp))
  · exact List.map_injective_iff.2 (fun _ _ h => Entry.answer.inj h)
      ((hentries .answer).trans (by simp))
  · exact List.map_injective_iff.2 (fun _ _ h => Entry.authority.inj h)
      ((hentries .authority).trans (by simp))
  · exact List.map_injective_iff.2 (fun _ _ h => Entry.additional.inj h)
      ((hentries .additional).trans (by simp))

theorem records_response (hp : Placement o.list an au ad) :
    (response an au ad).records = an ++ au ++ ad := by
  obtain ⟨-, han, hau, had⟩ := sections_response hp
  rw [Message.records, han, hau, had]

theorem exists_header_response (an au ad : List Record) :
    ∃ counts, (response an au ad).header = { Header.answer with counts } :=
  Message.exists_header_addAll Message.answer _

theorem isSendable_header_response (an au ad : List Record) :
    (response an au ad).header.IsSendable :=
  Message.isSendable_header_addAll (m := Message.answer) Header.isSendable_answer _

def arrived (sender : SocketAddress) (an au ad : List Record) : Message :=
  { response an au ad with received := some (response an au ad).wire, sender := some sender }

/-- **The response can be sent, and arrives with the same records.** -/
theorem decodeFrom_response (ho : o.IsValid) (hp : Placement o.list an au ad)
    (sender : SocketAddress) : (response an au ad).encode = .ok (response an au ad).wire ∧
      Message.decodeFrom (response an au ad).wire sender = .ok (arrived sender an au ad) := by
  have hsound : ∀ r ∈ (response an au ad).records, IsSound r ∧ r.data.length ≤ 65535 := by
    intro r hr
    rw [records_response hp, hp.perm.mem_iff] at hr
    exact ⟨isSound_of_mem_list ho r hr, hp.data r hr⟩
  have hquestions : ∀ P : Question → Prop, ∀ q ∈ (response an au ad).questions.toList, P q := by
    intro P q hq
    rw [(sections_response hp).1] at hq
    exact absurd hq List.not_mem_nil
  have hfits : (response an au ad).Fits :=
    ⟨hquestions _, fun r hr => (hsound r hr).1.fits (hsound r hr).2⟩
  have hsendable : (response an au ad).IsSendable :=
    ⟨isSendable_header_response an au ad, hquestions _, fun r hr => (hsound r hr).1.sendable⟩
  have hcounted : (response an au ad).IsCounted :=
    (Message.isCounted_addAll _ _).2 (Message.isCounted_ofHeader .answer)
  have htidied := Message.tidied_eq_self (hquestions _) fun r hr => (hsound r hr).1.tidied
  have hreceived : (response an au ad).received = none := Message.received_addAll rfl _
  refine ⟨?_, ?_⟩
  · rw [Message.encode_of_unreceived hreceived, Message.build_eq_ok]
    exact ⟨hfits, rfl⟩
  · rw [Message.decodeFrom, Message.decode_wire hcounted hsendable hfits, htidied]
    rfl

/-! ### Finding -/

theorem meets_pointerRecord (o : Offer) : Message.meets o.pointerRecord o.question := by
  simp [Message.meets, isNamed_self, question, pointerRecord, Record.made, Body.type?]

theorem isAnswerTo_askedRequest {m : Message} (hm : m.isResponse)
    (hr : o.pointerRecord ∈ m.records) : m.isAnswerTo o.askedRequest := by
  have hids : Message.idsAgree o.askedRequest m := rfl
  rw [Message.isAnswerTo, hm, hids, questions_askedRequest]
  simp only [Bool.true_and, Array.any_eq_true', List.any_eq_true]
  exact ⟨o.question, by simp, o.pointerRecord, hr, meets_pointerRecord o⟩

/-- A response with the records of the offer in any order answers with the offer alone. -/
theorem requested_eq (ho : o.IsValid) {m : Message} (hp : m.records.Perm o.list)
    (ha : m.records.filterMap Service.address? = o.addresses) :
    Service.requested o.askedRequest m = [o.found] := by
  have hasked : Service.isAsked o.askedRequest o.type := by
    simp [Service.isAsked, questions_askedRequest, question, Name.same]
  have hunder : Service.isUnderAsked o.askedRequest o.name := by
    have h := Name.isUnder_ofLabels (ho.labels _ List.mem_cons_self).label
      (fun l hl => (ho.typeLabels l hl).label) (List.cons_ne_nil _ _)
    simp only [Service.isUnderAsked, questions_askedRequest, question, name, type] at h ⊢
    simp [h]
  -- The pointer and the location name the same instance, so their order does not show.
  have hnames : m.records.filterMap (Service.instance? (Service.isAsked o.askedRequest)
      (Service.isUnderAsked o.askedRequest)) = [o.name, o.name] := by
    have h := hp.filterMap (Service.instance? (Service.isAsked o.askedRequest)
      (Service.isUnderAsked o.askedRequest))
    rw [filterMap_instance hasked hunder] at h
    have h : List.Perm _ (List.replicate 2 o.name) := h
    exact List.perm_replicate.1 h
  rw [Service.requested, Service.gather, hnames, Service.distinctNames_pair ho.name_ne_empty,
    List.map_singleton, assemble_eq_found ho hp ha]

/-- The response is not what was sent to ask for it. -/
theorem isOwn_arrived (destination sender : SocketAddress) (now timeout : Nat)
    (an au ad : List Record) :
    (o.asking destination now timeout).isOwn (arrived sender an au ad) = false := by
  -- The bytes of a message say its header, and only one of the two headers is that of a response.
  have hne : (response an au ad).wire ≠ o.askedRequest.wire := by
    intro he
    have hs : o.askedRequest.header.IsSendable :=
      Message.isSendable_header_addAll (m := Message.request) Header.isSendable_request _
    have hh := Message.header_eq_of_wire_eq (isSendable_header_response an au ad) hs he
    obtain ⟨counts, hc⟩ := exists_header_response an au ad
    rw [hc] at hh
    have hresponse : true = false := congrArg Header.response hh
    cases hresponse
  show [o.askedRequest.wire].contains (response an au ad).wire = false
  simpa using hne

theorem receive_eq (ho : o.IsValid) (hp : Placement o.list an au ad)
    (destination sender : SocketAddress) (now timeout : Nat) :
    (o.asking destination now timeout).receive (arrived sender an au ad) =
      (.ok (), { o.asking destination now timeout with
        catalog := ⟨[o.found]⟩
        events := [.discovered o.found] }) := by
  have hrecords : (arrived sender an au ad).records = an ++ au ++ ad := records_response hp
  have hresponse : (arrived sender an au ad).isResponse := by
    obtain ⟨counts, hc⟩ := exists_header_response an au ad
    show (response an au ad).header.isResponse
    rw [hc]
    rfl
  have hpointer : o.pointerRecord ∈ (arrived sender an au ad).records := by
    rw [hrecords, hp.perm.mem_iff]
    exact List.mem_cons_self
  have hrequested : Service.requested o.askedRequest (arrived sender an au ad) = [o.found] := by
    refine requested_eq ho (hrecords ▸ hp.perm) ?_
    rw [hrecords, filterMap_eq_of_filter_eq hp.addresses, filterMap_address]
  have hopen : ¬(o.asking destination now timeout).closed = true := Bool.false_ne_true
  unfold Discovery.receive Discovery.collect
  rw [if_neg hopen, isOwn_arrived, hresponse]
  show (_, (if (arrived sender an au ad).isAnswerTo o.askedRequest then
    (Service.requested o.askedRequest (arrived sender an au ad)).foldl Discovery.found
      (o.asking destination now timeout) else _)) = _
  rw [if_pos (isAnswerTo_askedRequest hresponse hpointer), hrequested]
  rfl

/-- **An announced service is found as it was announced, and nothing else is.** -/
theorem exists_discovered (ho : o.IsValid) (destination sender : SocketAddress)
    (now timeout : Nat) :
    ∃ records request d,
      o.records = .ok records ∧
      Query.request { services := [o.type], domain? := some o.domainName } = .ok request ∧
      ({ destination } : Discovery).start request now timeout = (.ok (), d) ∧ d.events = [] ∧
      ∀ an au ad, Placement records an au ad → ∃ b m d',
        (response an au ad).encode = .ok b ∧ Message.decodeFrom b sender = .ok m ∧
        d.receive m = (.ok (), d') ∧ d'.events = [.discovered o.found] := by
  refine ⟨o.list, o.askedRequest, o.asking destination now timeout, records_eq ho, request_eq ho,
    start_eq ho destination now timeout, rfl, fun an au ad hp => ?_⟩
  obtain ⟨hencode, hdecode⟩ := decodeFrom_response ho hp sender
  exact ⟨(response an au ad).wire, arrived sender an au ad, _, hencode, hdecode,
    receive_eq ho hp destination sender now timeout, rfl⟩

/-- A web service on a host with two addresses, one of which is given twice. -/
def webOffer : Offer where
  label := "Web"
  service := "_http"
  transport := "_TCP"
  domain := ["local"]
  host := ["web", "local"]
  port := 8080
  attributes := [⟨"path", "/"⟩, ⟨"note", ""⟩]
  addresses := [.v4 ⟨192, 168, 1, 20⟩, .v6 ⟨0xfe80, 0, 0, 0, 0, 0, 0, 1⟩, .v4 ⟨192, 168, 1, 20⟩]

/-- What is found of it. -/
def webService : Service where
  name := "Web._http._TCP.local"
  domain := "local"
  host := "web.local"
  addresses := [.v4 ⟨192, 168, 1, 20⟩, .v6 ⟨0xfe80, 0, 0, 0, 0, 0, 0, 1⟩]
  port := 8080
  attributes := [⟨"path", "/"⟩, ⟨"note", ""⟩]

theorem exists_discovered_webOffer : ∃ an au ad records, Placement records an au ad ∧
    webOffer.records = .ok records ∧ ∃ request d b m d',
      Query.request { services := ["_http._TCP.local"], domain? := some "local" } = .ok request ∧
      ({} : Discovery).start request 0 2000 = (.ok (), d) ∧ d.events = [] ∧
      (response an au ad).encode = .ok b ∧
      Message.decodeFrom b (.v4 ⟨192, 168, 1, 20⟩ 5353) = .ok m ∧
      d.receive m = (.ok (), d') ∧ d'.events = [.discovered webService] := by
  have hvalid : webOffer.IsValid := by
    constructor <;> decide +kernel
  have hplacement : Placement webOffer.list
      [webOffer.locationRecord, webOffer.addressRecord (.v4 ⟨192, 168, 1, 20⟩)]
      [webOffer.textRecord]
      [webOffer.addressRecord (.v6 ⟨0xfe80, 0, 0, 0, 0, 0, 0, 1⟩), webOffer.pointerRecord,
        webOffer.addressRecord (.v4 ⟨192, 168, 1, 20⟩)] := by
    constructor <;> decide +kernel
  have hfound : webOffer.found = webService := by decide +kernel
  obtain ⟨records, request, d, hr, hq, hs, he, h⟩ := exists_discovered hvalid
    (groupAddress none groupPort) (.v4 ⟨192, 168, 1, 20⟩ 5353) 0 2000
  rw [records_eq hvalid] at hr
  cases hr
  obtain ⟨b, m, d', hb, hm, hd, hf⟩ := h _ _ _ hplacement
  rw [hfound] at hf
  exact ⟨_, _, _, _, hplacement, records_eq hvalid, request, d, b, m, d', hq, hs, he, hb, hm, hd, hf⟩

end Offer

end ServiceDiscovery
