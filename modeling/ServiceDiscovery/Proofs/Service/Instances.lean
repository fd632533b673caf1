import ServiceDiscovery.Proofs.Message.RoundTrip
import ServiceDiscovery.Proofs.Name.Instances
import ServiceDiscovery.Proofs.Service.Contents

/-!
# Instances and their names

Pointers and locations present instances, and a request asks for some of them by the labels of the
names in its questions. Each instance is listed once, as it is spelled first, in the order in which
the records present them. The name of an instance is taken apart twice, in its location and in its
service, each time from the front, so what the instance is called can come in the way of either.

* `presented?`: the instance that a record presents to a request, by labels;
* `IsListing`: instances listed by their labels;
* `isListing_requested`: the services that a request asks for are so listed;
* `InstanceName.splits_iff`: which names of instances are taken apart as they were put together.
-/

namespace ServiceDiscovery

namespace Service

/-! ### Presented instances -/

/-- The instance that a record presents to a request: what a pointer points to, if a question is for
its owner, or the owner of a location, if a question is for it or for later labels of it. -/
def presented? (request : Message) (r : Record) : Option String :=
  match r.body with
  | .ptr target =>
    if target ≠ "" ∧ ∃ q ∈ request.questions,
        Name.caseless r.header.name = Name.caseless q.name
    then some target else none
  | .srv _ =>
    if r.header.name ≠ "" ∧ ∃ q ∈ request.questions,
        Name.caseless r.header.name = Name.caseless q.name ∨
          q.name ≠ "" ∧ Name.caseless q.name <:+ Name.caseless r.header.name
    then some r.header.name else none
  | _ => none

variable {request : Message}

theorem isAsked_iff (hq : ∀ q ∈ request.questions, Name.IsTidy q.name) {owner : String}
    (ho : Name.IsTidy owner) : isAsked request owner ↔
      ∃ q ∈ request.questions, Name.caseless owner = Name.caseless q.name := by
  rw [isAsked, Array.any_eq_true']
  refine exists_congr fun q => and_congr_right fun hmem => ?_
  rw [Name.same_iff_caseless (hq q hmem) ho, eq_comm]

theorem isUnderAsked_iff (hq : ∀ q ∈ request.questions, Name.IsTidy q.name) {owner : String}
    (ho : Name.IsTidy owner) : isUnderAsked request owner ↔
      ∃ q ∈ request.questions, Name.caseless owner = Name.caseless q.name ∨
        q.name ≠ "" ∧ Name.caseless q.name <:+ Name.caseless owner := by
  rw [isUnderAsked, Array.any_eq_true']
  exact exists_congr fun q => and_congr_right fun hmem => Name.same_or_isUnder_iff ho (hq q hmem)

theorem ite_and_eq_filter {name : String} {P : Prop} [Decidable P] {b : Bool} (h : b ↔ P) :
    (if name ≠ "" ∧ P then some name else none) =
      (if b then some name else none).filter (· ≠ "") := by
  by_cases hname : name = "" <;> by_cases hb : b <;> simp [hname, hb, ← h, Option.filter]

/-- What a record presents is the instance that is gathered from it, if it has a name. -/
theorem presented?_eq (hq : ∀ q ∈ request.questions, Name.IsTidy q.name) {r : Record}
    (hr : Name.IsTidy r.header.name) : presented? request r =
      (instance? (isAsked request) (isUnderAsked request) r).filter (· ≠ "") := by
  rw [presented?, instance?]
  cases r.body with
  | ptr target => exact ite_and_eq_filter (isAsked_iff hq hr)
  | srv s => exact ite_and_eq_filter (isUnderAsked_iff hq hr)
  | _ => rfl

/-! ### Listed instances -/

/-- Some names are listed by their labels, each at its first occurrence and as it is spelled
there. -/
structure IsListing (all listed : List String) : Prop where
  once : IsDeduplicated (all.map Name.caseless) (listed.map Name.caseless)
  spelling : ∀ name ∈ listed,
    all.find? (fun other => Name.caseless other = Name.caseless name) = some name

/-- One more name is listed unless its labels are, and it comes behind all others. -/
theorem IsListing.concat {all listed : List String} (h : IsListing all listed) (name : String) :
    IsListing (all ++ [name])
      (if Name.caseless name ∈ listed.map Name.caseless then listed else listed ++ [name]) := by
  have honce := h.once.concat (Name.caseless name)
  have hkept : ∀ other ∈ listed, (all ++ [name]).find?
      (fun other' => Name.caseless other' = Name.caseless other) = some other := by
    intro other hmem
    rw [List.find?_append, h.spelling other hmem, Option.some_or]
  split_ifs at honce ⊢ with hlisted
  · exact ⟨by rwa [List.map_append], hkept⟩
  · have hnew : all.find? (fun other => Name.caseless other = Name.caseless name) = none := by
      rw [List.find?_eq_none]
      intro other hmem he
      exact hlisted ((h.once.mem_iff _).2 (List.mem_map.2 ⟨other, hmem, by simpa using he⟩))
    refine ⟨by rwa [List.map_append, List.map_append],
      List.forall_mem_append.2 ⟨hkept, List.forall_mem_singleton.2 ?_⟩⟩
    rw [List.find?_append, hnew, Option.none_or, List.find?_singleton, if_pos (by simp)]

theorem distinctNames_concat (names : List String) (name : String) :
    distinctNames (names ++ [name]) =
      if name = "" || (distinctNames names).any (Name.same · name) then distinctNames names
      else distinctNames names ++ [name] := by
  rw [distinctNames, List.foldl_concat, ← distinctNames]

theorem distinctNames_filter (names : List String) :
    distinctNames (names.filter (· ≠ "")) = distinctNames names := by
  induction names using List.reverseRecOn with
  | nil => rfl
  | append_singleton names name ih =>
    rw [List.filter_append, distinctNames_concat, ← ih]
    by_cases h : name = ""
    · simp [h]
    · rw [List.filter_cons_of_pos (by simpa using h), List.filter_nil, distinctNames_concat]

theorem subset_distinctNames (names : List String) : distinctNames names ⊆ names := by
  induction names using List.reverseRecOn with
  | nil => exact List.Subset.refl _
  | append_singleton names name ih =>
    rw [distinctNames_concat]
    split_ifs
    · exact List.subset_append_of_subset_left _ ih
    · exact List.append_subset.2
        ⟨List.subset_append_of_subset_left _ ih, List.subset_append_right _ _⟩

/-- **The names that are gathered are a listing by labels.** -/
theorem isListing_distinctNames {names : List String}
    (h : ∀ name ∈ names, Name.IsTidy name ∧ name ≠ "") : IsListing names (distinctNames names) := by
  induction names using List.reverseRecOn with
  | nil => exact ⟨isDeduplicated_firstOccurrences [], by simp [distinctNames]⟩
  | append_singleton names name ih =>
    obtain ⟨hnames, hname⟩ := List.forall_mem_append.1 h
    obtain ⟨htidy, hne⟩ := hname name List.mem_cons_self
    -- The comparison of texts finds the labels that are listed already.
    have hlisted : (distinctNames names).any (Name.same · name) ↔
        Name.caseless name ∈ (distinctNames names).map Name.caseless := by
      rw [List.any_eq_true, List.mem_map]
      exact exists_congr fun other => and_congr_right fun hmem =>
        Name.same_iff_caseless (hnames other (subset_distinctNames names hmem)).1 htidy
    have hconcat := (ih hnames).concat name
    rw [distinctNames_concat]
    simp only [← hlisted] at hconcat
    simpa [hne] using hconcat

/-! ### The services that a request asks for -/

theorem map_name_gather (pointers locations : String → Bool) (records : List Record) :
    (gather pointers locations records).map Service.name =
      distinctNames (records.filterMap (instance? pointers locations)) := by
  rw [gather, List.map_map]
  exact List.map_id _

theorem tidy_of_presented? {r : Record} {name : String} (hn : Name.IsTidy r.header.name)
    (hb : r.body.IsTidy) (h : presented? request r = some name) : Name.IsTidy name ∧ name ≠ "" := by
  rw [presented?] at h
  cases hbody : r.body with
  | ptr target =>
    simp only [hbody, Option.ite_none_right_eq_some] at h
    obtain ⟨⟨hne, -⟩, hname⟩ := h
    rw [hbody] at hb
    exact Option.some.inj hname ▸ ⟨hb, hne⟩
  | srv s =>
    simp only [hbody, Option.ite_none_right_eq_some] at h
    obtain ⟨⟨hne, -⟩, hname⟩ := h
    exact Option.some.inj hname ▸ ⟨hn, hne⟩
  | _ => simp [hbody] at h

/-- **Which services a request gets of a message**: one for each instance that the records present
to it, in their order, and spelled as the first of them spells it. -/
theorem isListing_requested {m : Message} (hq : ∀ q ∈ request.questions, Name.IsTidy q.name)
    (hm : ∀ r ∈ m.records, Name.IsTidy r.header.name ∧ r.body.IsTidy) :
    IsListing (m.records.filterMap (presented? request))
      ((requested request m).map Service.name) := by
  have hpresented : m.records.filterMap (presented? request) =
      (m.records.filterMap (instance? (isAsked request) (isUnderAsked request))).filter
        (· ≠ "") := by
    rw [List.filter_filterMap]
    exact List.filterMap_congr fun r hr => presented?_eq hq (hm r hr).1
  have htidy : ∀ name ∈ m.records.filterMap (presented? request),
      Name.IsTidy name ∧ name ≠ "" := by
    intro name hname
    obtain ⟨r, hr, hrname⟩ := List.mem_filterMap.1 hname
    exact tidy_of_presented? (hm r hr).1 (hm r hr).2 hrname
  rw [requested, map_name_gather, ← distinctNames_filter, ← hpresented]
  exact isListing_distinctNames htidy

/-- A request for the printers of the local network. -/
def browsing : Message :=
  { Message.request with questions := #[{ name := "_ipp._tcp.local", type := .ptr }] }

/-- A printer in two spellings and another one, beside a location whose owner only ends in the same
characters. -/
def printers : Message :=
  let record (name : String) (body : Body) : Record :=
    { header := { name, type := body.type?.getD .none, ttl := 120 }, data := [], body }
  let place : Body := .srv { port := 631, target := "host.local" }
  { answers := #[record "x_ipp._tcp.local" place,
      record "_IPP._tcp.local" (.ptr "B._ipp._tcp.local")]
    additionals := #[record "A._ipp._TCP.local" place, record "b._ipp._tcp.LOCAL" place] }

theorem isListing_requested_printers :
    (∀ q ∈ browsing.questions, Name.IsTidy q.name) ∧
      (∀ r ∈ printers.records, Name.IsTidy r.header.name ∧ r.body.IsTidy) ∧
      IsListing ["B._ipp._tcp.local", "A._ipp._TCP.local", "b._ipp._tcp.LOCAL"]
        ((requested browsing printers).map Service.name) := by
  have hq : ∀ q ∈ browsing.questions, Name.IsTidy q.name := by decide +kernel
  have hm : ∀ r ∈ printers.records, Name.IsTidy r.header.name ∧ r.body.IsTidy := by decide +kernel
  have hasked : Name.caseless "_ipp._tcp.local" = ["_ipp", "_tcp", "local"] := by decide +kernel
  have hnear : Name.caseless "x_ipp._tcp.local" = ["x_ipp", "_tcp", "local"] := by decide +kernel
  have howner : Name.caseless "_IPP._tcp.local" = ["_ipp", "_tcp", "local"] := by decide +kernel
  have hA : Name.caseless "A._ipp._TCP.local" = ["a", "_ipp", "_tcp", "local"] := by decide +kernel
  have hb : Name.caseless "b._ipp._tcp.LOCAL" = ["b", "_ipp", "_tcp", "local"] := by decide +kernel
  have hpresented : printers.records.filterMap (presented? browsing) =
      ["B._ipp._tcp.local", "A._ipp._TCP.local", "b._ipp._tcp.LOCAL"] := by
    have hsuffix : ¬["_ipp", "_tcp", "local"] <:+ ["x_ipp", "_tcp", "local"] := by decide
    have hsuffixA : ["_ipp", "_tcp", "local"] <:+ ["a", "_ipp", "_tcp", "local"] := by decide
    have hsuffixb : ["_ipp", "_tcp", "local"] <:+ ["b", "_ipp", "_tcp", "local"] := by decide
    simp [printers, browsing, Message.records, presented?, hasked, hnear, howner, hA, hb, hsuffix,
      hsuffixA, hsuffixb]
  exact ⟨hq, hm, hpresented ▸ isListing_requested hq hm⟩

end Service

/-! ### Names of instances taken apart -/

namespace InstanceName

variable (n : InstanceName)

/-- Locations with this name carry its service and its transport protocol, however their records are
made. -/
def SplitsInRecords : Prop := ∀ r : Record, r.IsMade → r.header.name = n.text →
  ∀ s, r.body = .srv s → (s.service, s.protocol) = (n.service, n.transport)

/-- Services with this name are of its domain, whatever else records say of them. -/
def SplitsInServices : Prop :=
  ∀ records, (Service.assemble records n.text).domain = Name.ofLabels n.domain

theorem splitsInRecords_iff :
    n.SplitsInRecords ↔ Name.serviceLabels n.text = (n.service, n.transport) := by
  constructor
  · intro h
    have hlabels : Name.labels "" = [] := rfl
    have hfits : Name.Fits "" := by simp [Name.Fits, hlabels]
    have hok : Record.srv n.text 0 0 0 0 "" = .ok _ := Record.ofBody_eq_ok.2 ⟨hfits, rfl⟩
    exact h _ (.srv hok) rfl _ rfl
  · intro h r hr hname s hs
    rw [hr.suits.2 s hs, hname, h]

/-- **When the name of an instance is taken apart as it was put together**: in records, unless the
label misleads, and in services, unless a transport protocol is in the label. A label without dots
is in the way of neither exactly if it does not begin with an underscore. -/
theorem splits_iff : (n.SplitsInRecords ↔ ¬n.Misleads) ∧
    (n.SplitsInServices ↔ ∀ l ∈ Name.labels n.label, Name.isTransport l = false) ∧
    (Name.IsLabel n.label →
      (n.SplitsInRecords ∧ n.SplitsInServices ↔ ¬Name.isUnderscored n.label)) := by
  have hrecords : n.SplitsInRecords ↔ ¬n.Misleads :=
    n.splitsInRecords_iff.trans n.serviceLabels_eq_iff
  have hservices : n.SplitsInServices ↔ ∀ l ∈ Name.labels n.label, Name.isTransport l = false :=
    (forall_const _).trans n.domain_eq_iff
  refine ⟨hrecords, hservices, fun hlabel => ?_⟩
  rw [hrecords, hservices, labels_label hlabel, misleads_iff hlabel, List.forall_mem_singleton]
  refine and_iff_left_of_imp fun h => ?_
  rw [← Bool.not_eq_true]
  exact fun ht => h (Name.isUnderscored_of_isTransport ht)

/-- A web service of the local network, by what it is called. -/
def web (label : String) (h : label ≠ "") : InstanceName where
  label := label
  service := "_http"
  transport := "_tcp"
  domain := ["local"]
  label_ne_empty := h
  isLabel_service := by decide +kernel
  isUnderscored_service := by decide +kernel
  isTransport_service := by decide +kernel
  isTransport_transport := by decide +kernel
  domain_ne_nil := by decide
  isLabel_domain := by decide +kernel

theorem splits_iff_web : Name.IsLabel (web "Living Room" (by decide)).label ∧
    (web "Living Room" (by decide)).SplitsInRecords ∧
      (web "Living Room" (by decide)).SplitsInServices := by
  have hlabel : Name.IsLabel (web "Living Room" (by decide)).label := by decide +kernel
  exact ⟨hlabel, ((splits_iff _).2.2 hlabel).2 (by decide +kernel)⟩

/-- What begins with an underscore is taken for the service in records, also where services find the
domain, and what is called like a transport protocol is taken for it in services. -/
theorem not_splits_underscored :
    (web "_lab" (by decide)).text = "_lab._http._tcp.local" ∧
      Name.serviceLabels "_lab._http._tcp.local" = ("_lab", "_http") ∧
      ¬(web "_lab" (by decide)).SplitsInRecords ∧ (web "_lab" (by decide)).SplitsInServices ∧
      ¬(web "_tcp" (by decide)).SplitsInServices := by
  have htext : (web "_lab" (by decide)).text = "_lab._http._tcp.local" := by decide +kernel
  have hlabels : Name.serviceLabels "_lab._http._tcp.local" = ("_lab", "_http") := by decide +kernel
  have hdomain : Name.domain "_lab._http._tcp.local" = Name.ofLabels ["local"] := by decide +kernel
  have htcp : Name.domain (web "_tcp" (by decide)).text ≠ Name.ofLabels ["local"] := by
    decide +kernel
  refine ⟨htext, hlabels, ?_, fun _ => htext ▸ hdomain, fun h => htcp (h [])⟩
  rw [splitsInRecords_iff, htext, hlabels]
  decide

end InstanceName

end ServiceDiscovery
