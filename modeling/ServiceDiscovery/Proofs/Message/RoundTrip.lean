import ServiceDiscovery.Message.Comparison
import ServiceDiscovery.Proofs.Message.Building

/-!
# Built messages, sent and read

A message that is built entry by entry arrives as it was sent: its header, and every entry of every
section in its place, with the dots at the end of names gone. What can get lost is excluded by what
is asked of the entries: numbers that mean themselves, names without empty parts, and records that
come from one of the ways to make them.

* `Record.IsMade`: the ways to make records; `suits`: their bodies suit their types and owners;
* `Question.IsFaithful`, `Record.IsFaithful`: entries that arrive as they were sent;
* `Message.Agrees`: equal headers and equal entries, one by one, up to dots at the end of names;
* `Message.same_of_agrees`: such messages are the same;
* `Message.exists_decode_addAll`: a built message arrives as it was sent.
-/

namespace ServiceDiscovery

/-! ### Entries that arrive as they were sent -/

/-- A name that has no empty part once the dots at its end are dropped. -/
def Name.TrimsTidy (s : String) : Prop := IsTidy (trimEnd s)

instance (s : String) : Decidable (Name.TrimsTidy s) :=
  inferInstanceAs (Decidable (Name.IsTidy (Name.trimEnd s)))

/-- A question that arrives as it was sent. -/
structure Question.IsFaithful (q : Question) : Prop where
  sendable : q.IsSendable
  name : Name.TrimsTidy q.name

namespace Record

/-- The ways to make a record: for a purpose, from data, or by reading it alone or in a message. -/
inductive IsMade : Record → Prop
  | a (name : String) (ttl : UInt32) (address : Ipv4) : IsMade (.a name ttl address)
  | aaaa (name : String) (ttl : UInt32) (address : Ipv6) : IsMade (.aaaa name ttl address)
  | ptr {name target : String} {ttl : UInt32} {r : Record} (h : ptr name ttl target = .ok r) :
      IsMade r
  | srv {name target : String} {ttl : UInt32} {priority weight port : UInt16} {r : Record}
      (h : srv name ttl priority weight port target = .ok r) : IsMade r
  | txt {name : String} {ttl : UInt32} {strings : List String} {r : Record}
      (h : txt name ttl strings = .ok r) : IsMade r
  | ofData {header : RecordHeader} {data : Bytes} {r : Record} (h : ofData header data = .ok r) :
      IsMade r
  | readFrom {bytes : Bytes} {r : Record} (h : readFrom bytes = .ok r) : IsMade r
  | readAt {packet : Bytes} {offset : Nat} {r : Record} (h : readAt packet offset = .ok r) :
      IsMade r
  | ofMessage {packet : Bytes} {m : Message} {r : Record} (h : Message.decode packet = .ok m)
      (hr : r ∈ m.records) : IsMade r

theorem suits_of_readAll {c : Cursor} {r : Record} (h : Reader.readAll read c = .ok r) :
    r.body.Suits r.header.type ∧ r.body.IsLabelled r.header.name := by
  obtain ⟨c', hr⟩ := Reader.exists_of_readAll_eq_ok h
  obtain ⟨hs, hl⟩ := gives_isSendable c r c' hr
  exact ⟨hs.body, hl⟩

/-- **However a record is made, its body suits its type and carries the labels of its owner.** -/
theorem IsMade.suits {r : Record} (h : r.IsMade) :
    r.body.Suits r.header.type ∧ r.body.IsLabelled r.header.name := by
  cases h with
  | a => exact ⟨rfl, by rintro _ ⟨⟩⟩
  | aaaa => exact ⟨rfl, by rintro _ ⟨⟩⟩
  | ptr h =>
    obtain ⟨-, rfl⟩ := ofBody_eq_ok.1 h
    exact ⟨rfl, by rintro _ ⟨⟩⟩
  | srv h =>
    obtain ⟨-, rfl⟩ := ofBody_eq_ok.1 h
    exact ⟨rfl, by rintro _ ⟨⟩; rfl⟩
  | txt h =>
    obtain ⟨-, rfl⟩ := ofBody_eq_ok.1 h
    exact ⟨rfl, by rintro _ ⟨⟩⟩
  | ofData h =>
    obtain ⟨body, hb, h⟩ := bind_eq_ok.1 h
    cases pure_eq_ok.1 h
    obtain ⟨c', hr⟩ := Reader.exists_of_readAll_eq_ok hb
    exact Body.gives_suits _ _ _ _ _ hr
  | readFrom h => exact suits_of_readAll h
  | readAt h =>
    unfold Record.readAt at h
    split_ifs at h
    exact suits_of_readAll h
  | ofMessage h hr =>
    have hm := Message.isFrom_of_decode h
    exact ⟨(hm.sendable.records r hr).body, hm.labelled r hr⟩

/-- A record that arrives as it was sent. -/
structure IsFaithful (r : Record) : Prop where
  made : r.IsMade
  header : r.header.IsSendable
  name : Name.TrimsTidy r.header.name
  body : r.body.IsTidy

theorem IsFaithful.isSendable {r : Record} (h : r.IsFaithful) : r.IsSendable :=
  ⟨h.header, h.made.suits.1⟩

end Record

/-! ### Agreement up to dots at the end of names -/

/-- The questions are equal up to dots at the end of their names. -/
structure Question.Agrees (q q' : Question) : Prop where
  name : Name.trimEnd q.name = Name.trimEnd q'.name
  type : q.type = q'.type
  dnsClass : q.dnsClass = q'.dnsClass
  unicast : q.unicast = q'.unicast

/-- The records are equal up to dots at the end of their names. Their data is equal if their bodies
do not determine it. -/
structure Record.Agrees (r r' : Record) : Prop where
  name : Name.trimEnd r.header.name = Name.trimEnd r'.header.name
  type : r.header.type = r'.header.type
  dnsClass : r.header.dnsClass = r'.header.dnsClass
  cacheFlush : r.header.cacheFlush = r'.header.cacheFlush
  ttl : r.header.ttl = r'.header.ttl
  body : r.body = r'.body
  data : r.body = .nsec ∨ r.body = .unknown → r.data = r'.data

/-- The messages have equal headers and, in every section, entries that are equal one by one up to
dots at the end of names. -/
structure Message.Agrees (m m' : Message) : Prop where
  header : m.header = m'.header
  questions : List.Forall₂ Question.Agrees m.questions.toList m'.questions.toList
  answers : List.Forall₂ Record.Agrees m.answers.toList m'.answers.toList
  authorities : List.Forall₂ Record.Agrees m.authorities.toList m'.authorities.toList
  additionals : List.Forall₂ Record.Agrees m.additionals.toList m'.additionals.toList

theorem Name.same_of_trimEnd_eq {s s' : String} (h : trimEnd s = trimEnd s') : same s s' := by
  rw [same, folded, folded, h]
  exact decide_eq_true rfl

theorem Question.Agrees.same {q q' : Question} (h : q.Agrees q') : q.same q' := by
  simp [Question.same, Name.same_of_trimEnd_eq h.name, h.type, h.dnsClass]

theorem Record.Agrees.same {r r' : Record} (h : r.Agrees r') : r.same r' := by
  have ht : r.dataText = r'.dataText := by
    have hb := h.body
    have hd := h.data
    unfold dataText
    rw [← hb]
    cases hr : r.body with
    | nsec => rw [hd (.inl hr)]
    | unknown => rw [hd (.inr hr)]
    | _ => rfl
  simp [Record.same, isNamed, Name.same_of_trimEnd_eq h.name, h.type, ht]

theorem sameEntries_of_forall₂ {α : Type} {same : α → α → Bool} {xs ys : List α}
    (h : List.Forall₂ (fun x y => same x y) xs ys) : sameEntries same xs ys := by
  have hall {same : α → α → Bool} {xs ys : List α} (h : List.Forall₂ (fun x y => same x y) xs ys) :
      ∀ x ∈ xs, ∃ y ∈ ys, same x y := by
    induction h with
    | nil => simp
    | cons hxy _ ih =>
      refine List.forall_mem_cons.2 ⟨⟨_, List.mem_cons_self, hxy⟩, fun x hx => ?_⟩
      obtain ⟨y, hy, hxy⟩ := ih x hx
      exact ⟨y, List.mem_cons_of_mem _ hy, hxy⟩
  have hflip : List.Forall₂ (fun y x => same x y) ys xs := List.Forall₂.flip h
  simp only [sameEntries, Bool.and_eq_true, decide_eq_true_eq, List.all_eq_true, List.any_eq_true]
  exact ⟨⟨h.length_eq, hall h⟩, hall hflip⟩

namespace Message

/-- Messages that agree entry by entry are the same. -/
theorem same_of_agrees {m m' : Message} (h : m.Agrees m') : m.same m' := by
  simp only [same, Bool.and_eq_true, decide_eq_true_eq]
  exact ⟨⟨⟨⟨h.header, sameEntries_of_forall₂ (h.questions.imp fun _ _ => Question.Agrees.same)⟩,
    sameEntries_of_forall₂ (h.answers.imp fun _ _ => Record.Agrees.same)⟩,
    sameEntries_of_forall₂ (h.authorities.imp fun _ _ => Record.Agrees.same)⟩,
    sameEntries_of_forall₂ (h.additionals.imp fun _ _ => Record.Agrees.same)⟩

end Message

/-! ### Sending and reading -/

theorem Question.IsFaithful.agrees_tidied {q : Question} (h : q.IsFaithful) :
    q.tidied.Agrees q where
  name := by
    show Name.trimEnd (Name.tidied q.name) = _
    rw [Name.tidied_eq_trimEnd h.name, Name.trimEnd_trimEnd]
  type := rfl
  dnsClass := rfl
  unicast := rfl

theorem Record.IsFaithful.agrees_tidied {r : Record} (h : r.IsFaithful) : r.tidied.Agrees r := by
  have hn : Name.tidied r.header.name = Name.trimEnd r.header.name :=
    Name.tidied_eq_trimEnd h.name
  have hl : r.body.IsLabelled (Name.tidied r.header.name) := by
    rw [hn]
    -- The labels come from the owner as it was given, and dots at its end do not change them.
    intro s hs
    rw [Name.serviceLabels_trimEnd]
    exact h.made.suits.2 s hs
  have hb : r.tidied.body = r.body := Body.tidied_eq_self h.body hl
  refine ⟨?_, rfl, rfl, rfl, rfl, hb, fun hr => ?_⟩
  · show Name.trimEnd (Name.tidied r.header.name) = _
    rw [hn, Name.trimEnd_trimEnd]
  · rw [hb] at hr
    show r.payload = r.data
    rcases hr with hr | hr <;> rw [payload, hr] <;> rfl

namespace Message

theorem forall₂_map_tidied {α : Type} {tidied : α → α} {agrees : α → α → Prop} {as : Array α}
    (h : ∀ a ∈ as.toList, agrees (tidied a) a) :
    List.Forall₂ agrees (as.map tidied).toList as.toList := by
  rw [Array.toList_map, List.forall₂_map_left_iff, List.forall₂_same]
  exact h

theorem agrees_tidied {m : Message} (h : m.Holds Question.IsFaithful Record.IsFaithful) :
    m.tidied.Agrees m := by
  obtain ⟨han, hau, had⟩ := forall_mem_records.1
    fun r hr => (h.records r hr).agrees_tidied
  exact ⟨rfl, forall₂_map_tidied fun q hq => (h.questions q hq).agrees_tidied,
    forall₂_map_tidied han, forall₂_map_tidied hau, forall₂_map_tidied had⟩

/-- **A message that is built from faithful entries arrives as it was sent**: it is the same
message, and its entries are equal one by one up to dots at the end of names. -/
theorem exists_decode_addAll {h : Header} (hh : h.IsSendable) {es : List Entry}
    (hes : ∀ e ∈ es, e.Is Question.IsFaithful Record.IsFaithful) {b : Bytes}
    (hb : ((ofHeader h).addAll es).encode = .ok b) :
    ∃ m', decode b = .ok m' ∧ m'.same ((ofHeader h).addAll es) ∧
      m'.Agrees ((ofHeader h).addAll es) := by
  generalize hm : (ofHeader h).addAll es = m at hb ⊢
  have hc : m.IsCounted := hm ▸ (isCounted_addAll _ es).2 (isCounted_ofHeader h)
  have hf : m.Holds Question.IsFaithful Record.IsFaithful := hm ▸ (holds_ofHeader h).addAll hes
  have hr : m.received = none := hm ▸ received_addAll rfl es
  have hh : m.header.IsSendable :=
    hm ▸ isSendable_header_addAll ⟨hh.operation, hh.code⟩ es
  have hs : m.IsSendable :=
    ⟨hh, fun q hq => (hf.questions q hq).sendable, fun r hr => (hf.records r hr).isSendable⟩
  rw [encode_of_unreceived hr, build_eq_ok] at hb
  obtain ⟨hfits, rfl⟩ := hb
  exact ⟨m.tidied, decode_wire hc hs hfits, same_of_agrees (agrees_tidied hf), agrees_tidied hf⟩

/-- Where a web service is. -/
def webLocation : Record where
  header := { name := "web._http._tcp.local.", type := .srv, ttl := 120 }
  data := [0, 0, 0, 0, 0, 80, 3, 119, 101, 98, 5, 108, 111, 99, 97, 108, 0]
  body := .srv { port := 80, target := "web.local", service := "_http", protocol := "_tcp" }

/-- A question for web services, and a known one. -/
def webEntries : List Entry :=
  [.question { name := "_http._tcp.local.", type := .ptr, unicast := true },
    .additional (.a "web.local." 120 ⟨10, 1, 2, 3⟩), .additional webLocation]

theorem exists_decode_webEntries : ∃ m', decode ((ofHeader .answer).addAll webEntries).wire = .ok m' ∧
    m'.same ((ofHeader .answer).addAll webEntries) ∧
      m'.Agrees ((ofHeader .answer).addAll webEntries) := by
  have hmade : Record.srv "web._http._tcp.local." 120 0 0 80 "web.local" = .ok webLocation := by
    decide +kernel
  refine exists_decode_addAll ⟨by decide, 0, by decide, rfl⟩ ?_ (by decide +kernel)
  simp only [webEntries, List.forall_mem_cons, Entry.Is]
  refine ⟨⟨⟨rfl, ?_⟩, ?_⟩, ⟨.a _ _ _, ⟨rfl, ?_⟩, ?_, trivial⟩,
    ⟨.srv hmade, ⟨rfl, ?_⟩, ?_, ?_⟩, by simp⟩
  all_goals decide +kernel

end Message

end ServiceDiscovery
