import ServiceDiscovery.Session.Endpoints
import ServiceDiscovery.Proofs.Message.Building
import ServiceDiscovery.Proofs.Message.Growing
import ServiceDiscovery.Proofs.Message.NormalForm

/-!
# Packets that were cut off

What can be read of the beginning of a packet is what the whole packet says, and what is wrong in it
is wrong in the whole packet, unless bytes are missing. So an endpoint that sees too little of a
datagram makes nothing else of it. Of a packet that was written entry by entry nothing can be left
out at the end.

* `decode_append_of_ok`, `decode_append_of_error`: more bytes behind a packet;
* `receive_datagram`: what an endpoint reads of a datagram;
* `Record.spans_wire`, `spans_wire`: reading ends where a written packet ends, not before;
* `decode_prefix`: what is read of the beginning of a packet.
-/

namespace ServiceDiscovery

namespace Message

/-! ### More bytes behind a packet -/

/-- Which bytes a message keeps does not matter to reading it. -/
theorem readKeeping_eq (packet packet' : Bytes) : readKeeping packet' =
    (readKeeping packet >>= fun m => pure { m with received := some packet' }) := by
  simp only [readKeeping, bind_assoc, pure_bind]

/-- The bytes of a packet, with more of them behind, are read as before or were too few. -/
theorem grown_readKeeping (p t : Bytes) : Reader.Grown t t
    (readKeeping p (.start p)) (readKeeping p (.start (p ++ t))) :=
  steady_readKeeping p (.start p)

theorem decode_append_of_ok {p : Bytes} {m : Message} (h : decode p = .ok m) (t : Bytes) :
    decode (p ++ t) = .ok { m with received := some (p ++ t) } := by
  rw [decode_eq] at h
  obtain ⟨c', hr⟩ := Reader.exists_of_readAll_eq_ok h
  have hgrown := grown_readKeeping p t
  rw [hr] at hgrown
  generalize hr' : readKeeping p (.start (p ++ t)) = r at hgrown
  cases hgrown
  rw [decode_eq, Reader.readAll, readKeeping_eq p (p ++ t), Reader.bind_eq_of_ok hr']
  rfl

theorem decode_append_of_error {p : Bytes} {e : Error} (h : decode p = .error e)
    (he : e.root ≠ .unexpectedEnd) (t : Bytes) : decode (p ++ t) = .error e := by
  rw [decode_eq, Reader.readAll] at h
  have hgrown := grown_readKeeping p t
  generalize hr : readKeeping p (.start p) = r,
    hr' : readKeeping p (.start (p ++ t)) = r' at hgrown
  rw [hr] at h
  cases hgrown with
  | ok m c => cases h
  | failed e' c c' =>
    cases h
    rw [decode_eq, Reader.readAll, readKeeping_eq p (p ++ t), Reader.bind_eq_of_error hr']
  | ended e' c r hroot =>
    cases h
    exact absurd hroot he

/-! ### What an endpoint sees -/

/-- Of a datagram, an endpoint reads what fits its buffer, and nothing of what was there before. -/
theorem receive_datagram (l : Endpoint) (bytes : Bytes) (sender : SocketAddress) :
    (l.receive (.datagram bytes sender)).1 =
      (decodeFrom (bytes.take l.bufferSize) sender).toOption := by
  rw [Endpoint.receive, Endpoint.fill, List.take_left]

end Message

/-! ### Packets as they were written -/

theorem Question.spans_wire {q : Question} (h : Name.Fits q.name) :
    Reader.Spans Question.read q.wire := by
  rw [wire, List.append_assoc, ← List.append_nil (Bytes.ofWord (q.dnsClass.field q.unicast))]
  refine (Reader.takes_name h).bind_spans ?_
  refine (Reader.takes_word _).bind_spans ?_
  refine (Reader.takes_word _).bind_spans ?_
  exact Reader.spans_pure _

/-- A record that is read again ends where it was written to end, whatever its data is read as. -/
theorem Record.spans_wire {r : Record} (h : r.Fits) : Reader.Spans Record.read r.wire := by
  have hlen : (UInt16.ofNat r.payload.length).toNat = r.payload.length := by
    rw [UInt16.toNat_ofNat']
    have := h.payload
    omega
  have hdata : Reader.Takes (Reader.take (UInt16.ofNat r.payload.length).toNat) r.payload
      r.payload := by
    rw [hlen]
    exact Reader.takes_take _
  have hbody : Reader.Spans (withData ⟨Name.tidied r.header.name, .ofCode r.header.type.code,
      (DnsClass.ofField (r.header.dnsClass.field r.header.cacheFlush)).1,
      (DnsClass.ofField (r.header.dnsClass.field r.header.cacheFlush)).2, r.header.ttl⟩
      r.payload) [] := by
    intro c c' a rest hc hr
    obtain ⟨-, -, rfl, -⟩ := of_withData_eq_ok hr
    exact hc
  have hlast := hdata.bind_spans hbody
  rw [List.append_nil] at hlast
  rw [wire, fixedFields, List.append_assoc, List.append_assoc, List.append_assoc]
  refine (Reader.takes_name h.name).bind_spans ?_
  refine (Reader.takes_word _).bind_spans ?_
  refine (Reader.takes_word _).bind_spans ?_
  refine (Reader.takes_long _).bind_spans ?_
  refine (Reader.takes_word _).bind_spans ?_
  exact hlast

namespace Message

theorem spans_readEntries {α : Type} {read : Reader α} {wire : α → Bytes} {as : List α}
    (h : ∀ a ∈ as, Reader.Spans read (wire a)) (place : Section) (seen : Array α) :
    Reader.Spans (readEntries read place as.length seen) (as.flatMap wire) := by
  induction as generalizing seen with
  | nil =>
    intro c c' all rest hc hr
    cases hr
    exact hc
  | cons a as ih =>
    obtain ⟨ha, has⟩ := List.forall_mem_cons.1 h
    intro c c'' all rest hc hr
    obtain ⟨b, c', hb, hr⟩ := readEntries_succ_eq_ok hr
    rw [List.flatMap_cons, List.append_assoc] at hc
    exact ih has (seen.push b) c' c'' all rest (ha c c' b _ hc hb) hr

theorem spans_readSection {α : Type} {read : Reader α} {wire : α → Bytes} {as : Array α}
    {count : UInt16} (hn : count.toNat = as.size) (h : ∀ a ∈ as.toList, Reader.Spans read (wire a))
    (place : Section) : Reader.Spans (readSection read place count) (as.toList.flatMap wire) := by
  rw [readSection, hn, ← Array.length_toList]
  exact spans_readEntries h place #[]

/-- **Reading a written packet ends at its last byte, if it succeeds.** -/
theorem spans_wire {m : Message} (hc : m.IsCounted) (hf : m.Fits) (packet : Bytes) :
    Reader.Spans (readKeeping packet) m.wire := by
  obtain ⟨hanswers, hauthorities, hadditionals⟩ :=
    forall_mem_records.1 fun r hr => Record.spans_wire (hf.records r hr)
  have hquestions : ∀ q ∈ m.questions.toList, Reader.Spans Question.read q.wire :=
    fun q hq => Question.spans_wire (hf.questions q hq)
  rw [wire_append_sections, ← List.append_nil (m.additionals.toList.flatMap _)]
  refine (Header.takes_bytes m.header).bind_spans ?_
  refine (spans_readSection hc.questions hquestions .question).bind fun questions => ?_
  refine (spans_readSection hc.answers hanswers .answer).bind fun answers => ?_
  refine (spans_readSection hc.authorities hauthorities .authority).bind fun authorities => ?_
  refine (spans_readSection hc.additionals hadditionals .additional).bind fun additionals => ?_
  exact Reader.spans_pure _

/-- A written packet of which something is missing at the end cannot be read. -/
theorem exists_decode_eq_error {m : Message} (hc : m.IsCounted) (hf : m.Fits) {p t : Bytes}
    (h : m.wire = p ++ t) (ht : t ≠ []) : ∃ e, decode p = .error e := by
  cases hp : decode p with
  | error e => exact ⟨e, rfl⟩
  | ok m' =>
    -- The reading would end inside the packet, and also at its last byte.
    rw [decode_eq] at hp
    obtain ⟨c', hr⟩ := Reader.exists_of_readAll_eq_ok hp
    have hgrown := grown_readKeeping p t
    rw [hr] at hgrown
    generalize hr' : readKeeping p (.start (p ++ t)) = r at hgrown
    cases hgrown
    have hrest : (Cursor.start (p ++ t)).rest = m.wire ++ [] := by
      rw [h, List.append_nil]
      rfl
    have hend : c'.rest ++ t = [] := spans_wire hc hf p _ _ m' [] hrest hr'
    exact absurd (List.append_eq_nil_iff.1 hend).2 ht

/-! ### Beginnings of packets -/

/-- **What is read of the beginning of a packet is what the whole packet says, and so is what is
wrong in it, unless bytes are missing.** So an endpoint makes of a datagram nothing or what the whole
datagram says, and of a packet that was written entry by entry every byte is needed. -/
theorem decode_prefix :
    (∀ p t m, decode p = .ok m → decode (p ++ t) = .ok { m with received := some (p ++ t) }) ∧
    (∀ p t e, decode p = .error e → e.root ≠ .unexpectedEnd → decode (p ++ t) = .error e) ∧
    (∀ (l : Endpoint) bytes sender, (l.receive (.datagram bytes sender)).1 = none ∨
      ∃ m, decodeFrom bytes sender = .ok m ∧ (l.receive (.datagram bytes sender)).1 =
        some { m with received := some (bytes.take l.bufferSize) }) ∧
    (∀ h es b p, ((ofHeader h).addAll es).encode = .ok b → p <+: b → p ≠ b →
      ∃ e, decode p = .error e) := by
  refine ⟨fun p t m h => decode_append_of_ok h t, fun p t e h he => decode_append_of_error h he t,
    ?_, ?_⟩
  · intro l bytes sender
    rw [receive_datagram]
    cases hp : decode (bytes.take l.bufferSize) with
    | error e =>
      rw [decodeFrom, hp]
      exact .inl rfl
    | ok m =>
      have hwhole := decode_append_of_ok hp (bytes.drop l.bufferSize)
      rw [List.take_append_drop] at hwhole
      right
      refine ⟨({ m with received := some bytes } : Message).tagged sender, ?_, ?_⟩
      · rw [decodeFrom, hwhole]
        rfl
      · have hreceived := (isFrom_of_decode hp).received
        rw [decodeFrom, hp, ← hreceived]
        rfl
  · rintro h es b p hb ⟨t, rfl⟩ hne
    have ht : t ≠ [] := by
      rintro rfl
      exact hne (List.append_nil p).symm
    rw [encode_of_unreceived (received_addAll rfl es), build_eq_ok] at hb
    obtain ⟨hfits, hwire⟩ := hb
    have hcounted := (isCounted_addAll (ofHeader h) es).2 (isCounted_ofHeader h)
    exact exists_decode_eq_error hcounted hfits hwire.symm ht

/-- A response with a compressed name, a packet whose only question begins with a reserved length,
and a request without its last byte. -/
theorem decode_prefix_compressedPacket :
    decode (compressedPacket ++ [192]) =
        .ok { compressedMessage with received := some (compressedPacket ++ [192]) } ∧
      decode ([0, 0, 0, 0, 0, 1, 0, 0, 0, 0, 0, 0, 64] ++ [0]) =
        .error (.malformedEntry .question 0 .reservedLabel) ∧
      ∃ e, decode (request.addAll [.question { name := "a.local", type := .ptr }]).wire.dropLast =
        .error e := by
  obtain ⟨hok, herror, -, hwritten⟩ := decode_prefix
  refine ⟨hok _ _ _ (by decide +kernel), herror _ _ _ (by decide +kernel) (by decide), ?_⟩
  exact hwritten .request [.question { name := "a.local", type := .ptr }] _ _ (by decide +kernel)
    (List.dropLast_prefix _) (by decide +kernel)

end Message

end ServiceDiscovery
