import ServiceDiscovery.Proofs.Message.Wire

/-!
# The normal form of a packet

Many packets are read as the same message: names may be compressed, data may be longer than what
is used of it, strings may be empty, texts may not be well-formed, and bytes may follow the last
entry. A message that was read and lost its bytes is written in one form without any of this, and
that form is read and written as itself.

* `SpellsOut`: bytes that are read as a name wherever they stand, without pointers;
* `Question.IsSpelledOut`, `Body.IsSpelledOut`, `Record.IsSpelledOut`: entries with such names;
* `Message.IsSpelledOut`: packets that hold a header, such entries and nothing else;
* `Message.wire_tidied`, `fits_tidied`: tidying a message does not change how it is written;
* `Message.normal_form`: what is written of a message that was read.
-/

namespace ServiceDiscovery

/-! ### Names that are spelled out -/

/-- Bytes without pointers that are read as the name, wherever they stand. -/
structure SpellsOut (bytes : Bytes) (name : String) : Prop where
  plain : Plain bytes
  takes : Reader.Takes Reader.name bytes name

theorem spellsOut_wire {s : String} (h : Name.Fits s) :
    SpellsOut (Name.wire s) (Name.tidied s) := ⟨Name.plain_wire h, Reader.takes_name h⟩

def Question.IsSpelledOut (q : Question) (bytes : Bytes) : Prop :=
  ∃ name, SpellsOut name q.name ∧
    bytes = name ++ Bytes.ofWord q.type.code ++ Bytes.ofWord (q.dnsClass.field q.unicast)

/-- Data whose target, if there is one, is spelled out. -/
def Body.IsSpelledOut (data : Bytes) : Body → Prop
  | ptr target => SpellsOut data target
  | srv s => ∃ name, SpellsOut name s.target ∧
      data = Bytes.ofWord s.priority ++ Bytes.ofWord s.weight ++ Bytes.ofWord s.port ++ name
  | a _ | aaaa _ | txt _ | nsec | unknown => True

/-- A record whose names are spelled out and whose data has the length that is said before it. -/
def Record.IsSpelledOut (r : Record) (bytes : Bytes) : Prop :=
  ∃ name, SpellsOut name r.header.name ∧ r.body.IsSpelledOut r.data ∧ r.data.length ≤ 65535 ∧
    bytes = name ++ (Bytes.ofWord r.header.type.code
      ++ (Bytes.ofWord (r.header.dnsClass.field r.header.cacheFlush)
      ++ (Bytes.ofLong r.header.ttl ++ Bytes.ofWord (UInt16.ofNat r.data.length))) ++ r.data)

/-- A packet that holds the header and the entries of the message one after another, all names in
them spelled out, and nothing else. -/
def Message.IsSpelledOut (m : Message) (packet : Bytes) : Prop :=
  ∃ questions records : List Bytes,
    List.Forall₂ Question.IsSpelledOut m.questions.toList questions ∧
    List.Forall₂ Record.IsSpelledOut m.records records ∧
    packet = m.header.bytes ++ questions.flatten ++ records.flatten

theorem Question.isSpelledOut_wire {q : Question} (h : Name.Fits q.name) :
    q.tidied.IsSpelledOut q.wire := ⟨Name.wire q.name, spellsOut_wire h, rfl⟩

theorem Body.isSpelledOut_tidied {body : Body} (h : body.Fits) (owner : String) {data : Bytes}
    (hd : body.wire.getD data = data) : (body.tidied owner).IsSpelledOut data := by
  cases body with
  | ptr target =>
    have hd : Name.wire target = data := hd
    rw [← hd]
    exact spellsOut_wire h
  | srv s => exact ⟨Name.wire s.target, spellsOut_wire h, hd.symm⟩
  | _ => trivial

theorem Record.isSpelledOut_wire {r : Record} (h : r.Fits) : r.tidied.IsSpelledOut r.wire := by
  have hp : r.body.wire.getD r.payload = r.payload := by
    rw [payload]
    cases r.body.wire <;> rfl
  exact ⟨Name.wire r.header.name, spellsOut_wire h.name, Body.isSpelledOut_tidied h.body _ hp,
    h.payload, rfl⟩

namespace Message

/-! ### Tidied messages -/

theorem wire_tidied (m : Message) : m.tidied.wire = m.wire := by
  have hq : m.tidied.questions.toList = m.questions.toList.map Question.tidied := Array.toList_map
  rw [wire, wire, hq, records_tidied, List.flatMap_map, List.flatMap_map]
  simp only [Question.wire_tidied, Record.wire_tidied]
  rfl

theorem fits_tidied {m : Message} (h : m.Fits) : m.tidied.Fits := by
  have hq : m.tidied.questions.toList = m.questions.toList.map Question.tidied := Array.toList_map
  refine ⟨?_, ?_⟩
  · rw [hq, List.forall_mem_map]
    exact fun q hq => Name.fits_tidied.2 (h.questions q hq)
  · rw [records_tidied, List.forall_mem_map]
    exact fun r hr => Record.fits_tidied.2 (h.records r hr)

theorem isSpelledOut_wire {m : Message} (h : m.Fits) : m.tidied.IsSpelledOut m.wire := by
  have hq : m.tidied.questions.toList = m.questions.toList.map Question.tidied := Array.toList_map
  refine ⟨m.questions.toList.map Question.wire, m.records.map Record.wire, ?_, ?_, ?_⟩
  · rw [hq, List.forall₂_map_left_iff, List.forall₂_map_right_iff, List.forall₂_same]
    exact fun q hq => Question.isSpelledOut_wire (h.questions q hq)
  · rw [records_tidied, List.forall₂_map_left_iff, List.forall₂_map_right_iff, List.forall₂_same]
    exact fun r hr => Record.isSpelledOut_wire (h.records r hr)
  · rw [wire, List.flatMap_def, List.flatMap_def]
    rfl

/-! ### Reading, writing and reading again -/

structure SameSizes (m m' : Message) : Prop where
  questions : m.questions.size = m'.questions.size
  answers : m.answers.size = m'.answers.size
  authorities : m.authorities.size = m'.authorities.size
  additionals : m.additionals.size = m'.additionals.size

theorem IsFrom.withHeader_id {packet : Bytes} {m : Message} (h : m.IsFrom packet) :
    (m.withHeader id).IsCounted ∧ (m.withHeader id).IsSendable := by
  obtain ⟨hc, hs, -, -, -⟩ := h
  exact ⟨⟨hc.questions, hc.answers, hc.authorities, hc.additionals⟩,
    ⟨hs.header, hs.questions, hs.records⟩⟩

/-- A message whose bytes were dropped is written as the entries that it holds. -/
theorem encode_withHeader (m : Message) (f : Header → Header) :
    (m.withHeader f).encode = (m.withHeader f).build := encode_of_unreceived rfl

/-- **Whatever packet a message was read from, what is written of it without its bytes is read
again, with the same header and as many entries, is written as itself, and spells out all names.** -/
theorem normal_form {b b' : Bytes} {m : Message} (h : decode b = .ok m)
    (h' : (m.withHeader id).encode = .ok b') :
    ∃ m', decode b' = .ok m' ∧ (m'.withHeader id).encode = .ok b' ∧ m'.header = m.header ∧
      m'.SameSizes m ∧ m'.IsSpelledOut b' := by
  have hm := isFrom_of_decode h
  rw [encode_withHeader, build_eq_ok] at h'
  obtain ⟨hfits, rfl⟩ := h'
  -- Dropping the bytes leaves the header and the entries as they are.
  obtain ⟨hc, hs⟩ := hm.withHeader_id
  obtain ⟨hq, hr⟩ := fits_tidied hfits
  have hsizes : (m.withHeader id).tidied.SameSizes m :=
    ⟨Array.size_map, Array.size_map, Array.size_map, Array.size_map⟩
  refine ⟨(m.withHeader id).tidied, decode_wire hc hs hfits, ?_, rfl, hsizes,
    isSpelledOut_wire hfits⟩
  rw [encode_withHeader, build_eq_ok]
  exact ⟨⟨hq, hr⟩, (wire_tidied (m.withHeader id)).symm⟩

/-- A response with compressed names and bytes after its last entry. -/
def compressedPacket : Bytes :=
  [0, 0, 132, 0, 0, 1, 0, 1, 0, 0, 0, 0,
    1, 97, 5, 108, 111, 99, 97, 108, 0, 0, 12, 0, 1,
    192, 12, 0, 12, 128, 1, 0, 0, 0, 120, 0, 4, 1, 98, 192, 12,
    7, 7]

/-- What the packet says. -/
def compressedMessage : Message where
  header := { response := true, authoritative := true, counts := { questions := 1, answers := 1 } }
  questions := #[{ name := "a.local", type := .ptr }]
  answers := #[{
    header := { name := "a.local", type := .ptr, cacheFlush := true, ttl := 120 }
    data := [1, 98, 192, 12]
    body := .ptr "b.a.local" }]
  received := some compressedPacket

theorem normal_form_compressedPacket : ∃ m', decode compressedMessage.wire = .ok m' ∧
    (m'.withHeader id).encode = .ok compressedMessage.wire ∧
    m'.header = compressedMessage.header ∧ m'.SameSizes compressedMessage ∧
    m'.IsSpelledOut compressedMessage.wire :=
  normal_form (show decode compressedPacket = .ok compressedMessage by decide +kernel)
    (by decide +kernel)

end Message

end ServiceDiscovery
