import ServiceDiscovery.Proofs.Message.NormalForm
import ServiceDiscovery.Proofs.Wire.Pointers

/-!
# Data that is sent as it was received

Data that is not looked into is sent as it was received. If it begins with a name that a pointer
leads out of, the pointer leads to the same place of the new packet, where something else may stand
because names before it are written without compression. So the name stays exactly if the new packet
says there what the old one said.

* `RecordType.IsOpaque`: the types whose data is sent as it was received;
* `Record.IsCopied`: what becomes of such a record, and when of a name in its data;
* `isCopied_records`: all such records of a message that is written without its bytes;
* `loses_name_denialMessage`: a name that does not stay.
-/

namespace ServiceDiscovery

/-- A type whose data is sent as it was received: that of name servers, aliases, denials and all
others but the five that have bodies. -/
def RecordType.IsOpaque (type : RecordType) : Prop := type ∉ [.a, .aaaa, .ptr, .srv, .txt]

instance : DecidablePred RecordType.IsOpaque :=
  fun type => inferInstanceAs (Decidable (type ∉ [.a, .aaaa, .ptr, .srv, .txt]))

example : RecordType.ns.IsOpaque ∧ RecordType.cname.IsOpaque ∧ RecordType.nsec.IsOpaque := by decide

theorem Body.wire_eq_none {body : Body} {type : RecordType} (hs : body.Suits type)
    (ht : type.IsOpaque) : body.wire = none := by
  cases body with
  | nsec | unknown => rfl
  | a _ | aaaa _ | ptr _ | srv _ | txt _ =>
    cases hs
    exact absurd (by simp) ht

namespace Record

/-- The record of a packet as it is found in another one with the data it had: the name that its
data begins with is the same exactly if the packets agree on what follows its first pointer, and it
is the same if the packets agree, behind their headers, on the bytes that it was read from. -/
structure IsCopied (packet packet' : Bytes) (r r' : Record) : Prop where
  type : r'.header.type = r.header.type
  data : r'.data = r.data
  name_iff : ∀ n, Reader.nameIn packet r.data = .ok n →
    (Reader.nameIn packet' r'.data = .ok n ↔ ∀ offset, Reader.continuation? r.data = some offset →
      Reader.nameAt packet' offset = Reader.nameAt packet offset)
  name_of_window : ∀ n k, Reader.nameIn (Reader.struck Header.size (packet.take k)) r.data = .ok n →
    (packet'.take k).drop Header.size = (packet.take k).drop Header.size →
    Reader.nameIn packet' r'.data = .ok n

theorem isCopied_tidied {r : Record} (hs : r.IsSendable) (ht : r.header.type.IsOpaque)
    (packet packet' : Bytes) : r.IsCopied packet packet' r.tidied := by
  have hdata : r.tidied.data = r.data := by
    show r.body.wire.getD r.data = r.data
    rw [Body.wire_eq_none hs.body ht]
    rfl
  refine ⟨rfl, hdata, ?_, ?_⟩
  · intro n hn
    rw [hdata]
    exact Reader.nameIn_eq_iff hn
  · intro n k hn hp
    rw [hdata]
    exact Reader.nameIn_of_window hn hp

end Record

namespace Message

/-- **Whatever is written to the header of a message that was read, other than the numbers of
entries, its records of opaque types are sent with the data they had, and the name in the data is the
same exactly if the packets agree on what follows its first pointer.** -/
theorem isCopied_records {b b' : Bytes} {m : Message} {f : Header → Header} (h : decode b = .ok m)
    (hf : (f m.header).counts = m.header.counts) (h' : (m.withHeader f).encode = .ok b') :
    ∃ m', decode b' = .ok m' ∧ m'.SameSizes m ∧
      List.Forall₂ (fun r r' => r.header.type.IsOpaque → r.IsCopied b b' r')
        m.records m'.records := by
  have hm := isFrom_of_decode h
  have hc : (m.withHeader f).IsCounted := by
    obtain ⟨hq, han, hau, had⟩ := hm.counted
    rw [← hf] at hq han hau had
    exact ⟨hq, han, hau, had⟩
  rw [encode_withHeader, build_eq_ok] at h'
  obtain ⟨hfits, rfl⟩ := h'
  have hdecode := decode_wire_sent hc hm.sendable.questions hm.sendable.records hfits
  refine ⟨_, hdecode, ⟨Array.size_map, Array.size_map, Array.size_map, Array.size_map⟩, ?_⟩
  have hrecords : (m.withHeader f).tidied.records = m.records.map Record.tidied :=
    records_tidied (m.withHeader f)
  show List.Forall₂ _ m.records (m.withHeader f).tidied.records
  rw [hrecords, List.forall₂_map_right_iff, List.forall₂_same]
  exact fun r hr ht => Record.isCopied_tidied (hm.sendable.records r hr) ht _ _

/-- A response whose first record has a compressed name in its data. The second one denies the
existence of other records than those of its owner, whose name stands behind that data. -/
def denialPacket : Bytes :=
  [0, 0, 132, 0, 0, 0, 0, 2, 0, 0, 0, 0,
    5, 108, 111, 99, 97, 108, 0, 0, 12, 0, 1, 0, 0, 0, 120, 0, 4, 1, 97, 192, 12,
    1, 98, 192, 29, 0, 47, 0, 1, 0, 0, 0, 120, 0, 5, 192, 33, 0, 1, 64]

/-- The record whose data points to its owner. -/
def denial : Record where
  header := { name := "b.a.local", type := .nsec, ttl := 120 }
  data := [192, 33, 0, 1, 64]
  body := .nsec

/-- What the packet says. -/
def denialMessage : Message where
  header := { response := true, authoritative := true, counts := { answers := 2 } }
  answers := #[{
    header := { name := "local", type := .ptr, ttl := 120 }
    data := [1, 97, 192, 12]
    body := .ptr "a.local" }, denial]
  received := some denialPacket

theorem isCopied_records_denialMessage :
    ∃ m', decode (denialMessage.withHeader fun h => { h with id := 7 }).wire = .ok m' ∧
      m'.SameSizes denialMessage ∧
      List.Forall₂ (fun r r' => r.header.type.IsOpaque → r.IsCopied denialPacket
        (denialMessage.withHeader fun h => { h with id := 7 }).wire r')
        denialMessage.records m'.records :=
  isCopied_records (f := fun h => { h with id := 7 })
    (show decode denialPacket = .ok denialMessage by decide +kernel) rfl (by decide +kernel)

/-- The name of the first record becomes longer when it is written, so that the pointer in the data
of the second one leads into the middle of it. -/
theorem loses_name_denialMessage :
    decode denialPacket = .ok denialMessage ∧ denialMessage.answers[1]? = some denial ∧
      Reader.nameIn denialPacket denial.data = .ok "b.a.local" ∧
      ∃ b' m', (denialMessage.withHeader id).encode = .ok b' ∧ decode b' = .ok m' ∧
        m'.answers[1]? = some denial ∧ Reader.nameIn b' denial.data = .error .reservedLabel := by
  refine ⟨by decide +kernel, rfl, by decide +kernel, (denialMessage.withHeader id).wire,
    (denialMessage.withHeader id).tidied, ?_⟩
  decide +kernel

end Message

end ServiceDiscovery
