import ServiceDiscovery.Proofs.Record.Wire
import ServiceDiscovery.Proofs.Wire.Moving

/-!
# Where records begin and end

A record consists of the name of its owner, ten bytes of fixed fields, the last two of which are the
length of its data, and the data. The data is read within its own length, so the record ends where
its length says, whatever was read of the data. Only a pointer in the data leads out of it.

* `Body.nameOffset?`, `Body.FollowsNoPointer`: data that is read without the packet;
* `Body.follows_read`, `Question.follows_read`, `Record.follows_read`: data and entries that stand
  elsewhere;
* `Record.IsFramed`, `isFramed_of_read`: what is known of a record that was read.
-/

namespace ServiceDiscovery

open Reader (Follows Spells)

variable {c d : Cursor}

/-! ### Data of records -/

namespace Body

/-- Where the name begins in data of a type, if there is one. -/
def nameOffset? : RecordType → Option Nat
  | .ptr => some 0
  | .srv => some 6
  | _ => none

/-- The name in the data, if there is one, is spelled without pointers. -/
def FollowsNoPointer (type : RecordType) (packet data : Bytes) : Prop :=
  ∀ n, nameOffset? type = some n → ∃ labels used, Spells packet (data.drop n) labels used 0

theorem follows_readIpv6 (hrest : c.rest = d.rest) : Follows readIpv6 c d := by
  refine (Reader.follows_of_consumes (Reader.consumes_take 16) hrest).bind fun bytes _ _ => ?_
  cases Ipv6.ofGroups? (words bytes) with
  | some address => exact Reader.follows_pure address _ _
  | none => rintro _ _ ⟨⟩

/-- The name of a location stands behind three words. -/
theorem follows_readSrv (owner : String) (hrest : c.rest = d.rest)
    (hname : Follows Reader.name (c.skip 6) (d.skip 6)) : Follows (readSrv owner) c d := by
  refine (Reader.follows_word hrest).bind fun priority n hn => ?_
  obtain rfl := Cursor.skip_inj (Reader.word_moves hn)
  refine (Reader.follows_word (Cursor.rest_skip_congr hrest 2)).bind fun weight n hn => ?_
  obtain rfl := Cursor.skip_inj (Reader.word_moves hn)
  rw [Cursor.skip_skip, Cursor.skip_skip]
  refine (Reader.follows_word (Cursor.rest_skip_congr hrest 4)).bind fun port n hn => ?_
  obtain rfl := Cursor.skip_inj (Reader.word_moves hn)
  rw [Cursor.skip_skip, Cursor.skip_skip]
  exact hname.bind fun target _ _ => Reader.follows_pure _ _ _

/-- **Data is read the same wherever it stands, if the name in it is.** -/
theorem follows_read (type : RecordType) (owner : String) (hrest : c.rest = d.rest)
    (hname : ∀ n, nameOffset? type = some n → Follows Reader.name (c.skip n) (d.skip n)) :
    Follows (read type owner) c d := by
  by_cases ht : type ∈ bodyTypes
  · simp only [bodyTypes, List.mem_cons, List.not_mem_nil, or_false] at ht
    rcases ht with rfl | rfl | rfl | rfl | rfl | rfl
    · exact (Reader.follows_of_consumes consumes_readIpv4 hrest).bind_pure a
    · exact (follows_readIpv6 hrest).bind_pure aaaa
    · exact (hname 0 rfl).bind_pure ptr
    · exact (follows_readSrv owner hrest (hname 6 rfl)).bind_pure srv
    · exact (Reader.follows_texts hrest).bind_pure txt
    · exact Reader.follows_pure nsec c d
  · rw [read_of_not_mem ht]
    exact Reader.follows_pure unknown c d

/-- Data without pointers is read the same on its own. -/
theorem readAll_start_of_no_pointer {type : RecordType} {owner : String} {packet data : Bytes}
    {body : Body} (h : FollowsNoPointer type packet data)
    (hbody : Reader.readAll (read type owner) (.inside packet data) = .ok body) :
    Reader.readAll (read type owner) (.start data) = .ok body := by
  have hdata : Follows (read type owner) (.inside packet data) (.start data) := by
    refine follows_read type owner rfl fun n hn => ?_
    obtain ⟨labels, used, hspells⟩ := h n hn
    exact Reader.follows_name_of_no_pointers hspells rfl
  exact hdata.readAll hbody

end Body

/-! ### Entries -/

theorem Question.follows_read (hpacket : c.packet = d.packet) (hrest : c.rest = d.rest) :
    Follows Question.read c d := by
  refine (Reader.follows_name hpacket hrest).bind fun name n _ => ?_
  have hrest := Cursor.rest_skip_congr hrest n
  refine (Reader.follows_word hrest).bind fun type n _ => ?_
  have hrest := Cursor.rest_skip_congr hrest n
  exact (Reader.follows_word hrest).bind fun field _ _ => Reader.follows_pure _ _ _

namespace Record

theorem follows_withData (header : RecordHeader) (data : Bytes) (hpacket : c.packet = d.packet) :
    Follows (withData header data) c d := by
  intro r c' h
  refine ⟨0, (of_withData_eq_ok h).2.2.1, ?_⟩
  obtain ⟨rfl, rfl, -, hbody⟩ := of_withData_eq_ok h
  rw [hpacket] at hbody
  rw [withData_eq, hbody]
  rfl

theorem follows_read (hpacket : c.packet = d.packet) (hrest : c.rest = d.rest) :
    Follows read c d := by
  refine (Reader.follows_name hpacket hrest).bind fun name n _ => ?_
  have hrest := Cursor.rest_skip_congr hrest n
  refine (Reader.follows_word hrest).bind fun type n _ => ?_
  have hrest := Cursor.rest_skip_congr hrest n
  refine (Reader.follows_word hrest).bind fun field n _ => ?_
  have hrest := Cursor.rest_skip_congr hrest n
  refine (Reader.follows_of_consumes Reader.consumes_long hrest).bind fun ttl n _ => ?_
  have hrest := Cursor.rest_skip_congr hrest n
  refine (Reader.follows_word hrest).bind fun length n _ => ?_
  have hrest := Cursor.rest_skip_congr hrest n
  refine (Reader.follows_of_consumes (Reader.consumes_take _) hrest).bind fun data n _ => ?_
  exact follows_withData ⟨name, .ofCode type, _, _, ttl⟩ data hpacket

/-! ### Where records end -/

/-- What is known of a record that was read from a place of a packet up to another one. -/
structure IsFramed (packet : Bytes) (start next : Nat) (r : Record) : Prop where
  readAt : readAt packet start = .ok r
  frame : ∃ labels used pointers length, Spells packet (packet.drop start) labels used pointers ∧
    Reader.readAll Reader.word (.placed packet (start + used + 8)) = .ok length ∧
    r.data = (packet.drop (start + used + 10)).take length.toNat ∧
    r.data.length = length.toNat ∧ next = start + used + 10 + length.toNat
  ofData : Body.FollowsNoPointer r.header.type packet r.data → ofData r.header r.data = .ok r

/-- **A record ends where the length of its data says.** -/
theorem frame_of_read {r : Record} {c' : Cursor} (h : read c = .ok r c') :
    ∃ labels used pointers length, Spells c.packet c.rest labels used pointers ∧
      Reader.readAll Reader.word (c.skip (used + 8)) = .ok length ∧
      r.data = (c.rest.drop (used + 10)).take length.toNat ∧ r.data.length = length.toNat ∧
      c' = c.skip (used + 10 + length.toNat) ∧
      Reader.readAll (Body.read r.header.type r.header.name) (.inside c.packet r.data) =
        .ok r.body := by
  obtain ⟨name, c₁, hname, h⟩ := Reader.exists_of_bind_ok h
  obtain ⟨labels, used, pointers, hspells, -, -, rfl⟩ := Reader.name_eq_ok_iff_spells.1 hname
  obtain ⟨type, c₂, htype, h⟩ := Reader.exists_of_bind_ok h
  obtain rfl := Reader.word_moves htype
  obtain ⟨field, c₃, hfield, h⟩ := Reader.exists_of_bind_ok h
  obtain rfl := Reader.word_moves hfield
  obtain ⟨ttl, c₄, httl, h⟩ := Reader.exists_of_bind_ok h
  obtain rfl := Reader.long_moves httl
  obtain ⟨length, c₅, hlength, h⟩ := Reader.exists_of_bind_ok h
  obtain rfl := Reader.word_moves hlength
  obtain ⟨data, c₆, hdata, h⟩ := Reader.exists_of_bind_ok h
  obtain ⟨hbytes, hsize, rfl⟩ := Reader.take_moves hdata
  have hlast : withData ⟨name, .ofCode type, (DnsClass.ofField field).1,
      (DnsClass.ofField field).2, ttl⟩ data _ = .ok r c' := h
  obtain ⟨hheader, rfl, rfl, hbody⟩ := of_withData_eq_ok hlast
  simp only [Cursor.skip_skip, Nat.add_assoc, Nat.reduceAdd] at hlength hbytes ⊢
  have hword : Reader.readAll Reader.word (c.skip (used + 8)) = .ok length := by
    rw [Reader.readAll, hlength]
  rw [← hheader] at hbody
  exact ⟨labels, used, pointers, length, hspells, hword, hbytes, hsize, rfl, hbody⟩

theorem isFramed_of_read {packet : Bytes} {start next : Nat} {r : Record}
    (h : read (.placed packet start) = .ok r (.placed packet next)) :
    r.IsFramed packet start next := by
  obtain ⟨labels, used, pointers, length, hspells, hword, hdata, hsize, hnext, hbody⟩ :=
    frame_of_read h
  rw [Cursor.placed_skip] at hword hnext
  have hstart : ¬packet.length < start := by
    intro hlt
    have hnil : packet.drop start = [] := List.drop_eq_nil_of_le hlt.le
    have hspells : Spells packet (packet.drop start) labels used pointers := hspells
    rw [hnil] at hspells
    cases hspells
  have hfollows : Follows read (.placed packet start) (.inside packet (packet.drop start)) :=
    follows_read rfl rfl
  refine ⟨?_, ⟨labels, used, pointers, length, hspells, ?_, ?_, hsize, ?_⟩, fun hpointer => ?_⟩
  · rw [readAt, if_neg hstart]
    refine hfollows.readAll ?_
    rw [Reader.readAll, h]
  · rw [← Nat.add_assoc] at hword
    exact hword
  · have hbytes : r.data = ((packet.drop start).drop (used + 10)).take length.toNat := hdata
    rw [hbytes, List.drop_drop, Nat.add_assoc]
  · have hoffset := congrArg Cursor.offset hnext
    simp only [Cursor.placed] at hoffset
    omega
  · rw [Record.ofData, Body.readAll_start_of_no_pointer hpointer hbody]
    rfl

end Record

end ServiceDiscovery
