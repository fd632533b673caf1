import ServiceDiscovery.Proofs.Message.Wire
import ServiceDiscovery.Proofs.Wire.Growing

/-!
# Reading messages with more bytes behind

The entries of a message are read one after another, and the data of a record within its own
length. So bytes that are added behind a packet do not change what is read of it, unless bytes were
missing before.

* `Reader.steady_texts`: strings that go up to the end of their data;
* `Body.steady_read`: data, whose pointers lead into the packet that grows;
* `Record.steady_read`, `Question.steady_read`, `Header.steady_read`: entries and header;
* `Message.steady_readKeeping`: all of a message.
-/

namespace ServiceDiscovery

variable {more behind : Bytes}

/-! ### Data of records -/

namespace Reader

/-- Strings are read up to the end of their data, which has to stay where it is. -/
theorem steady_textsFrom (seen : Array String) : Steady (textsFrom seen) more [] := by
  intro c
  have htext : Grown more [] (text c) (text (c.grow more [])) := steady_text c
  -- String by string: each is read steadily, and the data has not become longer behind it.
  fun_induction textsFrom seen c with
  | case1 seen c e c' h =>
    generalize hgrown : text (c.grow more []) = r at htext
    rw [h] at htext
    cases htext with
    | failed _ _ c'' =>
      rw [textsFrom_of_error hgrown]
      exact .failed e c' c''
    | ended _ _ _ he => exact .ended e c' _ he
  | case2 seen c s c' h seen' hlast =>
    generalize hgrown : text (c.grow more []) = r at htext
    rw [h] at htext
    cases htext
    rw [textsFrom_of_ok hgrown, Cursor.rest_grow_nil, if_pos hlast]
    exact .ok _ c'
  | case3 seen c s c' h seen' hmore ih =>
    generalize hgrown : text (c.grow more []) = r at htext
    rw [h] at htext
    cases htext
    rw [textsFrom_of_ok hgrown, Cursor.rest_grow_nil, if_neg hmore]
    exact ih (steady_text c')

theorem steady_texts : Steady texts more [] :=
  (steady_textsFrom #[]).bind fun _ => steady_pure _

end Reader

namespace Body

theorem unexpectedEnd_of_readIpv4 {c c' : Cursor} {e : Error} (h : readIpv4 c = .error e c') :
    e = .unexpectedEnd := by
  unfold readIpv4 at h
  split at h <;> cases h
  rfl

theorem steady_readIpv4 : Reader.Steady readIpv4 more behind :=
  Reader.steady_of_consumes consumes_readIpv4 fun _ _ _ => unexpectedEnd_of_readIpv4

theorem steady_readIpv6 : Reader.Steady readIpv6 more behind := by
  refine (Reader.steady_take 16).bind fun bytes => ?_
  cases Ipv6.ofGroups? (words bytes) with
  | some address => exact Reader.steady_pure address
  | none => exact Reader.steady_throw .unexpectedEnd

theorem steady_readSrv (owner : String) : Reader.Steady (readSrv owner) more behind :=
  Reader.steady_word.bind fun _ => Reader.steady_word.bind fun _ => Reader.steady_word.bind fun _ =>
    Reader.steady_name.bind fun _ => Reader.steady_pure _

/-- **Data of a fixed length is read the same in a packet that has grown.** -/
theorem steady_read (type : RecordType) (owner : String) :
    Reader.Steady (read type owner) more [] := by
  by_cases ht : type ∈ bodyTypes
  · simp only [bodyTypes, List.mem_cons, List.not_mem_nil, or_false] at ht
    rcases ht with rfl | rfl | rfl | rfl | rfl | rfl
    · exact steady_readIpv4.bind fun _ => Reader.steady_pure _
    · exact steady_readIpv6.bind fun _ => Reader.steady_pure _
    · exact Reader.steady_name.bind fun _ => Reader.steady_pure _
    · exact (steady_readSrv owner).bind fun _ => Reader.steady_pure _
    · exact Reader.steady_texts.bind fun _ => Reader.steady_pure _
    · exact Reader.steady_pure nsec
  · rw [read_of_not_mem ht]
    exact Reader.steady_pure unknown

end Body

/-! ### Entries and header -/

theorem Question.steady_read : Reader.Steady Question.read more behind :=
  Reader.steady_name.bind fun _ => Reader.steady_word.bind fun _ => Reader.steady_word.bind fun _ =>
    Reader.steady_pure _

namespace Record

/-- The data of a record keeps its length when the packet grows. -/
theorem steady_withData (header : RecordHeader) (data : Bytes) :
    Reader.Steady (withData header data) more behind := by
  intro c
  have hbody : Reader.Grown more [] _ (Body.read header.type header.name _) :=
    Body.steady_read header.type header.name (.inside c.packet data)
  rw [Cursor.grow_inside] at hbody
  have hpacket : (c.grow more behind).packet = c.packet ++ more := rfl
  rw [withData_eq, withData_eq, hpacket]
  unfold Reader.readAll
  generalize Body.read header.type header.name (.inside c.packet data) = r,
    Body.read header.type header.name (.inside (c.packet ++ more) data) = r' at hbody
  cases hbody with
  | ok body _ => exact .ok _ c
  | failed e _ _ => exact .failed e c _
  | ended e _ _ h => exact .ended e c _ h

theorem steady_read : Reader.Steady read more behind := by
  refine Reader.steady_name.bind fun name => ?_
  refine Reader.steady_word.bind fun type => ?_
  refine Reader.steady_word.bind fun field => ?_
  refine Reader.steady_long.bind fun ttl => ?_
  refine Reader.steady_word.bind fun length => ?_
  refine (Reader.steady_take _).bind fun data => ?_
  exact steady_withData ⟨name, .ofCode type, _, _, ttl⟩ data

end Record

theorem Header.steady_readWords : Reader.Steady readWords more behind :=
  Reader.steady_word.bind fun _ => Reader.steady_word.bind fun _ => Reader.steady_word.bind fun _ =>
    Reader.steady_word.bind fun _ => Reader.steady_word.bind fun _ =>
      Reader.steady_word.bind fun _ => Reader.steady_pure _

theorem Header.steady_read : Reader.Steady read more behind := by
  intro c
  rw [read_eq, read_eq]
  by_cases hshort : (c.rest.take size).length < size
  · rw [if_pos hshort]
    exact .ended _ c _ rfl
  · have hgrown : ¬((c.grow more behind).rest.take size).length < size := by
      rw [Cursor.grow, List.length_take, List.length_append]
      rw [List.length_take] at hshort
      omega
    rw [if_neg hshort, if_neg hgrown]
    exact steady_readWords c

/-! ### Messages -/

namespace Message

theorem steady_readEntries {α : Type} {read : Reader α} (h : Reader.Steady read more behind)
    (place : Section) (n : Nat) (seen : Array α) :
    Reader.Steady (readEntries read place n seen) more behind := by
  induction n generalizing seen with
  | zero => exact fun c => .ok seen c
  | succ n ih =>
    intro c
    have hentry := h c
    rw [readEntries, readEntries]
    generalize read c = r, read (c.grow more behind) = r' at hentry
    cases hentry with
    | ok a c => exact ih (seen.push a) c
    | failed e c c' => exact .failed _ c c'
    | ended e c r he => exact .ended _ c _ he

theorem steady_readSection {α : Type} {read : Reader α} (h : Reader.Steady read more behind)
    (place : Section) (count : UInt16) :
    Reader.Steady (readSection read place count) more behind :=
  steady_readEntries h place count.toNat #[]

/-- **What is read of a message stays when bytes are added behind the packet.** -/
theorem steady_readKeeping (packet : Bytes) :
    Reader.Steady (readKeeping packet) more behind := by
  refine Header.steady_read.bind fun header => ?_
  refine (steady_readSection Question.steady_read .question _).bind fun questions => ?_
  refine (steady_readSection Record.steady_read .answer _).bind fun answers => ?_
  refine (steady_readSection Record.steady_read .authority _).bind fun authorities => ?_
  refine (steady_readSection Record.steady_read .additional _).bind fun additionals => ?_
  exact Reader.steady_pure _

end Message

end ServiceDiscovery
