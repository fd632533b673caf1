import ServiceDiscovery.Proofs.Message.Wire
import ServiceDiscovery.Proofs.Wire.Scanning

/-!
# Messages by position

Headers, entries and the data of records read by position, the last in a window of its own whose
pointers lead into the same packet. A message or a record is read so of any bytes at all without an
access out of range, and it is the one that readers read.

* `Header.scan`, `Question.scan`, `Body.scan`, `Record.scan`, `Message.scan`: what a message consists
  of, each with the reader that it mirrors;
* `Scan.within`: a window of its own;
* `Message.scanned`, `Record.scannedFrom`, `scannedAt`: a message and a record on their own;
* `Window.stays_in_range`: what is known of all of it.
-/

namespace ServiceDiscovery

open Scan (Mirrors)

/-! ### Headers and questions -/

namespace Header

def scanWords : Scan Header := do
  let id ← Scan.word
  let flags ← Scan.word
  let questions ← Scan.word
  let answers ← Scan.word
  let authorities ← Scan.word
  let additionals ← Scan.word
  return ofFlags id flags ⟨questions, answers, authorities, additionals⟩

/-- Reads the twelve bytes, or none of them. -/
def scan : Scan Header := do
  let w ← get
  if w.remaining < size then Scan.fail .unexpectedEnd else scanWords

theorem mirrors_scanWords : Mirrors scanWords readWords :=
  Scan.mirrors_word.bind fun _ => Scan.mirrors_word.bind fun _ => Scan.mirrors_word.bind fun _ =>
    Scan.mirrors_word.bind fun _ => Scan.mirrors_word.bind fun _ => Scan.mirrors_word.bind_pure _

theorem mirrors_scan : Mirrors scan read := by
  intro w hw
  have hscan : scan w =
      (if w.remaining < size then Scan.fail .unexpectedEnd else scanWords : Scan Header) w := rfl
  have hshort : (w.cursor.rest.take size).length < size ↔ w.remaining < size := by
    rw [List.length_take, w.length_rest_cursor]
    omega
  rw [read_eq, hscan]
  by_cases h : w.remaining < size
  · rw [if_pos h, if_pos (hshort.2 h)]
    exact .failed _ 0 (Nat.zero_le _)
  · rw [if_neg h, if_neg (mt hshort.1 h)]
    exact mirrors_scanWords w hw

end Header

namespace Question

def scan : Scan Question := do
  let name ← Scan.name
  let type ← Scan.word
  let (dnsClass, unicast) := DnsClass.ofField (← Scan.word)
  return { name, type := .ofCode type, dnsClass, unicast }

theorem mirrors_scan : Mirrors scan read :=
  Scan.mirrors_name.bind fun _ => Scan.mirrors_word.bind fun _ => Scan.mirrors_word.bind fun _ =>
    Scan.mirrors_pure _

end Question

/-! ### Data of records -/

namespace Scan

variable {α : Type}

/-- All of some bytes, which have to be as many as there is room for. -/
def copy (room : Nat) (bytes : Bytes) : Scan Bytes :=
  if bytes.length = room then pure bytes else throw .outOfRange

/-- Reads in a window of its own, with pointers into the same packet. -/
def within (scan : Scan α) (buffer : Bytes) : Scan α := fun w =>
  match scan (.inside w.packet buffer) with
  | .ok a _ => .ok a w
  | .error halt _ => .error halt w

theorem within_eq (scan : Scan α) (buffer : Bytes) (w : Window) :
    scan.within buffer w = match scanAll scan (.inside w.packet buffer) with
      | .ok a => .ok a w
      | .error halt => .error halt w := by
  rw [within, scanAll]
  cases scan (.inside w.packet buffer) <;> rfl

end Scan

/-- Eight groups are an address. -/
theorem Ipv6.exists_ofGroups_eq_some : ∀ {groups : List UInt16}, groups.length = 8 →
    ∃ address, ofGroups? groups = some address
  | [a, b, c, d, e, f, g, h], _ => ⟨⟨a, b, c, d, e, f, g, h⟩, rfl⟩

namespace Body

def scanIpv4 : Scan Ipv4 := do
  let bytes ← Scan.take 4
  return ⟨← Scan.fetch bytes 0, ← Scan.fetch bytes 1, ← Scan.fetch bytes 2, ← Scan.fetch bytes 3⟩

def scanIpv6 : Scan Ipv6 := do
  let bytes ← Scan.take 16
  let octets ← Scan.copy 16 bytes
  match Ipv6.ofGroups? (words octets) with
  | some address => return address
  | none => throw .outOfRange

def scanSrv (owner : String) : Scan Srv := do
  let priority ← Scan.word
  let weight ← Scan.word
  let port ← Scan.word
  let target ← Scan.name
  let (service, protocol) := Name.serviceLabels owner
  return { priority, weight, port, target, service, protocol }

/-- Reads data of a given type that belongs to `owner`. -/
def scan (type : RecordType) (owner : String) : Scan Body :=
  match type with
  | .a => do return a (← scanIpv4)
  | .aaaa => do return aaaa (← scanIpv6)
  | .ptr => do return ptr (← Scan.name)
  | .srv => do return srv (← scanSrv owner)
  | .txt => do return txt (← Scan.texts)
  | .nsec => return nsec
  | _ => return unknown

theorem mirrors_scanIpv4 : Mirrors scanIpv4 readIpv4 := by
  refine (Scan.gathers_take 4 _).mirrors (fun c h => ?_) fun bytes h => ?_
  · unfold readIpv4
    split
    · next hc =>
      rw [hc] at h
      simp only [List.length_cons] at h
      omega
    · rfl
  · obtain ⟨a, b, c, d, rfl⟩ := List.length_eq_four.1 h
    exact ⟨⟨a, b, c, d⟩, rfl, takes_readIpv4 ⟨a, b, c, d⟩⟩

theorem length_words (bytes : Bytes) : (words bytes).length = bytes.length / 2 := by
  fun_induction words bytes with
  | case1 high low rest ih =>
    simp only [List.length_cons, ih]
    omega
  | case2 bytes h =>
    rcases bytes with _ | ⟨b, _ | ⟨b', rest⟩⟩
    · rfl
    · simp only [List.length_cons, List.length_nil, Nat.reduceAdd, Nat.reduceDiv]
    · exact absurd rfl (h b b' rest)

theorem mirrors_scanIpv6 : Mirrors scanIpv6 readIpv6 := by
  refine (Scan.gathers_take 16 _).mirrors (fun c h => ?_) fun bytes h => ?_
  · exact Reader.bind_eq_of_error (Scan.take_error_of_short h)
  · have hgroups : (words bytes).length = 8 := by rw [length_words, h]
    obtain ⟨address, haddress⟩ := Ipv6.exists_ofGroups_eq_some hgroups
    have htakes : Reader.Takes (Reader.take 16) bytes bytes := h ▸ Reader.takes_take bytes
    refine ⟨address, ?_, htakes.bind_pure ?_⟩
    · rw [Scan.copy, if_pos h, pure_bind, haddress]
    · rw [haddress]
      exact Reader.takes_pure address

theorem mirrors_scanSrv (owner : String) : Mirrors (scanSrv owner) (readSrv owner) :=
  Scan.mirrors_word.bind fun _ => Scan.mirrors_word.bind fun _ => Scan.mirrors_word.bind fun _ =>
    Scan.mirrors_name.bind fun _ => Scan.mirrors_pure _

theorem scan_of_not_mem {type : RecordType} (h : type ∉ bodyTypes) (owner : String) :
    scan type owner = pure unknown := by
  cases type <;> first | rfl | exact absurd (by simp [bodyTypes]) h

theorem mirrors_scan (type : RecordType) (owner : String) :
    Mirrors (scan type owner) (read type owner) := by
  by_cases ht : type ∈ bodyTypes
  · simp only [bodyTypes, List.mem_cons, List.not_mem_nil, or_false] at ht
    rcases ht with rfl | rfl | rfl | rfl | rfl | rfl
    · exact mirrors_scanIpv4.bind_pure a
    · exact mirrors_scanIpv6.bind_pure aaaa
    · exact Scan.mirrors_name.bind_pure ptr
    · exact (mirrors_scanSrv owner).bind_pure srv
    · exact Scan.mirrors_texts.bind_pure txt
    · exact Scan.mirrors_pure nsec
  · rw [scan_of_not_mem ht, read_of_not_mem ht]
    exact Scan.mirrors_pure unknown

end Body

/-! ### Records -/

namespace Record

def scan : Scan Record := do
  let name ← Scan.name
  let type := RecordType.ofCode (← Scan.word)
  let (dnsClass, cacheFlush) := DnsClass.ofField (← Scan.word)
  let ttl ← Scan.long
  let length ← Scan.word
  let data ← Scan.take length.toNat
  let body ← (Body.scan type name).within data
  return { header := { name, type, dnsClass, cacheFlush, ttl }, data, body }

/-- The data is read in a window of its own, and the place in the outer one is kept. -/
theorem mirrors_withData (header : RecordHeader) (data : Bytes) :
    Mirrors ((Body.scan header.type header.name).within data >>= fun body =>
      pure { header, data, body }) (withData header data) := by
  intro w _
  have hwithin := Scan.within_eq (Body.scan header.type header.name) data w
  have hbody : Scan.Returns (Scan.scanAll (Body.scan header.type header.name) _)
      (Reader.readAll (Body.read header.type header.name) (.inside w.cursor.packet data)) :=
    (Body.mirrors_scan header.type header.name).returns (w := .inside w.packet data)
      (Nat.zero_le _)
  rw [withData_eq]
  generalize Scan.scanAll (Body.scan header.type header.name) _ = scanned at hwithin hbody
  generalize Reader.readAll (Body.read header.type header.name) _ = result at hbody ⊢
  cases hbody with
  | ok body =>
    rw [Scan.bind_of_ok hwithin]
    exact .ok _ 0 (Nat.zero_le _)
  | failed e =>
    rw [Scan.bind_of_error hwithin]
    exact .failed e 0 (Nat.zero_le _)

theorem mirrors_scan : Mirrors scan read :=
  Scan.mirrors_name.bind fun name => Scan.mirrors_word.bind fun type =>
    Scan.mirrors_word.bind fun _ => Scan.mirrors_long.bind fun ttl =>
      Scan.mirrors_word.bind fun _ => (Scan.mirrors_take _).bind fun data =>
        mirrors_withData ⟨name, .ofCode type, _, _, ttl⟩ data

/-- The record at the start of `bytes`. -/
def scannedFrom (bytes : Bytes) : Except Halt Record := Scan.scanAll scan (.start bytes)

/-- The record that starts `offset` bytes into a packet. -/
def scannedAt (packet : Bytes) (offset : Nat) : Except Halt Record :=
  if packet.length < offset then .error (.failure .unexpectedEnd)
  else Scan.scanAll scan (.inside packet (packet.drop offset))

theorem returns_scannedFrom (bytes : Bytes) :
    Scan.Returns (scannedFrom bytes) (readFrom bytes) :=
  mirrors_scan.returns (Nat.zero_le _)

theorem returns_scannedAt (packet : Bytes) (offset : Nat) :
    Scan.Returns (scannedAt packet offset) (readAt packet offset) := by
  rw [scannedAt, readAt]
  split
  · exact .failed .unexpectedEnd
  · exact mirrors_scan.returns (Nat.zero_le _)

end Record

/-! ### Messages -/

namespace Message

section Sections
variable {α : Type} {scanEntry : Scan α} {read : Reader α}

/-- Reads `count` more entries of a section after `seen`, and says of one that fails where it is. -/
def scanEntries (scanEntry : Scan α) (place : Section) :
    (count : Nat) → (seen : Array α) → Scan (Array α)
  | 0, seen, w => .ok seen w
  | count + 1, seen, w =>
    match scanEntry w with
    | .ok entry w => scanEntries scanEntry place count (seen.push entry) w
    | .error (.failure e) w => .error (.failure (.malformedEntry place seen.size e)) w
    | .error .outOfRange w => .error .outOfRange w

def scanSection (scanEntry : Scan α) (place : Section) (count : UInt16) : Scan (Array α) :=
  scanEntries scanEntry place count.toNat #[]

theorem mirrors_scanEntries (h : Mirrors scanEntry read) (place : Section) (count : Nat)
    (seen : Array α) :
    Mirrors (scanEntries scanEntry place count seen) (readEntries read place count seen) := by
  induction count generalizing seen with
  | zero => exact fun w _ => .ok seen 0 (Nat.zero_le _)
  | succ count ih =>
    intro w hw
    have hentry := h w hw
    rw [scanEntries]
    cases hs : scanEntry w with
    | ok entry w' =>
      rw [hs] at hentry
      obtain ⟨_, n, hn, rfl, rfl, hr⟩ := hentry.exists_of_ok
      rw [readEntries_succ_of_ok hr, ← Window.cursor_advance]
      exact (ih _ _ (hw.advance hn)).of_advance hn
    | error halt w' =>
      rw [hs] at hentry
      obtain ⟨e, n, hn, rfl, rfl, hr⟩ := hentry.exists_of_error
      rw [readEntries, hr]
      exact .failed _ n hn

theorem mirrors_scanSection (h : Mirrors scanEntry read) (place : Section) (count : UInt16) :
    Mirrors (scanSection scanEntry place count) (readSection read place count) :=
  mirrors_scanEntries h place count.toNat #[]

end Sections

/-- Reads a message that keeps the given bytes. -/
def scan (packet : Bytes) : Scan Message := do
  let header ← Header.scan
  let questions ← scanSection Question.scan .question header.counts.questions
  let answers ← scanSection Record.scan .answer header.counts.answers
  let authorities ← scanSection Record.scan .authority header.counts.authorities
  let additionals ← scanSection Record.scan .additional header.counts.additionals
  return { header, questions, answers, authorities, additionals, received := some packet }

theorem mirrors_scan (packet : Bytes) : Mirrors (scan packet) (readKeeping packet) :=
  Header.mirrors_scan.bind fun _ => (mirrors_scanSection Question.mirrors_scan _ _).bind fun _ =>
    (mirrors_scanSection Record.mirrors_scan _ _).bind fun _ =>
      (mirrors_scanSection Record.mirrors_scan _ _).bind fun _ =>
        (mirrors_scanSection Record.mirrors_scan _ _).bind_pure _

/-- The message of a packet. -/
def scanned (packet : Bytes) : Except Halt Message := Scan.scanAll (scan packet) (.start packet)

theorem returns_scanned (packet : Bytes) : Scan.Returns (scanned packet) (decode packet) := by
  rw [decode_eq]
  exact (mirrors_scan packet).returns (Nat.zero_le _)

end Message

/-! ### Any bytes -/

/-- **No access is out of range.** Whatever is read of a window, failing or not and in any order, the
position stays in the buffer and does not go back, and only what has no fixed length moves it when it
fails; messages and records are read or fail on any bytes and from any offset. -/
theorem Window.stays_in_range {w : Window} (hw : w.IsValid) (accesses : List Access) :
    w.Precedes (w.run accesses) ∧ (∀ access : Access, access.IsSafe (w.run accesses)) ∧
      (∀ packet, Scan.Returns (Message.scanned packet) (Message.decode packet)) ∧
      (∀ bytes, Scan.Returns (Record.scannedFrom bytes) (Record.readFrom bytes)) ∧
      ∀ packet offset,
        Scan.Returns (Record.scannedAt packet offset) (Record.readAt packet offset) := by
  have hrun := Window.precedes_run hw accesses
  exact ⟨hrun, fun access => access.isSafe hrun.isValid, Message.returns_scanned,
    Record.returns_scannedFrom, Record.returns_scannedAt⟩

/-- Four bytes are missing behind the first two of three, so the position stays there. -/
theorem Window.stays_in_range_behind_failure :
    ((Window.start [1, 97, 98]).advance 1).IsValid ∧
      ((Window.start [1, 97, 98]).advance 1).run [.byte, .long] =
        (Window.start [1, 97, 98]).advance 2 ∧
      ((Window.start [1, 97, 98]).advance 1).Precedes
        (((Window.start [1, 97, 98]).advance 1).run [.byte, .long]) ∧
      Access.text.IsSafe (((Window.start [1, 97, 98]).advance 1).run [.byte, .long]) ∧
      Scan.Returns (Record.scannedAt [1, 97, 98] 4) (Record.readAt [1, 97, 98] 4) := by
  have hw : ((Window.start [1, 97, 98]).advance 1).IsValid := by decide
  obtain ⟨hprecedes, hsafe, -, -, hrecord⟩ := Window.stays_in_range hw [.byte, .long]
  exact ⟨hw, rfl, hprecedes, hsafe .text, hrecord [1, 97, 98] 4⟩

end ServiceDiscovery
