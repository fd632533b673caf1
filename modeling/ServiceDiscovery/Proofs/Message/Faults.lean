import ServiceDiscovery.Proofs.Message.Layout

/-!
# Packets that cannot be read

A packet is too short for a header, or one of its entries is the first that cannot be read. The
error names the section of that entry and its place there, and what is wrong with its bytes: some
are missing, a length is reserved, or a name goes through too many pointers.

* `Reader.FailsInBytes`: readers with no other causes of failure; `Section.failsInBytes_read`:
  entries;
* `Reached`: entries that can be read one after another; `IsFault`: the first that cannot;
* `resolves_section`, `resolves_readKeeping`: one section more, and all of them;
* `faults_of_decode`: all errors of reading a packet.
-/

namespace ServiceDiscovery

/-- What can be wrong with the bytes of an entry. -/
def Error.causes : List Error := [.unexpectedEnd, .reservedLabel, .tooManyPointers]

/-! ### Causes of failure -/

namespace Reader

variable {α β : Type} {read : Reader α}

/-- The reader fails with nothing but what can be wrong with bytes. -/
def FailsInBytes (read : Reader α) : Prop :=
  ∀ c e c', read c = .error e c' → e ∈ Error.causes

theorem failsInBytes_pure (a : α) : FailsInBytes (pure a) := by rintro c e c' ⟨⟩

theorem failsInBytes_of_unexpectedEnd
    (h : ∀ c e c', read c = .error e c' → e = .unexpectedEnd) : FailsInBytes read := by
  intro c e c' he
  rw [h c e c' he]
  decide

theorem FailsInBytes.bind {f : α → Reader β} (h : FailsInBytes read)
    (h' : ∀ a, FailsInBytes (f a)) : FailsInBytes (read >>= f) := by
  intro c e c'' he
  cases hr : read c with
  | ok a c' =>
    rw [bind_eq_of_ok hr] at he
    exact h' a c' e c'' he
  | error e' c' =>
    rw [bind_eq_of_error hr] at he
    cases he
    exact h c e c'' hr

theorem failsInBytes_byte : FailsInBytes byte :=
  failsInBytes_of_unexpectedEnd fun _ _ _ => unexpectedEnd_of_byte

theorem failsInBytes_word : FailsInBytes word :=
  failsInBytes_of_unexpectedEnd fun _ _ _ => unexpectedEnd_of_word

theorem failsInBytes_long : FailsInBytes long :=
  failsInBytes_of_unexpectedEnd fun _ _ _ => unexpectedEnd_of_long

theorem failsInBytes_take (n : Nat) : FailsInBytes (take n) :=
  failsInBytes_of_unexpectedEnd fun _ _ _ => unexpectedEnd_of_take

theorem failsInBytes_text : FailsInBytes text :=
  failsInBytes_byte.bind fun _ => (failsInBytes_take _).bind fun _ => failsInBytes_pure _

theorem failsInBytes_textsFrom (seen : Array String) : FailsInBytes (textsFrom seen) := by
  intro c e c' he
  fun_induction textsFrom seen c with
  | case1 seen c e c' h =>
    cases he
    exact failsInBytes_text c e c' h
  | case2 seen c s c' h seen' hlast => cases he
  | case3 seen c s c' h seen' hmore ih => exact ih he

theorem failsInBytes_texts : FailsInBytes texts :=
  (failsInBytes_textsFrom #[]).bind fun _ => failsInBytes_pure _

/-- Every obstacle on the way through a name lies in the bytes. -/
theorem Blocked.mem_causes {packet bytes : Bytes} {budget : Nat} {e : Error}
    (h : Blocked packet budget bytes e) : e ∈ Error.causes := by
  induction h with
  | ended | cut | halved | outside => decide
  | reserved => decide
  | spent => decide
  | label hlead hpos hmax h ih => exact ih
  | pointer rest hoffset hin h ih => exact ih

theorem failsInBytes_name : FailsInBytes name :=
  fun _ _ c' he => (name_eq_error_iff_blocked.1 ⟨c', he⟩).mem_causes

end Reader

open Reader (ReadsAt Follows FailsInBytes)

theorem Body.failsInBytes_read (type : RecordType) (owner : String) :
    FailsInBytes (read type owner) := by
  have hipv4 : FailsInBytes readIpv4 :=
    Reader.failsInBytes_of_unexpectedEnd fun _ _ _ => unexpectedEnd_of_readIpv4
  have hipv6 : FailsInBytes readIpv6 := by
    refine (Reader.failsInBytes_take 16).bind fun bytes => ?_
    cases Ipv6.ofGroups? (words bytes) with
    | some address => exact Reader.failsInBytes_pure address
    | none =>
      rintro c e c' ⟨⟩
      decide
  have hsrv : FailsInBytes (readSrv owner) :=
    Reader.failsInBytes_word.bind fun _ => Reader.failsInBytes_word.bind fun _ =>
      Reader.failsInBytes_word.bind fun _ => Reader.failsInBytes_name.bind fun _ =>
        Reader.failsInBytes_pure _
  by_cases ht : type ∈ bodyTypes
  · simp only [bodyTypes, List.mem_cons, List.not_mem_nil, or_false] at ht
    rcases ht with rfl | rfl | rfl | rfl | rfl | rfl
    · exact hipv4.bind fun _ => Reader.failsInBytes_pure _
    · exact hipv6.bind fun _ => Reader.failsInBytes_pure _
    · exact Reader.failsInBytes_name.bind fun _ => Reader.failsInBytes_pure _
    · exact hsrv.bind fun _ => Reader.failsInBytes_pure _
    · exact Reader.failsInBytes_texts.bind fun _ => Reader.failsInBytes_pure _
    · exact Reader.failsInBytes_pure nsec
  · rw [read_of_not_mem ht]
    exact Reader.failsInBytes_pure unknown

theorem Question.failsInBytes_read : FailsInBytes Question.read :=
  Reader.failsInBytes_name.bind fun _ => Reader.failsInBytes_word.bind fun _ =>
    Reader.failsInBytes_word.bind fun _ => Reader.failsInBytes_pure _

namespace Record

theorem failsInBytes_withData (header : RecordHeader) (data : Bytes) :
    FailsInBytes (withData header data) := by
  intro c e c' he
  rw [withData_eq] at he
  unfold Reader.readAll at he
  cases hbody : Body.read header.type header.name (.inside c.packet data) with
  | ok body d =>
    rw [hbody] at he
    cases he
  | error e' d =>
    rw [hbody] at he
    cases he
    exact Body.failsInBytes_read header.type header.name _ e d hbody

theorem failsInBytes_read : FailsInBytes read := by
  refine Reader.failsInBytes_name.bind fun name => ?_
  refine Reader.failsInBytes_word.bind fun type => ?_
  refine Reader.failsInBytes_word.bind fun field => ?_
  refine Reader.failsInBytes_long.bind fun ttl => ?_
  refine Reader.failsInBytes_word.bind fun length => ?_
  refine (Reader.failsInBytes_take _).bind fun data => ?_
  exact failsInBytes_withData ⟨name, .ofCode type, _, _, ttl⟩ data

end Record

/-! ### Entries of a section -/

namespace Section

/-- The sections whose entries stand before those of a section. -/
def before : Section → List Section
  | .question => []
  | .answer => [.question]
  | .authority => [.question, .answer]
  | .additional => [.question, .answer, .authority]

/-- Reads an entry of a section. -/
def read : Section → Reader Entry
  | .question => do return .question (← Question.read)
  | .answer => do return .answer (← Record.read)
  | .authority => do return .authority (← Record.read)
  | .additional => do return .additional (← Record.read)

theorem failsInBytes_read (place : Section) : FailsInBytes place.read := by
  cases place with
  | question => exact Question.failsInBytes_read.bind fun _ => Reader.failsInBytes_pure _
  | answer | authority | additional =>
    exact Record.failsInBytes_read.bind fun _ => Reader.failsInBytes_pure _

end Section

/-- For each of the sections, that section as often as the header announces entries of it. -/
def Header.places (h : Header) (sections : List Section) : List Section :=
  sections.flatMap fun place => List.replicate (h.counts.of place).toNat place

namespace Message

variable {packet : Bytes} {header : Header}

/-- Entries of these sections can be read one after another, from behind the header up to a place
of the packet. -/
def Reached (packet : Bytes) (places : List Section) (stop : Nat) : Prop :=
  ∃ entries : List Entry, entries.map Entry.place = places ∧
    Rows (fun start next entry => ReadsAt entry.place.read packet start next entry)
      Header.size entries stop

theorem reached_nil (packet : Bytes) : Reached packet [] Header.size := ⟨[], rfl, .nil _⟩

/-- More entries of one section can be read behind those before. -/
theorem Reached.append {α : Type} {read : Reader α} {wrap : α → Entry} {place : Section}
    {places : List Section} {middle stop : Nat} {as : List α} (h : Reached packet places middle)
    (hplace : ∀ a, (wrap a).place = place) (hread : place.read = do return wrap (← read))
    (hs : Rows (ReadsAt read packet) middle as stop) :
    Reached packet (places ++ List.replicate as.length place) stop := by
  obtain ⟨entries, rfl, hrows⟩ := h
  refine ⟨entries ++ as.map wrap, ?_, hrows.append (hs.map fun start next a ha => ?_)⟩
  · rw [List.map_append, List.map_map, List.append_cancel_left_eq, List.eq_replicate_iff,
      List.length_map]
    refine ⟨rfl, List.forall_mem_map.2 fun a _ => hplace a⟩
  · rw [hplace, hread]
    exact Reader.bind_eq_of_ok ha

/-- The entry at `index` of a section is the first that cannot be read, and this is the cause: all
that the header announces for the sections before and the entries before it in its section can be
read one after another, and it cannot be read behind them. -/
def IsFault (packet : Bytes) (place : Section) (index : Nat) (cause : Error) : Prop :=
  ∃ header stop, Header.read (.start packet) = .ok header (.placed packet Header.size) ∧
    index < (header.counts.of place).toNat ∧
    Reached packet (header.places place.before ++ List.replicate index place) stop ∧
    Reader.readAll place.read (.placed packet stop) = .error cause ∧ cause ∈ Error.causes

/-- A reading that gives a message, or fails at the first entry that cannot be read. -/
def Resolves (packet : Bytes) (r : EStateM.Result Error Cursor Message) : Prop :=
  (∃ m c, r = .ok m c) ∨
    ∃ place index cause c, r = .error (.malformedEntry place index cause) c ∧
      IsFault packet place index cause

/-- **One section more**: all of it is read behind the sections before, or the first fault is in
it. -/
theorem resolves_section {α : Type} {read : Reader α} {f : Array α → Reader Message} {start : Nat}
    (place : Section) (wrap : α → Entry)
    (hheader : Header.read (.start packet) = .ok header (.placed packet Header.size))
    (h : Reached packet (header.places place.before) start) (hfollows : ∀ c, Follows read c c)
    (hplace : ∀ a, (wrap a).place = place) (hread : place.read = do return wrap (← read))
    (h' : ∀ as stop, Reached packet (header.places (place.before ++ [place])) stop →
      Resolves packet (f as (.placed packet stop))) :
    Resolves packet
      ((readSection read place (header.counts.of place) >>= f) (.placed packet start)) := by
  rcases readSection_cases packet hfollows place (header.counts.of place) start with
    ⟨as, stop, hsize, hrows, hok⟩ | ⟨as, stop, e, c, hsize, hrows, he, herror⟩
  · have hreached := h.append hplace hread hrows
    rw [Array.length_toList, hsize] at hreached
    rw [Reader.bind_eq_of_ok hok]
    apply h' as stop
    rw [Header.places, List.flatMap_append, List.flatMap_singleton]
    exact hreached
  · have hentry : place.read (.placed packet stop) = .error e c := by
      rw [hread]
      exact Reader.bind_eq_of_error he
    have hcause := Section.failsInBytes_read place _ e c hentry
    refine .inr ⟨place, as.length, e, c, Reader.bind_eq_of_error herror, header, stop, hheader,
      hsize, h.append hplace hread hrows, ?_, hcause⟩
    rw [Reader.readAll, hentry]

/-- **Behind its header, a packet is read to its last entry or to its first fault.** -/
theorem resolves_readKeeping (h : Header.size ≤ packet.length) :
    Resolves packet (readKeeping packet (.start packet)) := by
  have hquestion (c : Cursor) : Follows Question.read c c := Question.follows_read rfl rfl
  have hrecord (c : Cursor) : Follows Record.read c c := Record.follows_read rfl rfl
  obtain ⟨header, hheader⟩ := exists_header h
  rw [readKeeping, Reader.bind_eq_of_ok hheader]
  refine resolves_section .question Entry.question hheader (reached_nil packet) hquestion
    (fun _ => rfl) rfl fun questions _ hreached => ?_
  refine resolves_section .answer Entry.answer hheader hreached hrecord
    (fun _ => rfl) rfl fun answers _ hreached => ?_
  refine resolves_section .authority Entry.authority hheader hreached hrecord
    (fun _ => rfl) rfl fun authorities _ hreached => ?_
  refine resolves_section .additional Entry.additional hheader hreached hrecord
    (fun _ => rfl) rfl fun additionals _ _ => ?_
  exact .inl ⟨_, _, rfl⟩

/-! ### Errors -/

theorem decodeFrom_eq_error {sender : SocketAddress} {e : Error} :
    decodeFrom packet sender = .error e ↔ decode packet = .error e := by
  rw [decodeFrom]
  cases decode packet with
  | ok m => exact iff_of_false (by rintro ⟨⟩) (by rintro ⟨⟩)
  | error e' => exact Iff.rfl

theorem fault_of_decode_eq_error {e : Error} (h : decode packet = .error e) :
    (packet.length < Header.size ∧ e = .unexpectedEnd) ∨
      ∃ place index cause, e = .malformedEntry place index cause ∧
        IsFault packet place index cause := by
  rw [decode_eq, Reader.readAll] at h
  rcases Nat.lt_or_ge packet.length Header.size with hshort | hlong
  · rw [readKeeping, Reader.bind_eq_of_error (read_header_of_short hshort)] at h
    cases h
    exact .inl ⟨hshort, rfl⟩
  · rcases resolves_readKeeping hlong with ⟨m, c, hok⟩ | ⟨place, index, cause, c, herror, hfault⟩
    · rw [hok] at h
      cases h
    · rw [herror] at h
      cases h
      exact .inr ⟨place, index, cause, rfl, hfault⟩

/-- **The error of a packet that cannot be read says what is wrong with it.** The packet is too
short for a header, or the error names the first entry that cannot be read and the cause. So the
packet is blamed for it. -/
theorem faults_of_decode (packet : Bytes) :
    (∀ e, decode packet = .error e → (packet.length < Header.size ∧ e = .unexpectedEnd) ∨
      ∃ place index cause, e = .malformedEntry place index cause ∧
        IsFault packet place index cause) ∧
    ∀ sender e, decodeFrom packet sender = .error e → e.blamesPacket := by
  refine ⟨fun e => fault_of_decode_eq_error, fun sender e he => ?_⟩
  rcases fault_of_decode_eq_error (decodeFrom_eq_error.1 he) with
    ⟨-, rfl⟩ | ⟨place, index, cause, rfl, -⟩
  · rfl
  · rfl

/-- A request that announces two questions, the second of which begins with a reserved length. -/
def reservedPacket : Bytes := [0, 0, 0, 0, 0, 2, 0, 0, 0, 0, 0, 0, 0, 0, 1, 0, 1, 64]

theorem faults_of_decode_reservedPacket :
    decode reservedPacket = .error (.malformedEntry .question 1 .reservedLabel) ∧
      IsFault reservedPacket .question 1 .reservedLabel ∧
      decodeFrom reservedPacket (.v4 ⟨10, 0, 0, 9⟩ 5353) =
        .error (.malformedEntry .question 1 .reservedLabel) ∧
      (Error.malformedEntry .question 1 .reservedLabel).blamesPacket := by
  have hdecode : decode reservedPacket = .error (.malformedEntry .question 1 .reservedLabel) := by
    decide +kernel
  have hfrom : decodeFrom reservedPacket (.v4 ⟨10, 0, 0, 9⟩ 5353) =
      .error (.malformedEntry .question 1 .reservedLabel) := decodeFrom_eq_error.2 hdecode
  obtain ⟨hfaults, hblames⟩ := faults_of_decode reservedPacket
  refine ⟨hdecode, ?_, hfrom, hblames _ _ hfrom⟩
  rcases hfaults _ hdecode with ⟨-, he⟩ | ⟨place, index, cause, he, hfault⟩
  · cases he
  · cases he
    exact hfault

end Message

end ServiceDiscovery
