import ServiceDiscovery.Proofs.Message.Truncation
import ServiceDiscovery.Proofs.Record.Framing

/-!
# Where the entries of a message stand

Behind its twelve bytes of header, the entries of a packet follow one another without gaps. The
questions are read one after another from there, and then the records of all sections.

* `Rows`: values one after another, from one place to another; `Rows.append`, `Rows.imp`;
* `ReadsAt`: what is read at a place and where the reading ends;
* `exists_header`, `placed_of_read_header`: where the header ends;
* `readEntries_cases`, `readSection_cases`: the entries of a section, up to the last or to the first
  that fails;
* `layout_of_decode`: the entries of a packet, each record framed by the places where it begins and
  where the next entry does.
-/

namespace ServiceDiscovery

/-! ### One after another -/

/-- Values that stand one after another. `P` relates each of them to the place where it begins and
to the place where the next one does. -/
inductive Rows {α : Type} (P : Nat → Nat → α → Prop) : Nat → List α → Nat → Prop
  | nil (start : Nat) : Rows P start [] start
  | cons {start next stop : Nat} {a : α} {as : List α} (h : P start next a)
      (hs : Rows P next as stop) : Rows P start (a :: as) stop

namespace Rows

variable {α β : Type} {P : Nat → Nat → α → Prop} {start middle stop : Nat} {as bs : List α}

theorem append (h : Rows P start as middle) (h' : Rows P middle bs stop) :
    Rows P start (as ++ bs) stop := by
  induction h with
  | nil start => exact h'
  | cons h hs ih => exact .cons h (ih h')

theorem imp {Q : Nat → Nat → α → Prop} (hPQ : ∀ start next a, P start next a → Q start next a)
    (h : Rows P start as stop) : Rows Q start as stop := by
  induction h with
  | nil start => exact .nil start
  | cons h hs ih => exact .cons (hPQ _ _ _ h) ih

theorem map {Q : Nat → Nat → β → Prop} {f : α → β}
    (hPQ : ∀ start next a, P start next a → Q start next (f a)) (h : Rows P start as stop) :
    Rows Q start (as.map f) stop := by
  induction h with
  | nil start => exact .nil start
  | cons h hs ih => exact .cons (hPQ _ _ _ h) ih

end Rows

/-- The reader gives the value at one place of the packet and stops at the other. -/
def Reader.ReadsAt {α : Type} (read : Reader α) (packet : Bytes) (start next : Nat) (a : α) :
    Prop :=
  read (.placed packet start) = .ok a (.placed packet next)

namespace Message

open Reader (ReadsAt Follows)

variable {packet : Bytes}

/-! ### The header -/

theorem exists_word {offset : Nat} (h : offset + 2 ≤ packet.length) :
    ∃ v, Reader.word (.placed packet offset) = .ok v (.placed packet (offset + 2)) := by
  have hlength : 2 ≤ (Cursor.placed packet offset).rest.length := by
    rw [Cursor.placed, List.length_drop]
    omega
  rcases hc : (Cursor.placed packet offset).rest with _ | ⟨a, _ | ⟨b, rest⟩⟩
  · rw [hc] at hlength
    cases hlength
  · rw [hc] at hlength
    exact absurd hlength (by simp)
  · refine ⟨Bytes.toWord a b, ?_⟩
    rw [Reader.takes_word_pair a b _ rest hc, Cursor.placed_skip]
    rfl

/-- **A packet of at least twelve bytes begins with a header.** -/
theorem exists_header (h : Header.size ≤ packet.length) :
    ∃ header, Header.read (.start packet) = .ok header (.placed packet Header.size) := by
  have hlong : ¬((Cursor.start packet).rest.take Header.size).length < Header.size := by
    have hrest : (Cursor.start packet).rest = packet := rfl
    rw [List.length_take, hrest]
    omega
  have hword (k : Nat) (hk : k + 2 ≤ Header.size) :
      ∃ v, Reader.word (.placed packet k) = .ok v (.placed packet (k + 2)) :=
    exists_word (hk.trans h)
  obtain ⟨id, hid⟩ := hword 0 (by decide)
  obtain ⟨flags, hflags⟩ := hword 2 (by decide)
  obtain ⟨questions, hquestions⟩ := hword 4 (by decide)
  obtain ⟨answers, hanswers⟩ := hword 6 (by decide)
  obtain ⟨authorities, hauthorities⟩ := hword 8 (by decide)
  obtain ⟨additionals, hadditionals⟩ := hword 10 (by decide)
  rw [Header.read_eq, if_neg hlong, ← Cursor.placed_zero]
  exact ⟨_, (Reader.bind_eq_of_ok hid).trans <| (Reader.bind_eq_of_ok hflags).trans <|
    (Reader.bind_eq_of_ok hquestions).trans <| (Reader.bind_eq_of_ok hanswers).trans <|
      (Reader.bind_eq_of_ok hauthorities).trans <| Reader.bind_eq_of_ok hadditionals⟩

theorem read_header_of_short (h : packet.length < Header.size) :
    Header.read (.start packet) = .error .unexpectedEnd (.start packet) := by
  have hshort : ((Cursor.start packet).rest.take Header.size).length < Header.size := by
    rw [List.length_take]
    exact lt_of_le_of_lt (min_le_right _ _) h
  rw [Header.read_eq, if_pos hshort]

theorem placed_of_read_header {header : Header} {c : Cursor}
    (h : Header.read (.start packet) = .ok header c) : c = .placed packet Header.size := by
  rcases Nat.lt_or_ge packet.length Header.size with hshort | hlong
  · rw [read_header_of_short hshort] at h
    cases h
  · obtain ⟨header', hread⟩ := exists_header hlong
    rw [hread] at h
    cases h
    rfl

/-! ### Sections -/

variable {α : Type} {read : Reader α}

/-- **The entries of a section are read up to the last, or up to the first that fails.** -/
theorem readEntries_cases (packet : Bytes) (hread : ∀ c, Follows read c c) (place : Section)
    (n : Nat) (seen : Array α) (start : Nat) :
    (∃ as stop, as.length = n ∧ Rows (ReadsAt read packet) start as stop ∧
      readEntries read place n seen (.placed packet start) =
        .ok (seen ++ as.toArray) (.placed packet stop)) ∨
    ∃ as stop e c, as.length < n ∧ Rows (ReadsAt read packet) start as stop ∧
      read (.placed packet stop) = .error e c ∧
      readEntries read place n seen (.placed packet start) =
        .error (.malformedEntry place (seen.size + as.length) e) c := by
  induction n generalizing seen start with
  | zero =>
    refine .inl ⟨[], start, rfl, .nil start, ?_⟩
    rw [readEntries]
    simp
  | succ n ih =>
    cases hr : read (.placed packet start) with
    | error e c =>
      refine .inr ⟨[], start, e, c, Nat.succ_pos n, .nil start, hr, ?_⟩
      rw [readEntries, hr]
      rfl
    | ok a c =>
      obtain ⟨k, rfl, -⟩ := hread _ a c hr
      rw [Cursor.placed_skip] at hr
      rw [readEntries_succ_of_ok hr]
      rcases ih (seen.push a) (start + k) with
        ⟨as, stop, hlen, hrows, hok⟩ | ⟨as, stop, e, c, hlen, hrows, he, herror⟩
      · refine .inl ⟨a :: as, stop, congrArg Nat.succ hlen, .cons hr hrows, ?_⟩
        rw [hok]
        simp
      · refine .inr ⟨a :: as, stop, e, c, Nat.succ_lt_succ hlen, .cons hr hrows, he, ?_⟩
        rw [herror, Array.size_push, List.length_cons, Nat.add_right_comm, Nat.add_assoc]

theorem readSection_cases (packet : Bytes) (hread : ∀ c, Follows read c c) (place : Section)
    (count : UInt16) (start : Nat) :
    (∃ as stop, as.size = count.toNat ∧ Rows (ReadsAt read packet) start as.toList stop ∧
      readSection read place count (.placed packet start) = .ok as (.placed packet stop)) ∨
    ∃ as stop e c, as.length < count.toNat ∧ Rows (ReadsAt read packet) start as stop ∧
      read (.placed packet stop) = .error e c ∧
      readSection read place count (.placed packet start) =
        .error (.malformedEntry place as.length e) c := by
  rcases readEntries_cases packet hread place count.toNat #[] start with
    ⟨as, stop, hlen, hrows, hok⟩ | ⟨as, stop, e, c, hlen, hrows, he, herror⟩
  · rw [Array.empty_append] at hok
    exact .inl ⟨as.toArray, stop, hlen, hrows, hok⟩
  · rw [Array.size_empty, Nat.zero_add] at herror
    exact .inr ⟨as, stop, e, c, hlen, hrows, he, herror⟩

theorem rows_of_readSection (hread : ∀ c, Follows read c c) {place : Section} {count : UInt16}
    {start : Nat} {as : Array α} {c : Cursor}
    (h : readSection read place count (.placed packet start) = .ok as c) :
    ∃ stop, Rows (ReadsAt read packet) start as.toList stop ∧ c = .placed packet stop := by
  rcases readSection_cases packet hread place count start with
    ⟨as', stop, -, hrows, hok⟩ | ⟨as', stop, e, c', -, -, -, herror⟩
  · rw [hok] at h
    cases h
    exact ⟨stop, hrows, rfl⟩
  · rw [herror] at h
    cases h

/-! ### Packets -/

/-- **The entries of a packet that was read stand one after another behind its header.** Each record
begins where the entry before it ends, and it ends where the length of its data says. On its own it
is read the same from its place of the packet, and from its head and data as well, unless the name
in them was read through a pointer. -/
theorem layout_of_decode {m : Message} (h : decode packet = .ok m) :
    ∃ first last, Rows (ReadsAt Question.read packet) Header.size m.questions.toList first ∧
      Rows (fun start next r => r.IsFramed packet start next) first m.records last := by
  have hquestion (c : Cursor) : Follows Question.read c c := Question.follows_read rfl rfl
  have hrecord (c : Cursor) : Follows Record.read c c := Record.follows_read rfl rfl
  rw [decode_eq] at h
  obtain ⟨c, hr⟩ := Reader.exists_of_readAll_eq_ok h
  obtain ⟨header, c, hheader, hr⟩ := Reader.exists_of_bind_ok hr
  obtain rfl := placed_of_read_header hheader
  obtain ⟨questions, c, hr₁, hr⟩ := Reader.exists_of_bind_ok hr
  obtain ⟨first, hquestions, rfl⟩ := rows_of_readSection hquestion hr₁
  obtain ⟨answers, c, hr₂, hr⟩ := Reader.exists_of_bind_ok hr
  obtain ⟨stop₂, hanswers, rfl⟩ := rows_of_readSection hrecord hr₂
  obtain ⟨authorities, c, hr₃, hr⟩ := Reader.exists_of_bind_ok hr
  obtain ⟨stop₃, hauthorities, rfl⟩ := rows_of_readSection hrecord hr₃
  obtain ⟨additionals, c, hr₄, hr⟩ := Reader.exists_of_bind_ok hr
  obtain ⟨last, hadditionals, rfl⟩ := rows_of_readSection hrecord hr₄
  cases hr
  have hrecords := (hanswers.append hauthorities).append hadditionals
  exact ⟨first, last, hquestions, hrecords.imp fun _ _ _ => Record.isFramed_of_read⟩

theorem layout_of_decode_compressedPacket : decode compressedPacket = .ok compressedMessage ∧
    ∃ first last, Rows (ReadsAt Question.read compressedPacket) Header.size
        compressedMessage.questions.toList first ∧
      Rows (fun start next r => r.IsFramed compressedPacket start next) first
        compressedMessage.records last := by
  have hdecode : decode compressedPacket = .ok compressedMessage := by decide +kernel
  exact ⟨hdecode, layout_of_decode hdecode⟩

/-- The data of the only record points into its packet, so that it says nothing on its own. -/
example : compressedMessage.records.map (·.data) = [[1, 98, 192, 12]] ∧
    compressedMessage.records.map (fun r => Record.ofData r.header r.data) =
      [.error .unexpectedEnd] := by decide +kernel

end Message

end ServiceDiscovery
