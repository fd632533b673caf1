import ServiceDiscovery.Text.Utf8
import Mathlib.Tactic.SplitIfs
import Mathlib.Data.List.Forall2

/-!
# Written text is read back

The bytes of a character begin with a leading byte that asks for exactly the continuation bytes
that follow it, and these stay within the ranges that it asks for. So reading takes the characters
of a written text one by one.

* `takeChar_tail`: a leading byte whose ranges are met takes all of its tail;
* `decodeChars_encodeChar`: one character, by the number of its bytes;
* `decode_encode`: a whole text.
-/

namespace ServiceDiscovery.Text

/-! ### A leading byte and its tail -/

def Meets (ranges : List ByteRange) (tail : Bytes) : Prop :=
  List.Forall₂ (fun range b => range.1 ≤ b ∧ b ≤ range.2) ranges tail

theorem within_append {ranges : List ByteRange} {tail : Bytes} (h : Meets ranges tail)
    (rest : Bytes) : within ranges (tail ++ rest) = tail := by
  induction h with
  | nil => cases rest <;> rfl
  | cons hb _ ih => simp only [List.cons_append, within, if_pos hb, ih]

theorem takeChar_tail {lead : UInt8} {ranges : List ByteRange} {tail : Bytes}
    (hl : expected lead = some ranges) (h : Meets ranges tail) (rest : Bytes) :
    takeChar lead (tail ++ rest) = (Char.ofNat (codePoint lead tail), tail.length) := by
  simp only [takeChar, hl, within_append h, h.length_eq, if_true]

theorem decodeChars_tail {lead : UInt8} {ranges : List ByteRange} {tail : Bytes}
    (hl : expected lead = some ranges) (h : Meets ranges tail) (rest : Bytes) :
    decodeChars (lead :: (tail ++ rest)) =
      Char.ofNat (codePoint lead tail) :: decodeChars rest := by
  rw [decodeChars, takeChar_tail hl h]
  simp only [List.drop_left]

/-! ### One character -/

theorem toNat_ofNat_of_lt {n : Nat} (h : n < 256) : (UInt8.ofNat n).toNat = n := by
  rw [UInt8.toNat_ofNat']
  exact Nat.mod_eq_of_lt h

/-- The continuation byte that carries the six low bits of `n`. -/
abbrev tailByte (n : Nat) : UInt8 := UInt8.ofNat (n % 64 + 128)

theorem toNat_tailByte (n : Nat) : (tailByte n).toNat = n % 64 + 128 :=
  toNat_ofNat_of_lt (by omega)

/-- Bounds on the six low bits of `n` are bounds on the continuation byte that carries them. -/
theorem tailByte_mem {n : Nat} {low high : UInt8} (h1 : low.toNat ≤ n % 64 + 128)
    (h2 : n % 64 + 128 ≤ high.toNat) : low ≤ tailByte n ∧ tailByte n ≤ high := by
  rw [UInt8.le_iff_toNat_le, UInt8.le_iff_toNat_le, toNat_tailByte]
  exact ⟨h1, h2⟩

theorem tailByte_mem_continuation (n : Nat) :
    continuation.1 ≤ tailByte n ∧ tailByte n ≤ continuation.2 :=
  tailByte_mem (by simp [continuation]) (by simp [continuation]; omega)

/-- The ranges that a leading byte asks for, by its number. -/
theorem expected_eq (lead : UInt8) : expected lead =
    if lead.toNat < 0x80 then some []
    else if lead.toNat < 0xC2 then none
    else if lead.toNat < 0xE0 then some [continuation]
    else if lead.toNat = 0xE0 then some [(0xA0, 0xBF), continuation]
    else if lead.toNat = 0xED then some [(0x80, 0x9F), continuation]
    else if lead.toNat < 0xF0 then some [continuation, continuation]
    else if lead.toNat = 0xF0 then some [(0x90, 0xBF), continuation, continuation]
    else if lead.toNat < 0xF4 then some [continuation, continuation, continuation]
    else if lead.toNat = 0xF4 then some [(0x80, 0x8F), continuation, continuation]
    else none := by
  simp only [expected, UInt8.lt_iff_toNat_lt, ← UInt8.toNat_inj]
  rfl

theorem decodeChars_two (v : Nat) (h1 : 0x80 ≤ v) (h2 : v ≤ 0x7FF) (rest : Bytes) :
    decodeChars (UInt8.ofNat (v / 64 % 32 + 0xC0) :: ([tailByte v] ++ rest)) =
      Char.ofNat v :: decodeChars rest := by
  have hl : (UInt8.ofNat (v / 64 % 32 + 0xC0)).toNat = v / 64 + 0xC0 := by
    rw [toNat_ofNat_of_lt (by omega)]
    omega
  have he : expected (UInt8.ofNat (v / 64 % 32 + 0xC0)) = some [continuation] := by
    rw [expected_eq, hl]
    split_ifs <;> first | rfl | omega
  rw [decodeChars_tail he (.cons (tailByte_mem_continuation v) .nil)]
  congr 2
  simp only [codePoint, List.foldl_cons, List.foldl_nil, List.length_singleton, hl,
    toNat_tailByte]
  omega

theorem decodeChars_three (v : Nat) (h1 : 0x800 ≤ v) (h2 : v ≤ 0xFFFF)
    (hs : v < 0xD800 ∨ 0xDFFF < v) (rest : Bytes) :
    decodeChars (UInt8.ofNat (v / 4096 % 16 + 0xE0) ::
      ([tailByte (v / 64), tailByte v] ++ rest)) = Char.ofNat v :: decodeChars rest := by
  have hl : (UInt8.ofNat (v / 4096 % 16 + 0xE0)).toNat = v / 4096 + 0xE0 := by
    rw [toNat_ofNat_of_lt (by omega)]
    omega
  -- Two leading bytes narrow the range of the byte after them: one excludes the code points that
  -- need fewer bytes, the other the surrogates.
  have he : ∃ range, expected (UInt8.ofNat (v / 4096 % 16 + 0xE0)) = some [range, continuation] ∧
      range.1 ≤ tailByte (v / 64) ∧ tailByte (v / 64) ≤ range.2 := by
    rw [expected_eq, hl]
    split_ifs
    all_goals first | omega | skip
    · exact ⟨_, rfl, tailByte_mem (by simp; omega) (by simp; omega)⟩
    · exact ⟨_, rfl, tailByte_mem (by simp) (by simp; omega)⟩
    · exact ⟨_, rfl, tailByte_mem_continuation _⟩
  obtain ⟨range, he, hr⟩ := he
  rw [decodeChars_tail he (.cons hr (.cons (tailByte_mem_continuation v) .nil))]
  congr 2
  simp only [codePoint, List.foldl_cons, List.foldl_nil, List.length_cons, List.length_nil, hl,
    toNat_tailByte]
  omega

theorem decodeChars_four (v : Nat) (h1 : 0x10000 ≤ v) (h2 : v < 0x110000) (rest : Bytes) :
    decodeChars (UInt8.ofNat (v / 262144 % 8 + 0xF0) ::
      ([tailByte (v / 4096), tailByte (v / 64), tailByte v] ++ rest)) =
      Char.ofNat v :: decodeChars rest := by
  have hl : (UInt8.ofNat (v / 262144 % 8 + 0xF0)).toNat = v / 262144 + 0xF0 := by
    rw [toNat_ofNat_of_lt (by omega)]
    omega
  have he : ∃ range, expected (UInt8.ofNat (v / 262144 % 8 + 0xF0)) =
      some [range, continuation, continuation] ∧
      range.1 ≤ tailByte (v / 4096) ∧ tailByte (v / 4096) ≤ range.2 := by
    rw [expected_eq, hl]
    split_ifs
    all_goals first | omega | skip
    · exact ⟨_, rfl, tailByte_mem (by simp; omega) (by simp; omega)⟩
    · exact ⟨_, rfl, tailByte_mem_continuation _⟩
    · exact ⟨_, rfl, tailByte_mem (by simp) (by simp; omega)⟩
  obtain ⟨range, he, hr⟩ := he
  rw [decodeChars_tail he (.cons hr (.cons (tailByte_mem_continuation _)
    (.cons (tailByte_mem_continuation v) .nil)))]
  congr 2
  simp only [codePoint, List.foldl_cons, List.foldl_nil, List.length_cons, List.length_nil, hl,
    toNat_tailByte]
  omega

/-- **A written character is read back**, whatever follows it. -/
theorem decodeChars_encodeChar (c : Char) (rest : Bytes) :
    decodeChars (String.utf8EncodeChar c ++ rest) = c :: decodeChars rest := by
  have hc : Char.ofNat c.val.toNat = c := Char.ofNat_toNat c
  have hv : c.val.toNat < 0xD800 ∨ 0xDFFF < c.val.toNat ∧ c.val.toNat < 0x110000 := c.valid
  -- From here on the character is any scalar value `v`, so that bounds on it are left to `omega`.
  unfold String.utf8EncodeChar
  generalize c.val.toNat = v at hc hv
  subst hc
  simp only
  split_ifs with h1 h2 h3
  · have hl : (UInt8.ofNat v).toNat = v := toNat_ofNat_of_lt (by omega)
    have he : expected (UInt8.ofNat v) = some [] := by
      rw [expected_eq, hl, if_pos (by omega)]
    rw [List.singleton_append, ← List.nil_append rest, decodeChars_tail he .nil, List.nil_append]
    simp only [codePoint, List.foldl_nil, List.length_nil, hl]
  · exact decodeChars_two v (by omega) h2 rest
  · exact decodeChars_three v (by omega) h3 (by omega) rest
  · exact decodeChars_four v (by omega) (by omega) rest

/-! ### A whole text -/

/-- **A written text is read back.** -/
theorem decode_encode (s : String) : decode (encode s) = s := by
  have h : ∀ cs : List Char, decodeChars (cs.flatMap String.utf8EncodeChar) = cs := by
    intro cs
    induction cs with
    | nil => rw [List.flatMap_nil, decodeChars]
    | cons c cs ih => rw [List.flatMap_cons, decodeChars_encodeChar, ih]
  rw [decode, encode, h, String.ofList_toList]

theorem encode_ne_nil {s : String} (h : s ≠ "") : encode s ≠ [] := by
  intro he
  apply h
  rw [← decode_encode s, he]
  simp [decode, decodeChars]

/-- Every byte belongs to a character. -/
theorem decode_ne_empty {bytes : Bytes} (h : bytes ≠ []) : decode bytes ≠ "" := by
  obtain ⟨lead, bytes, rfl⟩ := List.exists_cons_of_ne_nil h
  intro he
  rw [decode, decodeChars, ← String.toList_inj, String.toList_ofList] at he
  cases he

end ServiceDiscovery.Text
