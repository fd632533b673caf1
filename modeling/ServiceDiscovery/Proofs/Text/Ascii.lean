import ServiceDiscovery.Proofs.Text.Utf8
import ServiceDiscovery.Proofs.Name.Labels

/-!
# ASCII bytes of a text

In the UTF-8 bytes of a text every byte below `0x80` is an ASCII character of it, and all other
characters consist of bytes above. So the ASCII capitals and the dots of a text can be found among
its bytes.

* `lowerByte`, `encode_lower`: a text with its ASCII capitals made small;
* `dot_notMem_encode`, `splitOn_encode`: a text taken apart at its dots;
* `IsUtf8`, `encode_decode`: bytes that are those of a text, which are written as they were read.
-/

namespace ServiceDiscovery.Text

/-! ### Bytes of a character -/

/-- What holds of the ASCII characters one by one holds of a character that is one of them. -/
theorem of_ascii {P : Char → Prop} (h : ∀ n < 0x80, P (Char.ofNat n)) {c : Char}
    (hc : c.toNat < 0x80) : P c := by
  rw [← Char.ofNat_toNat c]
  exact h c.toNat hc

theorem encodeChar_of_lt {c : Char} (h : c.toNat < 0x80) :
    String.utf8EncodeChar c = [UInt8.ofNat c.toNat] := by
  have hle : c.val.toNat ≤ 127 := Nat.le_of_lt_succ h
  rw [String.utf8EncodeChar]
  simp only [hle, if_true]
  rfl

/-- A character that is not in ASCII has no byte in ASCII. -/
theorem le_of_mem_encodeChar {c : Char} {b : UInt8} (h : 0x80 ≤ c.toNat)
    (hb : b ∈ String.utf8EncodeChar c) : 0x80 ≤ b.toNat := by
  have hc : c.val.toNat < 0x110000 := by
    rcases c.valid with hv | ⟨-, hv⟩
    · exact Nat.lt_trans hv (by decide)
    · exact hv
  have hv : 0x80 ≤ c.val.toNat := h
  unfold String.utf8EncodeChar at hb
  generalize c.val.toNat = v at hb hc hv
  have hlarge : ¬v ≤ 127 := by omega
  simp only [hlarge, if_false] at hb
  split_ifs at hb
  all_goals
    simp only [List.mem_cons, List.not_mem_nil, or_false] at hb
    rcases hb with rfl | rfl | rfl | rfl
  all_goals
    rw [toNat_ofNat_of_lt (by omega)]
    omega

/-! ### Capitals -/

/-- A byte, an ASCII capital made small. -/
def lowerByte (b : UInt8) : UInt8 := if 0x41 ≤ b ∧ b ≤ 0x5A then b + 0x20 else b

theorem lowerByte_of_le {b : UInt8} (h : 0x80 ≤ b.toNat) : lowerByte b = b := by
  have hb : ¬b ≤ 0x5A := by
    rw [UInt8.le_iff_toNat_le]
    exact Nat.not_le_of_lt (Nat.lt_of_lt_of_le (by decide) h)
  rw [lowerByte, if_neg fun hc => hb hc.2]

theorem toLower_of_le {c : Char} (h : 0x80 ≤ c.toNat) : c.toLower = c := by
  have hc : ¬c.val ≤ 'Z'.val := by
    rw [UInt32.le_iff_toNat_le]
    exact Nat.not_le_of_lt (Nat.lt_of_lt_of_le (by decide) h)
  exact dif_neg fun hz => hc hz.2

theorem toUpper_of_le {c : Char} (h : 0x80 ≤ c.toNat) : c.toUpper = c := by
  have hc : ¬c.val ≤ 'z'.val := by
    rw [UInt32.le_iff_toNat_le]
    exact Nat.not_le_of_lt (Nat.lt_of_lt_of_le (by decide) h)
  exact dif_neg fun hz => hc hz.2

theorem toLower_toLower_and_toUpper (c : Char) :
    c.toLower.toLower = c.toLower ∧ c.toUpper.toLower = c.toLower := by
  rcases Nat.lt_or_ge c.toNat 0x80 with h | h
  · exact of_ascii (P := fun c => c.toLower.toLower = c.toLower ∧ c.toUpper.toLower = c.toLower)
      (by decide +kernel) h
  · rw [toUpper_of_le h, toLower_of_le h, toLower_of_le h]
    exact ⟨rfl, rfl⟩

theorem encodeChar_toLower (c : Char) :
    String.utf8EncodeChar c.toLower = (String.utf8EncodeChar c).map lowerByte := by
  rcases Nat.lt_or_ge c.toNat 0x80 with h | h
  · exact of_ascii (P := fun c =>
      String.utf8EncodeChar c.toLower = (String.utf8EncodeChar c).map lowerByte)
      (by decide +kernel) h
  · have hsame : (String.utf8EncodeChar c).map lowerByte = (String.utf8EncodeChar c).map id :=
      List.map_congr_left fun b hb => lowerByte_of_le (le_of_mem_encodeChar h hb)
    rw [toLower_of_le h, hsame, List.map_id]

/-- **Capitals are made small byte by byte.** -/
theorem encode_lower (s : String) : encode (Name.lower s) = (encode s).map lowerByte := by
  rw [encode, Name.lower, String.toList_map, encode, List.flatMap_map, List.map_flatMap]
  exact List.flatMap_congr fun c _ => encodeChar_toLower c

/-! ### Dots -/

/-- The byte of a dot. -/
def dot : UInt8 := 0x2E

theorem dot_notMem_encode {s : String} (h : '.' ∉ s.toList) : dot ∉ encode s := by
  intro hdot
  obtain ⟨c, hc, hb⟩ := List.mem_flatMap.1 hdot
  rcases Nat.lt_or_ge c.toNat 0x80 with hlt | hge
  · rw [encodeChar_of_lt hlt, List.mem_singleton] at hb
    have hn : c.toNat = 0x2E := by
      have hn := congrArg UInt8.toNat hb
      rw [toNat_ofNat_of_lt (by omega)] at hn
      exact hn.symm
    have hc' : c = '.' := by rw [← Char.ofNat_toNat c, hn]
    exact h (hc' ▸ hc)
  · exact absurd (le_of_mem_encodeChar hge hb) (by decide)

theorem encode_append (s t : String) : encode (s ++ t) = encode s ++ encode t := by
  rw [encode, String.toList_append, List.flatMap_append, encode, encode]

theorem encode_ofLabels (ls : List String) :
    encode (Name.ofLabels ls) = [dot].intercalate (ls.map encode) := by
  induction ls with
  | nil => rfl
  | cons l ls ih =>
    rcases eq_or_ne ls [] with rfl | hne
    · simp [Name.ofLabels]
    · have hdot : encode "." = [dot] := rfl
      have hmap : ls.map encode ≠ [] := fun he => hne (List.map_eq_nil_iff.1 he)
      rw [Name.ofLabels, String.intercalate_cons_of_ne_nil hne, encode_append, encode_append, hdot,
        ← Name.ofLabels, ih, List.map_cons, List.intercalate_cons_of_ne_nil hmap]

/-- **A text is taken apart at its dots byte by byte.** -/
theorem splitOn_encode (s : String) : (encode s).splitOn dot = (Name.parts s).map encode := by
  have hne : (Name.parts s).map encode ≠ [] :=
    fun he => Name.parts_ne_nil s (List.map_eq_nil_iff.1 he)
  rw [← Name.ofLabels_parts s, encode_ofLabels, Name.ofLabels_parts, List.splitOn_intercalate]
  · intro bytes hbytes
    obtain ⟨p, hp, rfl⟩ := List.mem_map.1 hbytes
    exact dot_notMem_encode (Name.dotless_of_mem_parts hp)
  · exact hne

/-! ### Bytes of a text -/

theorem encode_inj {s t : String} : encode s = encode t ↔ s = t := by
  constructor
  · intro h
    rw [← decode_encode s, h, decode_encode]
  · rintro rfl
    rfl

theorem encode_eq_nil_iff {s : String} : encode s = [] ↔ s = "" := encode_inj (t := "")

/-- Bytes that are those of a text. -/
def IsUtf8 (bytes : Bytes) : Prop := ∃ s, bytes = encode s

theorem isUtf8_iff {bytes : Bytes} : IsUtf8 bytes ↔ encode (decode bytes) = bytes := by
  constructor
  · rintro ⟨s, rfl⟩
    rw [decode_encode]
  · exact fun h => ⟨decode bytes, h.symm⟩

instance : DecidablePred IsUtf8 := fun _ => decidable_of_iff _ isUtf8_iff.symm

end ServiceDiscovery.Text
