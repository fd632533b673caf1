import ServiceDiscovery.Header
import ServiceDiscovery.Proofs.Wire.Taking
import Mathlib.Tactic.SplitIfs

/-!
# Headers on the wire

Of a header, four bits of the operation and four of the response code are sent. A header that uses
no more than these is read as it was written; any header is read with the identifier and the
numbers of entries it was written with.

* `Header.IsSendable`: operation and code fit their four bits;
* `ofFlags_flags`: the word of flags and codes says all of a sendable header;
* `sent`, `takes_bytes`, `takes_bytes_of_isSendable`: what twelve written bytes are read as;
* `gives_isSendable`: what is read can be sent.
-/

namespace ServiceDiscovery

namespace ResponseCode

/-- A code that is the name of its number, which four bits hold. -/
def IsSendable (c : ResponseCode) : Prop := ∃ n : UInt8, n < 16 ∧ c = ofCode n

theorem ofCode_code {c : ResponseCode} (h : c.IsSendable) : ofCode c.code = c := by
  obtain ⟨n, -, rfl⟩ := h
  rw [code_ofCode]

theorem code_lt {c : ResponseCode} (h : c.IsSendable) : c.code.toNat < 16 := by
  obtain ⟨n, hn, rfl⟩ := h
  rw [code_ofCode]
  exact UInt8.lt_iff_toNat_lt.1 hn

end ResponseCode

namespace Header

/-- The operation and the response code fit the four bits that each of them has. -/
structure IsSendable (h : Header) : Prop where
  operation : h.operation < 16
  code : h.code.IsSendable

theorem isSendable_request : request.IsSendable := ⟨by decide, 0, by decide, rfl⟩

theorem isSendable_answer : answer.IsSendable := ⟨by decide, 0, by decide, rfl⟩

/-! ### The word of flags and codes -/

theorem bit_eq (set : Bool) (position : Nat) :
    bit set position = set.toNat * (1 <<< position) := by
  cases set <;> simp [bit]

theorem toNat_flags (h : Header) : h.flags.toNat =
    h.response.toNat * 32768 + h.operation.toNat % 16 * 2048 + h.authoritative.toNat * 1024
      + h.truncated.toNat * 512 + h.recursionDesired.toNat * 256
      + h.recursionAvailable.toNat * 128 + h.zero.toNat * 64 + h.authenticData.toNat * 32
      + h.checkingDisabled.toNat * 16 + h.code.code.toNat % 16 := by
  have h1 := h.response.toNat_le
  have h2 := h.authoritative.toNat_le
  have h3 := h.truncated.toNat_le
  have h4 := h.recursionDesired.toNat_le
  have h5 := h.recursionAvailable.toNat_le
  have h6 := h.zero.toNat_le
  have h7 := h.authenticData.toNat_le
  have h8 := h.checkingDisabled.toNat_le
  simp only [flags, bit_eq, UInt16.toNat_ofNat']
  omega

theorem testBit_eq_of_div {word position : Nat} {flag : Bool} (unit : Nat)
    (hu : 1 <<< position = unit) (h : word / unit % 2 = flag.toNat) :
    word.testBit position = flag := by
  rw [Nat.testBit_eq_decide_div_mod_eq, ← Nat.one_shiftLeft, hu, h]
  cases flag <;> rfl

/-- **The word of flags and codes says all of a sendable header.** -/
theorem ofFlags_flags {h : Header} (hs : h.IsSendable) : ofFlags h.id h.flags h.counts = h := by
  have ho : h.operation.toNat < 16 := UInt8.lt_iff_toNat_lt.1 hs.operation
  have hc := ResponseCode.code_lt hs.code
  have hw := toNat_flags h
  rw [Nat.mod_eq_of_lt ho, Nat.mod_eq_of_lt hc] at hw
  have hcode : UInt8.ofNat h.code.code.toNat = h.code.code := UInt8.ofNat_toNat
  have hoper : UInt8.ofNat h.operation.toNat = h.operation := UInt8.ofNat_toNat
  have hcode' := ResponseCode.ofCode_code hs.code
  obtain ⟨id, qr, op, aa, tc, rd, ra, z, ad, cd, code, counts⟩ := h
  simp only at ho hc hw hcode hoper hcode'
  have h1 := qr.toNat_le
  have h2 := aa.toNat_le
  have h3 := tc.toNat_le
  have h4 := rd.toNat_le
  have h5 := ra.toNat_le
  have h6 := z.toNat_le
  have h7 := ad.toNat_le
  have h8 := cd.toNat_le
  -- The word and its two numbers become variables: each field is then a question about `hw` alone.
  generalize hv : Header.flags _ = v at hw
  generalize hon : op.toNat = on at ho hw hoper
  generalize hcn : code.code.toNat = cn at hc hw hcode
  rw [ofFlags]
  congr 1
  · exact testBit_eq_of_div 32768 rfl (by omega)
  · rw [show v.toNat / 2048 % 16 = on by omega, hoper]
  · exact testBit_eq_of_div 1024 rfl (by omega)
  · exact testBit_eq_of_div 512 rfl (by omega)
  · exact testBit_eq_of_div 256 rfl (by omega)
  · exact testBit_eq_of_div 128 rfl (by omega)
  · exact testBit_eq_of_div 64 rfl (by omega)
  · exact testBit_eq_of_div 32 rfl (by omega)
  · exact testBit_eq_of_div 16 rfl (by omega)
  · rw [show v.toNat % 16 = cn by omega, hcode, hcode']

theorem isSendable_ofFlags (id flags : UInt16) (counts : Counts) :
    (ofFlags id flags counts).IsSendable := by
  constructor
  · rw [UInt8.lt_iff_toNat_lt]
    simp only [ofFlags, UInt8.toNat_ofNat']
    exact Nat.lt_of_le_of_lt (Nat.mod_le _ _) (Nat.mod_lt _ (by decide))
  · refine ⟨_, ?_, rfl⟩
    rw [UInt8.lt_iff_toNat_lt, UInt8.toNat_ofNat']
    exact Nat.lt_of_le_of_lt (Nat.mod_le _ _) (Nat.mod_lt _ (by decide))

/-! ### Twelve bytes -/

/-- The reading of the six words of a header. -/
def readWords : Reader Header := do
  let id ← Reader.word
  let flags ← Reader.word
  let questions ← Reader.word
  let answers ← Reader.word
  let authorities ← Reader.word
  let additionals ← Reader.word
  return ofFlags id flags ⟨questions, answers, authorities, additionals⟩

/-- A header is read as its six words, but only if all of them are there. -/
theorem read_eq (c : Cursor) :
    read c = if (c.rest.take size).length < size then .error .unexpectedEnd c
      else readWords c := by
  refine (Reader.get_bind _ c).trans ?_
  split_ifs <;> rfl

theorem length_bytes (h : Header) : h.bytes.length = size := rfl

/-- The header that is read from what was written: of operation and code, only four bits each. -/
def sent (h : Header) : Header := ofFlags h.id h.flags h.counts

theorem sent_eq_self {h : Header} (hs : h.IsSendable) : h.sent = h := ofFlags_flags hs

/-- **What twelve written bytes are read as.** -/
theorem takes_bytes (h : Header) : Reader.Takes read h.bytes h.sent := by
  intro c rest hc
  have hsize : ¬(c.rest.take size).length < size := by
    rw [hc, List.length_take, List.length_append, length_bytes]
    omega
  rw [read_eq, if_neg hsize]
  have hwords : Reader.Takes readWords
      (Bytes.ofWord h.id ++ (Bytes.ofWord h.flags ++ (Bytes.ofWord h.counts.questions ++
        (Bytes.ofWord h.counts.answers ++ (Bytes.ofWord h.counts.authorities ++
          Bytes.ofWord h.counts.additionals))))) h.sent :=
    (Reader.takes_word _).bind <| (Reader.takes_word _).bind <| (Reader.takes_word _).bind <|
      (Reader.takes_word _).bind <| (Reader.takes_word _).bind <|
        (Reader.takes_word _).bind_pure <| Reader.takes_pure _
  exact hwords c rest hc

theorem takes_bytes_of_isSendable {h : Header} (hs : h.IsSendable) :
    Reader.Takes read h.bytes h := by
  have := takes_bytes h
  rwa [sent_eq_self hs] at this

theorem gives_isSendable : Reader.Gives read IsSendable := by
  intro c h c' hr
  rw [read_eq] at hr
  split_ifs at hr
  have hwords : Reader.Gives readWords IsSendable :=
    (Reader.gives_true _).bind fun _ _ => (Reader.gives_true _).bind fun _ _ =>
      (Reader.gives_true _).bind fun _ _ => (Reader.gives_true _).bind fun _ _ =>
        (Reader.gives_true _).bind fun _ _ => (Reader.gives_true _).bind fun _ _ =>
          Reader.gives_pure (isSendable_ofFlags _ _ _)
  exact hwords c h c' hr

end Header

end ServiceDiscovery
