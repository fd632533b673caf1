import ServiceDiscovery.Wire.NameReading
import ServiceDiscovery.Proofs.Name.Labels
import ServiceDiscovery.Proofs.Text.Utf8
import ServiceDiscovery.Proofs.Wire.Parts
import ServiceDiscovery.Proofs.Wire.Taking

/-!
# Names on the wire

A written name is its labels behind their lengths and a zero byte, without pointers. It can be
written if no label has more than 63 bytes, and it is read back without its empty parts.

* `Plain`: bytes that spell a name out, `plain_wire`: written names do;
* `complete_name`: when and as what a name is written;
* `takes_name`: what a written name is read as.
-/

namespace ServiceDiscovery

/-! ### Names without pointers -/

/-- Bytes that spell out a name: labels of 1 to 63 bytes behind their lengths, and a zero byte. -/
inductive Plain : Bytes → Prop where
  | root : Plain [0]
  | label (label rest : Bytes) : label ≠ [] → label.length ≤ 63 → Plain rest →
      Plain (UInt8.ofNat label.length :: (label ++ rest))

namespace Name

def labelWire (l : String) : Bytes := UInt8.ofNat (Text.encode l).length :: Text.encode l

def wire (s : String) : Bytes := (labels s).flatMap labelWire ++ [0]

/-- No label of the name is too long to be written. -/
def Fits (s : String) : Prop := ∀ l ∈ labels s, (Text.encode l).length ≤ 63

theorem wire_tidied (s : String) : wire (tidied s) = wire s := by rw [wire, labels_tidied, wire]

theorem fits_tidied {s : String} : Fits (tidied s) ↔ Fits s := by
  rw [Fits, labels_tidied, Fits]

/-- **Written names spell out their labels.** -/
theorem plain_wire {s : String} (h : Fits s) : Plain (wire s) := by
  have hls : ∀ ls : List String, (∀ l ∈ ls, IsLabel l ∧ (Text.encode l).length ≤ 63) →
      Plain (ls.flatMap labelWire ++ [0]) := by
    intro ls hls
    induction ls with
    | nil => exact .root
    | cons l ls ih =>
      obtain ⟨⟨hl, hlen⟩, hls⟩ := List.forall_mem_cons.1 hls
      simpa [labelWire] using Plain.label _ _ (Text.encode_ne_nil hl.1) hlen (ih hls)
  exact hls _ fun l hl => ⟨isLabel_of_mem_labels hl, h l hl⟩

end Name

theorem Part.label_eq_ok {l : String} {bytes : Bytes} :
    Part.label l = .ok bytes ↔ (Text.encode l).length ≤ 63 ∧ bytes = Name.labelWire l := by
  simp only [Part.label, Name.labelWire]
  split_ifs with h
  · simp; omega
  · simp only [Except.ok.injEq, eq_comm (b := bytes)]
    exact ⟨fun he => ⟨by omega, he⟩, fun he => he.2⟩

/-- **When and as what a name is written.** -/
theorem Output.complete_name {s : String} {bytes : Bytes} :
    (Output.name s).complete = .ok bytes ↔ Name.Fits s ∧ bytes = Name.wire s := by
  rw [Output.name, complete_append]
  constructor
  · rintro ⟨b, last, hb, hl, rfl⟩
    obtain ⟨hfits, rfl⟩ := (complete_map fun _ _ => Part.label_eq_ok).1 hb
    cases hl
    exact ⟨hfits, rfl⟩
  · rintro ⟨hfits, rfl⟩
    exact ⟨_, [0], (complete_map fun _ _ => Part.label_eq_ok).2 ⟨hfits, rfl⟩, rfl, rfl⟩

/-! ### Reading labels -/

namespace Reader

/-- How a run of labels begins is decided by its first byte. -/
theorem labelRun_cons {c : Cursor} {lead : UInt8} {rest : Bytes} (hc : c.rest = lead :: rest)
    (seen : Array String) : labelRun seen c =
      if lead = 0 then .ok (seen, .stop) (c.skip 1)
      else if lead < 0x40 then
        if (rest.take lead.toNat).length = lead.toNat then
          labelRun (seen.push (Text.decode (rest.take lead.toNat))) (c.skip (lead.toNat + 1))
        else .error .unexpectedEnd (c.skip 1)
      else if lead < 0xC0 then .error .reservedLabel (c.skip 1)
      else .ok (seen, .pointer lead) (c.skip 1) := by
  rw [labelRun]
  split
  · next h => rw [h] at hc; cases hc
  · next h =>
    rw [h] at hc
    cases hc
    rfl

theorem labelRun_zero {c : Cursor} {rest : Bytes} (hc : c.rest = 0 :: rest)
    (seen : Array String) : labelRun seen c = .ok (seen, .stop) (c.skip 1) := by
  rw [labelRun_cons hc, if_pos rfl]

theorem labelRun_label {c : Cursor} {lead : UInt8} {label rest : Bytes}
    (hc : c.rest = lead :: (label ++ rest)) (hl : label.length = lead.toNat) (h0 : label ≠ [])
    (h63 : label.length ≤ 63) (seen : Array String) :
    labelRun seen c =
      labelRun (seen.push (Text.decode label)) (c.skip (label.length + 1)) := by
  have hlead0 : lead ≠ 0 := by
    rintro rfl
    exact h0 (List.length_eq_zero_iff.1 hl)
  have hlead : lead < 0x40 := by
    rw [UInt8.lt_iff_toNat_lt, ← hl]
    exact Nat.lt_succ_of_le h63
  rw [labelRun_cons hc, if_neg hlead0, if_pos hlead, ← hl, List.take_left, if_pos rfl]

theorem toNat_labelLength {n : Nat} (h : n ≤ 63) : (UInt8.ofNat n).toNat = n :=
  Text.toNat_ofNat_of_lt (by omega)

theorem labelRun_wire {ls : List String}
    (h : ∀ l ∈ ls, Name.IsLabel l ∧ (Text.encode l).length ≤ 63) {c : Cursor} {rest : Bytes}
    (hc : c.rest = ls.flatMap Name.labelWire ++ 0 :: rest) (seen : Array String) :
    labelRun seen c = .ok (seen ++ ls.toArray, .stop)
      (c.skip (ls.flatMap Name.labelWire ++ [0]).length) := by
  -- Every label moves the cursor and adds to `seen`, so the hypothesis is needed for all of them.
  induction ls generalizing c seen with
  | nil => simpa using labelRun_zero hc seen
  | cons l ls ih =>
    obtain ⟨⟨hl, hlen⟩, hls⟩ := List.forall_mem_cons.1 h
    have hc' : c.rest = UInt8.ofNat (Text.encode l).length ::
        (Text.encode l ++ (ls.flatMap Name.labelWire ++ 0 :: rest)) := by
      simpa [Name.labelWire] using hc
    have hrest : (c.skip ((Text.encode l).length + 1)).rest =
        ls.flatMap Name.labelWire ++ 0 :: rest := by
      simp [Cursor.skip, hc']
    rw [labelRun_label hc' (toNat_labelLength hlen).symm (Text.encode_ne_nil hl.1) hlen,
      Text.decode_encode, ih hls hrest, Cursor.skip_skip]
    simp only [Array.push_eq_append, Array.append_assoc]
    congr 2
    · simp
    · simp [Name.labelWire]
      omega

theorem takes_labelsWithin {s : String} (h : Name.Fits s) (budget : Nat) :
    Takes (labelsWithin budget) (Name.wire s) (Name.labels s) := by
  intro c rest hc
  have hc' : c.rest = (Name.labels s).flatMap Name.labelWire ++ 0 :: rest := by
    simpa [Name.wire] using hc
  unfold labelsWithin
  rw [labelRun_wire (fun l hl => ⟨Name.isLabel_of_mem_labels hl, h l hl⟩) hc']
  simp [Name.wire]

/-- **A written name is read back without its empty parts.** -/
theorem takes_name {s : String} (h : Name.Fits s) :
    Takes name (Name.wire s) (Name.tidied s) :=
  (takes_labelsWithin h maxPointers).bind_pure (takes_pure _)

end Reader

end ServiceDiscovery
