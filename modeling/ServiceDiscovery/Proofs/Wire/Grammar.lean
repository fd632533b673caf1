import ServiceDiscovery.Proofs.Wire.Growing

/-!
# The grammar of compressed names

A name is spelled by labels of 1 to 63 bytes behind their lengths, and then by a zero byte or by two
bytes that point to a place of the packet where the spelling goes on. What keeps bytes from spelling
a name is the first obstacle on the way: bytes that are missing, a reserved length, a pointer out of
the packet or one pointer too many.

* `Spells`: the derivations of the grammar, with the bytes and the pointers that they use;
* `Blocked`: the first obstacle, when at most so many pointers are allowed;
* `labelsWithin_label`, `labelsWithin_pointer`: reading goes on behind a label and behind a pointer;
* `labelsWithin_of_spells`, `exists_labelsWithin_of_blocked`: what is read of bytes of either kind;
* `spells_or_blocked`, `spells_iff_not_blocked`: all bytes are of exactly one kind;
* `name_eq_ok_iff_spells`, `name_eq_error_iff_blocked`: what names are read as, and when they are
  not; `name_grammar`: both.
-/

namespace ServiceDiscovery

namespace Reader

/-! ### Derivations and obstacles -/

/-- `Spells packet bytes labels used pointers`: the first `used` of the bytes spell a name with
these labels, which goes on through so many pointers into the packet. A pointer is a number of two
bytes whose two highest bits are set. -/
inductive Spells (packet : Bytes) : Bytes → List Bytes → Nat → Nat → Prop
  | stop (rest : Bytes) : Spells packet (0 :: rest) [] 1 0
  | label {lead : UInt8} {label rest : Bytes} {labels : List Bytes} {used pointers : Nat}
      (hlead : lead.toNat = label.length) (hpos : 1 ≤ label.length) (hmax : label.length ≤ 63)
      (h : Spells packet rest labels used pointers) :
      Spells packet (lead :: (label ++ rest)) (label :: labels) (1 + label.length + used) pointers
  | pointer {high low : UInt8} {offset : Nat} {labels : List Bytes} {used pointers : Nat}
      (rest : Bytes) (hoffset : high.toNat * 256 + low.toNat = 0xC000 + offset)
      (hin : offset < packet.length)
      (h : Spells packet (packet.drop offset) labels used pointers) :
      Spells packet (high :: low :: rest) labels 2 (pointers + 1)

/-- `Blocked packet budget bytes e`: on the way through the bytes, with at most `budget` pointers
into the packet, the first obstacle is `e`. -/
inductive Blocked (packet : Bytes) : Nat → Bytes → Error → Prop
  | ended (budget : Nat) : Blocked packet budget [] .unexpectedEnd
  | cut {lead : UInt8} {rest : Bytes} (budget : Nat) (hpos : 1 ≤ lead.toNat)
      (hmax : lead.toNat ≤ 63) (hshort : rest.length < lead.toNat) :
      Blocked packet budget (lead :: rest) .unexpectedEnd
  | reserved {lead : UInt8} (budget : Nat) (rest : Bytes) (hlow : 0x40 ≤ lead.toNat)
      (hhigh : lead.toNat < 0xC0) : Blocked packet budget (lead :: rest) .reservedLabel
  | spent {high : UInt8} (rest : Bytes) (hhigh : 0xC0 ≤ high.toNat) :
      Blocked packet 0 (high :: rest) .tooManyPointers
  | halved {high : UInt8} (budget : Nat) (hhigh : 0xC0 ≤ high.toNat) :
      Blocked packet (budget + 1) [high] .unexpectedEnd
  | outside {high low : UInt8} {offset : Nat} (budget : Nat) (rest : Bytes)
      (hoffset : high.toNat * 256 + low.toNat = 0xC000 + offset) (hout : packet.length ≤ offset) :
      Blocked packet (budget + 1) (high :: low :: rest) .unexpectedEnd
  | label {budget : Nat} {lead : UInt8} {label rest : Bytes} {e : Error}
      (hlead : lead.toNat = label.length) (hpos : 1 ≤ label.length) (hmax : label.length ≤ 63)
      (h : Blocked packet budget rest e) : Blocked packet budget (lead :: (label ++ rest)) e
  | pointer {budget : Nat} {high low : UInt8} {offset : Nat} {e : Error} (rest : Bytes)
      (hoffset : high.toNat * 256 + low.toNat = 0xC000 + offset) (hin : offset < packet.length)
      (h : Blocked packet budget (packet.drop offset) e) :
      Blocked packet (budget + 1) (high :: low :: rest) e

variable {packet bytes : Bytes} {labels : List Bytes} {used pointers budget : Nat} {c : Cursor}

/-! ### Reading label by label -/

/-- The labels that have been seen stand before those that follow. -/
theorem labelRun_eq_append (seen : Array String) (c : Cursor) :
    labelRun seen c = match labelRun #[] c with
      | .ok (found, runEnd) c' => .ok (seen ++ found, runEnd) c'
      | .error e c' => .error e c' := by
  -- By the bytes that are left, since a label is first seen with nothing before it.
  induction hn : c.rest.length using Nat.strong_induction_on generalizing seen c with
  | _ n ih =>
    subst hn
    rcases hc : c.rest with _ | ⟨lead, rest⟩
    · have hrun (seen : Array String) : labelRun seen c = .error .unexpectedEnd c := by
        rw [labelRun]
        split
        · rfl
        · next h => rw [hc] at h; cases h
      rw [hrun, hrun]
    · rw [labelRun_cons hc, labelRun_cons hc]
      split_ifs with h0 h40 hlabel hC0
      · simp
      · have hshorter : (c.skip (lead.toNat + 1)).rest.length < c.rest.length := by
          rw [Cursor.length_rest_skip, hc, List.length_cons]
          omega
        rw [ih _ hshorter _ _ rfl, ih _ hshorter (Array.push #[] _) _ rfl]
        rcases labelRun #[] (c.skip (lead.toNat + 1)) with ⟨⟨found, runEnd⟩, c'⟩ | ⟨e, c'⟩
        · simp
        · rfl
      · rfl
      · rfl
      · simp

theorem labelsWithin_label {lead : UInt8} {label rest : Bytes}
    (hc : c.rest = lead :: (label ++ rest)) (hlead : lead.toNat = label.length)
    (hpos : 1 ≤ label.length) (hmax : label.length ≤ 63) (budget : Nat) :
    labelsWithin budget c = match labelsWithin budget (c.skip (1 + label.length)) with
      | .ok ls c' => .ok (Text.decode label :: ls) c'
      | .error e c' => .error e c' := by
  have hne : label ≠ [] := List.ne_nil_of_length_pos hpos
  have hrun := (labelRun_label hc hlead.symm hne hmax #[]).trans (labelRun_eq_append _ _)
  rw [Nat.add_comm] at hrun
  unfold labelsWithin
  rw [hrun]
  rcases labelRun #[] (c.skip (1 + label.length)) with ⟨⟨found, _ | lead⟩, c'⟩ | ⟨e, c'⟩
  · simp
  · rcases budget with _ | budget
    · rfl
    · dsimp only
      rcases byte c' with ⟨low, c'⟩ | ⟨e, c'⟩
      · dsimp only
        rcases labelsWithin budget (c'.jump (target lead low)) with ⟨more, c''⟩ | ⟨e, c''⟩
        · simp
        · rfl
      · rfl
  · rfl

theorem labelsWithin_zero {rest : Bytes} (hc : c.rest = 0 :: rest) (budget : Nat) :
    labelsWithin budget c = .ok [] (c.skip 1) := by
  unfold labelsWithin
  rw [labelRun_zero hc]

theorem labelsWithin_reserved {lead : UInt8} {rest : Bytes} (hc : c.rest = lead :: rest)
    (hlow : 0x40 ≤ lead.toNat) (hhigh : lead.toNat < 0xC0) (budget : Nat) :
    labelsWithin budget c = .error .reservedLabel (c.skip 1) := by
  have h0 : ¬lead = 0 := by
    rintro rfl
    exact absurd hlow (by decide)
  have h40 : ¬lead < 0x40 := by
    rw [UInt8.lt_iff_toNat_lt]
    exact not_lt.2 hlow
  have hC0 : lead < 0xC0 := UInt8.lt_iff_toNat_lt.2 hhigh
  unfold labelsWithin
  rw [labelRun_reserved hc h0 h40 hC0]

theorem labelsWithin_cut {lead : UInt8} {rest : Bytes} (hc : c.rest = lead :: rest)
    (hpos : 1 ≤ lead.toNat) (hmax : lead.toNat ≤ 63) (hshort : rest.length < lead.toNat)
    (budget : Nat) : labelsWithin budget c = .error .unexpectedEnd (c.skip 1) := by
  have h0 : ¬lead = 0 := by
    rintro rfl
    exact absurd hpos (by decide)
  have h40 : lead < 0x40 := UInt8.lt_iff_toNat_lt.2 (Nat.lt_succ_of_le hmax)
  have hlabel : ¬(rest.take lead.toNat).length = lead.toNat := by
    rw [List.length_take]
    omega
  unfold labelsWithin
  rw [labelRun_cons hc, if_neg h0, if_pos h40, if_neg hlabel]

theorem labelRun_high {high : UInt8} {rest : Bytes} (hc : c.rest = high :: rest)
    (hhigh : 0xC0 ≤ high.toNat) : labelRun #[] c = .ok (#[], .pointer high) (c.skip 1) := by
  have h0 : ¬high = 0 := by
    rintro rfl
    exact absurd hhigh (by decide)
  have hC0 : ¬high < 0xC0 := by
    rw [UInt8.lt_iff_toNat_lt]
    exact not_lt.2 hhigh
  have h40 : ¬high < 0x40 := by
    rw [UInt8.lt_iff_toNat_lt]
    exact not_lt.2 (le_trans (by decide) hhigh)
  exact labelRun_pointer hc h0 h40 hC0 #[]

theorem labelsWithin_spent {high : UInt8} {rest : Bytes} (hc : c.rest = high :: rest)
    (hhigh : 0xC0 ≤ high.toNat) : labelsWithin 0 c = .error .tooManyPointers (c.skip 1) := by
  unfold labelsWithin
  rw [labelRun_high hc hhigh]

theorem labelsWithin_halved {high : UInt8} (hc : c.rest = [high]) (hhigh : 0xC0 ≤ high.toNat)
    (budget : Nat) : labelsWithin (budget + 1) c = .error .unexpectedEnd (c.skip 1) := by
  have hbyte : byte (c.skip 1) = .error .unexpectedEnd (c.skip 1) := by
    have hrest : (c.skip 1).rest = [] := by rw [Cursor.skip, hc, List.drop_succ_cons, List.drop_nil]
    rw [byte, hrest]
  unfold labelsWithin
  rw [labelRun_high hc hhigh]
  dsimp only
  rw [hbyte]

/-- The offset that a pointer holds. -/
theorem target_eq {high low : UInt8} {offset : Nat}
    (h : high.toNat * 256 + low.toNat = 0xC000 + offset) : target high low = offset := by
  have hhigh := high.toNat_lt
  have hlow := low.toNat_lt
  rw [target, Bytes.toNat_toWord, h]
  omega

theorem labelsWithin_pointer {high low : UInt8} {offset : Nat} {rest : Bytes}
    (hc : c.rest = high :: low :: rest) (hoffset : high.toNat * 256 + low.toNat = 0xC000 + offset)
    (budget : Nat) :
    labelsWithin (budget + 1) c = match labelsWithin budget (c.jump offset) with
      | .ok ls _ => .ok ls (c.skip 2)
      | .error e _ => .error e (c.skip 2) := by
  have hhigh : 0xC0 ≤ high.toNat := by
    have hlow := low.toNat_lt
    omega
  have hbyte : byte (c.skip 1) = .ok low (c.skip 2) := by
    have hrest : (c.skip 1).rest = low :: rest := by
      rw [Cursor.skip, hc, List.drop_succ_cons, List.drop_zero]
    rw [byte, hrest, Cursor.skip_skip]
  have hjump : (c.skip 2).jump offset = c.jump offset := rfl
  rw [labelsWithin, labelRun_high hc hhigh]
  dsimp only
  rw [hbyte]
  dsimp only
  rw [target_eq hoffset, hjump]
  rcases labelsWithin budget (c.jump offset) with ⟨more, c'⟩ | ⟨e, c'⟩
  · simp
  · rfl

/-! ### What is read of bytes that spell a name, and of others -/

theorem rest_skip_label {lead : UInt8} {label rest : Bytes}
    (hc : c.rest = lead :: (label ++ rest)) : (c.skip (1 + label.length)).rest = rest := by
  rw [Cursor.skip, hc, Nat.add_comm, List.drop_succ_cons, List.drop_left]

/-- **What bytes spell is read of them, through as many pointers as are allowed.** -/
theorem labelsWithin_of_spells (h : Spells packet bytes labels used pointers)
    (hbudget : pointers ≤ budget) (hpacket : c.packet = packet) (hc : c.rest = bytes) :
    labelsWithin budget c = .ok (labels.map Text.decode) (c.skip used) := by
  induction h generalizing budget c with
  | stop rest => exact labelsWithin_zero hc budget
  | @label lead label rest labels used pointers hlead hpos hmax h ih =>
    have hrest := ih hbudget (c := c.skip (1 + label.length)) hpacket (rest_skip_label hc)
    rw [labelsWithin_label hc hlead hpos hmax, hrest, Cursor.skip_skip]
    rfl
  | @pointer high low offset labels used pointers rest hoffset hin h ih =>
    obtain ⟨budget, rfl⟩ : ∃ b, budget = b + 1 := ⟨budget - 1, by omega⟩
    have hjump : (c.jump offset).rest = packet.drop offset := by rw [← hpacket]; rfl
    have hrest : labelsWithin budget (c.jump offset) =
      .ok (labels.map Text.decode) ((c.jump offset).skip used) := ih (by omega) hpacket hjump
    rw [labelsWithin_pointer hc hoffset, hrest]

/-- **The first obstacle is what reading fails with.** -/
theorem exists_labelsWithin_of_blocked {e : Error} (h : Blocked packet budget bytes e)
    (hpacket : c.packet = packet) (hc : c.rest = bytes) :
    ∃ c', labelsWithin budget c = .error e c' := by
  induction h generalizing c with
  | ended budget => exact ⟨c, labelsWithin_of_rest_eq_nil hc budget⟩
  | cut budget hpos hmax hshort => exact ⟨_, labelsWithin_cut hc hpos hmax hshort budget⟩
  | reserved budget rest hlow hhigh => exact ⟨_, labelsWithin_reserved hc hlow hhigh budget⟩
  | spent rest hhigh => exact ⟨_, labelsWithin_spent hc hhigh⟩
  | halved budget hhigh => exact ⟨_, labelsWithin_halved hc hhigh budget⟩
  | @outside high low offset budget rest hoffset hout =>
    have hjump : (c.jump offset).rest = [] := by
      rw [Cursor.jump, hpacket]
      exact List.drop_eq_nil_of_le hout
    refine ⟨c.skip 2, ?_⟩
    rw [labelsWithin_pointer hc hoffset, labelsWithin_of_rest_eq_nil hjump]
  | @label budget lead label rest e hlead hpos hmax h ih =>
    obtain ⟨c', hrest⟩ := ih (c := c.skip (1 + label.length)) hpacket (rest_skip_label hc)
    refine ⟨c', ?_⟩
    rw [labelsWithin_label hc hlead hpos hmax, hrest]
  | @pointer budget high low offset e rest hoffset hin h ih =>
    have hjump : (c.jump offset).rest = packet.drop offset := by rw [← hpacket]; rfl
    obtain ⟨c', hrest⟩ := ih (c := c.jump offset) hpacket hjump
    refine ⟨c.skip 2, ?_⟩
    rw [labelsWithin_pointer hc hoffset, hrest]

/-- What a label behind its length does to the rest of the bytes. -/
theorem spells_or_blocked_label {lead : UInt8} {label rest : Bytes}
    (hlead : lead.toNat = label.length) (hpos : 1 ≤ label.length) (hmax : label.length ≤ 63)
    (h : (∃ labels used pointers, Spells packet rest labels used pointers ∧ pointers ≤ budget) ∨
      ∃ e, Blocked packet budget rest e) :
    (∃ labels used pointers,
        Spells packet (lead :: (label ++ rest)) labels used pointers ∧ pointers ≤ budget) ∨
      ∃ e, Blocked packet budget (lead :: (label ++ rest)) e := by
  rcases h with ⟨labels, used, pointers, h, hle⟩ | ⟨e, h⟩
  · exact .inl ⟨_, _, _, .label hlead hpos hmax h, hle⟩
  · exact .inr ⟨e, .label hlead hpos hmax h⟩

/-- What a pointer does, when it is known where it leads. -/
theorem spells_or_blocked_pointer {high : UInt8} (hhigh : 0xC0 ≤ high.toNat) (rest : Bytes)
    (h : ∀ b < budget, ∀ bytes,
      (∃ labels used pointers, Spells packet bytes labels used pointers ∧ pointers ≤ b) ∨
        ∃ e, Blocked packet b bytes e) :
    (∃ labels used pointers,
        Spells packet (high :: rest) labels used pointers ∧ pointers ≤ budget) ∨
      ∃ e, Blocked packet budget (high :: rest) e := by
  rcases budget with _ | budget
  · exact .inr ⟨_, .spent rest hhigh⟩
  · rcases rest with _ | ⟨low, rest⟩
    · exact .inr ⟨_, .halved budget hhigh⟩
    · obtain ⟨offset, hoffset⟩ := Nat.exists_eq_add_of_le
        (show 0xC000 ≤ high.toNat * 256 + low.toNat by omega)
      by_cases hin : offset < packet.length
      · rcases h budget (Nat.lt_succ_self _) (packet.drop offset) with
          ⟨labels, used, pointers, h, hle⟩ | ⟨e, h⟩
        · exact .inl ⟨_, _, _, .pointer rest hoffset hin h, Nat.succ_le_succ hle⟩
        · exact .inr ⟨e, .pointer rest hoffset hin h⟩
      · exact .inr ⟨_, .outside budget rest hoffset (not_lt.1 hin)⟩

/-- **All bytes either spell a name or meet an obstacle.** -/
theorem spells_or_blocked (packet : Bytes) (budget : Nat) (bytes : Bytes) :
    (∃ labels used pointers, Spells packet bytes labels used pointers ∧ pointers ≤ budget) ∨
      ∃ e, Blocked packet budget bytes e := by
  -- A pointer leaves fewer pointers, and a label fewer bytes before the next pointer.
  induction budget using Nat.strong_induction_on generalizing bytes with
  | _ budget ihBudget =>
    induction hn : bytes.length using Nat.strong_induction_on generalizing bytes with
    | _ n ihBytes =>
      rcases bytes with _ | ⟨lead, rest⟩
      · exact .inr ⟨_, .ended budget⟩
      · have hlead := lead.toNat_lt
        have hcases : lead.toNat = 0 ∨ (1 ≤ lead.toNat ∧ lead.toNat ≤ 63) ∨
            (0x40 ≤ lead.toNat ∧ lead.toNat < 0xC0) ∨ 0xC0 ≤ lead.toNat := by omega
        rcases hcases with h0 | ⟨hpos, hmax⟩ | ⟨hlow, hhigh⟩ | hhigh
        · obtain rfl : lead = 0 := UInt8.toNat_inj.1 h0
          exact .inl ⟨[], 1, 0, .stop rest, Nat.zero_le _⟩
        · by_cases hshort : rest.length < lead.toNat
          · exact .inr ⟨_, .cut budget hpos hmax hshort⟩
          · have hlen : (rest.take lead.toNat).length = lead.toNat := by
              rw [List.length_take]
              omega
            have hless : (rest.drop lead.toNat).length < n := by
              rw [List.length_drop, ← hn, List.length_cons]
              omega
            have hrest := spells_or_blocked_label hlen.symm (by omega) (by omega)
              (ihBytes _ hless (rest.drop lead.toNat) rfl)
            rwa [List.take_append_drop] at hrest
        · exact .inr ⟨_, .reserved budget rest hlow hhigh⟩
        · exact spells_or_blocked_pointer hhigh rest ihBudget

/-! ### Names -/

theorem name_eq_of_ok {ls : List String} {c' : Cursor}
    (h : labelsWithin maxPointers c = .ok ls c') : name c = .ok (Name.ofLabels ls) c' := by
  rw [name, bind_eq_of_ok h]
  rfl

theorem name_eq_of_error {e : Error} {c' : Cursor} (h : labelsWithin maxPointers c = .error e c') :
    name c = .error e c' := by rw [name, bind_eq_of_error h]

/-- **Exactly what is spelled with at most sixteen pointers is read as a name.** -/
theorem name_eq_ok_iff_spells {s : String} {c' : Cursor} : name c = .ok s c' ↔
    ∃ labels used pointers, Spells c.packet c.rest labels used pointers ∧ pointers ≤ maxPointers ∧
      s = Name.ofLabels (labels.map Text.decode) ∧ c' = c.skip used := by
  constructor
  · intro h
    rcases spells_or_blocked c.packet maxPointers c.rest with
      ⟨labels, used, pointers, hspells, hle⟩ | ⟨e, hblocked⟩
    · rw [name_eq_of_ok (labelsWithin_of_spells hspells hle rfl rfl)] at h
      cases h
      exact ⟨labels, used, pointers, hspells, hle, rfl, rfl⟩
    · obtain ⟨c'', hfails⟩ := exists_labelsWithin_of_blocked hblocked rfl rfl
      rw [name_eq_of_error hfails] at h
      cases h
  · rintro ⟨labels, used, pointers, hspells, hle, rfl, rfl⟩
    exact name_eq_of_ok (labelsWithin_of_spells hspells hle rfl rfl)

/-- **Reading a name fails exactly with the first obstacle.** -/
theorem name_eq_error_iff_blocked {e : Error} :
    (∃ c', name c = .error e c') ↔ Blocked c.packet maxPointers c.rest e := by
  constructor
  · rintro ⟨c', h⟩
    rcases spells_or_blocked c.packet maxPointers c.rest with
      ⟨labels, used, pointers, hspells, hle⟩ | ⟨e', hblocked⟩
    · rw [name_eq_of_ok (labelsWithin_of_spells hspells hle rfl rfl)] at h
      cases h
    · obtain ⟨c'', hfails⟩ := exists_labelsWithin_of_blocked hblocked rfl rfl
      rw [name_eq_of_error hfails] at h
      cases h
      exact hblocked
  · intro hblocked
    obtain ⟨c', hfails⟩ := exists_labelsWithin_of_blocked hblocked rfl rfl
    exact ⟨c', name_eq_of_error hfails⟩

/-- Bytes that meet an obstacle spell no name that is allowed. -/
theorem spells_iff_not_blocked :
    (∃ labels used pointers, Spells packet bytes labels used pointers ∧ pointers ≤ maxPointers) ↔
      ¬∃ e, Blocked packet maxPointers bytes e := by
  constructor
  · rintro ⟨labels, used, pointers, hspells, hle⟩ ⟨e, hblocked⟩
    have hok := labelsWithin_of_spells (c := .inside packet bytes) hspells hle rfl rfl
    obtain ⟨c', herror⟩ :=
      exists_labelsWithin_of_blocked (c := .inside packet bytes) hblocked rfl rfl
    rw [hok] at herror
    cases herror
  · exact (spells_or_blocked packet maxPointers bytes).resolve_right

/-- **Names are read by their grammar.** From every cursor reading ends, with a name exactly if
there is a derivation with at most sixteen pointers: its labels with dots between them. The cursor
then stands behind the zero byte or the first pointer. In all other cases there is a first obstacle,
and reading fails with it. -/
theorem name_grammar (c : Cursor) :
    (∀ s c', name c = .ok s c' ↔ ∃ labels used pointers,
      Spells c.packet c.rest labels used pointers ∧ pointers ≤ 16 ∧
        s = ".".intercalate (labels.map Text.decode) ∧
        c' = ⟨c.packet, c.rest.drop used, c.offset + used⟩) ∧
    (∀ e, (∃ c', name c = .error e c') ↔ Blocked c.packet 16 c.rest e) ∧
    ((∃ labels used pointers, Spells c.packet c.rest labels used pointers ∧ pointers ≤ 16) ↔
      ¬∃ e, Blocked c.packet 16 c.rest e) :=
  ⟨fun _ _ => name_eq_ok_iff_spells, fun _ => name_eq_error_iff_blocked, spells_iff_not_blocked⟩

/-- Sixteen pointers in a row are followed, and a seventeenth is not. -/
example :
    let chain (n : Nat) : Bytes :=
      (List.range n).flatMap (fun k => [0xC0, UInt8.ofNat (2 * k + 2)]) ++ [1, 97, 0]
    readAll name (.start (chain 16)) = .ok "a" ∧
      readAll name (.start (chain 17)) = .error .tooManyPointers := by
  decide +kernel

end Reader

end ServiceDiscovery
