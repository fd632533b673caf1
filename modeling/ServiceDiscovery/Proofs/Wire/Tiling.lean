import ServiceDiscovery.Proofs.Wire.Moving

/-!
# Rows of strings

The strings of a text record stand one behind the other, each behind a byte with its length, up to
the last byte. So bytes are read as strings exactly if such strings tile them, and at least one byte
is left. Strings without bytes may stand anywhere in the row; they are left out.

* `Text.framed`: a string behind its length; `Tiled`: bytes that are a row of strings,
  `Tiled.unique`: in only one way;
* `text_eq_ok_iff`: when and as what one string is read;
* `textsFrom_of_tiled`, `tiled_of_textsFrom`: what is read of a row of strings, and that nothing else
  is read;
* `texts_of_tiled`, `tiled_of_texts`, `texts_eq_error_iff`: the strings up to the end;
* `texts_of_complete`: strings that were written; `reads_tilings`: all of it.
-/

namespace ServiceDiscovery

/-- A string behind a byte with its length. -/
def Text.framed (piece : Bytes) : Bytes := UInt8.ofNat piece.length :: piece

namespace Reader

/-! ### Rows -/

/-- `Tiled bytes pieces`: the bytes are these strings in a row, each behind a byte with its length. -/
inductive Tiled : Bytes → List Bytes → Prop
  | nil : Tiled [] []
  | cons {lead : UInt8} {piece rest : Bytes} {pieces : List Bytes}
      (hlead : lead.toNat = piece.length) (h : Tiled rest pieces) :
      Tiled (lead :: (piece ++ rest)) (piece :: pieces)

variable {bytes : Bytes} {pieces : List Bytes}

/-- **The lengths decide how bytes are tiled.** -/
theorem Tiled.unique {pieces' : List Bytes} (h : Tiled bytes pieces) (h' : Tiled bytes pieces') :
    pieces = pieces' := by
  induction h generalizing pieces' with
  | nil =>
    cases h'
    rfl
  | @cons lead piece rest pieces hlead h ih =>
    generalize hbytes : lead :: (piece ++ rest) = bytes at h'
    cases h' with
    | nil => cases hbytes
    | @cons lead' piece' rest' pieces' hlead' h' =>
      obtain ⟨rfl, happend⟩ := List.cons.inj hbytes
      obtain ⟨rfl, rfl⟩ := List.append_inj happend (hlead.symm.trans hlead')
      rw [ih h']

/-- Strings that a byte can give the length of tile the bytes that they make in a row. -/
theorem tiled_flatMap_framed (h : ∀ p ∈ pieces, p.length ≤ 255) :
    Tiled (pieces.flatMap Text.framed) pieces := by
  induction pieces with
  | nil => exact .nil
  | cons p pieces ih =>
    obtain ⟨hp, hpieces⟩ := List.forall_mem_cons.1 h
    exact .cons (Text.toNat_ofNat_of_lt (by omega)) (ih hpieces)

/-- The strings of a row that have bytes, as texts. -/
def shown (pieces : List Bytes) : List String := (pieces.filter (· ≠ [])).map Text.decode

theorem shown_map_encode {ss : List String} (h : ∀ s ∈ ss, s ≠ "") :
    shown (ss.map Text.encode) = ss := by
  have hkept : (ss.map Text.encode).filter (· ≠ []) = ss.map Text.encode := by
    rw [List.filter_eq_self, List.forall_mem_map]
    exact fun s hs => decide_eq_true (Text.encode_ne_nil (h s hs))
  rw [shown, hkept, List.map_map]
  exact (List.map_congr_left fun s _ => Text.decode_encode s).trans (List.map_id ss)

/-- The strings seen so far, when one more has been read. -/
theorem seen_append_shown (seen : Array String) (piece : Bytes) (pieces : List Bytes) :
    (if Text.decode piece = "" then seen else seen.push (Text.decode piece)) ++
      (shown pieces).toArray = seen ++ (shown (piece :: pieces)).toArray := by
  rcases eq_or_ne piece [] with rfl | hne
  · have hempty : Text.decode [] = "" := Text.decode_encode ""
    rw [if_pos hempty]
    rfl
  · rw [if_neg (Text.decode_ne_empty hne)]
    simp [shown, hne]

/-! ### One string -/

variable {c c' : Cursor}

theorem text_of_rest {lead : UInt8} {piece rest : Bytes} (hc : c.rest = lead :: (piece ++ rest))
    (hlead : lead.toNat = piece.length) :
    text c = .ok (Text.decode piece) (c.skip (1 + piece.length)) := by
  have htake : Takes (take lead.toNat) piece piece := by
    rw [hlead]
    exact takes_take piece
  have htakes : Takes text ([lead] ++ piece) (Text.decode piece) :=
    (takes_byte lead).bind (htake.bind_pure (takes_pure _))
  rw [htakes c rest hc, List.length_append, List.length_singleton]

/-- **A string is read where enough bytes follow its length.** -/
theorem text_eq_ok_iff {s : String} : text c = .ok s c' ↔
    ∃ lead piece rest, c.rest = lead :: (piece ++ rest) ∧ lead.toNat = piece.length ∧
      s = Text.decode piece ∧ c' = c.skip (1 + piece.length) := by
  constructor
  · intro h
    obtain ⟨lead, c₁, hbyte, h⟩ := exists_of_bind_ok h
    obtain ⟨piece, c₂, htake, h⟩ := exists_of_bind_ok h
    cases h
    unfold byte at hbyte
    split at hbyte
    · next rest hc =>
      cases hbyte
      obtain ⟨hpiece, hlength, rfl⟩ := take_moves htake
      rw [Cursor.skip, hc, List.drop_succ_cons, List.drop_zero] at hpiece
      refine ⟨lead, piece, rest.drop lead.toNat, ?_, hlength.symm, rfl, ?_⟩
      · rw [hc, hpiece, List.take_append_drop]
      · rw [Cursor.skip_skip, hlength]
    · cases hbyte
  · rintro ⟨lead, piece, rest, hc, hlead, rfl, rfl⟩
    exact text_of_rest hc hlead

theorem unexpectedEnd_of_text {e : Error} (h : text c = .error e c') : e = .unexpectedEnd := by
  rcases cases_of_bind_error h with h | ⟨lead, c₁, -, h⟩
  · exact unexpectedEnd_of_byte h
  · rcases cases_of_bind_error h with h | ⟨piece, c₂, -, h⟩
    · exact unexpectedEnd_of_take h
    · cases h

/-! ### Strings up to the end -/

/-- **A row of strings is read to its end**, if there is one string in it at least. -/
theorem textsFrom_of_tiled (h : Tiled bytes pieces) (hc : c.rest = bytes) (hne : bytes ≠ [])
    (seen : Array String) :
    textsFrom seen c = .ok (seen ++ (shown pieces).toArray) (c.skip bytes.length) := by
  -- Behind each string the row ends, or it goes on with a shorter one.
  induction h generalizing c seen with
  | nil => exact absurd rfl hne
  | @cons lead piece rest pieces hlead h ih =>
    have hrest : (c.skip (1 + piece.length)).rest = rest := rest_skip_label hc
    rw [textsFrom_of_ok (text_of_rest hc hlead), hrest]
    rcases eq_or_ne rest [] with rfl | hmore
    · cases h
      rw [List.isEmpty_nil, if_pos rfl, ← seen_append_shown]
      simp [shown, Nat.add_comm]
    · rw [List.isEmpty_eq_false_iff.2 hmore, if_neg Bool.false_ne_true, ih hrest hmore,
        Cursor.skip_skip, seen_append_shown, List.length_cons, List.length_append,
        Nat.add_comm 1, Nat.add_right_comm]

/-- **Only rows of strings are read.** -/
theorem tiled_of_textsFrom {seen all : Array String} (h : textsFrom seen c = .ok all c') :
    c.rest ≠ [] ∧ ∃ pieces, Tiled c.rest pieces := by
  fun_induction textsFrom seen c with
  | case1 seen c e c' h' => cases h
  | case2 seen c s c' h' seen' hlast =>
    obtain ⟨lead, piece, rest, hc, hlead, -, rfl⟩ := text_eq_ok_iff.1 h'
    rw [rest_skip_label hc, List.isEmpty_iff] at hlast
    subst hlast
    rw [hc]
    exact ⟨List.cons_ne_nil _ _, [piece], .cons hlead .nil⟩
  | case3 seen c s c' h' seen' hmore ih =>
    obtain ⟨lead, piece, rest, hc, hlead, -, rfl⟩ := text_eq_ok_iff.1 h'
    obtain ⟨-, pieces, hpieces⟩ := ih h
    rw [rest_skip_label hc] at hpieces
    rw [hc]
    exact ⟨List.cons_ne_nil _ _, piece :: pieces, .cons hlead hpieces⟩

theorem unexpectedEnd_of_textsFrom {seen : Array String} {e : Error}
    (h : textsFrom seen c = .error e c') : e = .unexpectedEnd := by
  fun_induction textsFrom seen c with
  | case1 seen c e' c' h' =>
    cases h
    exact unexpectedEnd_of_text h'
  | case2 seen c s c' h' seen' hlast => cases h
  | case3 seen c s c' h' seen' hmore ih => exact ih h

theorem texts_of_tiled (h : Tiled c.rest pieces) (hne : c.rest ≠ []) :
    texts c = .ok (shown pieces) (c.skip c.rest.length) := by
  rw [texts, bind_eq_of_ok (textsFrom_of_tiled h rfl hne #[])]
  show EStateM.Result.ok _ _ = _
  simp

theorem tiled_of_texts {ss : List String} (h : texts c = .ok ss c') :
    c.rest ≠ [] ∧ ∃ pieces, Tiled c.rest pieces := by
  obtain ⟨all, c₁, h, -⟩ := exists_of_bind_ok h
  exact tiled_of_textsFrom h

theorem unexpectedEnd_of_texts {e : Error} (h : texts c = .error e c') : e = .unexpectedEnd := by
  rcases cases_of_bind_error h with h | ⟨all, c₁, -, h⟩
  · exact unexpectedEnd_of_textsFrom h
  · cases h

/-- Reading fails where bytes are missing, and only there. -/
theorem texts_eq_error_iff {e : Error} : (∃ c', texts c = .error e c') ↔
    e = .unexpectedEnd ∧ ¬(c.rest ≠ [] ∧ ∃ pieces, Tiled c.rest pieces) := by
  constructor
  · rintro ⟨c', h⟩
    refine ⟨unexpectedEnd_of_texts h, ?_⟩
    rintro ⟨hne, pieces, hpieces⟩
    rw [texts_of_tiled hpieces hne] at h
    cases h
  · rintro ⟨rfl, hnot⟩
    cases h : texts c with
    | ok ss c' => exact absurd (tiled_of_texts h) hnot
    | error e c' => exact ⟨c', by rw [unexpectedEnd_of_texts h]⟩

/-- **Strings that were written are read back.** -/
theorem texts_of_complete {ss : List String} (hne : ss ≠ []) (h : ∀ s ∈ ss, Text.Fits s)
    {bytes : Bytes} (hbytes : (Output.texts ss).complete = .ok bytes) (hc : c.rest = bytes) :
    texts c = .ok ss (c.skip bytes.length) := by
  rw [Output.texts, Output.complete_map fun _ _ => Part.text_eq_ok] at hbytes
  obtain ⟨hfits, rfl⟩ := hbytes
  have htiled : Tiled c.rest (ss.map Text.encode) := by
    have hwires : ss.flatMap Text.wire = (ss.map Text.encode).flatMap Text.framed :=
      (List.flatMap_map Text.encode Text.framed ss).symm
    rw [hc, hwires]
    exact tiled_flatMap_framed (List.forall_mem_map.2 hfits)
  have hrest : c.rest ≠ [] := by
    obtain ⟨s, ss, rfl⟩ := List.exists_cons_of_ne_nil hne
    rw [hc, List.flatMap_cons]
    exact List.cons_ne_nil _ _
  rw [texts_of_tiled htiled hrest, shown_map_encode fun s hs => (h s hs).1, hc]

/-- **Strings are read exactly where they tile all bytes that are left, and one byte is.** From
every cursor reading ends. It gives the strings that have bytes, in order, and moves behind the last
byte, or it fails for want of bytes. What was written of strings that have bytes is read back. -/
theorem reads_tilings (c : Cursor) :
    ((∃ ss c', texts c = .ok ss c') ↔ c.rest ≠ [] ∧ ∃ pieces, Tiled c.rest pieces) ∧
    (∀ pieces, c.rest ≠ [] → Tiled c.rest pieces →
      texts c = .ok ((pieces.filter (· ≠ [])).map Text.decode)
        ⟨c.packet, [], c.offset + c.rest.length⟩) ∧
    (∀ e, (∃ c', texts c = .error e c') ↔
      e = .unexpectedEnd ∧ ¬(c.rest ≠ [] ∧ ∃ pieces, Tiled c.rest pieces)) ∧
    ∀ ss : List String, ss ≠ [] → (∀ s ∈ ss, s ≠ "" ∧ (Text.encode s).length ≤ 255) →
      ∃ bytes, (Output.texts ss).complete = .ok bytes ∧
        (c.rest = bytes → texts c = .ok ss ⟨c.packet, [], c.offset + bytes.length⟩) := by
  have hend (bytes : Bytes) (hc : c.rest = bytes) :
      c.skip bytes.length = ⟨c.packet, [], c.offset + bytes.length⟩ := by
    rw [Cursor.skip, hc, List.drop_length]
  refine ⟨⟨?_, ?_⟩, fun pieces hne h => ?_, fun _ => texts_eq_error_iff, fun ss hne h => ?_⟩
  · rintro ⟨ss, c', h⟩
    exact tiled_of_texts h
  · rintro ⟨hne, pieces, h⟩
    exact ⟨_, _, texts_of_tiled h hne⟩
  · rw [← hend c.rest rfl]
    exact texts_of_tiled h hne
  · have hwritten : (Output.texts ss).complete = .ok (ss.flatMap Text.wire) :=
      (Output.complete_map fun _ _ => Part.text_eq_ok).2 ⟨fun s hs => (h s hs).2, rfl⟩
    refine ⟨_, hwritten, fun hc => ?_⟩
    rw [← hend _ hc]
    exact texts_of_complete hne h hwritten hc

/-- The rest of a packet, from its second byte on: two strings, and between them one without bytes. -/
theorem reads_tilings_padded :
    (Cursor.placed [255, 1, 97, 0, 1, 98] 1).rest ≠ [] ∧
    Tiled (Cursor.placed [255, 1, 97, 0, 1, 98] 1).rest [[97], [], [98]] ∧
    texts (.placed [255, 1, 97, 0, 1, 98] 1) =
      .ok ["a", "b"] ⟨[255, 1, 97, 0, 1, 98], [], 6⟩ ∧
    (Output.texts ["a", "b"]).complete = .ok [1, 97, 1, 98] ∧
    texts (.start [1, 97, 1, 98]) = .ok ["a", "b"] ⟨[1, 97, 1, 98], [], 4⟩ := by
  have hshort : ∀ p ∈ ([[97], [], [98]] : List Bytes), p.length ≤ 255 := by decide
  have htiled : Tiled [1, 97, 0, 1, 98] [[97], [], [98]] := (tiled_flatMap_framed hshort :)
  have hwritten : (Output.texts ["a", "b"]).complete = .ok [1, 97, 1, 98] := by decide
  have hfits : ∀ s ∈ ["a", "b"], s ≠ "" ∧ (Text.encode s).length ≤ 255 := by decide
  have hshown : ([[97], [], [98]].filter (· ≠ [])).map Text.decode = ["a", "b"] := by decide +kernel
  obtain ⟨-, hread, -⟩ := reads_tilings (.placed [255, 1, 97, 0, 1, 98] 1)
  obtain ⟨-, -, -, hback⟩ := reads_tilings (.start [1, 97, 1, 98])
  refine ⟨by decide, htiled, ?_, hwritten, ?_⟩
  · rw [hread _ (by decide) htiled, hshown]
    rfl
  · obtain ⟨bytes, hbytes, htexts⟩ := hback ["a", "b"] (by decide) hfits
    rw [hwritten] at hbytes
    cases hbytes
    exact htexts rfl

/-- A row of no strings is not read, nor is one whose last string is cut off. -/
example : readAll texts (.start []) = .error .unexpectedEnd ∧ readAll texts (.start [0]) = .ok [] ∧
    readAll texts (.start [1, 97, 5, 97, 98]) = .error .unexpectedEnd := by
  decide +kernel

end Reader

end ServiceDiscovery
