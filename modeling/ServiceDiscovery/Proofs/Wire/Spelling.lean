import ServiceDiscovery.Proofs.Text.Ascii
import ServiceDiscovery.Proofs.Wire.Grammar

/-!
# Names that are written again

Bytes spell one sequence of labels, but a name that was read knows its labels only as a text with
dots between them. A label may itself hold dots, so what is written of the name are the labels of
the packet, each of them taken apart at its dots.

* `Spells.unique`: what bytes spell; `Spells.of_no_pointers`: what does not depend on the packet;
* `uncompressed`: labels behind their lengths, and a zero byte; `spells_wire`: written names;
* `Text.pieces`, `labels_ofLabels_eq_flatMap`: the labels of a text that was put together from
  texts;
* `complete_name_of_spells`: what is written of a name that was read.
-/

namespace ServiceDiscovery

namespace Reader

variable {packet bytes : Bytes} {labels : List Bytes} {used pointers : Nat}

/-! ### Derivations -/

/-- **Bytes spell one sequence of labels, in one way.** -/
theorem Spells.unique {labels' : List Bytes} {used' pointers' : Nat}
    (h : Spells packet bytes labels used pointers)
    (h' : Spells packet bytes labels' used' pointers') :
    labels = labels' ∧ used = used' ∧ pointers = pointers' := by
  -- The first byte decides which production comes next, so that the other two are excluded.
  generalize hbytes : bytes = bytes' at h'
  induction h generalizing bytes' labels' used' pointers' with
  | stop rest =>
    cases h' with
    | stop rest' => exact ⟨rfl, rfl, rfl⟩
    | label hlead hpos hmax h' =>
      obtain ⟨rfl, -⟩ := List.cons.inj hbytes
      exact absurd (hlead ▸ hpos) (by decide)
    | pointer rest' hoffset hin h' =>
      obtain ⟨rfl, -⟩ := List.cons.inj hbytes
      have hlow := UInt8.toNat_lt ‹UInt8›
      rw [UInt8.toNat_zero] at hoffset
      omega
  | @label lead label rest labels used pointers hlead hpos hmax h ih =>
    cases h' with
    | stop rest' =>
      obtain ⟨rfl, -⟩ := List.cons.inj hbytes
      exact absurd (hlead ▸ hpos) (by decide)
    | label hlead' hpos' hmax' h' =>
      obtain ⟨rfl, htail⟩ := List.cons.inj hbytes
      obtain ⟨rfl, rfl⟩ := List.append_inj htail (hlead ▸ hlead')
      obtain ⟨rfl, rfl, rfl⟩ := ih _ rfl h'
      exact ⟨rfl, rfl, rfl⟩
    | pointer rest' hoffset hin h' =>
      obtain ⟨rfl, -⟩ := List.cons.inj hbytes
      have hlow := UInt8.toNat_lt ‹UInt8›
      omega
  | @pointer high low offset labels used pointers rest hoffset hin h ih =>
    cases h' with
    | stop rest' =>
      obtain ⟨rfl, -⟩ := List.cons.inj hbytes
      have hlow := low.toNat_lt
      rw [UInt8.toNat_zero] at hoffset
      omega
    | label hlead' hpos' hmax' h' =>
      obtain ⟨rfl, -⟩ := List.cons.inj hbytes
      have hlow := low.toNat_lt
      omega
    | pointer rest' hoffset' hin' h' =>
      obtain ⟨rfl, htail⟩ := List.cons.inj hbytes
      obtain ⟨rfl, -⟩ := List.cons.inj htail
      obtain rfl := Nat.add_left_cancel (hoffset.symm.trans hoffset')
      obtain ⟨rfl, rfl, rfl⟩ := ih _ rfl h'
      exact ⟨rfl, rfl, rfl⟩

theorem Spells.length_le (h : Spells packet bytes labels used pointers) :
    ∀ l ∈ labels, 1 ≤ l.length ∧ l.length ≤ 63 := by
  induction h with
  | stop rest => simp
  | label hlead hpos hmax h ih => exact List.forall_mem_cons.2 ⟨⟨hpos, hmax⟩, ih⟩
  | pointer rest hoffset hin h ih => exact ih

/-- A name without pointers is spelled by the same bytes in any packet. -/
theorem Spells.of_no_pointers (h : Spells packet bytes labels used 0) (packet' : Bytes) :
    Spells packet' bytes labels used 0 := by
  generalize hnone : 0 = pointers at h ⊢
  induction h with
  | stop rest => exact .stop rest
  | label hlead hpos hmax h ih => exact .label hlead hpos hmax (ih hnone)
  | pointer rest hoffset hin h ih => cases hnone

/-! ### Labels behind their lengths -/

/-- A name without compression: its labels behind their lengths, and a zero byte. -/
def uncompressed (labels : List Bytes) : Bytes :=
  labels.flatMap (fun l => UInt8.ofNat l.length :: l) ++ [0]

theorem spells_uncompressed (h : ∀ l ∈ labels, 1 ≤ l.length ∧ l.length ≤ 63)
    (packet rest : Bytes) :
    Spells packet (uncompressed labels ++ rest) labels (uncompressed labels).length 0 := by
  induction labels with
  | nil => exact .stop rest
  | cons l ls ih =>
    obtain ⟨⟨hpos, hmax⟩, hls⟩ := List.forall_mem_cons.1 h
    have hbytes : uncompressed (l :: ls) ++ rest =
        UInt8.ofNat l.length :: (l ++ (uncompressed ls ++ rest)) := by
      simp [uncompressed]
    have hlength : (uncompressed (l :: ls)).length = 1 + l.length + (uncompressed ls).length := by
      simp [uncompressed]
      omega
    rw [hbytes, hlength]
    exact .label (toNat_labelLength hmax) hpos hmax (ih hls)

theorem spells_uncompressed_self (h : ∀ l ∈ labels, 1 ≤ l.length ∧ l.length ≤ 63)
    (packet : Bytes) :
    Spells packet (uncompressed labels) labels (uncompressed labels).length 0 := by
  have hspells := spells_uncompressed h packet []
  rwa [List.append_nil] at hspells

theorem uncompressed_inj {labels' : List Bytes} (h : ∀ l ∈ labels, 1 ≤ l.length ∧ l.length ≤ 63)
    (h' : ∀ l ∈ labels', 1 ≤ l.length ∧ l.length ≤ 63)
    (he : uncompressed labels = uncompressed labels') : labels = labels' := by
  have hspells := spells_uncompressed_self h []
  rw [he] at hspells
  exact (hspells.unique (spells_uncompressed_self h' [])).1

theorem wire_eq_uncompressed (s : String) :
    Name.wire s = uncompressed ((Name.labels s).map Text.encode) := by
  rw [uncompressed, List.flatMap_map]
  rfl

theorem length_of_fits {s : String} (h : Name.Fits s) :
    ∀ l ∈ (Name.labels s).map Text.encode, 1 ≤ l.length ∧ l.length ≤ 63 := by
  rw [List.forall_mem_map]
  intro l hl
  have hne := Text.encode_ne_nil (Name.isLabel_of_mem_labels hl).1
  exact ⟨List.length_pos_iff.2 hne, h l hl⟩

/-- **A written name spells the labels of its text.** -/
theorem spells_wire {s : String} (h : Name.Fits s) (packet : Bytes) :
    Spells packet (Name.wire s) ((Name.labels s).map Text.encode) (Name.wire s).length 0 := by
  rw [wire_eq_uncompressed]
  exact spells_uncompressed_self (length_of_fits h) packet

end Reader

/-! ### Labels with dots -/

namespace Text

/-- What stands between the dots of a label, without the pieces that are empty. -/
def pieces (label : Bytes) : List Bytes := (label.splitOn dot).filter (· ≠ [])

theorem pieces_encode (s : String) : pieces (encode s) = (Name.labels s).map encode := by
  rw [pieces, splitOn_encode, Name.labels, List.filter_map]
  congr 1
  refine List.filter_congr fun p _ => ?_
  simp [encode_eq_nil_iff]

theorem pieces_eq_self {label : Bytes} (h : dot ∉ label) (hne : label ≠ []) :
    pieces label = [label] := by
  rw [pieces, List.splitOn_eq_singleton h]
  simpa using hne

theorem length_le_of_mem_intercalate {α : Type} {x : α} {ls : List (List α)} {l : List α}
    (h : l ∈ ls) : l.length ≤ ([x].intercalate ls).length := by
  induction ls with
  | nil => cases h
  | cons l' ls ih =>
    rcases eq_or_ne ls [] with rfl | hne
    · rw [List.mem_singleton.1 h, List.intercalate_singleton]
    · rw [List.intercalate_cons_of_ne_nil hne, List.length_append, List.length_append]
      rcases List.mem_cons.1 h with rfl | h
      · omega
      · have := ih h
        omega

/-- Pieces are not longer than the label. -/
theorem length_le_of_mem_pieces {label p : Bytes} (h : p ∈ pieces label) :
    p.length ≤ label.length := by
  have hle := length_le_of_mem_intercalate (x := dot) (List.mem_of_mem_filter h)
  rwa [List.intercalate_splitOn] at hle

end Text

namespace Name

theorem parts_ofLabels_cons {t : String} {ts : List String} (hne : ts ≠ []) :
    parts (ofLabels (t :: ts)) = parts t ++ parts (ofLabels ts) := by
  apply map_toList_inj
  rw [List.map_append, toList_parts, toList_parts, toList_parts,
    ← List.splitOn_append_cons_self, ← List.singleton_append,
    toList_ofLabels_append (List.cons_ne_nil t []) hne]
  rw [ofLabels, String.intercalate_singleton]

/-- **The labels of a text that was put together from any texts are those of the texts.** -/
theorem labels_ofLabels_eq_flatMap (ts : List String) :
    labels (ofLabels ts) = ts.flatMap labels := by
  induction ts with
  | nil => rfl
  | cons t ts ih =>
    rcases eq_or_ne ts [] with rfl | hne
    · rw [ofLabels, String.intercalate_singleton, List.flatMap_singleton]
    · rw [labels, parts_ofLabels_cons hne, List.filter_append, ← labels, ← labels, ih,
        List.flatMap_cons]

end Name

/-! ### Writing what was read -/

namespace Reader

variable {labels : List Bytes}

theorem exists_texts (h : ∀ l ∈ labels, Text.IsUtf8 l) :
    ∃ ts : List String, labels = ts.map Text.encode := by
  induction labels with
  | nil => exact ⟨[], rfl⟩
  | cons l ls ih =>
    obtain ⟨⟨t, rfl⟩, hls⟩ := List.forall_mem_cons.1 h
    obtain ⟨ts, rfl⟩ := ih hls
    exact ⟨t :: ts, rfl⟩

theorem map_encode_labels_ofLabels (ts : List String) :
    (Name.labels (Name.ofLabels ts)).map Text.encode =
      (ts.map Text.encode).flatMap Text.pieces := by
  rw [Name.labels_ofLabels_eq_flatMap, List.map_flatMap, List.flatMap_map]
  exact List.flatMap_congr fun t _ => (Text.pieces_encode t).symm

/-- No pieces but whole labels are left exactly if there are no dots. -/
theorem flatMap_pieces_eq_self_iff (h : ∀ l ∈ labels, Text.IsUtf8 l) (hne : ∀ l ∈ labels, l ≠ []) :
    labels.flatMap Text.pieces = labels ↔ ∀ l ∈ labels, Text.dot ∉ l := by
  constructor
  · intro hsame l hl
    rw [← hsame] at hl
    obtain ⟨l', hl', hpiece⟩ := List.mem_flatMap.1 hl
    obtain ⟨t, rfl⟩ := h l' hl'
    rw [Text.pieces_encode] at hpiece
    obtain ⟨p, hp, rfl⟩ := List.mem_map.1 hpiece
    exact Text.dot_notMem_encode (Name.isLabel_of_mem_labels hp).2
  · intro hdotless
    have hsingle : labels.flatMap Text.pieces = labels.flatMap fun l => [l] :=
      List.flatMap_congr fun l hl => Text.pieces_eq_self (hdotless l hl) (hne l hl)
    rw [hsingle, List.flatMap_singleton']

/-- **What is written of a name that was read**, if all of its labels are texts: in their order the
pieces between the dots of each label, without compression. So these are its labels exactly if none
of them holds a dot. -/
theorem complete_name_of_spells {c : Cursor} {s : String} {used pointers : Nat}
    (h : readAll name c = .ok s) (hspells : Spells c.packet c.rest labels used pointers)
    (htexts : ∀ l ∈ labels, Text.IsUtf8 l) :
    (Output.name s).complete = .ok (uncompressed (labels.flatMap Text.pieces)) ∧
      ((Output.name s).complete = .ok (uncompressed labels) ↔ ∀ l ∈ labels, Text.dot ∉ l) := by
  have hlength := hspells.length_le
  have hpieces : ∀ p ∈ labels.flatMap Text.pieces, 1 ≤ p.length ∧ p.length ≤ 63 := by
    intro p hp
    obtain ⟨l, hl, hp⟩ := List.mem_flatMap.1 hp
    have hne : p ≠ [] := by simpa using (List.mem_filter.1 hp).2
    exact ⟨List.length_pos_iff.2 hne, (Text.length_le_of_mem_pieces hp).trans (hlength l hl).2⟩
  -- The labels that were read are those of the derivation, so the name is made of their texts.
  obtain ⟨c', hr⟩ := exists_of_readAll_eq_ok h
  obtain ⟨labels', used', pointers', hspells', -, rfl, -⟩ := name_eq_ok_iff_spells.1 hr
  obtain ⟨rfl, -, -⟩ := hspells.unique hspells'
  obtain ⟨ts, rfl⟩ := exists_texts htexts
  have hdecode : (ts.map Text.encode).map Text.decode = ts := by
    rw [List.map_map]
    exact (List.map_congr_left fun t _ => Text.decode_encode t).trans (List.map_id _)
  rw [hdecode]
  have hwritten : (Output.name (Name.ofLabels ts)).complete =
      .ok (uncompressed ((ts.map Text.encode).flatMap Text.pieces)) := by
    refine Output.complete_name.2 ⟨fun l hl => ?_, ?_⟩
    · refine (hpieces (Text.encode l) ?_).2
      rw [← map_encode_labels_ofLabels]
      exact List.mem_map_of_mem hl
    · rw [wire_eq_uncompressed, map_encode_labels_ofLabels]
  refine ⟨hwritten, ?_⟩
  rw [hwritten, Except.ok.injEq, ← flatMap_pieces_eq_self_iff htexts
    fun l hl => List.length_pos_iff.1 (hlength l hl).1]
  exact ⟨uncompressed_inj hpieces hlength, congrArg uncompressed⟩

/-- A request whose second question names an instance with a dot in its label, behind which a
pointer leads to the name of the first question. -/
def dottedPacket : Bytes :=
  [0, 0, 0, 0, 0, 2, 0, 0, 0, 0, 0, 0,
    5, 108, 111, 99, 97, 108, 0, 0, 12, 0, 1,
    3, 97, 46, 98, 192, 12, 0, 12, 0, 1]

/-- The labels of the second question. -/
def dottedLabels : List Bytes := [[97, 46, 98], [108, 111, 99, 97, 108]]

theorem spells_dottedLabels : Spells dottedPacket (dottedPacket.drop 23) dottedLabels 6 1 := by
  have hshort : ∀ l ∈ [([108, 111, 99, 97, 108] : Bytes)], 1 ≤ l.length ∧ l.length ≤ 63 := by decide
  have hparent : Spells dottedPacket (dottedPacket.drop 12) [[108, 111, 99, 97, 108]] 7 0 :=
    spells_uncompressed hshort dottedPacket (dottedPacket.drop 19)
  have hpointer : Spells dottedPacket [192, 12, 0, 12, 0, 1] [[108, 111, 99, 97, 108]] 2 1 :=
    .pointer [0, 12, 0, 1] rfl (by decide) hparent
  exact @Spells.label _ 3 [97, 46, 98] _ _ _ _ rfl (by decide) (by decide) hpointer

theorem complete_name_of_spells_dottedLabels :
    readAll name ((Cursor.start dottedPacket).jump 23) = .ok "a.b.local" ∧
      Spells dottedPacket (dottedPacket.drop 23) dottedLabels 6 1 ∧
      (∀ l ∈ dottedLabels, Text.IsUtf8 l) ∧
      (Output.name "a.b.local").complete = .ok (uncompressed (dottedLabels.flatMap Text.pieces)) ∧
      ((Output.name "a.b.local").complete = .ok (uncompressed dottedLabels) ↔
        ∀ l ∈ dottedLabels, Text.dot ∉ l) := by
  have hread : readAll name ((Cursor.start dottedPacket).jump 23) = .ok "a.b.local" := by
    decide +kernel
  have htexts : ∀ l ∈ dottedLabels, Text.IsUtf8 l := by decide +kernel
  exact ⟨hread, spells_dottedLabels, htexts,
    complete_name_of_spells hread spells_dottedLabels htexts⟩

/-- A label with a dot in it becomes two labels when it is written again. -/
theorem splits_dottedLabels :
    readAll name ((Cursor.start dottedPacket).jump 23) = .ok "a.b.local" ∧
      Spells dottedPacket (dottedPacket.drop 23) dottedLabels 6 1 ∧
      (∀ l ∈ dottedLabels, Text.IsUtf8 l) ∧
      (Output.name "a.b.local").complete =
        .ok (uncompressed [[97], [98], [108, 111, 99, 97, 108]]) ∧
      uncompressed [[97], [98], [108, 111, 99, 97, 108]] ≠ uncompressed dottedLabels :=
  ⟨by decide +kernel, spells_dottedLabels, by decide +kernel, by decide +kernel, by decide +kernel⟩

end Reader

end ServiceDiscovery
