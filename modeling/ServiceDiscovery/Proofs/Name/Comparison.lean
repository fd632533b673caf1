import ServiceDiscovery.Proofs.Wire.Spelling
import ServiceDiscovery.Proofs.Name.Services

/-!
# Equal names and equal labels

Names are compared as texts, up to capitals and dots at the end, and written as labels, without the
empty ones. So names that are the same have the same labels, and names with the same labels are the
same if their empty parts, other than those at the end, stand at the same places.

* `parts_lower`, `blanks`, `eq_iff_labels`: a text by its labels and its empty parts;
* `same_iff_labels`, `same_tidied_iff`: the comparison of two texts, and of a text without its
  empty parts;
* `Respells`, `Respells.folded_eq`: a name in other capitals and with more dots at its end;
* `Reader.SameLabels`, `Reader.same_iff_sameLabels`: the comparison and what is written.
-/

namespace ServiceDiscovery

namespace Name

/-! ### Capitals -/

theorem toLower_eq_dot_iff {c : Char} : c.toLower = '.' ↔ c = '.' := by
  rcases Nat.lt_or_ge c.toNat 0x80 with h | h
  · exact Text.of_ascii (P := fun c => c.toLower = '.' ↔ c = '.') (by decide +kernel) h
  · rw [Text.toLower_of_le h]

theorem dotless_lower {s : String} (h : '.' ∉ s.toList) : '.' ∉ (lower s).toList := by
  rw [lower, String.toList_map, List.mem_map]
  rintro ⟨c, hc, hdot⟩
  exact h (toLower_eq_dot_iff.1 hdot ▸ hc)

theorem lower_eq_empty_iff {s : String} : lower s = "" ↔ s = "" := by
  rw [← String.toList_eq_nil_iff, lower, String.toList_map, List.map_eq_nil_iff,
    String.toList_eq_nil_iff]

theorem lower_append (s t : String) : lower (s ++ t) = lower s ++ lower t := by
  apply String.toList_inj.1
  simp only [lower, String.toList_map, String.toList_append, List.map_append]

theorem lower_ofLabels (ls : List String) : lower (ofLabels ls) = ofLabels (ls.map lower) := by
  induction ls with
  | nil => exact lower_eq_empty_iff.2 rfl
  | cons l ls ih =>
    rcases eq_or_ne ls [] with rfl | hne
    · simp [ofLabels]
    · have hmap : ls.map lower ≠ [] := fun he => hne (List.map_eq_nil_iff.1 he)
      have hdot : lower "." = "." := by decide +kernel
      rw [ofLabels_cons hne, lower_append, lower_append, hdot, ih, List.map_cons,
        ofLabels_cons hmap]

/-- **Capitals are made small in each part.** -/
theorem parts_lower (s : String) : parts (lower s) = (parts s).map lower := by
  have hdotless : ∀ p ∈ (parts s).map lower, '.' ∉ p.toList :=
    List.forall_mem_map.2 fun p hp => dotless_lower (dotless_of_mem_parts hp)
  have hne : (parts s).map lower ≠ [] := fun he => parts_ne_nil s (List.map_eq_nil_iff.1 he)
  rw [← parts_ofLabels hdotless hne, ← lower_ofLabels, ofLabels_parts]

theorem labels_lower (s : String) : labels (lower s) = (labels s).map lower := by
  rw [labels, parts_lower, labels, List.filter_map]
  congr 1
  refine List.filter_congr fun p _ => ?_
  simp [lower_eq_empty_iff]

theorem isTidy_lower {s : String} : IsTidy (lower s) ↔ IsTidy s := by
  have hempty : "" ∈ (parts s).map lower ↔ "" ∈ parts s := by
    rw [List.mem_map]
    constructor
    · rintro ⟨p, hp, he⟩
      exact lower_eq_empty_iff.1 he ▸ hp
    · exact fun h => ⟨"", h, lower_eq_empty_iff.2 rfl⟩
  rw [IsTidy, lower_eq_empty_iff, parts_lower, hempty, IsTidy]

/-! ### Empty parts -/

/-- The parts of a text that are empty, by their places. -/
def emptyParts (s : String) : List Bool := (parts s).map (· = "")

/-- Lists agree if they are empty at the same places and agree elsewhere. -/
theorem eq_of_filter_eq {ps qs : List String} (hfilter : ps.filter (· ≠ "") = qs.filter (· ≠ ""))
    (hempty : ps.map (fun p => decide (p = "")) = qs.map (fun q => decide (q = ""))) : ps = qs := by
  induction ps generalizing qs with
  | nil => exact (List.map_eq_nil_iff.1 hempty.symm).symm
  | cons p ps ih =>
    obtain _ | ⟨q, qs⟩ := qs
    · cases hempty
    · obtain ⟨hhead, htail⟩ := List.cons.inj hempty
      rw [decide_eq_decide] at hhead
      by_cases hp : p = ""
      · subst hp
        obtain rfl := hhead.1 rfl
        rw [ih (by simpa using hfilter) htail]
      · have hq : q ≠ "" := fun hq => hp (hhead.2 hq)
        obtain ⟨rfl, hrest⟩ : p = q ∧ ps.filter (· ≠ "") = qs.filter (· ≠ "") := by
          simpa [hp, hq] using hfilter
        rw [ih hrest htail]

/-- **Texts are equal if their labels are and their empty parts stand at the same places.** -/
theorem eq_iff_labels {s t : String} :
    s = t ↔ labels s = labels t ∧ emptyParts s = emptyParts t := by
  constructor
  · rintro rfl
    exact ⟨rfl, rfl⟩
  · rintro ⟨hlabels, hempty⟩
    rw [← ofLabels_parts s, eq_of_filter_eq hlabels hempty, ofLabels_parts]

theorem emptyParts_lower (s : String) : emptyParts (lower s) = emptyParts s := by
  rw [emptyParts, parts_lower, emptyParts, List.map_map]
  refine List.map_congr_left fun p _ => ?_
  simp [lower_eq_empty_iff]

/-- The places of the empty parts that count when names are compared: not those at the end. -/
def blanks (s : String) : List Bool := emptyParts (trimEnd s)

/-! ### The comparison -/

theorem same_iff {a b : String} : same a b ↔ folded a = folded b := by
  rw [same, decide_eq_true_eq]

theorem same_iff_toList {a b : String} :
    same a b ↔ (trimEnd a).toList.map Char.toLower = (trimEnd b).toList.map Char.toLower := by
  rw [same_iff, folded, folded, ← String.toList_inj, lower, String.toList_map, lower,
    String.toList_map]

theorem labels_folded (s : String) : labels (folded s) = (labels s).map lower := by
  rw [folded, labels_lower, labels_trimEnd]

/-- **Names are the same if their labels are, up to capitals, and their empty parts stand at the
same places**, those at the end aside. -/
theorem same_iff_labels {a b : String} :
    same a b ↔ (labels a).map lower = (labels b).map lower ∧ blanks a = blanks b := by
  rw [same_iff, eq_iff_labels, labels_folded, labels_folded, folded, folded, emptyParts_lower,
    emptyParts_lower, blanks, blanks]

/-- What is compared of a name without other empty parts than those at its end. -/
theorem folded_eq_ofLabels {s : String} (h : IsTidy (trimEnd s)) :
    folded s = ofLabels ((labels s).map lower) := by
  rw [folded, ← tidied_eq_trimEnd h, tidied, lower_ofLabels]

/-- The labels alone decide if there are no other empty parts than those at the end. -/
theorem same_iff_labels_of_tidy {a b : String} (ha : IsTidy (trimEnd a)) (hb : IsTidy (trimEnd b)) :
    same a b ↔ (labels a).map lower = (labels b).map lower := by
  refine ⟨fun h => (same_iff_labels.1 h).1, fun h => ?_⟩
  rw [same_iff, folded_eq_ofLabels ha, folded_eq_ofLabels hb, h]

/-- **A name is the same without its empty parts exactly if they all stand at its end.** -/
theorem same_tidied_iff {s : String} : same s (tidied s) ↔ IsTidy (trimEnd s) := by
  constructor
  · intro h
    have htidied : IsTidy (tidied s) := isTidy_ofLabels fun _ => isLabel_of_mem_labels
    rw [← isTidy_lower, ← folded, same_iff.1 h, folded, isTidy_lower, trimEnd_eq_self htidied]
    exact htidied
  · intro h
    rw [tidied_eq_trimEnd h, same_iff, folded, folded, trimEnd_trimEnd]

/-! ### Other spellings -/

/-- A character, a letter of ASCII perhaps in the other case. -/
def IsRecased (c c' : Char) : Prop := c' = c ∨ c' = c.toLower ∨ c' = c.toUpper

instance (c c' : Char) : Decidable (IsRecased c c') :=
  inferInstanceAs (Decidable (c' = c ∨ c' = c.toLower ∨ c' = c.toUpper))

/-- A name is spelled in another way when letters of ASCII change their case and dots come in at its
end. -/
def Respells (s s' : String) : Prop :=
  ∃ cs n, List.Forall₂ IsRecased s.toList cs ∧ s'.toList = cs ++ List.replicate n '.'

theorem IsRecased.toLower {c c' : Char} (h : IsRecased c c') : c'.toLower = c.toLower := by
  obtain ⟨hlower, hupper⟩ := Text.toLower_toLower_and_toUpper c
  rcases h with rfl | rfl | rfl
  · rfl
  · exact hlower
  · exact hupper

theorem toList_folded_eq (s : String) : (folded s).toList =
    ((s.toList.map Char.toLower).reverse.dropWhile (· = '.')).reverse := by
  have hdot : (fun c => decide (c = '.')) ∘ Char.toLower = fun c => decide (c = '.') :=
    funext fun c => decide_eq_decide.2 toLower_eq_dot_iff
  rw [← List.map_reverse, List.dropWhile_map, hdot, ← List.map_reverse, folded, lower,
    String.toList_map, trimEnd, String.toList_ofList]

theorem folded_append_dots {s s' : String} {n : Nat}
    (h : s'.toList.map Char.toLower = s.toList.map Char.toLower ++ List.replicate n '.') :
    folded s' = folded s := by
  apply String.toList_inj.1
  rw [toList_folded_eq, toList_folded_eq, h, List.reverse_append, List.reverse_replicate,
    List.dropWhile_append_of_pos]
  intro c hc
  rw [List.eq_of_mem_replicate hc]
  rfl

/-- **Names are compared without regard to capitals and dots at their end.** -/
theorem Respells.folded_eq {s s' : String} (h : Respells s s') : folded s' = folded s := by
  obtain ⟨cs, n, hcs, hs'⟩ := h
  have hlower : s.toList.map Char.toLower = cs.map Char.toLower := by
    rw [← List.forall₂_eq_eq_eq, List.forall₂_map_left_iff, List.forall₂_map_right_iff]
    exact hcs.imp fun _ _ hc => hc.toLower.symm
  refine folded_append_dots (n := n) ?_
  rw [hs', List.map_append, List.map_replicate, hlower]
  rfl

end Name

/-! ### Written names -/

namespace Reader

/-- Bytes that spell the same labels, up to ASCII capitals. -/
def SameLabels (a b : Bytes) : Prop :=
  ∃ ls ls', Spells a a ls a.length 0 ∧ Spells b b ls' b.length 0 ∧
    ls.map (List.map Text.lowerByte) = ls'.map (List.map Text.lowerByte)

theorem map_encode_lower (ls : List String) :
    (ls.map Text.encode).map (List.map Text.lowerByte) = (ls.map Name.lower).map Text.encode := by
  rw [List.map_map, List.map_map]
  exact List.map_congr_left fun l _ => (Text.encode_lower l).symm

theorem sameLabels_wire {a b : String} (ha : Name.Fits a) (hb : Name.Fits b) :
    SameLabels (Name.wire a) (Name.wire b) ↔
      (Name.labels a).map Name.lower = (Name.labels b).map Name.lower := by
  have hinj : Function.Injective Text.encode := fun _ _ => Text.encode_inj.1
  rw [← (List.map_injective_iff.2 hinj).eq_iff, ← map_encode_lower, ← map_encode_lower]
  constructor
  · rintro ⟨ls, ls', hls, hls', he⟩
    rwa [(hls.unique (spells_wire ha _)).1, (hls'.unique (spells_wire hb _)).1] at he
  · exact fun he => ⟨_, _, spells_wire ha _, spells_wire hb _, he⟩

/-- **The comparison of names and what is written of them.** Names that can be written are the same
exactly if the same labels are written, up to ASCII capitals, and their empty parts, those at the
end aside, stand at the same places. So the labels alone decide between names that have no such
parts, and these are the names that are the same as what is read back of them. -/
theorem same_iff_sameLabels {a b : String} {wa wb : Bytes} (ha : (Output.name a).complete = .ok wa)
    (hb : (Output.name b).complete = .ok wb) :
    (Name.same a b ↔ SameLabels wa wb ∧ Name.blanks a = Name.blanks b) ∧
      (Name.IsTidy (Name.trimEnd a) → Name.IsTidy (Name.trimEnd b) →
        (Name.same a b ↔ SameLabels wa wb)) ∧
      ∃ echo, Takes name wa echo ∧ (Name.same a echo ↔ Name.IsTidy (Name.trimEnd a)) := by
  obtain ⟨hfa, rfl⟩ := Output.complete_name.1 ha
  obtain ⟨hfb, rfl⟩ := Output.complete_name.1 hb
  rw [sameLabels_wire hfa hfb]
  exact ⟨Name.same_iff_labels, Name.same_iff_labels_of_tidy, Name.tidied a, takes_name hfa,
    Name.same_tidied_iff⟩

theorem same_iff_sameLabels_capitals :
    (Output.name "Web.local.").complete = .ok [3, 87, 101, 98, 5, 108, 111, 99, 97, 108, 0] ∧
      (Output.name "web.LOCAL").complete = .ok [3, 119, 101, 98, 5, 76, 79, 67, 65, 76, 0] ∧
      Name.IsTidy (Name.trimEnd "Web.local.") ∧ Name.IsTidy (Name.trimEnd "web.LOCAL") ∧
      Name.same "Web.local." "web.LOCAL" ∧
      SameLabels [3, 87, 101, 98, 5, 108, 111, 99, 97, 108, 0]
        [3, 119, 101, 98, 5, 76, 79, 67, 65, 76, 0] := by
  have hweb : (Output.name "Web.local.").complete =
      .ok [3, 87, 101, 98, 5, 108, 111, 99, 97, 108, 0] := by decide +kernel
  have hWEB : (Output.name "web.LOCAL").complete =
      .ok [3, 119, 101, 98, 5, 76, 79, 67, 65, 76, 0] := by decide +kernel
  have htidy : Name.IsTidy (Name.trimEnd "Web.local.") := by decide +kernel
  have htidy' : Name.IsTidy (Name.trimEnd "web.LOCAL") := by decide +kernel
  have hsame : Name.same "Web.local." "web.LOCAL" := Name.same_iff_toList.2 (by decide +kernel)
  exact ⟨hweb, hWEB, htidy, htidy', hsame,
    ((same_iff_sameLabels hweb hWEB).2.1 htidy htidy').1 hsame⟩

/-- A dot in front is not written, and it tells names apart. -/
theorem not_same_of_sameLabels :
    (Output.name ".a").complete = .ok [1, 97, 0] ∧ (Output.name "a").complete = .ok [1, 97, 0] ∧
      SameLabels [1, 97, 0] [1, 97, 0] ∧ ¬Name.same ".a" "a" ∧
      readAll name (Cursor.start [1, 97, 0]) = .ok "a" := by
  have hshort : ∀ l ∈ [([97] : Bytes)], 1 ≤ l.length ∧ l.length ≤ 63 := by decide
  have hspells := spells_uncompressed_self hshort [1, 97, 0]
  have hlabels : SameLabels [1, 97, 0] [1, 97, 0] := ⟨_, _, hspells, hspells, rfl⟩
  have hsame : ¬Name.same ".a" "a" := Name.same_iff_toList.not.2 (by decide +kernel)
  exact ⟨by decide +kernel, by decide +kernel, hlabels, hsame, by decide +kernel⟩

end Reader

end ServiceDiscovery
