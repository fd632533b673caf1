import ServiceDiscovery.Address.Basic
import ServiceDiscovery.Proofs.Text.Digits

/-!
# Addresses can be told apart by their texts

The numbers of an IPv4 address end at dots. In an IPv6 address the groups end at colons: the ones in
front of the first empty place are those before the zeros that are left out, the other ones those
behind, and as there are eight groups it is known how many zeros are left out. A text with a dot is
that of an embedded IPv4 address.

* `Ipv4.text_inj`;
* `Ipv6.IsRun`, `Ipv6.isRun_longestRun`: what is left out is zero;
* `Ipv6.shown`, `Ipv6.groups_eq_shown`: the groups by the ones that are written;
* `Ipv6.text_inj`.
-/

namespace ServiceDiscovery

/-! ### IPv4 -/

namespace Ipv4

theorem toList_text (x : Ipv4) :
    x.text.toList = Nat.toDigits 10 x.a.toNat ++ '.' :: (Nat.toDigits 10 x.b.toNat ++
      '.' :: (Nat.toDigits 10 x.c.toNat ++ '.' :: Nat.toDigits 10 x.d.toNat)) := by
  simp [text, Text.toList_toString_byte]

/-- **IPv4 addresses with the same text are equal.** -/
theorem text_inj {x y : Ipv4} : x.text = y.text ↔ x = y := by
  refine ⟨fun h => ?_, fun h => h ▸ rfl⟩
  have hdigit : ∀ d, Nat.digitChar d ≠ '.' := fun _ => Nat.digitChar_ne _ rfl
  have hlist := congrArg String.toList h
  rw [toList_text, toList_text] at hlist
  obtain ⟨ha, hlist⟩ := Text.toDigits_append_inj (by decide) (by decide) hdigit hlist
  obtain ⟨hb, hlist⟩ := Text.toDigits_append_inj (by decide) (by decide) hdigit hlist
  obtain ⟨hc, hlist⟩ := Text.toDigits_append_inj (by decide) (by decide) hdigit hlist
  have hd := (Text.toDigits_inj (by decide) (by decide)).1 hlist
  obtain ⟨a, b, c, d⟩ := x
  rw [mk.injEq]
  exact ⟨UInt8.toNat_inj.1 ha, UInt8.toNat_inj.1 hb, UInt8.toNat_inj.1 hc, UInt8.toNat_inj.1 hd⟩

end Ipv4

namespace Ipv6

/-! ### Runs of zeros -/

variable {vs groups : List UInt16} {index : Nat} {run current longest : Run}

/-- The groups that a run stands for are zero. -/
def IsRun (vs : List UInt16) (run : Run) : Prop :=
  ∀ i, run.start ≤ i → i < run.start + run.length → vs[i]? = some 0

theorem isRun_none : IsRun vs ⟨0, 0⟩ := fun i _ hi => absurd hi (by simp)

/-- A run with the zero behind it, or a new run. -/
def Run.extended (current : Run) (index : Nat) : Run :=
  if current.length = 0 then ⟨index, 1⟩ else ⟨current.start, current.length + 1⟩

theorem longestRun_zero (groups : List UInt16) (index : Nat) (current longest : Run) :
    longestRun (0 :: groups) index current longest =
      longestRun groups (index + 1) (current.extended index)
        (if (current.extended index).length > longest.length then current.extended index
          else longest) := rfl

theorem longestRun_of_ne {group : UInt16} (h : group ≠ 0) :
    longestRun (group :: groups) index current longest =
      longestRun groups (index + 1) ⟨0, 0⟩ longest := if_neg h

/-- A run that there is ends right in front of a place. -/
def Run.EndsAt (current : Run) (index : Nat) : Prop :=
  current.length = 0 ∨ current.start + current.length = index

theorem Run.EndsAt.extended (h : current.EndsAt index) :
    (current.extended index).EndsAt (index + 1) := by
  refine .inr ?_
  unfold Run.extended
  split_ifs with hnone
  · rfl
  · have hend := h.resolve_left hnone
    show current.start + (current.length + 1) = index + 1
    omega

theorem IsRun.extended (h : IsRun vs current) (hend : current.EndsAt index)
    (hzero : vs[index]? = some 0) : IsRun vs (current.extended index) := by
  unfold Run.extended
  split_ifs with hnone
  · intro i hle hlt
    obtain rfl : i = index := Nat.le_antisymm (Nat.le_of_lt_succ hlt) hle
    exact hzero
  · intro i hle hlt
    rcases Nat.lt_succ_iff_lt_or_eq.1 hlt with hlt | rfl
    · exact h i hle hlt
    · show vs[current.start + current.length]? = some 0
      rwa [hend.resolve_left hnone]

/-- **The longest run is a run.** -/
theorem isRun_longestRun (hrest : vs.drop index = groups) (hcurrent : IsRun vs current)
    (hend : current.EndsAt index) (hlongest : IsRun vs longest) :
    IsRun vs (longestRun groups index current longest) := by
  induction groups generalizing index current longest with
  | nil => exact hlongest
  | cons group groups ih =>
    have hrest' : vs.drop (index + 1) = groups := by
      rw [← List.drop_drop, hrest, List.drop_succ_cons, List.drop_zero]
    have hgroup : vs[index]? = some group := by
      rw [← Nat.add_zero index, ← List.getElem?_drop, hrest, List.getElem?_cons_zero]
    by_cases hzero : group = 0
    · subst hzero
      have hextended := hcurrent.extended hend hgroup
      rw [longestRun_zero]
      refine ih hrest' hextended hend.extended ?_
      split_ifs
      · exact hextended
      · exact hlongest
    · rw [longestRun_of_ne hzero]
      exact ih hrest' isRun_none (.inl rfl) hlongest

/-- A run put back between what is before and behind it. -/
theorem IsRun.eq_append (h : IsRun vs run) :
    vs = vs.take run.start ++ (List.replicate run.length 0 ++ vs.drop (run.start + run.length)) := by
  have hzeros : (vs.drop run.start).take run.length = List.replicate run.length 0 := by
    apply List.ext_getElem?
    intro i
    rw [List.getElem?_take, List.getElem?_replicate, List.getElem?_drop]
    split_ifs with hi
    · exact h _ (by omega) (by omega)
    · rfl
  rw [← hzeros, ← List.drop_drop, List.take_append_drop, List.take_append_drop]

/-! ### What is written -/

/-- The groups that are written in front of the zeros that are left out, and those behind them. -/
def shown (x : Ipv6) : List UInt16 × List UInt16 :=
  let run := longestRun x.groups 0 ⟨0, 0⟩ ⟨0, 0⟩
  if run.length > 1 then (x.groups.take run.start, x.groups.drop (run.start + run.length))
  else (x.groups, [])

/-- The groups that are written, with zeros in between that make them eight. -/
def filled (front back : List UInt16) : List UInt16 :=
  front ++ (List.replicate (8 - (front ++ back).length) 0 ++ back)

/-- **The groups are the ones that are written, with zeros in between.** -/
theorem groups_eq_filled (x : Ipv6) : x.groups = filled x.shown.1 x.shown.2 := by
  have hrun : IsRun x.groups (longestRun x.groups 0 ⟨0, 0⟩ ⟨0, 0⟩) :=
    isRun_longestRun rfl isRun_none (.inl rfl) isRun_none
  have hlength : x.groups.length = 8 := rfl
  unfold shown filled
  generalize longestRun x.groups 0 ⟨0, 0⟩ ⟨0, 0⟩ = run at hrun
  simp only
  split_ifs with hlong
  · have happend := hrun.eq_append
    have hcount := congrArg List.length happend
    simp only [List.length_append, List.length_replicate] at hcount ⊢
    rw [hlength] at hcount
    have hzeros : 8 - ((x.groups.take run.start).length +
        (x.groups.drop (run.start + run.length)).length) = run.length := by omega
    rw [hzeros]
    exact happend
  · simp [hlength]

theorem groups_inj {x y : Ipv6} (h : x.groups = y.groups) : x = y := by
  obtain ⟨⟩ := x
  obtain ⟨⟩ := y
  simpa [groups] using h

/-! ### IPv6 -/

def groupDigits (group : UInt16) : List Char := Nat.toDigits 16 group.toNat

theorem groupDigits_injective : Function.Injective groupDigits := fun _ _ h =>
  UInt16.toNat_inj.1 ((Text.toDigits_inj (by decide) (by decide)).1 h)

theorem groupDigits_ne_nil (group : UInt16) : groupDigits group ≠ [] := Nat.toDigits_ne_nil

theorem notMem_groupDigits {c : Char} (hc : ∀ d, Nat.digitChar d ≠ c) (group : UInt16) :
    c ∉ groupDigits group := Text.notMem_toDigits (by decide) hc _

theorem toList_groupsText (vs : List UInt16) :
    (groupsText vs).toList = [':'].intercalate (vs.map groupDigits) := by
  have hdigits : String.toList ∘ (fun v : UInt16 => String.ofList (Nat.toDigits 16 v.toNat)) =
      groupDigits := funext fun _ => String.toList_ofList
  rw [groupsText, String.toList_intercalate, List.map_map, hdigits]
  rfl

/-- What stands between the colons of groups. -/
def pieces (vs : List UInt16) : List (List Char) := if vs = [] then [[]] else vs.map groupDigits

theorem splitOn_groupsText (vs : List UInt16) : (groupsText vs).toList.splitOn ':' = pieces vs := by
  rw [toList_groupsText, pieces]
  split_ifs with hvs
  · rw [hvs]
    rfl
  · refine List.splitOn_intercalate ':' ?_ fun hmap => hvs (List.map_eq_nil_iff.1 hmap)
    exact List.forall_mem_map.2 fun _ _ => notMem_groupDigits (fun _ => Nat.digitChar_ne _ rfl) _

/-- The pieces in front of the first empty one. -/
def frontPieces (ps : List (List Char)) : List (List Char) := ps.takeWhile (!·.isEmpty)

def fullPieces (ps : List (List Char)) : List (List Char) := ps.filter (!·.isEmpty)

theorem full_of_mem_groupDigits (vs : List UInt16) :
    ∀ p ∈ vs.map groupDigits, (!p.isEmpty) = true :=
  List.forall_mem_map.2 fun v _ => by simp [groupDigits_ne_nil v]

theorem frontPieces_pieces (vs : List UInt16) (ps : List (List Char)) :
    frontPieces (pieces vs ++ [] :: ps) = vs.map groupDigits := by
  rw [frontPieces, pieces]
  split_ifs with hvs
  · rw [hvs]
    rfl
  · rw [List.takeWhile_append_of_pos (full_of_mem_groupDigits vs),
      List.takeWhile_cons_of_neg (by simp), List.append_nil]

theorem frontPieces_map (vs : List UInt16) :
    frontPieces (vs.map groupDigits) = vs.map groupDigits := by
  rw [frontPieces, ← List.append_nil (vs.map groupDigits),
    List.takeWhile_append_of_pos (full_of_mem_groupDigits vs), List.takeWhile_nil]

theorem fullPieces_pieces (vs : List UInt16) : fullPieces (pieces vs) = vs.map groupDigits := by
  rw [fullPieces, pieces]
  split_ifs with hvs
  · rw [hvs]
    rfl
  · exact List.filter_eq_self.2 (full_of_mem_groupDigits vs)

variable {x y : Ipv6}

/-- **The groups that are written can be read between the colons.** -/
theorem pieces_text (h : x.mapped? = none) :
    frontPieces (x.text.toList.splitOn ':') = x.shown.1.map groupDigits ∧
      fullPieces (x.text.toList.splitOn ':') = (x.shown.1 ++ x.shown.2).map groupDigits := by
  unfold text shown
  rw [h]
  simp only
  split_ifs with hlong
  · -- The two colons in a row end the groups in front and leave nothing between them.
    generalize x.groups.take _ = front
    generalize x.groups.drop _ = back
    have hsplit : (groupsText front ++ "::" ++ groupsText back).toList.splitOn ':' =
        pieces front ++ [] :: pieces back := by
      have hlist : (groupsText front ++ "::" ++ groupsText back).toList =
          (groupsText front).toList ++ ':' :: ([] ++ ':' :: (groupsText back).toList) := by simp
      rw [hlist, List.splitOn_append_cons_self, List.splitOn_append_cons_self, splitOn_groupsText,
        splitOn_groupsText]
      rfl
    rw [hsplit, frontPieces_pieces]
    refine ⟨rfl, ?_⟩
    rw [List.map_append, ← fullPieces_pieces front, ← fullPieces_pieces back]
    simp [fullPieces]
  · have hgroups : pieces x.groups = x.groups.map groupDigits := if_neg (List.cons_ne_nil _ _)
    rw [splitOn_groupsText, List.append_nil, fullPieces_pieces, hgroups, frontPieces_map]
    exact ⟨rfl, rfl⟩

theorem notMem_groupsText {c : Char} (hcolon : c ≠ ':') (hc : ∀ d, Nat.digitChar d ≠ c)
    (vs : List UInt16) : c ∉ (groupsText vs).toList := by
  rw [toList_groupsText]
  induction vs with
  | nil => exact List.not_mem_nil
  | cons v vs ih =>
    rcases eq_or_ne vs [] with rfl | hne
    · simpa using notMem_groupDigits hc v
    · have hmap : vs.map groupDigits ≠ [] := fun he => hne (List.map_eq_nil_iff.1 he)
      rw [List.map_cons, List.intercalate_cons_of_ne_nil hmap, List.mem_append, List.mem_append,
        List.mem_singleton]
      rintro ((hv | hv) | hvs)
      · exact notMem_groupDigits hc v hv
      · exact hcolon hv
      · exact ih hvs

/-- **Only a text with an IPv4 address in it has a dot.** -/
theorem dot_mem_text : '.' ∈ x.text.toList ↔ x.mapped? ≠ none := by
  have hgroups : ∀ vs, '.' ∉ (groupsText vs).toList :=
    notMem_groupsText (by decide) fun _ => Nat.digitChar_ne _ rfl
  unfold text
  cases x.mapped? with
  | none =>
    simp only
    split_ifs <;> simp [hgroups]
  | some v4 => simp [Ipv4.toList_text]

/-- The groups of an embedded address. -/
theorem groups_of_mapped {v4 : Ipv4} (h : x.mapped? = some v4) :
    x.groups = [0, 0, 0, 0, 0, 0xFFFF, Bytes.toWord v4.a v4.b, Bytes.toWord v4.c v4.d] := by
  unfold mapped? at h
  split_ifs at h with hmark
  obtain rfl := Option.some.inj h
  simp only [List.cons.injEq, and_true] at hmark
  simp [groups, hmark, Bytes.toWord_ofWord]

/-- **IPv6 addresses with the same text are equal.** -/
theorem text_inj : x.text = y.text ↔ x = y := by
  refine ⟨fun h => ?_, fun h => h ▸ rfl⟩
  apply groups_inj
  have hdot : x.mapped? ≠ none ↔ y.mapped? ≠ none := by rw [← dot_mem_text, h, dot_mem_text]
  cases hx : x.mapped? with
  | none =>
    have hy : y.mapped? = none := by simpa [hx] using hdot
    obtain ⟨hfront, hfull⟩ := pieces_text hx
    obtain ⟨hfront', hfull'⟩ := pieces_text hy
    rw [h, hfront'] at hfront
    rw [h, hfull'] at hfull
    have hmap := List.map_injective_iff.2 groupDigits_injective
    have hshown := hmap hfull
    rw [hmap hfront] at hshown
    rw [groups_eq_filled x, groups_eq_filled y, ← hmap hfront, List.append_cancel_left hshown]
  | some v4 =>
    obtain ⟨v4', hy⟩ := Option.ne_none_iff_exists'.1 (hdot.1 (by simp [hx]))
    have hv4 : v4.text = v4'.text := by
      rw [text, text, hx, hy] at h
      exact String.append_right_inj _ |>.1 h
    rw [groups_of_mapped hx, groups_of_mapped hy, Ipv4.text_inj.1 hv4]

end Ipv6

end ServiceDiscovery
