import ServiceDiscovery.Query
import ServiceDiscovery.Proofs.Name.Labels

/-!
# Names of services

A name that is put together from labels has no dots at its ends, lies under the name of its later
labels, and tells its domain by the first transport protocol among them.

* `trimEnd_eq_self`, `trim_ofLabels`: there are no dots to drop;
* `isUnder_iff_exists`, `isUnder_ofLabels`: which names lie under another one;
* `domain_eq`, `domain_ofLabels`: the domain of an instance;
* `Query.qualify_eq_self`: a service name that ends in the domain of a query stays as it is.
-/

namespace ServiceDiscovery

namespace Name

/-! ### Labels and dots -/

theorem ofLabels_cons {l : String} {ls : List String} (h : ls ≠ []) :
    ofLabels (l :: ls) = l ++ "." ++ ofLabels ls :=
  String.intercalate_cons_of_ne_nil h

theorem toList_ofLabels_cons {l : String} {ls : List String} (h : ls ≠ []) :
    (ofLabels (l :: ls)).toList = l.toList ++ '.' :: (ofLabels ls).toList := by
  rw [ofLabels_cons h, String.toList_append, String.toList_append, List.append_assoc]
  rfl

theorem trimEnd_eq_self {s : String} (h : IsTidy s) : trimEnd s = s := by
  rcases h with rfl | h
  · rfl
  · obtain ⟨n, hn⟩ := exists_trimEnd s
    rcases n with _ | n
    · exact (String.toList_inj.1 (by rw [hn, List.replicate_zero, List.append_nil])).symm
    · -- With a dot at the end, the last part would be empty.
      have hparts : (parts s).map String.toList =
          (trimEnd s).toList.splitOn '.' ++ List.replicate (n + 1) [] := by
        rw [toList_parts, hn, splitOn_append_dots]
      have hmem : [] ∈ (parts s).map String.toList := by
        rw [hparts]
        exact List.mem_append_right _ (List.mem_replicate.2 ⟨Nat.succ_ne_zero n, rfl⟩)
      obtain ⟨p, hp, he⟩ := List.mem_map.1 hmem
      rw [String.toList_eq_nil_iff] at he
      exact absurd (he ▸ hp) h

theorem head_ofLabels {l : String} (h : IsLabel l) (ls : List String) :
    ∃ c cs, (ofLabels (l :: ls)).toList = c :: cs ∧ c ≠ '.' := by
  obtain ⟨c, cs, hl⟩ := List.exists_cons_of_ne_nil fun he => h.1 (String.toList_eq_nil_iff.1 he)
  have hc : c ≠ '.' := fun he => h.2 (by rw [hl, he]; exact List.mem_cons_self)
  rcases eq_or_ne ls [] with rfl | hne
  · refine ⟨c, cs, ?_, hc⟩
    rw [ofLabels, String.intercalate_singleton, hl]
  · exact ⟨c, cs ++ '.' :: (ofLabels ls).toList, by rw [toList_ofLabels_cons hne, hl]; rfl, hc⟩

theorem trim_ofLabels {ls : List String} (h : ∀ l ∈ ls, IsLabel l) :
    trim (ofLabels ls) = ofLabels ls := by
  have hd : String.ofList ((ofLabels ls).toList.dropWhile (· = '.')) = ofLabels ls := by
    rcases ls with _ | ⟨l, ls⟩
    · rfl
    · obtain ⟨c, cs, hcs, hc⟩ := head_ofLabels (List.forall_mem_cons.1 h).1 ls
      rw [hcs, List.dropWhile_cons_of_neg (by simpa using hc), ← hcs, String.ofList_toList]
  rw [trim, hd, trimEnd_eq_self (isTidy_ofLabels h)]

theorem toList_folded {s : String} (h : IsTidy s) :
    (folded s).toList = s.toList.map Char.toLower := by
  rw [folded, trimEnd_eq_self h, lower, String.toList_map]

theorem ofLabels_ne_empty {ls : List String} (h : ∀ l ∈ ls, IsLabel l) (hne : ls ≠ []) :
    ofLabels ls ≠ "" := by
  obtain ⟨l, ls, rfl⟩ := List.exists_cons_of_ne_nil hne
  obtain ⟨c, cs, hcs, -⟩ := head_ofLabels (List.forall_mem_cons.1 h).1 ls
  intro he
  rw [he] at hcs
  cases hcs

/-! ### Instances and domains -/

/-- **A name lies under another one if it is a text that is not empty, a dot and the other name**,
as far as names are compared. -/
theorem isUnder_iff_exists {name parent : String} :
    isUnder name parent ↔ ∃ front ≠ "", folded name = front ++ "." ++ folded parent := by
  simp only [isUnder, Bool.and_eq_true, decide_eq_true_eq, List.isSuffixOf_iff_suffix]
  constructor
  · rintro ⟨⟨⟨front, hfront⟩, hlength⟩, hdot⟩
    rw [← hfront, List.length_append, Nat.add_sub_cancel, List.take_left] at hlength hdot
    obtain ⟨cs, rfl⟩ := List.getLast?_eq_some_iff.1 hdot
    refine ⟨String.ofList cs, ?_, String.toList_inj.1 ?_⟩
    · rintro he
      have hnil : cs = [] := by simpa using congrArg String.toList he
      rw [hnil] at hlength
      simp at hlength
    · rw [String.toList_append, String.toList_append, String.toList_ofList, ← hfront]
      rfl
  · rintro ⟨front, hne, he⟩
    have hlist : (folded name).toList = (front.toList ++ ['.']) ++ (folded parent).toList := by
      rw [he, String.toList_append, String.toList_append]
      rfl
    have hlength : 0 < front.toList.length :=
      List.length_pos_of_ne_nil fun h => hne (String.toList_eq_nil_iff.1 h)
    rw [hlist, List.length_append, Nat.add_sub_cancel, List.take_left]
    refine ⟨⟨List.suffix_append _ _, ?_⟩, ?_⟩
    · rw [List.length_append, List.length_singleton]
      omega
    · rw [List.getLast?_append]
      rfl

/-- A name with one more label in front lies under it. -/
theorem isUnder_ofLabels {l : String} {ls : List String} (hl : IsLabel l)
    (h : ∀ l ∈ ls, IsLabel l) (hne : ls ≠ []) : isUnder (ofLabels (l :: ls)) (ofLabels ls) := by
  refine isUnder_iff_exists.2 ⟨lower l, fun he => hl.1 ?_, String.toList_inj.1 ?_⟩
  · rwa [← String.toList_eq_nil_iff, lower, String.toList_map, List.map_eq_nil_iff,
      String.toList_eq_nil_iff] at he
  · rw [toList_folded (isTidy_ofLabels (List.forall_mem_cons.2 ⟨hl, h⟩)), toList_ofLabels_cons hne,
      String.toList_append, String.toList_append, toList_folded (isTidy_ofLabels h), lower,
      String.toList_map, List.map_append, List.append_assoc]
    rfl

/-- The domain of an instance are the labels after the first transport protocol. -/
theorem domain_eq {s t : String} {before after : List String}
    (h : labels s = before ++ t :: after) (hb : ∀ l ∈ before, isTransport l = false)
    (ht : isTransport t) (hne : after ≠ []) : domain s = ofLabels after := by
  have hdrop : (before ++ t :: after).dropWhile (fun l => !isTransport l) = t :: after := by
    rw [List.dropWhile_append_of_pos (fun l hl => by rw [hb l hl]; rfl),
      List.dropWhile_cons_of_neg (by rw [ht]; decide)]
  obtain ⟨l, after, rfl⟩ := List.exists_cons_of_ne_nil hne
  simp only [domain, aroundTransport?, h, hdrop]

theorem domain_ofLabels {before after : List String} {t : String}
    (hb : ∀ l ∈ before, IsLabel l ∧ isTransport l = false) (ht : IsLabel t ∧ isTransport t)
    (ha : ∀ l ∈ after, IsLabel l) (hne : after ≠ []) :
    domain (ofLabels (before ++ t :: after)) = ofLabels after := by
  have hls : ∀ l ∈ before ++ t :: after, IsLabel l :=
    List.forall_mem_append.2 ⟨fun l hl => (hb l hl).1, List.forall_mem_cons.2 ⟨ht.1, ha⟩⟩
  exact domain_eq (labels_ofLabels hls) (fun l hl => (hb l hl).2) ht.2 hne

end Name

/-- A service name that ends in the domain of the query stays as it is. -/
theorem Query.qualify_eq_self {front domain : List String} (h : ∀ l ∈ front ++ domain, Name.IsLabel l)
    (hf : front ≠ []) (hd : domain ≠ []) :
    qualify (Name.ofLabels domain) (Name.ofLabels (front ++ domain)) =
      Name.ofLabels (front ++ domain) := by
  have hends : Name.endsWith (Name.lower (Name.ofLabels (front ++ domain)))
      (Name.lower ("." ++ Name.ofLabels domain)) := by
    rw [Name.endsWith, List.isSuffixOf_iff_suffix]
    simp only [Name.lower, String.toList_map, Name.toList_ofLabels_append hf hd,
      String.toList_append, List.map_append]
    exact List.suffix_append _ _
  simp only [qualify, Name.trimEnd_eq_self (Name.isTidy_ofLabels h), hends, Bool.or_true, if_true]

end ServiceDiscovery
