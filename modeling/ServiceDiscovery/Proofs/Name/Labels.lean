import ServiceDiscovery.Name
import Mathlib.Data.List.Basic
import Mathlib.Data.List.DropRight

/-!
# Names and their labels

A name stands for its labels. Taking labels apart and putting them together again are inverse to
each other on labels without dots; on texts they drop the parts that are empty.

* `parts_ofLabels`, `ofLabels_parts`: parts and texts determine each other;
* `parts_append`, `labels_append`: texts with a dot between them;
* `labels_ofLabels`: labels are read off the name that they make up;
* `ofLabels_append_inj`: names that begin with the same labels;
* `tidied`: a name without its empty parts, `tidied_eq_self`: names that have none;
* `Undotted`, `undotted_trimEnd`: a text without the dots at its end;
* `labels_trimEnd`, `serviceLabels_trimEnd`: dots at the end say nothing.
-/

namespace ServiceDiscovery.Name

/-! ### Parts -/

/-- What can stand between the dots of a name: a text that is not empty and has no dot. -/
def IsLabel (l : String) : Prop := l ≠ "" ∧ '.' ∉ l.toList

instance (l : String) : Decidable (IsLabel l) :=
  inferInstanceAs (Decidable (l ≠ "" ∧ '.' ∉ l.toList))

theorem splitFrom_eq (cs current : List Char) (done : List (List Char)) :
    splitFrom cs current done =
      done.reverse ++ (cs.splitOn '.').modifyHead (current.reverse ++ ·) := by
  -- What is read of the current part stands in front of the first part that is still to come.
  induction cs generalizing current done with
  | nil => simp [splitFrom]
  | cons c cs ih =>
    have hne : cs.splitOn '.' ≠ [] := List.splitOn_ne_nil '.' cs
    rw [splitFrom, List.splitOn_cons_eq_if_modifyHead]
    by_cases hc : c = '.'
    · simp only [if_pos hc, ih, beq_iff_eq, List.reverse_cons, List.append_assoc]
      cases hs : cs.splitOn '.' <;> simp_all
    · simp only [if_neg hc, ih, beq_iff_eq, List.reverse_cons]
      cases hs : cs.splitOn '.' <;> simp_all

theorem toList_parts (s : String) : (parts s).map String.toList = s.toList.splitOn '.' := by
  have hid : (s.toList.splitOn '.').modifyHead ([] ++ ·) = s.toList.splitOn '.' := by
    cases s.toList.splitOn '.' <;> rfl
  have hf : String.toList ∘ String.ofList = id := funext fun cs => String.toList_ofList
  rw [parts, splitFrom_eq, List.map_map, hf, List.map_id, List.reverse_nil, List.nil_append,
    List.reverse_nil, hid]

theorem parts_ne_nil (s : String) : parts s ≠ [] := by
  intro he
  have hlist := toList_parts s
  rw [he] at hlist
  exact List.splitOn_ne_nil _ _ hlist.symm

theorem toList_ofLabels (ls : List String) :
    (ofLabels ls).toList = ['.'].intercalate (ls.map String.toList) := by
  rw [ofLabels, String.toList_intercalate]
  rfl

theorem map_toList_inj {ls ls' : List String}
    (h : ls.map String.toList = ls'.map String.toList) : ls = ls' :=
  List.map_injective_iff.2 (fun _ _ => String.toList_inj.1) h

theorem ofLabels_parts (s : String) : ofLabels (parts s) = s := by
  apply String.toList_inj.1
  rw [toList_ofLabels, toList_parts, List.intercalate_splitOn]

theorem parts_ofLabels {ls : List String} (h : ∀ l ∈ ls, '.' ∉ l.toList) (hne : ls ≠ []) :
    parts (ofLabels ls) = ls := by
  apply map_toList_inj
  rw [toList_parts, toList_ofLabels, List.splitOn_intercalate]
  · intro cs hcs
    obtain ⟨l, hl, rfl⟩ := List.mem_map.1 hcs
    exact h l hl
  · simpa using hne

/-- The parts of two texts with a dot between them. -/
theorem parts_append (s t : String) : parts (s ++ "." ++ t) = parts s ++ parts t := by
  apply map_toList_inj
  have hlist : (s ++ "." ++ t).toList = s.toList ++ '.' :: t.toList := by
    rw [String.toList_append, String.toList_append, List.append_assoc]
    rfl
  rw [toList_parts, hlist, List.splitOn_append_cons_self, List.map_append, toList_parts,
    toList_parts]

theorem splitFrom_dotless {cs current : List Char} {done : List (List Char)}
    (hc : '.' ∉ current) (hd : ∀ p ∈ done, '.' ∉ p) :
    ∀ p ∈ splitFrom cs current done, '.' ∉ p := by
  induction cs generalizing current done with
  | nil =>
    intro p hp
    simp only [splitFrom, List.mem_reverse, List.mem_cons] at hp
    rcases hp with rfl | hp
    · simpa using hc
    · exact hd p hp
  | cons c cs ih =>
    rw [splitFrom]
    split_ifs with h
    · refine ih (by simp) fun p hp => ?_
      rcases List.mem_cons.1 hp with rfl | hp
      · simpa using hc
      · exact hd p hp
    · exact ih (by simp [hc, Ne.symm h]) hd

theorem dotless_of_mem_parts {s p : String} (h : p ∈ parts s) : '.' ∉ p.toList := by
  obtain ⟨cs, hcs, rfl⟩ := List.mem_map.1 h
  rw [String.toList_ofList]
  exact splitFrom_dotless (by simp) (by simp) cs hcs

/-! ### Labels -/

theorem isLabel_of_mem_labels {s l : String} (h : l ∈ labels s) : IsLabel l := by
  obtain ⟨hp, hne⟩ := List.mem_filter.1 h
  exact ⟨by simpa using hne, dotless_of_mem_parts hp⟩

theorem labels_append (s t : String) : labels (s ++ "." ++ t) = labels s ++ labels t := by
  rw [labels, parts_append, List.filter_append, ← labels, ← labels]

/-- **Labels are read off the name that they make up.** -/
theorem labels_ofLabels {ls : List String} (h : ∀ l ∈ ls, IsLabel l) :
    labels (ofLabels ls) = ls := by
  rcases eq_or_ne ls [] with rfl | hne
  · rfl
  · rw [labels, parts_ofLabels (fun l hl => (h l hl).2) hne, List.filter_eq_self]
    intro l hl
    simpa using (h l hl).1

/-- A name without its empty parts. -/
def tidied (s : String) : String := ofLabels (labels s)

/-- A name that has no empty part: none at all, or only parts that are not empty. -/
def IsTidy (s : String) : Prop := s = "" ∨ "" ∉ parts s

instance (s : String) : Decidable (IsTidy s) := inferInstanceAs (Decidable (s = "" ∨ "" ∉ parts s))

@[simp]
theorem labels_tidied (s : String) : labels (tidied s) = labels s :=
  labels_ofLabels fun _ => isLabel_of_mem_labels

/-- Without empty parts, all parts are labels. -/
theorem labels_eq_parts {s : String} (h : "" ∉ parts s) : labels s = parts s := by
  rw [labels, List.filter_eq_self]
  intro p hp
  simpa using fun he : p = "" => h (he ▸ hp)

theorem tidied_eq_self {s : String} (h : IsTidy s) : tidied s = s := by
  rcases h with rfl | h
  · rfl
  · rw [tidied, labels_eq_parts h, ofLabels_parts]

theorem isTidy_ofLabels {ls : List String} (h : ∀ l ∈ ls, IsLabel l) : IsTidy (ofLabels ls) := by
  rcases eq_or_ne ls [] with rfl | hne
  · exact .inl rfl
  · refine .inr fun he => ?_
    rw [parts_ofLabels (fun l hl => (h l hl).2) hne] at he
    exact (h "" he).1 rfl

/-! ### Labels in two groups -/

theorem ofLabels_append {ls ls' : List String} (h : ls ≠ []) (h' : ls' ≠ []) :
    ofLabels (ls ++ ls') = ofLabels ls ++ "." ++ ofLabels ls' :=
  String.intercalate_append_of_ne_nil h h'

theorem toList_ofLabels_append {ls ls' : List String} (h : ls ≠ []) (h' : ls' ≠ []) :
    (ofLabels (ls ++ ls')).toList = (ofLabels ls).toList ++ '.' :: (ofLabels ls').toList := by
  rw [ofLabels_append h h', String.toList_append, String.toList_append, List.append_assoc]
  rfl

theorem ofLabels_eq_empty_iff {ls : List String} (h : ∀ l ∈ ls, l ≠ "") :
    ofLabels ls = "" ↔ ls = [] := by
  constructor
  · intro he
    by_contra hne
    obtain ⟨l, ls, rfl⟩ := List.exists_cons_of_ne_nil hne
    have hl : l ≠ "" := h l List.mem_cons_self
    rcases eq_or_ne ls [] with rfl | hls
    · rw [ofLabels, String.intercalate_singleton] at he
      exact hl he
    · have happend := toList_ofLabels_append (List.cons_ne_nil l []) hls
      rw [List.singleton_append, he] at happend
      exact absurd happend.symm (List.append_ne_nil_of_right_ne_nil _ (List.cons_ne_nil _ _))
  · rintro rfl
    rfl

theorem ofLabels_append_ne {ls ls' : List String} (h : ls ≠ []) (h' : ls' ≠ []) :
    ofLabels (ls ++ ls') ≠ ofLabels ls := by
  intro he
  have hlen := congrArg (fun s : String => s.toList.length) he
  simp only [toList_ofLabels_append h h', List.length_append, List.length_cons] at hlen
  omega

/-- Behind the same labels, the same name is put together from labels that make up the same name. -/
theorem ofLabels_append_inj (ls : List String) {ms ms' : List String} (h : ∀ l ∈ ms, l ≠ "")
    (h' : ∀ l ∈ ms', l ≠ "") :
    ofLabels (ls ++ ms) = ofLabels (ls ++ ms') ↔ ofLabels ms = ofLabels ms' := by
  rcases eq_or_ne ls [] with rfl | hls
  · rfl
  rcases eq_or_ne ms [] with rfl | hms <;> rcases eq_or_ne ms' [] with rfl | hms'
  · exact iff_of_true rfl rfl
  · rw [List.append_nil]
    exact iff_of_false (ofLabels_append_ne hls hms').symm
      fun he => hms' ((ofLabels_eq_empty_iff h').1 he.symm)
  · rw [List.append_nil]
    exact iff_of_false (ofLabels_append_ne hls hms)
      fun he => hms ((ofLabels_eq_empty_iff h).1 he)
  · rw [← String.toList_inj, toList_ofLabels_append hls hms, toList_ofLabels_append hls hms',
      List.append_right_inj, List.cons_inj_right, String.toList_inj]

/-! ### Dots at the end -/

/-- A name is what it is without the dots at its end, and so many dots. -/
theorem exists_trimEnd (s : String) :
    ∃ n, s.toList = (trimEnd s).toList ++ List.replicate n '.' := by
  refine ⟨(s.toList.reverse.takeWhile (· = '.')).length, ?_⟩
  have hdots : s.toList.reverse.takeWhile (· = '.') =
      List.replicate (s.toList.reverse.takeWhile (· = '.')).length '.' :=
    List.eq_replicate_iff.2 ⟨rfl, fun c hc => by simpa using List.mem_takeWhile_imp hc⟩
  rw [← List.reverse_inj, trimEnd, String.toList_ofList, List.reverse_append,
    List.reverse_reverse, List.reverse_replicate, ← hdots, List.takeWhile_append_dropWhile]

/-- `t` is `s` without the dots at its end. -/
structure Undotted (s t : String) : Prop where
  last : t.toList.getLast? ≠ some '.'
  dots : ∃ n, s.toList = t.toList ++ List.replicate n '.'

theorem Undotted.refl {s : String} (h : s.toList.getLast? ≠ some '.') : Undotted s s :=
  ⟨h, 0, (List.append_nil _).symm⟩

theorem undotted_trimEnd (s : String) : Undotted s (trimEnd s) := by
  refine ⟨fun hdot => ?_, exists_trimEnd s⟩
  rw [trimEnd, String.toList_ofList, List.getLast?_reverse] at hdot
  have hnot := List.head?_dropWhile_not (fun c => decide (c = '.')) s.toList.reverse
  rw [hdot] at hnot
  simp at hnot

theorem trimEnd_of_undotted {s t : String} (h : Undotted s t) : trimEnd s = t := by
  obtain ⟨hlast, n, hn⟩ := h
  have hdots : ∀ c ∈ List.replicate n '.', decide (c = '.') = true := fun c hc => by
    rw [List.eq_of_mem_replicate hc]
    rfl
  rw [← List.head?_reverse] at hlast
  have hstay : t.toList.reverse.dropWhile (fun c => decide (c = '.')) = t.toList.reverse := by
    cases hcs : t.toList.reverse with
    | nil => rfl
    | cons c cs =>
      rw [hcs] at hlast
      exact List.dropWhile_cons_of_neg fun hc => hlast (by simpa using hc)
  rw [trimEnd, hn, List.reverse_append, List.reverse_replicate, List.dropWhile_append_of_pos hdots,
    hstay, List.reverse_reverse, String.ofList_toList]

theorem splitOn_append_dots (cs : List Char) (n : Nat) :
    (cs ++ List.replicate n '.').splitOn '.' = cs.splitOn '.' ++ List.replicate n [] := by
  induction n generalizing cs with
  | zero => simp
  | succ n ih =>
    have h := ih []
    simp only [List.nil_append, List.splitOn_nil] at h
    rw [List.replicate_succ, List.splitOn_append_cons_self, h]
    rfl

theorem exists_parts_trimEnd (s : String) :
    ∃ n, parts s = parts (trimEnd s) ++ List.replicate n "" := by
  obtain ⟨n, hn⟩ := exists_trimEnd s
  refine ⟨n, map_toList_inj ?_⟩
  rw [toList_parts, hn, splitOn_append_dots, List.map_append, toList_parts, List.map_replicate]
  rfl

theorem labels_trimEnd (s : String) : labels (trimEnd s) = labels s := by
  obtain ⟨n, hn⟩ := exists_parts_trimEnd s
  rw [labels, labels, hn, List.filter_append, List.filter_replicate]
  simp

theorem same_self (s : String) : same s s := decide_eq_true rfl

theorem trimEnd_trimEnd (s : String) : trimEnd (trimEnd s) = trimEnd s := by
  simp only [trimEnd, String.toList_ofList, List.reverse_reverse, List.dropWhile_idempotent]

/-- A name that only dots at the end keep from being tidy is tidied by dropping them. -/
theorem tidied_eq_trimEnd {s : String} (h : IsTidy (trimEnd s)) : tidied s = trimEnd s := by
  rw [tidied, ← labels_trimEnd, ← tidied, tidied_eq_self h]

theorem firstUnderscoredPair_append_empty (ps : List String) :
    firstUnderscoredPair (ps ++ [""]) = firstUnderscoredPair ps := by
  fun_induction firstUnderscoredPair ps with
  | case1 a b ps h => rw [List.cons_append, List.cons_append, firstUnderscoredPair, if_pos h]
  | case2 a b ps h ih => rw [List.cons_append, List.cons_append, firstUnderscoredPair, if_neg h, ← ih,
      List.cons_append]
  | case3 ps h =>
    match ps, h with
    | [], _ => rfl
    | [a], _ => simp [firstUnderscoredPair, isUnderscored]
    | a :: b :: ps, h => exact absurd rfl (h a b ps)

theorem firstUnderscoredPair_append_replicate (ps : List String) (n : Nat) :
    firstUnderscoredPair (ps ++ List.replicate n "") = firstUnderscoredPair ps := by
  induction n with
  | zero => simp
  | succ n ih =>
    rw [List.replicate_succ', ← List.append_assoc, firstUnderscoredPair_append_empty, ih]

theorem serviceLabels_trimEnd (s : String) : serviceLabels (trimEnd s) = serviceLabels s := by
  obtain ⟨n, hn⟩ := exists_parts_trimEnd s
  rw [serviceLabels, serviceLabels, hn, firstUnderscoredPair_append_replicate]

end ServiceDiscovery.Name
