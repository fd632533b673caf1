import ServiceDiscovery.Message.Comparison
import ServiceDiscovery.Proofs.Name.Comparison
import ServiceDiscovery.Proofs.Record.Content
import Mathlib.Data.List.Perm.Subperm

/-!
# When messages say the same

Entries are compared by keys: questions by their folded name, type and class, records by their type,
their folded name and their data as shown. Sections are the same if they have the same length and
their keys occur in each other. So the comparison of messages is an equivalence that depends neither
on the order of entries nor on the spelling of names; and if no key occurs twice, the keys of the
sections are permutations of each other.

* `ComparesBy`, `sameEntries_iff`: the comparison of sections, by keys;
* `Rearranged`, `sameEntries_iff_rearranged`: entries in another order;
* `Question.comparesBy_key`, `Record.comparesBy_key`: the keys;
* `Question.Respells`, `Record.Respells`: entries whose names are spelled in another way;
* `Message.Matches`, `Message.same_laws`: messages, section by section.
-/

namespace ServiceDiscovery

/-! ### Entries in any order -/

section Entries

variable {α κ : Type} {same : α → α → Bool} {key : α → κ} {R R' : α → α → Prop} {xs ys zs : List α}

/-- The comparison looks at keys only. -/
def ComparesBy (same : α → α → Bool) (key : α → κ) : Prop := ∀ x y, same x y ↔ key x = key y

/-- The entries of one list are related to those of the other, in some order. -/
def Rearranged (R : α → α → Prop) (xs ys : List α) : Prop :=
  ∃ zs, List.Forall₂ R xs zs ∧ zs.Perm ys

/-- No entry is the same as another one. -/
def AreDistinct (same : α → α → Bool) (xs : List α) : Prop := xs.Pairwise fun x y => ¬same x y

instance (same : α → α → Bool) (xs : List α) : Decidable (AreDistinct same xs) :=
  inferInstanceAs (Decidable (xs.Pairwise _))

/-- **Sections are the same if they have the same length and the same keys.** -/
theorem sameEntries_iff (h : ComparesBy same key) : sameEntries same xs ys ↔
    xs.length = ys.length ∧ xs.map key ⊆ ys.map key ∧ ys.map key ⊆ xs.map key := by
  have hsub : ∀ us vs : List α,
      us.map key ⊆ vs.map key ↔ ∀ u ∈ us, ∃ v ∈ vs, key v = key u := fun _ _ =>
    List.forall_mem_map.trans (forall₂_congr fun _ _ => List.mem_map)
  have hin : xs.map key ⊆ ys.map key ↔ ∀ x ∈ xs, ∃ y ∈ ys, same x y :=
    (hsub xs ys).trans <| forall₂_congr fun x _ => exists_congr fun y =>
      and_congr_right fun _ => eq_comm.trans (h x y).symm
  have hin' : ys.map key ⊆ xs.map key ↔ ∀ y ∈ ys, ∃ x ∈ xs, same x y :=
    (hsub ys xs).trans <| forall₂_congr fun y _ => exists_congr fun x =>
      and_congr_right fun _ => (h x y).symm
  rw [hin, hin', sameEntries, Bool.and_eq_true, Bool.and_eq_true, decide_eq_true_eq, and_assoc,
    List.all_eq_true, List.all_eq_true]
  simp only [List.any_eq_true]

theorem equivalence_sameEntries (h : ComparesBy same key) :
    Equivalence fun xs ys => sameEntries same xs ys where
  refl _ := (sameEntries_iff h).2 ⟨rfl, List.Subset.refl _, List.Subset.refl _⟩
  symm hxy := by
    obtain ⟨hlength, hin, hin'⟩ := (sameEntries_iff h).1 hxy
    exact (sameEntries_iff h).2 ⟨hlength.symm, hin', hin⟩
  trans hxy hyz := by
    obtain ⟨hlength, hin, hin'⟩ := (sameEntries_iff h).1 hxy
    obtain ⟨hlength₂, hin₂, hin₂'⟩ := (sameEntries_iff h).1 hyz
    exact (sameEntries_iff h).2
      ⟨hlength.trans hlength₂, List.Subset.trans hin hin₂, List.Subset.trans hin₂' hin'⟩

theorem Rearranged.imp (hR : ∀ x y, R x y → R' x y) (h : Rearranged R xs ys) :
    Rearranged R' xs ys := by
  obtain ⟨zs, hzs, hperm⟩ := h
  exact ⟨zs, hzs.imp hR, hperm⟩

theorem rearranged_iff (h : ComparesBy same key) :
    Rearranged (fun x y => same x y) xs ys ↔ (xs.map key).Perm (ys.map key) := by
  have hmap := congrFun (congrFun (List.eq_map_comp_perm key) (xs.map key)) ys
  rw [← hmap]
  refine exists_congr fun zs => and_congr_left fun _ => ?_
  simp only [← List.forall₂_eq_eq_eq, List.forall₂_map_left_iff, List.forall₂_map_right_iff, h _ _]

/-- Entries in another order are the same section. -/
theorem sameEntries_of_rearranged (h : ComparesBy same key)
    (hxy : Rearranged (fun x y => same x y) xs ys) : sameEntries same xs ys := by
  have hperm := (rearranged_iff h).1 hxy
  have hlength : xs.length = ys.length := by simpa using hperm.length_eq
  exact (sameEntries_iff h).2 ⟨hlength, hperm.subset, hperm.symm.subset⟩

theorem areDistinct_iff (h : ComparesBy same key) : AreDistinct same xs ↔ (xs.map key).Nodup := by
  rw [AreDistinct, List.Nodup, List.pairwise_map]
  simp only [h _ _, ne_eq]

/-- **Without repetition only entries in another order are the same section.** As many keys as there
are on the other side, all different, leave none out. -/
theorem sameEntries_iff_rearranged (h : ComparesBy same key) (hxs : AreDistinct same xs) :
    sameEntries same xs ys ↔ Rearranged (fun x y => same x y) xs ys := by
  refine ⟨fun hxy => ?_, sameEntries_of_rearranged h⟩
  obtain ⟨hlength, hin, -⟩ := (sameEntries_iff h).1 hxy
  have hsub : (xs.map key).Subperm (ys.map key) := ((areDistinct_iff h).1 hxs).subperm hin
  exact (rearranged_iff h).2 (hsub.perm_of_length_le (by simp [hlength]))

end Entries

/-! ### Questions and records -/

namespace Question

/-- What is compared of a question. -/
def key (q : Question) : String × RecordType × DnsClass := (Name.folded q.name, q.type, q.dnsClass)

theorem comparesBy_key : ComparesBy same key := by
  intro q q'
  simp [same, key, Name.same_iff, and_assoc]

/-- The name of a question is spelled in another way. -/
structure Respells (q q' : Question) : Prop where
  name : Name.Respells q.name q'.name
  rest : { q' with name := q.name } = q

theorem Respells.same {q q' : Question} (h : q.Respells q') : q.same q' := by
  have hrest := h.rest
  rw [comparesBy_key, key, key, h.name.folded_eq, ← hrest]

end Question

namespace Record

/-- What is compared of a record. -/
def key (r : Record) : RecordType × String × String :=
  (r.header.type, Name.folded r.header.name, r.dataText)

theorem comparesBy_key : ComparesBy same key := by
  intro r r'
  simp [same, isNamed, key, Name.same_iff, and_assoc]

/-- The name of the owner of a record is spelled in another way, also where its data repeats labels
of it. -/
structure Respells (r r' : Record) : Prop where
  name : Name.Respells r.header.name r'.header.name
  header : { r'.header with name := r.header.name } = r.header
  data : r'.data = r.data
  body : r'.body.unlabelled = r.body.unlabelled

theorem Respells.dataText_eq {r r' : Record} (h : r.Respells r') : r'.dataText = r.dataText := by
  rw [dataText, dataText, h.data, ← Body.text?_unlabelled r'.body, h.body, Body.text?_unlabelled]

theorem Respells.same {r r' : Record} (h : r.Respells r') : r.same r' := by
  have htype : r'.header.type = r.header.type := by rw [← h.header]
  rw [comparesBy_key, key, key, h.name.folded_eq, h.dataText_eq, htype]

end Record

/-! ### Messages -/

namespace Message

/-- Messages with equal heads whose sections are related. -/
structure Matches (questions : List Question → List Question → Prop)
    (records : List Record → List Record → Prop) (m m' : Message) : Prop where
  header : m.header = m'.header
  questions : questions m.questions.toList m'.questions.toList
  answers : records m.answers.toList m'.answers.toList
  authorities : records m.authorities.toList m'.authorities.toList
  additionals : records m.additionals.toList m'.additionals.toList

/-- No section has two entries that are the same. -/
structure IsDistinct (m : Message) : Prop where
  questions : AreDistinct Question.same m.questions.toList
  answers : AreDistinct Record.same m.answers.toList
  authorities : AreDistinct Record.same m.authorities.toList
  additionals : AreDistinct Record.same m.additionals.toList

variable {m m' : Message}

theorem same_iff_matches : m.same m' ↔
    m.Matches (fun qs qs' => sameEntries Question.same qs qs')
      (fun rs rs' => sameEntries Record.same rs rs') m' := by
  simp only [same, Bool.and_eq_true, decide_eq_true_eq]
  constructor
  · rintro ⟨⟨⟨⟨hheader, hquestions⟩, hanswers⟩, hauthorities⟩, hadditionals⟩
    exact ⟨hheader, hquestions, hanswers, hauthorities, hadditionals⟩
  · rintro ⟨hheader, hquestions, hanswers, hauthorities, hadditionals⟩
    exact ⟨⟨⟨⟨hheader, hquestions⟩, hanswers⟩, hauthorities⟩, hadditionals⟩

theorem equivalence_same : Equivalence fun m m' : Message => m.same m' := by
  have hq := equivalence_sameEntries Question.comparesBy_key
  have hr := equivalence_sameEntries Record.comparesBy_key
  simp only [same_iff_matches]
  constructor
  · exact fun m => ⟨rfl, hq.refl _, hr.refl _, hr.refl _, hr.refl _⟩
  · rintro m m' ⟨hheader, hquestions, hanswers, hauthorities, hadditionals⟩
    exact ⟨hheader.symm, hq.symm hquestions, hr.symm hanswers, hr.symm hauthorities,
      hr.symm hadditionals⟩
  · rintro m m' m'' ⟨hheader, hquestions, hanswers, hauthorities, hadditionals⟩ h
    exact ⟨hheader.trans h.header, hq.trans hquestions h.questions, hr.trans hanswers h.answers,
      hr.trans hauthorities h.authorities, hr.trans hadditionals h.additionals⟩

/-- Entries in another order and other spellings of their names make no difference. -/
theorem same_of_respelled
    (h : m.Matches (Rearranged Question.Respells) (Rearranged Record.Respells) m') : m.same m' := by
  have hquestions := fun {qs qs' : List Question} (h : Rearranged Question.Respells qs qs') =>
    sameEntries_of_rearranged Question.comparesBy_key (h.imp fun _ _ => Question.Respells.same)
  have hrecords := fun {rs rs' : List Record} (h : Rearranged Record.Respells rs rs') =>
    sameEntries_of_rearranged Record.comparesBy_key (h.imp fun _ _ => Record.Respells.same)
  exact same_iff_matches.2 ⟨h.header, hquestions h.questions, hrecords h.answers,
    hrecords h.authorities, hrecords h.additionals⟩

theorem same_iff_rearranged (h : m.IsDistinct) : m.same m' ↔
    m.Matches (Rearranged fun q q' => q.same q') (Rearranged fun r r' => r.same r') m' := by
  rw [same_iff_matches]
  have hq : ∀ {qs qs' : List Question}, AreDistinct Question.same qs →
      (sameEntries Question.same qs qs' ↔ Rearranged (fun q q' => q.same q') qs qs') :=
    sameEntries_iff_rearranged Question.comparesBy_key
  have hr : ∀ {rs rs' : List Record}, AreDistinct Record.same rs →
      (sameEntries Record.same rs rs' ↔ Rearranged (fun r r' => r.same r') rs rs') :=
    sameEntries_iff_rearranged Record.comparesBy_key
  constructor
  · rintro ⟨hheader, hquestions, hanswers, hauthorities, hadditionals⟩
    exact ⟨hheader, (hq h.questions).1 hquestions, (hr h.answers).1 hanswers,
      (hr h.authorities).1 hauthorities, (hr h.additionals).1 hadditionals⟩
  · rintro ⟨hheader, hquestions, hanswers, hauthorities, hadditionals⟩
    exact ⟨hheader, (hq h.questions).2 hquestions, (hr h.answers).2 hanswers,
      (hr h.authorities).2 hauthorities, (hr h.additionals).2 hadditionals⟩

/-- **The comparison of messages is an equivalence that does not look at the order of entries and the
spelling of names.** It gives the same result when the entries of sections are put in another order,
letters of the names in them change their case and dots come in at their end. If no section of a
message has two entries that are the same, its sections are compared entry by entry, in some
order. -/
theorem same_laws :
    (Equivalence fun m m' : Message => m.same m') ∧
      (∀ m m' o : Message,
        m.Matches (Rearranged Question.Respells) (Rearranged Record.Respells) m' →
          m.same o = m'.same o ∧ o.same m = o.same m') ∧
      ∀ m m' : Message, m.IsDistinct →
        (m.same m' ↔
          m.Matches (Rearranged fun q q' => q.same q') (Rearranged fun r r' => r.same r') m') := by
  refine ⟨equivalence_same, fun m m' o h => ?_, fun m m' => same_iff_rearranged⟩
  have hmm' := same_of_respelled h
  have hleft : m.same o ↔ m'.same o :=
    ⟨equivalence_same.trans (equivalence_same.symm hmm'), equivalence_same.trans hmm'⟩
  have hright : o.same m ↔ o.same m' :=
    ⟨fun ho => equivalence_same.trans ho hmm',
      fun ho => equivalence_same.trans ho (equivalence_same.symm hmm')⟩
  exact ⟨Bool.eq_iff_iff.2 hleft, Bool.eq_iff_iff.2 hright⟩

/-- Two addresses, and the same in the other order with their owners spelled in another way. -/
theorem same_swapped :
    let web := Record.a "Web.local" 120 ⟨10, 0, 0, 1⟩
    let data := Record.a "data.local" 120 ⟨10, 0, 0, 2⟩
    let web' := Record.a "WEB.local." 120 ⟨10, 0, 0, 1⟩
    let data' := Record.a "Data.local.." 120 ⟨10, 0, 0, 2⟩
    let m : Message := { answers := #[web, data] }
    let m' : Message := { answers := #[data', web'] }
    m.Matches (Rearranged Question.Respells) (Rearranged Record.Respells) m' ∧ m.IsDistinct ∧
      m.same m' ∧
      m.Matches (Rearranged fun q q' => q.same q') (Rearranged fun r r' => r.same r') m' := by
  intro web data web' data' m m'
  obtain ⟨hequiv, hspelling, hdistinct⟩ := same_laws
  have hnil : ∀ {α : Type} {R : α → α → Prop}, Rearranged R [] [] :=
    fun {_ _} => ⟨[], .nil, .nil⟩
  have hweb : web.Respells web' :=
    ⟨⟨"WEB.local".toList, 1, by decide +kernel, by decide +kernel⟩, rfl, rfl, rfl⟩
  have hdata : data.Respells data' :=
    ⟨⟨"Data.local".toList, 2, by decide +kernel, by decide +kernel⟩, rfl, rfl, rfl⟩
  have hmatches : m.Matches (Rearranged Question.Respells) (Rearranged Record.Respells) m' :=
    ⟨rfl, hnil, ⟨[web', data'], .cons hweb (.cons hdata .nil), .swap _ _ _⟩, hnil, hnil⟩
  have hm : m.IsDistinct := ⟨.nil, by decide +kernel, .nil, .nil⟩
  have hsame : m.same m' := by
    rw [(hspelling m m' m' hmatches).1]
    exact hequiv.refl m'
  exact ⟨hmatches, hm, hsame, (hdistinct m m' hm).1 hsame⟩

end Message

end ServiceDiscovery
