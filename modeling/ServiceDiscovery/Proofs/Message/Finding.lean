import ServiceDiscovery.Proofs.Pattern.Literal
import ServiceDiscovery.Proofs.Name.Comparison

/-!
# Finding records by the ends of their names

A record is looked up by the beginning or the end of its name through a pattern, and that finds just
what a scan of the records finds, whatever characters are looked for. A record that has the name
itself also begins and ends with it, so no lookup by an end of the name passes it over.

* `IsFirst`, `Finds`, `finds_find?`: the first record with a property, and a lookup of it;
* `Message.startingWith?_eq`, `endingWith?_eq`: the lookups as scans;
* `Text.fold_toLower`, `Name.map_fold_eq_of_same`: equal names are the same up to case;
* `Message.finds_by_ends`: all three lookups.
-/

namespace ServiceDiscovery

/-- The first record with a property, and its place. -/
structure IsFirst (P : Record → Prop) (rs : List Record) (i : Nat) (r : Record) : Prop where
  place : rs[i]? = some r
  holds : P r
  before : ∀ j < i, ∀ r', rs[j]? = some r' → ¬P r'

/-- A lookup finds the first record with a property, and nothing exactly if there is none. -/
structure Finds (P : Record → Prop) (rs : List Record) (found? : Option Record) : Prop where
  some : ∀ r, found? = some r ↔ ∃ i, IsFirst P rs i r
  none : found? = none ↔ ∀ r ∈ rs, ¬P r

section Finding

variable {P Q : Record → Prop} {rs : List Record}

theorem isFirst_iff [DecidablePred P] {r : Record} :
    rs.find? (fun r => decide (P r)) = some r ↔ ∃ i, IsFirst P rs i r := by
  rw [List.find?_eq_some_iff_getElem]
  constructor
  · rintro ⟨hr, i, hi, rfl, hbefore⟩
    refine ⟨i, List.getElem?_eq_getElem hi, by simpa using hr, fun j hj r' hr' => ?_⟩
    obtain ⟨-, rfl⟩ := List.getElem?_eq_some_iff.1 hr'
    simpa using hbefore j hj
  · rintro ⟨i, hplace, hr, hbefore⟩
    obtain ⟨hi, rfl⟩ := List.getElem?_eq_some_iff.1 hplace
    refine ⟨by simpa using hr, i, hi, rfl, fun j hj => ?_⟩
    simpa using hbefore j hj _ (List.getElem?_eq_getElem (Nat.lt_trans hj hi))

theorem finds_find? [DecidablePred P] (rs : List Record) :
    Finds P rs (rs.find? fun r => decide (P r)) :=
  ⟨fun _ => isFirst_iff, by simp⟩

/-- If the records with one property also have another one, the first of these does not come
later. -/
theorem IsFirst.exists_le {i : Nat} {r : Record} (h : IsFirst P rs i r)
    (hPQ : ∀ r ∈ rs, P r → Q r) {found? : Option Record} (hfinds : Finds Q rs found?) :
    ∃ j ≤ i, ∃ r', found? = some r' ∧ IsFirst Q rs j r' := by
  have hr : r ∈ rs := List.mem_of_getElem? h.place
  cases hfound : found? with
  | none => exact absurd (hPQ r hr h.holds) (hfinds.none.1 hfound r hr)
  | some r' =>
    obtain ⟨j, hj⟩ := (hfinds.some r').1 hfound
    refine ⟨j, Nat.le_of_not_lt fun hij => ?_, r', rfl, hj⟩
    exact hj.before i hij r h.place (hPQ r hr h.holds)

end Finding

/-! ### Equal names -/

/-- A letter of ASCII folds like its small form. -/
theorem Text.fold_toLower (c : Char) : fold c.toLower = fold c := by
  rcases Nat.lt_or_ge c.toNat 0x80 with h | h
  · -- Only capitals are looked up in the table.
    have hfold : c.toLower = c ∨ fold c.toLower = fold c :=
      of_ascii (P := fun c => c.toLower = c ∨ fold c.toLower = fold c) (by decide +kernel) h
    rcases hfold with hsame | hfold
    · rw [hsame]
    · exact hfold
  · rw [toLower_of_le h]

namespace Name

theorem map_fold_eq_of_same {s t : String} (hs : s.toList.getLast? ≠ some '.')
    (ht : t.toList.getLast? ≠ some '.') (h : same s t) :
    s.toList.map Text.fold = t.toList.map Text.fold := by
  have hlower : ∀ s : String, (s.toList.map Char.toLower).map Text.fold = s.toList.map Text.fold :=
    fun s => by
      rw [List.map_map]
      exact List.map_congr_left fun c _ => Text.fold_toLower c
  rw [same_iff_toList, trimEnd_of_undotted (.refl hs), trimEnd_of_undotted (.refl ht)] at h
  rw [← hlower, h, hlower]

end Name

namespace Message

/-! ### Lookups as scans -/

theorem startingWith?_eq (m : Message) (s : String) : m.startingWith? s =
    m.records.find? fun r => decide (Text.BeginsWith r.header.name s) := by
  have hscan : m.matching? (Pattern.atStart s.toList) =
      m.records.find? fun r => decide (Text.BeginsWith r.header.name s) := by
    rw [matching?]
    congr 1
    funext r
    rw [Bool.eq_iff_iff, Pattern.occursIn_atStart, decide_eq_true_eq]
  rw [startingWith?, matchingText, Pattern.ofText_beginningPattern, ← hscan]
  rfl

theorem endingWith?_eq (m : Message) (s : String) : m.endingWith? s =
    m.records.find? fun r => decide (Text.EndsWith r.header.name s) := by
  have hscan : m.matching? (Pattern.atEnd s.toList) =
      m.records.find? fun r => decide (Text.EndsWith r.header.name s) := by
    rw [matching?]
    congr 1
    funext r
    rw [Bool.eq_iff_iff, Pattern.occursIn_atEnd, decide_eq_true_eq]
  rw [endingWith?, matchingText, Pattern.ofText_endingPattern, ← hscan]
  rfl

theorem finds_named? (m : Message) (name : String) :
    Finds (fun r => Name.same r.header.name name) m.records (m.named? name) := by
  have h := finds_find? (P := fun r => Name.same r.header.name name) m.records
  simp only [Bool.decide_eq_true] at h
  exact h

/-- **Records are looked up by the ends of their names literally.** Whatever a text holds, the
lookups find the first record, over answers, authorities and additional records, whose name begins
or ends with it up to case, and nothing if there is none. Where neither the text nor a name has a
dot at its end, the first record with this very name comes at no earlier place than the two that
are found by its ends. -/
theorem finds_by_ends (m : Message) (text : String) :
    let rs := m.answers.toList ++ m.authorities.toList ++ m.additionals.toList
    Finds (fun r => Text.BeginsWith r.header.name text) rs (m.startingWith? text) ∧
    Finds (fun r => Text.EndsWith r.header.name text) rs (m.endingWith? text) ∧
    Finds (fun r => Name.same r.header.name text) rs (m.named? text) ∧
    (text.toList.getLast? ≠ some '.' → (∀ r ∈ rs, r.header.name.toList.getLast? ≠ some '.') →
      ∀ i r, IsFirst (fun r => Name.same r.header.name text) rs i r →
        (∃ j ≤ i, ∃ r', m.startingWith? text = some r' ∧
          IsFirst (fun r => Text.BeginsWith r.header.name text) rs j r') ∧
        ∃ j ≤ i, ∃ r', m.endingWith? text = some r' ∧
          IsFirst (fun r => Text.EndsWith r.header.name text) rs j r') := by
  intro rs
  have hstart : Finds (fun r => Text.BeginsWith r.header.name text) rs (m.startingWith? text) :=
    startingWith?_eq m text ▸ finds_find? rs
  have hend : Finds (fun r => Text.EndsWith r.header.name text) rs (m.endingWith? text) :=
    endingWith?_eq m text ▸ finds_find? rs
  refine ⟨hstart, hend, finds_named? m text, fun htext hnames i r hfirst => ?_⟩
  have hfold : ∀ r ∈ rs, Name.same r.header.name text →
      r.header.name.toList.map Text.fold = text.toList.map Text.fold :=
    fun r hr => Name.map_fold_eq_of_same (hnames r hr) htext
  refine ⟨hfirst.exists_le (fun r hr hsame => ?_) hstart,
    hfirst.exists_le (fun r hr hsame => ?_) hend⟩
  · exact ⟨[], by rw [List.append_nil, hfold r hr hsame]⟩
  · exact ⟨[], (hfold r hr hsame).symm⟩

/-- Three addresses. What is looked for means something in patterns, and its last character is the
sign for the unit Kelvin, which is the letter k up to case. -/
def bracketMessage : Message where
  answers := #[.a "(k).local" 120 ⟨10, 0, 0, 1⟩, .a "the(K" 120 ⟨10, 0, 0, 2⟩]
  additionals := #[.a "(\u212a" 120 ⟨10, 0, 0, 3⟩]

/-- The record with the name comes last; one that begins and one that ends with it are found
before. -/
theorem finds_by_ends_bracketMessage :
    let m := bracketMessage
    let rs := m.answers.toList ++ m.authorities.toList ++ m.additionals.toList
    "(\u212a".toList.getLast? ≠ some '.' ∧
      (∀ r ∈ rs, r.header.name.toList.getLast? ≠ some '.') ∧
      (m.named? "(\u212a").map (·.header.name) = some "(\u212a" ∧
      (m.startingWith? "(\u212a").map (·.header.name) = some "(k).local" ∧
      (m.endingWith? "(\u212a").map (·.header.name) = some "the(K" ∧
      ∃ i r, IsFirst (fun r => Name.same r.header.name "(\u212a") rs i r ∧
        (∃ j ≤ i, ∃ r', m.startingWith? "(\u212a" = some r' ∧
          IsFirst (fun r => Text.BeginsWith r.header.name "(\u212a") rs j r') ∧
        ∃ j ≤ i, ∃ r', m.endingWith? "(\u212a" = some r' ∧
          IsFirst (fun r => Text.EndsWith r.header.name "(\u212a") rs j r' := by
  intro m rs
  have htext : "(\u212a".toList.getLast? ≠ some '.' := by decide +kernel
  have hnames : ∀ r ∈ rs, r.header.name.toList.getLast? ≠ some '.' := by decide +kernel
  obtain ⟨-, -, hnamed, hends⟩ := finds_by_ends m "(\u212a"
  have hfound : m.named? "(\u212a" = some (.a "(\u212a" 120 ⟨10, 0, 0, 3⟩) := by decide +kernel
  obtain ⟨i, hfirst⟩ := (hnamed.some _).1 hfound
  exact ⟨htext, hnames, by decide +kernel, by decide +kernel, by decide +kernel, i, _, hfirst,
    hends htext hnames i _ hfirst⟩

end Message

end ServiceDiscovery
