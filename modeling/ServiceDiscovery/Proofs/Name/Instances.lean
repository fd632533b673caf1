import ServiceDiscovery.Proofs.Name.Comparison

/-!
# Names of instances

A name without empty parts stands for its labels, and it is compared with others label by label and
without regard to capitals. An instance lies under the type of its service, which is a service label
and a transport protocol in front of a domain. Both are searched for from the front of the name, the
service as the first two neighbours that begin with an underscore and the domain behind the first
transport protocol, so what the instance itself is called can come in the way.

* `caseless`, `same_iff_caseless`, `isUnder_iff`: names and their labels;
* `InstanceName`: names of instances with their parts;
* `InstanceName.serviceLabels_eq_iff`: when the right service is found;
* `InstanceName.domain_eq_iff`: when the right domain is found.
-/

namespace ServiceDiscovery

namespace Name

/-! ### Label by label -/

/-- The labels of a name without regard to capitals. -/
def caseless (s : String) : List String := (labels s).map lower

theorem caseless_eq (s : String) : caseless s = labels (folded s) := (labels_folded s).symm

theorem folded_eq_of_tidy {s : String} (h : IsTidy s) : folded s = ofLabels (caseless s) :=
  folded_eq_ofLabels (by rwa [trimEnd_eq_self h])

theorem same_iff_caseless {a b : String} (ha : IsTidy a) (hb : IsTidy b) :
    same a b ↔ caseless a = caseless b := by
  rw [caseless, caseless]
  exact same_iff_labels_of_tidy (by rwa [trimEnd_eq_self ha]) (by rwa [trimEnd_eq_self hb])

theorem isLabel_of_mem_caseless {s l : String} (h : l ∈ caseless s) : IsLabel l :=
  isLabel_of_mem_labels (caseless_eq s ▸ h)

theorem caseless_eq_nil_iff {s : String} (h : IsTidy s) : caseless s = [] ↔ s = "" := by
  rw [caseless, List.map_eq_nil_iff]
  constructor
  · intro hs
    rw [← tidied_eq_self h, tidied, hs]
    rfl
  · rintro rfl
    rfl

theorem isTidy_folded {s : String} (h : IsTidy s) : IsTidy (folded s) := by
  rw [folded_eq_of_tidy h]
  exact isTidy_ofLabels fun _ => isLabel_of_mem_caseless

/-- **A name lies under another one if it has further labels in front.** Nothing lies under the
empty name. -/
theorem isUnder_iff {name parent : String} (hn : IsTidy name) (hp : IsTidy parent) :
    isUnder name parent ↔
      parent ≠ "" ∧ ∃ front ≠ [], caseless name = front ++ caseless parent := by
  rw [isUnder_iff_exists]
  constructor
  · rintro ⟨front, hne, he⟩
    -- Where the dot is taken apart, neither side of it can have an empty part.
    have hparts : parts (folded name) = parts front ++ parts (folded parent) := by
      rw [he, parts_append]
    have hempty : "" ∉ parts (folded name) := by
      refine (isTidy_folded hn).resolve_left fun h => ?_
      rw [h] at he
      exact hne (by simpa using congrArg (fun s : String => s.toList) he.symm)
    rw [hparts, List.mem_append, not_or] at hempty
    refine ⟨?_, labels front, ?_, ?_⟩
    · rintro rfl
      exact hempty.2 (by decide +kernel)
    · rw [labels_eq_parts hempty.1]
      exact parts_ne_nil front
    · rw [caseless_eq, caseless_eq, he, labels_append]
  · rintro ⟨hne, front, hfront, he⟩
    have hlabels : ∀ l ∈ front, IsLabel l :=
      fun l hl => isLabel_of_mem_caseless (he ▸ List.mem_append_left _ hl)
    have hparent : caseless parent ≠ [] := fun h => hne ((caseless_eq_nil_iff hp).1 h)
    refine ⟨ofLabels front, ofLabels_ne_empty hlabels hfront, ?_⟩
    rw [folded_eq_of_tidy hn, he, ofLabels_append hfront hparent, folded_eq_of_tidy hp]

/-- **A name is the same as another one or lies under it if its labels end with those of the other
one**; the empty name is only the same as itself. -/
theorem same_or_isUnder_iff {name parent : String} (hn : IsTidy name) (hp : IsTidy parent) :
    (same parent name || isUnder name parent) ↔
      caseless name = caseless parent ∨ parent ≠ "" ∧ caseless parent <:+ caseless name := by
  rw [Bool.or_eq_true, same_iff_caseless hp hn, isUnder_iff hn hp]
  constructor
  · rintro (h | ⟨hne, front, -, h⟩)
    · exact .inl h.symm
    · exact .inr ⟨hne, front, h.symm⟩
  · rintro (h | ⟨hne, front, h⟩)
    · exact .inl h.symm
    · rcases eq_or_ne front [] with rfl | hfront
      · exact .inl h
      · exact .inr ⟨hne, front, hfront, h.symm⟩

/-! ### Parts of the name of an instance -/

/-- An underscore is no letter. -/
theorem toLower_eq_underscore_iff {c : Char} : c.toLower = '_' ↔ c = '_' := by
  rcases Nat.lt_or_ge c.toNat 0x80 with h | h
  · exact Text.of_ascii (P := fun c => c.toLower = '_' ↔ c = '_') (by decide +kernel) h
  · rw [Text.toLower_of_le h]

theorem isUnderscored_lower (l : String) : isUnderscored (lower l) = isUnderscored l := by
  have hhead : (lower l).toList.head? = l.toList.head?.map Char.toLower := by
    rw [lower, String.toList_map, List.head?_map]
  rw [isUnderscored, isUnderscored, hhead, decide_eq_decide]
  cases l.toList.head? with
  | none => simp
  | some c => simp [toLower_eq_underscore_iff]

theorem isUnderscored_of_isTransport {l : String} (h : isTransport l) : isUnderscored l := by
  rw [← isUnderscored_lower]
  rw [isTransport, Bool.or_eq_true, decide_eq_true_eq, decide_eq_true_eq] at h
  rcases h with h | h <;> rw [h] <;> decide +kernel

theorem isLabel_lower {l : String} : IsLabel (lower l) ↔ IsLabel l := by
  have hdot : '.' ∈ (lower l).toList ↔ '.' ∈ l.toList := by
    rw [lower, String.toList_map, List.mem_map]
    constructor
    · rintro ⟨c, hc, he⟩
      exact toLower_eq_dot_iff.1 he ▸ hc
    · exact fun h => ⟨'.', h, by decide⟩
  rw [IsLabel, IsLabel, hdot, Ne, lower_eq_empty_iff]

theorem isLabel_of_isTransport {l : String} (h : isTransport l) : IsLabel l := by
  rw [← isLabel_lower]
  rw [isTransport, Bool.or_eq_true, decide_eq_true_eq, decide_eq_true_eq] at h
  rcases h with h | h <;> rw [h] <;> decide +kernel

/-- Behind other parts, two neighbours that begin with an underscore are found unless there are such
before them. -/
theorem firstUnderscoredPair_append (ps : List String) {s t : String} (hs : isUnderscored s)
    (ht : isUnderscored t) (rest : List String) : firstUnderscoredPair (ps ++ s :: t :: rest) =
      (firstUnderscoredPair (ps ++ [s])).or (some (s, t)) := by
  fun_induction firstUnderscoredPair ps with
  | case1 a b ps h => simp only [List.cons_append, firstUnderscoredPair, if_pos h, Option.some_or]
  | case2 a b ps h ih => simpa only [List.cons_append, firstUnderscoredPair, if_neg h] using ih
  | case3 ps h =>
    obtain _ | ⟨a, _ | ⟨b, ps⟩⟩ := ps
    · simp [firstUnderscoredPair, hs, ht]
    · by_cases ha : isUnderscored a <;> simp [firstUnderscoredPair, ha, hs, ht]
    · exact absurd rfl (h a b ps)

end Name

/-- The name of an instance: a label that may be any text, a service label, a transport protocol and
the labels of a domain. -/
structure InstanceName where
  label : String
  service : String
  transport : String
  domain : List String
  label_ne_empty : label ≠ ""
  isLabel_service : Name.IsLabel service
  isUnderscored_service : Name.isUnderscored service
  isTransport_service : Name.isTransport service = false
  isTransport_transport : Name.isTransport transport
  domain_ne_nil : domain ≠ []
  isLabel_domain : ∀ l ∈ domain, Name.IsLabel l

namespace InstanceName

variable (n : InstanceName)

/-- The type of the service, with its domain. -/
def type : List String := n.service :: n.transport :: n.domain

def text : String := n.label ++ "." ++ Name.ofLabels n.type

/-- The parts of the label, up to the service label, have neighbours that both begin with an
underscore, and the first such neighbours are not the service label and the transport protocol. -/
def Misleads : Prop :=
  ∃ found, Name.firstUnderscoredPair (Name.parts n.label ++ [n.service]) = some found ∧
    found ≠ (n.service, n.transport)

theorem isLabel_type : ∀ l ∈ n.type, Name.IsLabel l :=
  List.forall_mem_cons.2 ⟨n.isLabel_service, List.forall_mem_cons.2
    ⟨Name.isLabel_of_isTransport n.isTransport_transport, n.isLabel_domain⟩⟩

theorem parts_text : Name.parts n.text = Name.parts n.label ++ n.type := by
  rw [text, Name.parts_append,
    Name.parts_ofLabels (fun l hl => (n.isLabel_type l hl).2) (List.cons_ne_nil _ _)]

theorem labels_text : Name.labels n.text = Name.labels n.label ++ n.type := by
  rw [text, Name.labels_append, Name.labels_ofLabels n.isLabel_type]

/-- **The service is found unless the label misleads.** -/
theorem serviceLabels_eq_iff :
    Name.serviceLabels n.text = (n.service, n.transport) ↔ ¬n.Misleads := by
  have hpair := Name.firstUnderscoredPair_append (Name.parts n.label) n.isUnderscored_service
    (Name.isUnderscored_of_isTransport n.isTransport_transport) n.domain
  rw [Name.serviceLabels, parts_text, type, hpair, Misleads]
  cases Name.firstUnderscoredPair (Name.parts n.label ++ [n.service]) with
  | none => simp
  | some found => simp

/-- **The domain is found unless one of the labels in front names a transport protocol.** -/
theorem domain_eq_iff : Name.domain n.text = Name.ofLabels n.domain ↔
    ∀ l ∈ Name.labels n.label, Name.isTransport l = false := by
  constructor
  · intro h
    by_contra! hne
    obtain ⟨t, ht⟩ := Option.isSome_iff_exists.1 (List.find?_isSome.2 (by simpa using hne))
    obtain ⟨htransport, before, after, hlabel, hbefore⟩ := List.find?_eq_some_iff_append.1 ht
    have hlabels : Name.labels n.text = before ++ t :: (after ++ n.type) := by
      rw [labels_text, hlabel, List.append_assoc, List.cons_append]
    have hafter : ∀ l ∈ after ++ n.type, Name.IsLabel l := fun l hl =>
      Name.isLabel_of_mem_labels (hlabels ▸ List.mem_append_right _ (List.mem_cons_of_mem _ hl))
    have hdomain : Name.domain n.text = Name.ofLabels (after ++ n.type) :=
      Name.domain_eq hlabels (fun l hl => by simpa using hbefore l hl) htransport (by simp [type])
    -- The domain begins behind the first transport protocol, and so it has too many labels.
    have he : after ++ n.type = n.domain := by
      rw [← Name.labels_ofLabels hafter, ← hdomain, h, Name.labels_ofLabels n.isLabel_domain]
    have hlength := congrArg List.length he
    simp only [type, List.length_append, List.length_cons] at hlength
    omega
  · intro h
    have hlabels : Name.labels n.text =
        (Name.labels n.label ++ [n.service]) ++ n.transport :: n.domain := by
      rw [labels_text, type, List.append_assoc, List.singleton_append]
    have hbefore : ∀ l ∈ Name.labels n.label ++ [n.service], Name.isTransport l = false :=
      List.forall_mem_append.2 ⟨h, List.forall_mem_singleton.2 n.isTransport_service⟩
    exact Name.domain_eq hlabels hbefore n.isTransport_transport n.domain_ne_nil

/-! ### Labels without dots -/

variable {n}

theorem labels_label (h : Name.IsLabel n.label) : Name.labels n.label = [n.label] := by
  have hlabels := Name.labels_ofLabels (List.forall_mem_singleton.2 h)
  rwa [Name.ofLabels, String.intercalate_singleton] at hlabels

/-- A label without dots misleads exactly if it begins with an underscore. -/
theorem misleads_iff (h : Name.IsLabel n.label) : n.Misleads ↔ Name.isUnderscored n.label := by
  have hparts := Name.parts_ofLabels (List.forall_mem_singleton.2 h.2) (List.cons_ne_nil _ _)
  rw [Name.ofLabels, String.intercalate_singleton] at hparts
  rw [Misleads, hparts, List.singleton_append, Name.firstUnderscoredPair]
  by_cases hl : Name.isUnderscored n.label
  · -- The service label is no transport protocol, so the neighbours are not the right ones.
    have hne : (n.label, n.service) ≠ (n.service, n.transport) := by
      intro he
      have hservice := n.isTransport_service
      rw [(Prod.mk.inj he).2, n.isTransport_transport] at hservice
      cases hservice
    simpa [hl, n.isUnderscored_service] using hne
  · simp [hl, Name.firstUnderscoredPair]

end InstanceName

end ServiceDiscovery
