import ServiceDiscovery.Query
import ServiceDiscovery.Proofs.Name.Comparison

/-!
# The names that a query asks for

A service name is meant in the domain of the query, unless it ends in that domain already. A name
that has its domain keeps it, so it makes no difference how often names are put into a domain.

* `Name.Bare`, `Name.bare_trim`: a text without the dots at its ends;
* `Name.EndsIn`: how a text ends, up to ASCII capitals;
* `Query.Qualifies`, `Query.qualifies_qualify`: a service name in a domain;
* `Query.qualify_of_qualifies`: a name with its domain stays as it is;
* `Query.asking`, `Query.request_eq`: the message that asks for names, and how many there can be;
* `Query.qualifies_names`: all of it for every query.
-/

namespace ServiceDiscovery

namespace Name

/-! ### Dots at the ends -/

/-- `t` is `s` without the dots at its beginning and at its end. -/
structure Bare (s t : String) : Prop where
  first : t.toList.head? ≠ some '.'
  last : t.toList.getLast? ≠ some '.'
  dots : ∃ n n', s.toList = List.replicate n '.' ++ t.toList ++ List.replicate n' '.'

theorem bare_trim (s : String) : Bare s (trim s) := by
  obtain ⟨hlast, n', hn'⟩ := undotted_trimEnd (String.ofList (s.toList.dropWhile (· = '.')))
  rw [String.toList_ofList] at hn'
  refine ⟨fun hdot => ?_, hlast, (s.toList.takeWhile (· = '.')).length, n', ?_⟩
  · -- The first character is also the first one behind the dots in front.
    have hnot := List.head?_dropWhile_not (fun c => decide (c = '.')) s.toList
    rw [trim] at hdot
    rw [hn', List.head?_append, hdot] at hnot
    simp at hnot
  · have hdots : s.toList.takeWhile (· = '.') =
        List.replicate (s.toList.takeWhile (· = '.')).length '.' :=
      List.eq_replicate_iff.2 ⟨rfl, fun c hc => by simpa using List.mem_takeWhile_imp hc⟩
    rw [← hdots, List.append_assoc, trim, ← hn', List.takeWhile_append_dropWhile]

/-! ### Endings -/

/-- A text ends in another one, up to ASCII capitals. -/
def EndsIn (s ending : String) : Prop := ∃ front rest, s = front ++ rest ∧ lower rest = lower ending

theorem endsWith_lower_iff (s ending : String) :
    endsWith (lower s) (lower ending) ↔ EndsIn s ending := by
  rw [endsWith, List.isSuffixOf_iff_suffix]
  constructor
  · rintro ⟨front, hfront⟩
    have hlower : (lower s).toList = s.toList.map Char.toLower := String.toList_map
    rw [hlower] at hfront
    obtain ⟨cs, cs', hs, -, hrest⟩ := List.map_eq_append_iff.1 hfront.symm
    refine ⟨String.ofList cs, String.ofList cs', ?_, ?_⟩
    · rw [← String.ofList_append, ← hs, String.ofList_toList]
    · rw [← String.toList_inj, ← hrest, lower, String.toList_map, String.toList_ofList]
  · rintro ⟨front, rest, rfl, hrest⟩
    rw [lower_append, hrest, String.toList_append]
    exact List.suffix_append _ _

end Name

namespace Query

/-! ### Names in a domain -/

/-- What a service name is in a domain without dots at its ends. -/
inductive Qualifies (domain service : String) : String → Prop
  /-- There is no domain, or the name ends in it. -/
  | kept {bare : String} (hbare : Name.Undotted service bare)
      (h : domain = "" ∨ Name.EndsIn bare ("." ++ domain)) : Qualifies domain service bare
  | extended {bare : String} (hbare : Name.Undotted service bare) (hdomain : domain ≠ "")
      (h : ¬Name.EndsIn bare ("." ++ domain)) : Qualifies domain service (bare ++ "." ++ domain)

variable {domain service name : String}

theorem qualifies_qualify (domain service : String) :
    Qualifies domain service (qualify domain service) := by
  have hbare := Name.undotted_trimEnd service
  have hends := Name.endsWith_lower_iff (Name.trimEnd service) ("." ++ domain)
  unfold qualify
  dsimp only
  split_ifs with h
  · rw [Bool.or_eq_true, decide_eq_true_eq, hends] at h
    exact .kept hbare h
  · rw [Bool.or_eq_true, decide_eq_true_eq, hends, not_or] at h
    rw [← String.append_assoc]
    exact .extended hbare h.1 h.2

/-- A name in a domain has no dot at its end. -/
theorem Qualifies.last_ne (h : Qualifies domain service name)
    (hdomain : domain.toList.getLast? ≠ some '.') : name.toList.getLast? ≠ some '.' := by
  cases h with
  | kept hbare h => exact hbare.last
  | extended hbare hne h =>
    have hlast : domain.toList.getLast? ≠ none := fun hnone =>
      hne (String.toList_eq_nil_iff.1 (List.getLast?_eq_none_iff.1 hnone))
    rw [String.toList_append, List.getLast?_append, Option.or_of_isSome
      (Option.isSome_iff_ne_none.2 hlast)]
    exact hdomain

/-- **A name with its domain stays as it is.** -/
theorem qualify_of_qualifies (h : Qualifies domain service name)
    (hdomain : domain.toList.getLast? ≠ some '.') : qualify domain name = name := by
  have htrim : Name.trimEnd name = name :=
    Name.trimEnd_of_undotted (Name.Undotted.refl (h.last_ne hdomain))
  have hends : domain = "" ∨ Name.EndsIn name ("." ++ domain) := by
    cases h with
    | kept hbare h => exact h
    | @extended bare hbare hne h => exact .inr ⟨bare, "." ++ domain, String.append_assoc, rfl⟩
  unfold qualify
  rw [htrim]
  exact if_pos (by rwa [Bool.or_eq_true, decide_eq_true_eq, Name.endsWith_lower_iff])

/-! ### The request -/

/-- The request with one question for every name, for pointers of the internet. -/
def asking (names : List String) : Message where
  header := { Header.request with counts := { questions := .ofNat names.length } }
  questions := (names.map fun name => ⟨name, .ptr, .internet, false⟩).toArray

theorem addQuestion_asking {names : List String} (h : names.length ≤ 65535) (name : String) :
    ((asking names).addQuestion { name, type := .ptr }).message =
      if names.length = 65535 then .error (.sectionFull .question)
      else .ok (asking (names ++ [name])) := by
  have hfull : UInt16.ofNat names.length = Message.maxEntries ↔ names.length = 65535 := by
    rw [← UInt16.toNat_inj, UInt16.toNat_ofNat', Nat.mod_eq_of_lt (by omega)]
    rfl
  have hcount : (asking names).header.counts.questions = .ofNat names.length := rfl
  rw [Message.addQuestion, hcount]
  simp only [hfull]
  split_ifs
  · rfl
  · rw [asking, asking, List.length_append, List.map_append, UInt16.ofNat_add]
    simp [Message.Outcome.message, Message.recount]

theorem foldlM_addQuestion (names more : List String) (h : names.length ≤ 65535) :
    more.foldlM (fun m name => (m.addQuestion { name, type := .ptr }).message) (asking names) =
      if names.length + more.length ≤ 65535 then .ok (asking (names ++ more))
      else .error (.sectionFull .question) := by
  induction more generalizing names with
  | nil => rw [List.append_nil, List.length_nil, Nat.add_zero, if_pos h]; rfl
  | cons name more ih =>
    rw [List.foldlM_cons, addQuestion_asking h, List.length_cons]
    by_cases hfull : names.length = 65535
    · rw [if_pos hfull, if_neg (by omega)]
      rfl
    · have hlength : (names ++ [name]).length = names.length + 1 := List.length_append
      rw [if_neg hfull]
      show List.foldlM _ (asking (names ++ [name])) more = _
      rw [ih (names ++ [name]) (by omega), hlength, List.append_assoc, List.singleton_append,
        Nat.add_right_comm, Nat.add_assoc]

/-- **A request has room for 65535 names.** -/
theorem request_eq (q : Query) : q.request =
    if q.names.length ≤ 65535 then .ok (asking q.names) else .error (.sectionFull .question) := by
  have h := foldlM_addQuestion [] q.names (Nat.zero_le _)
  rw [List.length_nil, Nat.zero_add, List.nil_append] at h
  exact h

/-! ### Every query -/

/-- **The names that a query asks for.** Every service gets one, in order: without dots at its end,
and with the domain behind it unless it ends there already. None of them ends in a dot, and put into
the same domain once more they stay as they are. The request asks for just these names, one pointer
question each, and there is one exactly if there are no more than 65535 of them. -/
theorem qualifies_names (q : Query) :
    (∃ domain, Name.Bare q.domain domain ∧
      List.Forall₂ (Qualifies domain) q.services q.names) ∧
    (∀ name ∈ q.names, name.toList.getLast? ≠ some '.') ∧
    names { q with services := q.names } = q.names ∧
    q.request = if q.services.length ≤ 65535 then .ok (asking q.names)
      else .error (.sectionFull .question) := by
  have hbare := Name.bare_trim q.domain
  have hqualifies : List.Forall₂ (Qualifies (Name.trim q.domain)) q.services q.names := by
    rw [names, List.forall₂_map_right_iff]
    exact List.forall₂_same.2 fun service _ => qualifies_qualify _ service
  refine ⟨⟨_, hbare, hqualifies⟩, fun name hname => ?_, ?_, ?_⟩
  · obtain ⟨service, -, rfl⟩ := List.mem_map.1 hname
    exact (qualifies_qualify _ service).last_ne hbare.last
  · have hagain : names { q with services := q.names } =
        q.names.map (qualify (Name.trim q.domain)) := rfl
    rw [hagain, names, List.map_map]
    refine List.map_congr_left fun service _ => ?_
    rw [Function.comp_apply]
    exact qualify_of_qualifies (qualifies_qualify _ service) hbare.last
  · have hlength : q.names.length = q.services.length := List.length_map _
    rw [request_eq, hlength]

/-- A name is told to be in the domain whatever its capitals and the dots at its end. -/
example : names { services := ["_http._tcp.", "_ipp._tcp.local", "_ssh._tcp.LOCAL."] } =
    ["_http._tcp.local", "_ipp._tcp.local", "_ssh._tcp.LOCAL"] := by
  decide +kernel

end Query

end ServiceDiscovery
