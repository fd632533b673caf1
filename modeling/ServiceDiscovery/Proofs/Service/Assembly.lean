import ServiceDiscovery.Service.Assembly
import ServiceDiscovery.Proofs.Record.Attribute

/-!
# Services put together from records

What a service is put together from depends only on the locations, the texts and the addresses
among the records: host and port are those of the first location with a host, the attributes those
of the first text record that has some. If there is one location and one text record of an instance,
and all addresses are of its host, the order of records of different kinds does not matter.

* `firstOccurrences_eq_eraseDups`: values without later repetitions;
* `location?`, `strings?`: the parts of a service that a record holds;
* `places`, `locate_eq_find?`, `descriptions`, `describe_eq_find?`: which of them count;
* `locate_eq`, `describe_eq`, `addressesOf_eq`: what is made of one location and one text record;
* `assemble_eq`: the service that they make up.
-/

namespace ServiceDiscovery.Service

/-! ### Values without repetition -/

theorem foldl_firstOccurrences {α : Type} [DecidableEq α] (xs seen : List α) :
    xs.foldl (fun seen x => if x ∈ seen then seen else seen ++ [x]) seen =
      seen ++ (xs.filter (· ∉ seen)).eraseDups := by
  induction xs generalizing seen with
  | nil => simp
  | cons x xs ih =>
    rw [List.foldl_cons, ih]
    by_cases hx : x ∈ seen
    · rw [if_pos hx, List.filter_cons_of_neg (by simpa using hx)]
    · have hfilter : xs.filter (· ∉ seen ++ [x]) =
          (xs.filter (· ∉ seen)).filter fun y => !y == x := by
        rw [List.filter_filter]
        refine List.filter_congr fun y _ => ?_
        by_cases hy : y = x <;> simp [hy]
      rw [if_neg hx, List.filter_cons_of_pos (by simpa using hx), List.eraseDups_cons, hfilter,
        List.append_assoc]
      rfl

theorem firstOccurrences_eq_eraseDups {α : Type} [DecidableEq α] (xs : List α) :
    firstOccurrences xs = xs.eraseDups := by
  rw [firstOccurrences, foldl_firstOccurrences]
  simp

/-! ### Parts of a service -/

def location? (r : Record) : Option Srv :=
  match r.body with
  | .srv s => some s
  | _ => none

def strings? (r : Record) : Option (List String) :=
  match r.body with
  | .txt ss => some ss
  | _ => none

/-- Nothing is lost by looking only at the members among which all results are. -/
theorem filterMap_filter_of_isSome {α β : Type} {f : α → Option β} {p : α → Bool} {as : List α}
    (h : ∀ a ∈ as, (f a).isSome → p a) : (as.filter p).filterMap f = as.filterMap f := by
  induction as with
  | nil => rfl
  | cons a as ih =>
    obtain ⟨ha, has⟩ := List.forall_mem_cons.1 h
    by_cases hp : p a
    · rw [List.filter_cons_of_pos hp, List.filterMap_cons, List.filterMap_cons, ih has]
    · have hf : f a = none := by
        cases hf : f a with
        | none => rfl
        | some b => exact absurd (ha (by rw [hf]; rfl)) hp
      rw [List.filter_cons_of_neg hp, List.filterMap_cons_none hf, ih has]

/-- A value that is replaced as long as it counts as missing: the first one that does not, or else
the last one. -/
theorem foldl_replace {α β : Type} (missing : β → Bool) (f : α → β) (as : List α) (b : β) :
    as.foldl (fun b a => if missing b then f a else b) b =
      if missing b then (((as.map f).find? (!missing ·)).or (as.map f).getLast?).getD b else b := by
  induction as generalizing b with
  | nil => simp
  | cons a as ih =>
    rw [List.foldl_cons, ih, List.map_cons, List.getLast?_cons]
    by_cases hb : missing b
    · by_cases ha : missing (f a)
      · rw [if_pos hb, if_pos ha, if_pos hb, List.find?_cons_of_neg (by simpa using ha)]
        cases (as.map f).find? (!missing ·) <;> rfl
      · rw [if_pos hb, if_neg ha, if_pos hb, List.find?_cons_of_pos (by simpa using ha)]
        rfl
    · rw [if_neg hb, if_neg hb, if_neg hb]

/-- The places that the locations among records give, each with its host and its port. -/
def places (records : List Record) : List (String × UInt16) :=
  (records.filterMap location?).map fun s => (s.target, s.port)

/-- **The place of a service** is the first one with a host, or else the last one. -/
theorem locate_eq_find? (records : List Record) : locate records =
    (((places records).find? (·.1 ≠ "")).or (places records).getLast?).getD ("", 0) := by
  have hstep : locate records = (records.filterMap location?).foldl
      (fun found s => if decide (found.1 = "") then (s.target, s.port) else found) ("", 0) := by
    rw [List.foldl_filterMap]
    refine congrArg (fun f => List.foldl f ("", 0) records) (funext₂ fun found r => ?_)
    unfold location?
    cases r.body <;> simp
  rw [hstep, foldl_replace fun found : String × UInt16 => decide (found.1 = "")]
  simp [places]

/-- What the text records among records say, string by string. -/
def descriptions (records : List Record) : List (List Attribute) :=
  (records.filterMap strings?).map validAttributes

/-- **The attributes of a service** are those of the first text record that has some. -/
theorem describe_eq_find? (records : List Record) :
    describe records = ((descriptions records).find? (· ≠ [])).getD [] := by
  have hstep : describe records = (records.filterMap strings?).foldl
      (fun found ss => if found.isEmpty then validAttributes ss else found) [] := by
    rw [List.foldl_filterMap]
    refine congrArg (fun f => List.foldl f [] records) (funext₂ fun found r => ?_)
    unfold strings?
    cases r.body <;> rfl
  have hempty : (fun found : List Attribute => !found.isEmpty) =
      fun found => decide (found ≠ []) := by
    funext found
    cases found <;> rfl
  rw [hstep, foldl_replace List.isEmpty, ← descriptions, hempty]
  cases hfind : (descriptions records).find? (· ≠ []) with
  | some found => rfl
  | none =>
    -- If no text record has attributes, the last one has none either.
    have hnone := List.find?_eq_none.1 hfind
    cases hlast : (descriptions records).getLast? with
    | none => rfl
    | some last => simpa using hnone last (List.mem_of_getLast? hlast)

theorem locate_eq {records : List Record} {s : Srv} (h : records.filterMap location? = [s]) :
    locate records = (s.target, s.port) := by
  rw [locate_eq_find?, places, h, List.map_singleton, List.find?_singleton]
  split_ifs <;> rfl

theorem describe_eq {records : List Record} {ss : List String}
    (h : records.filterMap strings? = [ss]) : describe records = validAttributes ss := by
  rw [describe_eq_find?, descriptions, h, List.map_singleton, List.find?_singleton]
  split_ifs with hne
  · rfl
  · have hnil : validAttributes ss = [] := by simpa using hne
    rw [hnil]
    rfl

theorem addressesOf_eq {records : List Record} {host : String} (hne : host ≠ "")
    (h : ∀ r ∈ records, (address? r).isSome → r.isNamed host) :
    addressesOf records host = (records.filterMap address?).eraseDups := by
  rw [addressesOf, if_neg hne, filterMap_filter_of_isSome h, firstOccurrences_eq_eraseDups]

theorem validAttributes_map_text {as : List Attribute} (h : ∀ a ∈ as, a.hasKey) :
    validAttributes (as.map Attribute.text) = as := by
  rw [validAttributes, List.filterMap_map]
  refine (List.filterMap_congr fun a ha => ?_).trans List.filterMap_some
  rw [Function.comp_apply, Attribute.ofText_text (h a ha)]
  rfl

/-! ### The whole service -/

theorem assemble_eq_parts (records : List Record) (name : String) : assemble records name =
    { name, domain := Name.domain name
      host := (locate (records.filter (·.isNamed name))).1
      addresses := addressesOf records (locate (records.filter (·.isNamed name))).1
      port := (locate (records.filter (·.isNamed name))).2
      attributes := describe (records.filter (·.isNamed name)) } := rfl

/-- **The service that one location, one text record and the addresses of a host make up**, in
whatever order they are. -/
theorem assemble_eq {records : List Record} {name : String} {s : Srv} {ss : List String}
    (hl : records.filterMap location? = [s]) (hd : records.filterMap strings? = [ss])
    (hln : ∀ r ∈ records, (location? r).isSome → r.isNamed name)
    (hdn : ∀ r ∈ records, (strings? r).isSome → r.isNamed name)
    (ha : ∀ r ∈ records, (address? r).isSome → r.isNamed s.target) (hne : s.target ≠ "") :
    assemble records name = {
      name, domain := Name.domain name, host := s.target, port := s.port
      addresses := (records.filterMap address?).eraseDups
      attributes := validAttributes ss } := by
  have hown : locate (records.filter (·.isNamed name)) = (s.target, s.port) :=
    locate_eq (by rw [filterMap_filter_of_isSome hln, hl])
  have htext : describe (records.filter (·.isNamed name)) = validAttributes ss :=
    describe_eq (by rw [filterMap_filter_of_isSome hdn, hd])
  simp only [assemble_eq_parts, hown, htext, addressesOf_eq hne ha]

theorem distinctNames_pair {name : String} (h : name ≠ "") :
    distinctNames [name, name] = [name] := by
  simp [distinctNames, h, Name.same]

end ServiceDiscovery.Service
