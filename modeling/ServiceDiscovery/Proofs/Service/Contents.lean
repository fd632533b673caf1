import ServiceDiscovery.Proofs.Name.Comparison
import ServiceDiscovery.Proofs.Service.Assembly
import Mathlib.Data.List.Induction

/-!
# What services contain

All records with the name of an instance may say something of it, and some may contradict each
other. A service takes host and port from one location, the first one with a host, all attributes
from one text record, the first one with attributes, and from the records of its host every address
once.

* `IsDeduplicated`, `isDeduplicated_firstOccurrences`: values without later repetitions;
* `IsAssembled`: what a service contains, by the records that it is put together from;
* `isAssembled_of_mem`: all services of a message, and all that a request asks for, are so.
-/

namespace ServiceDiscovery.Service

/-! ### Values in their order -/

section Deduplicated

variable {α : Type} [DecidableEq α]

/-- Some values are listed once each, in the order of their first occurrences. -/
structure IsDeduplicated (all listed : List α) : Prop where
  nodup : listed.Nodup
  mem_iff : ∀ x, x ∈ listed ↔ x ∈ all
  ordered : listed.Pairwise fun x y => all.idxOf x < all.idxOf y

theorem firstOccurrences_concat (xs : List α) (x : α) : firstOccurrences (xs ++ [x]) =
    if x ∈ firstOccurrences xs then firstOccurrences xs else firstOccurrences xs ++ [x] := by
  rw [firstOccurrences, List.foldl_concat, ← firstOccurrences]

/-- One more value is listed unless it is so already, and it comes behind all others. -/
theorem IsDeduplicated.concat {all listed : List α} (h : IsDeduplicated all listed) (x : α) :
    IsDeduplicated (all ++ [x]) (if x ∈ listed then listed else listed ++ [x]) := by
  have hordered : listed.Pairwise fun y z => (all ++ [x]).idxOf y < (all ++ [x]).idxOf z := by
    refine h.ordered.imp_of_mem fun {y z} hy hz hlt => ?_
    rwa [List.idxOf_append_of_mem ((h.mem_iff y).1 hy),
      List.idxOf_append_of_mem ((h.mem_iff z).1 hz)]
  split_ifs with hx
  · refine ⟨h.nodup, fun y => ?_, hordered⟩
    rw [h.mem_iff, List.mem_append, List.mem_singleton]
    refine ⟨.inl, ?_⟩
    rintro (hy | rfl)
    · exact hy
    · exact (h.mem_iff y).1 hx
  · have hall : x ∉ all := fun hmem => hx ((h.mem_iff x).2 hmem)
    refine ⟨List.nodup_append.2 ⟨h.nodup, List.pairwise_singleton _ x, ?_⟩, fun y => ?_, ?_⟩
    · rintro y hy z hz rfl
      exact hx (List.mem_singleton.1 hz ▸ hy)
    · rw [List.mem_append, List.mem_append, h.mem_iff]
    · refine List.pairwise_append.2 ⟨hordered, List.pairwise_singleton _ _, fun y hy z hz => ?_⟩
      have hy := (h.mem_iff y).1 hy
      rw [List.mem_singleton.1 hz, List.idxOf_append_of_mem hy, List.idxOf_append_of_notMem hall]
      exact Nat.lt_of_lt_of_le (List.idxOf_lt_length_of_mem hy) (Nat.le_add_right _ _)

/-- **Each value is listed at its first occurrence, and once.** -/
theorem isDeduplicated_firstOccurrences (xs : List α) :
    IsDeduplicated xs (firstOccurrences xs) := by
  induction xs using List.reverseRecOn with
  | nil => exact ⟨List.nodup_nil, fun _ => Iff.rfl, .nil⟩
  | append_singleton xs x ih =>
    rw [firstOccurrences_concat]
    exact ih.concat x

end Deduplicated

/-! ### Services and their records -/

/-- The addresses that records give of a host, record by record. -/
def hostAddresses (records : List Record) (host : String) : List IpAddress :=
  (records.filter (·.isNamed host)).filterMap address?

/-- What a service contains, by all records of its message. -/
structure IsAssembled (records : List Record) (s : Service) : Prop where
  /-- Host and port are those of the first location with a host. -/
  place : ∀ place, (places (records.filter (·.isNamed s.name))).find? (·.1 ≠ "") = some place →
    (s.host, s.port) = place
  noHost : (∀ place ∈ places (records.filter (·.isNamed s.name)), place.1 = "") → s.host = ""
  /-- Host and port are never of two locations. -/
  unmixed : (s.host, s.port) = ("", 0) ∨
    (s.host, s.port) ∈ places (records.filter (·.isNamed s.name))
  /-- The attributes are those of the first text record that has some. -/
  attributes : s.attributes =
    ((descriptions (records.filter (·.isNamed s.name))).find? (· ≠ [])).getD []
  addresses : s.host ≠ "" → IsDeduplicated (hostAddresses records s.host) s.addresses
  noAddress : s.host = "" → s.addresses = []

theorem find?_or_getLast?_mem {α : Type} {p : α → Bool} {as : List α} {a : α}
    (h : (as.find? p).or as.getLast? = some a) : a ∈ as := by
  cases hfind : as.find? p with
  | some b =>
    rw [hfind] at h
    exact Option.some.inj h ▸ List.mem_of_find?_eq_some hfind
  | none =>
    rw [hfind] at h
    exact List.mem_of_getLast? h

/-- **What a service contains.** -/
theorem isAssembled_assemble (records : List Record) (name : String) :
    IsAssembled records (assemble records name) := by
  have hplace : ((assemble records name).host, (assemble records name).port) =
      locate (records.filter (·.isNamed name)) := rfl
  have hlocate := locate_eq_find? (records.filter (·.isNamed name))
  generalize hown : places (records.filter (·.isNamed name)) = own at hlocate
  have haddresses : (assemble records name).addresses =
      addressesOf records (assemble records name).host := rfl
  refine ⟨fun place hfind => ?_, fun hnone => ?_, ?_, describe_eq_find? _, fun hhost => ?_,
    fun hhost => ?_⟩
  · have hfind : own.find? (·.1 ≠ "") = some place := hown ▸ hfind
    rw [hplace, hlocate, hfind]
    rfl
  · have hnone : ∀ place ∈ own, place.1 = "" := hown ▸ hnone
    show (locate _).1 = ""
    rw [hlocate]
    cases hchosen : (own.find? (·.1 ≠ "")).or own.getLast? with
    | none => rfl
    | some place => exact hnone place (find?_or_getLast?_mem hchosen)
  · show _ ∨ _ ∈ places (records.filter (·.isNamed name))
    rw [hplace, hlocate, hown]
    cases hchosen : (own.find? (·.1 ≠ "")).or own.getLast? with
    | none => exact .inl rfl
    | some place => exact .inr (find?_or_getLast?_mem hchosen)
  · rw [haddresses, addressesOf, if_neg hhost]
    exact isDeduplicated_firstOccurrences _
  · rw [haddresses, addressesOf, if_pos hhost]

theorem exists_of_mem_gather {pointers locations : String → Bool} {records : List Record}
    {s : Service} (h : s ∈ gather pointers locations records) :
    ∃ name, s = assemble records name := by
  obtain ⟨name, -, rfl⟩ := List.mem_map.1 h
  exact ⟨name, rfl⟩

/-- **What the services of a message contain**, whether all of them are listed or those that a
request asks for: host and port of the first location with a host, the attributes of the first text
record that has some, and each address of the host once, in the order of the records. -/
theorem isAssembled_of_mem {request m : Message} {s : Service}
    (h : s ∈ announced m ∨ s ∈ requested request m) : IsAssembled m.records s := by
  rcases h with h | h
  · obtain ⟨name, rfl⟩ := exists_of_mem_gather h
    exact isAssembled_assemble m.records name
  · obtain ⟨name, rfl⟩ := exists_of_mem_gather h
    exact isAssembled_assemble m.records name

/-- Records of one name that contradict each other, and the addresses of a host: of three locations
the first one has no host, and of three text records the first one has no attribute. -/
def contradictory : Message :=
  let record (name : String) (body : Body) : Record :=
    { header := { name, type := body.type?.getD .none, ttl := 120 }, data := [], body }
  let own := record "Web._http._tcp.local"
  { answers := #[own (.srv { port := 1, target := "" }), own (.txt ["=x"]),
      own (.srv { port := 8009, target := "web.local" }), own (.txt ["=y", "flag", "id=1"]),
      own (.srv { port := 9, target := "other.local" }), own (.txt ["id=2"])]
    additionals := #[record "web.local" (.a ⟨10, 0, 0, 2⟩), record "WEB.local." (.a ⟨10, 0, 0, 1⟩),
      record "web.local" (.a ⟨10, 0, 0, 2⟩)] }

def contradictoryService : Service where
  name := "Web._http._tcp.local"
  domain := "local"
  host := "web.local"
  addresses := [.v4 ⟨10, 0, 0, 2⟩, .v4 ⟨10, 0, 0, 1⟩]
  port := 8009
  attributes := [⟨"flag", ""⟩, ⟨"id", "1"⟩]

theorem assemble_contradictory :
    assemble contradictory.records "Web._http._tcp.local" = contradictoryService := by
  have hhost : Name.same "web.local" "Web._http._tcp.local" = false := by decide +kernel
  have hcapitals : Name.same "WEB.local." "Web._http._tcp.local" = false := by decide +kernel
  have hinstance : Name.same "Web._http._tcp.local" "web.local" = false := by decide +kernel
  have hsame : Name.same "WEB.local." "web.local" := Name.same_iff_toList.2 (by decide +kernel)
  -- Once the names have been compared, the rest is evaluated.
  have hown : contradictory.records.filter (·.isNamed "Web._http._tcp.local") =
      contradictory.answers.toList := by
    simp only [contradictory, Message.records, Record.isNamed, List.cons_append, List.nil_append,
      List.filter_cons, Name.same_self, hhost, hcapitals, if_true, Bool.false_eq_true, if_false]
    rfl
  have hofHost : contradictory.records.filter (·.isNamed "web.local") =
      contradictory.additionals.toList := by
    simp only [contradictory, Message.records, Record.isNamed, List.cons_append, List.nil_append,
      List.filter_cons, Name.same_self, hinstance, hsame, if_true, Bool.false_eq_true, if_false]
    rfl
  have hplace : locate contradictory.answers.toList = ("web.local", 8009) := by decide +kernel
  have hattributes : describe contradictory.answers.toList = contradictoryService.attributes := by
    decide +kernel
  have haddresses : addressesOf contradictory.records "web.local" =
      contradictoryService.addresses := by
    rw [addressesOf, hofHost]
    decide +kernel
  have hdomain : Name.domain "Web._http._tcp.local" = "local" := by decide +kernel
  rw [assemble_eq_parts, hown, hattributes, hplace, haddresses, hdomain]
  rfl

theorem isAssembled_of_mem_contradictory :
    (contradictoryService ∈ announced contradictory ∨
      contradictoryService ∈ requested .request contradictory) ∧
      IsAssembled contradictory.records contradictoryService := by
  have hnames : contradictory.records.filterMap (instance? Name.namesType Name.namesInstance) =
      List.replicate 3 "Web._http._tcp.local" := by decide +kernel
  have hname : "Web._http._tcp.local" ∈ distinctNames
      (contradictory.records.filterMap (instance? Name.namesType Name.namesInstance)) := by
    rw [hnames]
    simp [distinctNames, Name.same]
  have hmem : contradictoryService ∈ announced contradictory :=
    List.mem_map.2 ⟨"Web._http._tcp.local", hname, assemble_contradictory⟩
  exact ⟨.inl hmem, @isAssembled_of_mem .request _ _ (.inl hmem)⟩

end ServiceDiscovery.Service
