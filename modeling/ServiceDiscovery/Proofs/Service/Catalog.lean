import ServiceDiscovery.Service.Basic
import Mathlib.Data.List.Perm.Basic

/-!
# Catalogs

A catalog takes up services one after another and passes over those that it lists already. What
counts in comparing services is all but their attributes (`Service.bare`), so which services are
listed in the end, up to this comparison, depends on which were offered and not on their order or
number.

* `Service.same_iff`: the comparison as an equality, and so an equivalence;
* `Catalog.news`, `insertAll`, `services_insertAll`: what many services add to a catalog;
* `IsDistinct.insertAll`: no service is listed twice;
* `SameServices`, `sameServices_insertAll`: catalogs after the same services in any order.
-/

namespace ServiceDiscovery

namespace Service

/-- What is compared of a service: all but its attributes. -/
def bare (s : Service) : Service := { s with attributes := [] }

/-- **Services are the same exactly if they agree in all but their attributes.** -/
theorem same_iff {s s' : Service} : s.same s' ↔ s.bare = s'.bare := by
  cases s
  cases s'
  simp only [same, bare, Service.mk.injEq, Bool.and_eq_true, decide_eq_true_eq]
  tauto

end Service

namespace Catalog

/-! ### Adding services -/

/-- The services among those offered that a catalog does not list, each at its first occurrence. -/
def news (c : Catalog) : List Service → List Service
  | [] => []
  | s :: ss => if c.contains s then c.news ss else s :: (c.insert s).news ss

def insertAll (c : Catalog) (ss : List Service) : Catalog := ss.foldl insert c

theorem contains_iff {c : Catalog} {s : Service} :
    c.contains s ↔ s.bare ∈ c.services.map Service.bare := by
  rw [contains, List.any_eq_true, List.mem_map]
  exact exists_congr fun t => and_congr_right fun _ => Service.same_iff

theorem insert_of_contains {c : Catalog} {s : Service} (h : c.contains s) : c.insert s = c :=
  if_pos h

theorem services_insert {c : Catalog} {s : Service} (h : ¬c.contains s) :
    (c.insert s).services = c.services ++ [s] := by
  unfold insert
  rw [if_neg h]

theorem news_cons_of_contains {c : Catalog} {s : Service} (h : c.contains s)
    (ss : List Service) : c.news (s :: ss) = c.news ss := if_pos h

theorem news_cons {c : Catalog} {s : Service} (h : ¬c.contains s) (ss : List Service) :
    c.news (s :: ss) = s :: (c.insert s).news ss := if_neg h

/-- **The services that were not listed are added at the end, in their order.** -/
theorem services_insertAll (c : Catalog) (ss : List Service) :
    (c.insertAll ss).services = c.services ++ c.news ss := by
  induction ss generalizing c with
  | nil => exact (List.append_nil _).symm
  | cons s ss ih =>
    have hstep : c.insertAll (s :: ss) = (c.insert s).insertAll ss := rfl
    rw [hstep, ih]
    by_cases h : c.contains s
    · rw [insert_of_contains h, news_cons_of_contains h]
    · rw [services_insert h, news_cons h, List.append_assoc]
      rfl

theorem insertAll_append (c : Catalog) (ss ss' : List Service) :
    c.insertAll (ss ++ ss') = (c.insertAll ss).insertAll ss' := List.foldl_append

theorem news_append (c : Catalog) (ss ss' : List Service) :
    c.news (ss ++ ss') = c.news ss ++ (c.insertAll ss).news ss' := by
  have h := services_insertAll c (ss ++ ss')
  rw [insertAll_append, services_insertAll, services_insertAll, List.append_assoc] at h
  exact (List.append_cancel_left h).symm

/-! ### Which services are added -/

/-- A service is among the news, up to its attributes, exactly if it is offered and not listed. -/
theorem mem_news {c : Catalog} {ss : List Service} {s : Service} :
    s ∈ (c.news ss).map Service.bare ↔
      s ∈ ss.map Service.bare ∧ s ∉ c.services.map Service.bare := by
  induction ss generalizing c with
  | nil => simp [news]
  | cons t ss ih =>
    by_cases h : c.contains t
    · -- The service at the front is listed, so it is none of those in question.
      have ht := contains_iff.1 h
      rw [news_cons_of_contains h, ih, List.map_cons, List.mem_cons]
      constructor
      · rintro ⟨hs, hc⟩
        exact ⟨.inr hs, hc⟩
      · rintro ⟨rfl | hs, hc⟩
        · exact absurd ht hc
        · exact ⟨hs, hc⟩
    · have ht : t.bare ∉ c.services.map Service.bare := fun hmem => h (contains_iff.2 hmem)
      rw [news_cons h, List.map_cons, List.mem_cons, ih, services_insert h, List.map_cons,
        List.mem_cons, List.map_append, List.mem_append, List.map_singleton, List.mem_singleton]
      by_cases hs : s = t.bare
      · simp [hs, ht]
      · simp [hs]

theorem nodup_news (c : Catalog) (ss : List Service) : ((c.news ss).map Service.bare).Nodup := by
  induction ss generalizing c with
  | nil => exact List.nodup_nil
  | cons t ss ih =>
    by_cases h : c.contains t
    · rw [news_cons_of_contains h]
      exact ih c
    · rw [news_cons h, List.map_cons, List.nodup_cons]
      refine ⟨fun hmem => ?_, ih _⟩
      have hnew := (mem_news.1 hmem).2
      rw [services_insert h] at hnew
      exact hnew (List.mem_map_of_mem (List.mem_append_right _ (List.mem_singleton_self t)))

/-- No service is listed twice. -/
def IsDistinct (c : Catalog) : Prop := c.services.Pairwise fun s s' => ¬s.same s'

theorem isDistinct_iff {c : Catalog} : c.IsDistinct ↔ (c.services.map Service.bare).Nodup := by
  rw [IsDistinct, List.Nodup, List.pairwise_map]
  simp only [Service.same_iff, ne_eq]

/-- **A catalog without repetition stays so.** -/
theorem IsDistinct.insertAll {c : Catalog} (h : c.IsDistinct) (ss : List Service) :
    (c.insertAll ss).IsDistinct := by
  rw [isDistinct_iff] at h ⊢
  rw [services_insertAll, List.map_append, List.nodup_append]
  refine ⟨h, nodup_news c ss, fun s hlisted s' hnew he => ?_⟩
  rw [he] at hlisted
  exact (mem_news.1 hnew).2 hlisted

/-! ### The same services in another order -/

/-- Two catalogs list the same services, up to their order. -/
def SameServices (c c' : Catalog) : Prop :=
  ∃ services, List.Forall₂ (fun s s' => s.same s') c.services services ∧
    services.Perm c'.services

theorem sameServices_iff {c c' : Catalog} : c.SameServices c' ↔
    (c.services.map Service.bare).Perm (c'.services.map Service.bare) := by
  have hmap := congrFun (congrFun (List.eq_map_comp_perm Service.bare)
    (c.services.map Service.bare)) c'.services
  rw [← hmap]
  refine exists_congr fun services => and_congr_left fun _ => ?_
  simp only [← List.forall₂_eq_eq_eq, List.forall₂_map_left_iff, List.forall₂_map_right_iff,
    Service.same_iff]

/-- **Offering the same services, in any order and any number of times, gives the same catalog up
to order.** -/
theorem sameServices_insertAll (c : Catalog) {ss ss' : List Service}
    (h : ∀ s, s ∈ ss ↔ s ∈ ss') : (c.insertAll ss).SameServices (c.insertAll ss') := by
  rw [sameServices_iff, services_insertAll, services_insertAll, List.map_append, List.map_append]
  refine List.Perm.append_left _ ?_
  rw [List.perm_ext_iff_of_nodup (nodup_news c ss) (nodup_news c ss')]
  intro s
  have hoffered : s ∈ ss.map Service.bare ↔ s ∈ ss'.map Service.bare := by
    simp only [List.mem_map, h]
  rw [mem_news, mem_news, hoffered]

end Catalog

end ServiceDiscovery
