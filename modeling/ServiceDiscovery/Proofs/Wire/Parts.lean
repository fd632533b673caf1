import ServiceDiscovery.Wire.Output
import Mathlib.Data.List.Forall2

/-!
# Writing part by part

What is written without failure is all of its parts, each written without failure, in a row.

* `bind_eq_ok`, `mapM_eq_ok`, `mapM_eq_error`: steps that may fail, one after another and for each of
  a list;
* `complete_ofParts`, `complete_append`, `complete_map`: the parts of an output.
-/

namespace ServiceDiscovery

/-! ### Steps that may fail -/

section Steps
variable {α β : Type}

theorem bind_eq_ok {x : Except Error α} {f : α → Except Error β} {b : β} :
    x >>= f = .ok b ↔ ∃ a, x = .ok a ∧ f a = .ok b := by
  cases x with
  | error e => exact ⟨fun h => (by cases h), fun ⟨_, h, _⟩ => (by cases h)⟩
  | ok a => exact ⟨fun h => ⟨a, rfl, h⟩, fun ⟨_, h, h'⟩ => (by cases h; exact h')⟩

theorem bind_eq_error {x : Except Error α} {f : α → Except Error β} {e : Error} :
    x >>= f = .error e ↔ x = .error e ∨ ∃ a, x = .ok a ∧ f a = .error e := by
  cases x with
  | error e' =>
    constructor
    · rintro ⟨⟩
      exact .inl rfl
    · rintro (h | ⟨_, ⟨⟩, _⟩)
      cases h
      rfl
  | ok a =>
    constructor
    · exact fun h => .inr ⟨a, rfl, h⟩
    · rintro (h | ⟨_, h, h'⟩)
      · cases h
      · cases h
        exact h'

theorem pure_eq_ok {a b : α} : (pure a : Except Error α) = .ok b ↔ a = b :=
  ⟨fun h => Except.ok.inj h, fun h => congrArg _ h⟩

/-- What is made of the one value that a step gives if it can be taken. -/
theorem exists_given_iff {fits : Prop} {x : α} {f : α → β} {b : β} :
    (∃ a, (fits ∧ a = x) ∧ f a = b) ↔ fits ∧ b = f x := by
  constructor
  · rintro ⟨a, ⟨hfits, rfl⟩, rfl⟩
    exact ⟨hfits, rfl⟩
  · rintro ⟨hfits, rfl⟩
    exact ⟨x, ⟨hfits, rfl⟩, rfl⟩

/-- Each member of a list can be taken through a step that may fail if all of them can. -/
theorem mapM_eq_ok {f : α → Except Error β} {as : List α} {bs : List β} :
    as.mapM f = .ok bs ↔ List.Forall₂ (fun a b => f a = .ok b) as bs := by
  induction as generalizing bs with
  | nil =>
    rw [List.mapM_nil, pure_eq_ok, List.forall₂_nil_left_iff]
    exact eq_comm
  | cons a as ih =>
    simp only [List.mapM_cons, bind_eq_ok, pure_eq_ok, List.forall₂_cons_left_iff]
    constructor
    · rintro ⟨b, hb, bs', hbs, rfl⟩
      exact ⟨b, bs', hb, ih.1 hbs, rfl⟩
    · rintro ⟨b, bs', hb, hbs, rfl⟩
      exact ⟨b, hb, bs', ih.2 hbs, rfl⟩

/-- **The first member that cannot be taken through the step says why not all of them can.** -/
theorem mapM_eq_error {f : α → Except Error β} {as : List α} {e : Error} :
    as.mapM f = .error e ↔ ∃ before bad after, as = before ++ bad :: after ∧
      (∀ a ∈ before, ∃ b, f a = .ok b) ∧ f bad = .error e := by
  induction as with
  | nil =>
    refine ⟨by rintro ⟨⟩, ?_⟩
    rintro ⟨before, bad, after, h, -⟩
    simp at h
  | cons a as ih =>
    simp only [List.mapM_cons, bind_eq_error]
    constructor
    · rintro (h | ⟨b, hb, h | ⟨_, _, ⟨⟩⟩⟩)
      · exact ⟨[], a, as, rfl, by simp, h⟩
      · obtain ⟨before, bad, after, rfl, hbefore, hbad⟩ := ih.1 h
        exact ⟨a :: before, bad, after, rfl, List.forall_mem_cons.2 ⟨⟨b, hb⟩, hbefore⟩, hbad⟩
    · rintro ⟨before, bad, after, h, hbefore, hbad⟩
      cases before with
      | nil =>
        obtain ⟨rfl, -⟩ := List.cons.inj h
        exact .inl hbad
      | cons a' before =>
        obtain ⟨rfl, rfl⟩ := List.cons.inj h
        obtain ⟨⟨b, hb⟩, hbefore⟩ := List.forall_mem_cons.1 hbefore
        exact .inr ⟨b, hb, .inl (ih.2 ⟨before, bad, after, rfl, hbefore, hbad⟩)⟩

/-- Members that are all written the same way can be written one by one if each of them can. -/
theorem mapM_write_eq_ok {write : α → Except Error β} {wire : α → β} {fits : α → Prop}
    (h : ∀ a b, write a = .ok b ↔ fits a ∧ b = wire a) {as : List α} {pieces : List β} :
    as.mapM write = .ok pieces ↔ (∀ a ∈ as, fits a) ∧ pieces = as.map wire := by
  rw [mapM_eq_ok]
  simp only [h]
  constructor
  · intro hp
    induction hp with
    | nil => simp
    | cons ha _ ih =>
      obtain ⟨hfit, rfl⟩ := ha
      obtain ⟨hfits, rfl⟩ := ih
      exact ⟨List.forall_mem_cons.2 ⟨hfit, hfits⟩, rfl⟩
  · rintro ⟨hfits, rfl⟩
    rw [List.forall₂_map_right_iff, List.forall₂_same]
    exact fun a ha => ⟨hfits a ha, rfl⟩

end Steps

/-! ### Parts in a row -/

namespace Output

theorem ofParts_nil : ofParts [] = ⟨[], none⟩ := rfl

theorem ofParts_ok (bytes : Bytes) (parts : List Part) :
    ofParts (.ok bytes :: parts) = ⟨bytes ++ (ofParts parts).bytes, (ofParts parts).failure⟩ := by
  simp [ofParts, Part.failure?, Part.bytes?, List.findSome?_cons]

theorem ofParts_error (e : Error) (parts : List Part) :
    ofParts (.error e :: parts) = ⟨[], some e⟩ := by
  simp [ofParts, Part.failure?, List.findSome?_cons]

/-- **What is written without failure is all parts in a row.** -/
theorem complete_ofParts {parts : List Part} {bytes : Bytes} :
    (ofParts parts).complete = .ok bytes ↔
      ∃ pieces : List Bytes, parts = pieces.map .ok ∧ bytes = pieces.flatten := by
  induction parts generalizing bytes with
  | nil =>
    rw [ofParts_nil, complete]
    constructor
    · rintro ⟨⟩
      exact ⟨[], rfl, rfl⟩
    · rintro ⟨pieces, hp, rfl⟩
      rw [List.map_eq_nil_iff.1 hp.symm]
      rfl
  | cons part parts ih =>
    cases part with
    | error e =>
      rw [ofParts_error, complete]
      constructor
      · rintro ⟨⟩
      · rintro ⟨_ | ⟨piece, pieces⟩, hp, -⟩ <;> cases hp
    | ok piece =>
      have hc : (ofParts (.ok piece :: parts)).complete =
          (ofParts parts).complete.map (piece ++ ·) := by
        rw [ofParts_ok, complete, complete]
        cases (ofParts parts).failure <;> rfl
      rw [hc]
      constructor
      · intro h
        cases hr : (ofParts parts).complete with
        | error e => rw [hr] at h; cases h
        | ok more =>
          rw [hr] at h
          obtain ⟨pieces, rfl, rfl⟩ := ih.1 hr
          cases h
          exact ⟨piece :: pieces, rfl, rfl⟩
      · rintro ⟨_ | ⟨piece', pieces⟩, hp, rfl⟩
        · cases hp
        · obtain ⟨⟨⟩, hps⟩ := List.cons.inj hp
          rw [ih.2 ⟨pieces, hps, rfl⟩]
          rfl

theorem complete_append {parts parts' : List Part} {bytes : Bytes} :
    (ofParts (parts ++ parts')).complete = .ok bytes ↔
      ∃ front back, (ofParts parts).complete = .ok front ∧
        (ofParts parts').complete = .ok back ∧ bytes = front ++ back := by
  simp only [complete_ofParts]
  constructor
  · rintro ⟨pieces, hp, rfl⟩
    obtain ⟨front, back, rfl, rfl, rfl⟩ := List.append_eq_map_iff.1 hp
    exact ⟨_, _, ⟨front, rfl, rfl⟩, ⟨back, rfl, rfl⟩, List.flatten_append⟩
  · rintro ⟨_, _, ⟨front, rfl, rfl⟩, ⟨back, rfl, rfl⟩, rfl⟩
    exact ⟨front ++ back, List.map_append.symm, List.flatten_append.symm⟩

/-- Parts that are all written the same way are written without failure if each of them is. -/
theorem complete_map {α : Type} {part : α → Part} {wire : α → Bytes} {fits : α → Prop}
    (h : ∀ a bytes, part a = .ok bytes ↔ fits a ∧ bytes = wire a) {as : List α} {bytes : Bytes} :
    (ofParts (as.map part)).complete = .ok bytes ↔
      (∀ a ∈ as, fits a) ∧ bytes = as.flatMap wire := by
  have hm : ∀ pieces : List Bytes, as.map part = pieces.map .ok ↔
      (∀ a ∈ as, fits a) ∧ pieces = as.map wire := by
    intro pieces
    rw [← mapM_write_eq_ok h, mapM_eq_ok, ← List.forall₂_eq_eq_eq, List.forall₂_map_left_iff,
      List.forall₂_map_right_iff]
  rw [complete_ofParts]
  constructor
  · rintro ⟨pieces, hp, rfl⟩
    obtain ⟨hfits, rfl⟩ := (hm pieces).1 hp
    exact ⟨hfits, rfl⟩
  · rintro ⟨hfits, rfl⟩
    exact ⟨as.map wire, (hm _).2 ⟨hfits, rfl⟩, rfl⟩

end Output

end ServiceDiscovery
