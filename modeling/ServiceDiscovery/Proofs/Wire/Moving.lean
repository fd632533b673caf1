import ServiceDiscovery.Proofs.Record.Body
import ServiceDiscovery.Proofs.Wire.Pointers
import ServiceDiscovery.Proofs.Wire.Spelling

/-!
# Reading the same in another place

Most readers look at nothing but the bytes before them, so that the same bytes are read the same
wherever they stand. Names also look at the packet, but only where a pointer leads.

* `Cursor.placed`: a place of a packet; `word_moves`, `long_moves`, `take_moves`: how far fixed
  amounts reach;
* `Follows`: what is read at one cursor is also read at another one, over as many bytes;
  `Follows.bind`: one reader after another;
* `follows_of_consumes`: fixed amounts; `follows_texts`: strings up to the end;
* `follows_name`, `follows_name_of_no_pointers`: names in the same packet, and names without
  pointers in any.
-/

namespace ServiceDiscovery

namespace Cursor

/-- The place of a packet that is `offset` bytes from its start. -/
def placed (packet : Bytes) (offset : Nat) : Cursor := ⟨packet, packet.drop offset, offset⟩

theorem placed_zero (packet : Bytes) : placed packet 0 = start packet := rfl

theorem placed_skip (packet : Bytes) (offset n : Nat) :
    (placed packet offset).skip n = placed packet (offset + n) := by
  rw [placed, skip, List.drop_drop, placed]

theorem skip_inj {c : Cursor} {m n : Nat} (h : c.skip m = c.skip n) : m = n :=
  Nat.add_left_cancel (congrArg Cursor.offset h)

theorem rest_skip_congr {c d : Cursor} (h : c.rest = d.rest) (n : Nat) :
    (c.skip n).rest = (d.skip n).rest := congrArg (List.drop n) h

end Cursor

namespace Reader

variable {α β : Type} {c d : Cursor}

/-! ### How far readers move -/

theorem word_moves {v : UInt16} {c' : Cursor} (h : word c = .ok v c') : c' = c.skip 2 := by
  unfold word at h
  split at h <;> cases h
  rfl

theorem long_moves {v : UInt32} {c' : Cursor} (h : long c = .ok v c') : c' = c.skip 4 := by
  unfold long at h
  split at h <;> cases h
  rfl

theorem take_moves {n : Nat} {bytes : Bytes} {c' : Cursor} (h : take n c = .ok bytes c') :
    bytes = c.rest.take n ∧ bytes.length = n ∧ c' = c.skip n := by
  simp only [take] at h
  split at h
  · next hn =>
    cases h
    exact ⟨rfl, hn, rfl⟩
  · cases h

/-! ### The same in another place -/

/-- What the reader gives at one cursor it also gives at the other, and moves as far. -/
def Follows (read : Reader α) (c d : Cursor) : Prop :=
  ∀ a c', read c = .ok a c' → ∃ n, c' = c.skip n ∧ read d = .ok a (d.skip n)

theorem follows_pure (a : α) (c d : Cursor) : Follows (pure a) c d := by
  intro a' c' h
  cases h
  exact ⟨0, rfl, rfl⟩

theorem Follows.bind {read : Reader α} {f : α → Reader β} (h : Follows read c d)
    (h' : ∀ a n, read c = .ok a (c.skip n) → Follows (f a) (c.skip n) (d.skip n)) :
    Follows (read >>= f) c d := by
  intro b c'' hb
  obtain ⟨a, c', ha, hb⟩ := exists_of_bind_ok hb
  obtain ⟨n, rfl, hd⟩ := h a c' ha
  obtain ⟨m, rfl, hd'⟩ := h' a n ha b c'' hb
  refine ⟨n + m, Cursor.skip_skip c n m, ?_⟩
  rw [bind_eq_of_ok hd, hd', Cursor.skip_skip]

/-- The last step of a reading may only give a value. -/
theorem Follows.bind_pure {read : Reader α} (h : Follows read c d) (f : α → β) :
    Follows (read >>= fun a => pure (f a)) c d := h.bind fun a _ _ => follows_pure (f a) _ _

theorem Follows.readAll {read : Reader α} {a : α} (h : Follows read c d)
    (ha : readAll read c = .ok a) : readAll read d = .ok a := by
  obtain ⟨c', hr⟩ := exists_of_readAll_eq_ok ha
  obtain ⟨n, -, hd⟩ := h a c' hr
  rw [Reader.readAll, hd]

/-! ### Fixed amounts and strings -/

theorem follows_of_consumes {read : Reader α} (h : Consumes read) (hrest : c.rest = d.rest) :
    Follows read c d := by
  intro a c' ha
  obtain ⟨bytes, rest, hc, htakes⟩ := h c a c' ha
  rw [htakes c rest hc] at ha
  cases ha
  exact ⟨bytes.length, rfl, htakes d rest (hrest ▸ hc)⟩

theorem follows_word (hrest : c.rest = d.rest) : Follows word c d :=
  follows_of_consumes consumes_word hrest

theorem follows_text (hrest : c.rest = d.rest) : Follows text c d :=
  follows_of_consumes (consumes_byte.bind fun _ => (consumes_take _).bind fun _ => consumes_pure _)
    hrest

/-- Strings up to the end are read the same if the same bytes are left. -/
theorem follows_textsFrom (seen : Array String) (hrest : c.rest = d.rest) :
    Follows (textsFrom seen) c d := by
  intro all c' h
  revert d
  -- String by string: each moves both cursors, and the end is seen at the same time.
  fun_induction textsFrom seen c with
  | case1 seen c e c' h' => cases h
  | case2 seen c s c' h' seen' hlast =>
    intro d hrest
    obtain ⟨n, rfl, hd⟩ := follows_text hrest s c' h'
    injection h with hall hc
    refine ⟨n, hc.symm, ?_⟩
    rw [textsFrom_of_ok hd, ← Cursor.rest_skip_congr hrest n, if_pos hlast, ← hall]
    rfl
  | case3 seen c s c' h' seen' hmore ih =>
    intro d hrest
    obtain ⟨n, rfl, hd⟩ := follows_text hrest s c' h'
    have hrest' := Cursor.rest_skip_congr hrest n
    obtain ⟨m, rfl, hd'⟩ := ih h hrest'
    refine ⟨n + m, Cursor.skip_skip c n m, ?_⟩
    rw [textsFrom_of_ok hd, ← hrest', if_neg hmore, ← Cursor.skip_skip]
    exact hd'

theorem follows_texts (hrest : c.rest = d.rest) : Follows texts c d :=
  (follows_textsFrom #[] hrest).bind_pure Array.toList

/-! ### Names -/

theorem follows_name_of_spells {labels : List Bytes} {used pointers : Nat}
    (h : Spells c.packet c.rest labels used pointers)
    (h' : Spells d.packet d.rest labels used pointers) : Follows name c d := by
  intro s c' hs
  obtain ⟨labels', used', pointers', hspells, hmax, rfl, rfl⟩ := name_eq_ok_iff_spells.1 hs
  obtain ⟨rfl, rfl, rfl⟩ := h.unique hspells
  exact ⟨used, rfl, name_eq_ok_iff_spells.2 ⟨labels, used, pointers, h', hmax, rfl, rfl⟩⟩

theorem follows_name_of_no_pointers {labels : List Bytes} {used : Nat}
    (h : Spells c.packet c.rest labels used 0) (hrest : c.rest = d.rest) : Follows name c d :=
  follows_name_of_spells h (hrest ▸ h.of_no_pointers d.packet)

theorem follows_name (hpacket : c.packet = d.packet) (hrest : c.rest = d.rest) :
    Follows name c d := by
  intro s c' hs
  obtain ⟨labels, used, pointers, hspells, -⟩ := name_eq_ok_iff_spells.1 hs
  have hspells' := hspells
  rw [hpacket, hrest] at hspells'
  exact follows_name_of_spells hspells hspells' s c' hs

end Reader

end ServiceDiscovery
