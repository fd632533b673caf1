import ServiceDiscovery.Bytes
import Mathlib.Data.List.Basic

/-!
# Numbers by their digits

A number is known by its digits in any base up to sixteen, and its digits are digits: what is put
behind them to end them can be told from them.

* `append_cons_inj`: what stands in front of a character that does not occur in it;
* `toDigits_inj`: numbers with the same digits;
* `notMem_toDigits`: characters that are no digits;
* `toDigits_append_inj`: a number in front of a character that ends it;
* `toList_toString_byte`, `toList_toString_word`: bytes and 16-bit numbers in decimal.
-/

namespace ServiceDiscovery.Text

variable {b m n : Nat}

/-- What stands in front of a character can be read if the character does not occur in it. -/
theorem append_cons_inj {c : Char} {front front' rest rest' : List Char} (h : c ∉ front)
    (h' : c ∉ front') (heq : front ++ c :: rest = front' ++ c :: rest') :
    front = front' ∧ rest = rest' := by
  rcases List.append_eq_append_iff.1 heq with ⟨between, rfl, hc⟩ | ⟨between, rfl, hc⟩
  · cases between with
    | nil => exact ⟨(List.append_nil front).symm, (List.cons.inj hc).2⟩
    | cons d between =>
      obtain rfl := (List.cons.inj hc).1
      simp at h'
  · cases between with
    | nil => exact ⟨List.append_nil front', (List.cons.inj hc).2.symm⟩
    | cons d between =>
      obtain rfl := (List.cons.inj hc).1
      simp at h

theorem digitChar_inj (hm : m < 16) (hn : n < 16) (h : m.digitChar = n.digitChar) : m = n := by
  have hall : ∀ m < 16, ∀ n < 16, Nat.digitChar m = Nat.digitChar n → m = n := by decide
  exact hall m hm n hn h

/-- **Numbers with the same digits are equal.** -/
theorem toDigits_inj (hb : 1 < b) (hb' : b ≤ 16) :
    Nat.toDigits b m = Nat.toDigits b n ↔ m = n := by
  refine ⟨fun h => ?_, fun h => h ▸ rfl⟩
  induction m using Nat.strongRecOn generalizing n with
  | ind m ih =>
    rw [Nat.toDigits_eq_if hb, Nat.toDigits_eq_if (n := n) hb] at h
    -- The last digits agree, and so do the numbers without them.
    split_ifs at h with hm hn hn
    · exact digitChar_inj (by omega) (by omega) (List.singleton_inj.1 h)
    · exact absurd (List.append_eq_singleton_iff.1 h.symm) (by simp [Nat.toDigits_ne_nil])
    · exact absurd (List.append_eq_singleton_iff.1 h) (by simp [Nat.toDigits_ne_nil])
    · obtain ⟨hfront, hlast⟩ := List.append_inj' h rfl
      have hdiv : m / b = n / b := ih (m / b) (Nat.div_lt_self (by omega) hb) hfront
      have hmod : m % b = n % b := by
        have hlt : ∀ k, k % b < 16 := fun k =>
          Nat.lt_of_lt_of_le (Nat.mod_lt k (Nat.lt_of_succ_lt hb)) hb'
        exact digitChar_inj (hlt m) (hlt n) (List.singleton_inj.1 hlast)
      rw [← Nat.div_add_mod m b, ← Nat.div_add_mod n b, hdiv, hmod]

theorem notMem_toDigits {c : Char} (hb : 1 < b) (hc : ∀ d, Nat.digitChar d ≠ c) (n : Nat) :
    c ∉ Nat.toDigits b n := by
  induction n using Nat.strongRecOn with
  | ind n ih =>
    rw [Nat.toDigits_eq_if hb]
    split_ifs with hn
    · exact fun h => hc n (List.mem_singleton.1 h).symm
    · intro h
      rcases List.mem_append.1 h with h | h
      · exact ih (n / b) (Nat.div_lt_self (by omega) hb) h
      · exact hc _ (List.mem_singleton.1 h).symm

/-- **A number can be read in front of a character that is no digit.** -/
theorem toDigits_append_inj {c : Char} {rest rest' : List Char} (hb : 1 < b) (hb' : b ≤ 16)
    (hc : ∀ d, Nat.digitChar d ≠ c)
    (h : Nat.toDigits b m ++ c :: rest = Nat.toDigits b n ++ c :: rest') : m = n ∧ rest = rest' := by
  obtain ⟨hdigits, hrest⟩ := append_cons_inj (notMem_toDigits hb hc m) (notMem_toDigits hb hc n) h
  exact ⟨(toDigits_inj hb hb').1 hdigits, hrest⟩

theorem toList_toString_byte (v : UInt8) : (toString v).toList = Nat.toDigits 10 v.toNat := by
  show (Nat.repr v.toNat).toList = _
  rw [Nat.repr_eq_ofList_toDigits, String.toList_ofList]

theorem toList_toString_word (v : UInt16) : (toString v).toList = Nat.toDigits 10 v.toNat := by
  show (Nat.repr v.toNat).toList = _
  rw [Nat.repr_eq_ofList_toDigits, String.toList_ofList]

end ServiceDiscovery.Text
