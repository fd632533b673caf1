import ServiceDiscovery.Text.Quoted
import ServiceDiscovery.Proofs.Text.Digits

/-!
# Quoted texts can be told apart

No escape is the beginning of another one and none begins with a quote, so a quoted text shows where
it ends and what it says, and so do several of them in a row.

* `Escapes`, `escapes_escape`: what an escape looks like;
* `escape_append_inj`: an escape at the beginning of a text can be read;
* `quoted_append_inj`: so can a quoted text;
* `quotes_inj`: quoted texts with spaces between them.
-/

namespace ServiceDiscovery.Text

/-! ### Escapes -/

/-- The characters with a short escape, each with its letter. -/
def shortEscapes : List (Char × Char) :=
  [('\x00', '0'), ('\t', 't'), ('\r', 'r'), ('\n', 'n'), ('\\', '\\'), ('"', '"')]

/-- What the escape of a character can look like. -/
inductive Escapes : Char → List Char → Prop
  | itself (c : Char) : c ≠ '\\' → c ≠ '"' → Escapes c [c]
  | short (c letter : Char) : (c, letter) ∈ shortEscapes → Escapes c ['\\', letter]
  | codePoint (c : Char) : Escapes c (codePointEscape c)

theorem escapes_escape (c : Char) : Escapes c (escape c) := by
  unfold escape
  split
  · exact .short _ _ (by simp [shortEscapes])
  · exact .short _ _ (by simp [shortEscapes])
  · exact .short _ _ (by simp [shortEscapes])
  · exact .short _ _ (by simp [shortEscapes])
  · exact .short _ _ (by simp [shortEscapes])
  · exact .short _ _ (by simp [shortEscapes])
  · next hbackslash hquote =>
    split_ifs
    · exact .itself c hbackslash hquote
    · exact .codePoint c

/-- No character has the letter of a code point as its short escape. -/
theorem ne_of_mem_shortEscapes {c letter : Char} (h : (c, letter) ∈ shortEscapes) :
    letter ≠ 'u' := by
  have hall : ∀ e ∈ shortEscapes, e.2 ≠ 'u' := by decide
  exact hall _ h

theorem shortEscapes_inj {c d letter : Char} (h : (c, letter) ∈ shortEscapes)
    (h' : (d, letter) ∈ shortEscapes) : c = d := by
  have hall : ∀ e ∈ shortEscapes, ∀ e' ∈ shortEscapes, e.2 = e'.2 → e.1 = e'.1 := by decide
  exact hall _ h _ h' rfl

/-- The digits of a code point end at the brace. -/
theorem codePoint_append_inj {c d : Char} {cs ds : List Char}
    (h : codePointEscape c ++ cs = codePointEscape d ++ ds) : c = d ∧ cs = ds := by
  have hdigits : Nat.toDigits 16 c.toNat ++ '\x7d' :: cs =
      Nat.toDigits 16 d.toNat ++ '\x7d' :: ds := by
    simpa [codePointEscape] using h
  obtain ⟨hcode, hrest⟩ := toDigits_append_inj (by decide) (by decide)
    (fun _ => Nat.digitChar_ne _ rfl) hdigits
  exact ⟨by rw [← Char.ofNat_toNat c, hcode, Char.ofNat_toNat], hrest⟩

theorem Escapes.append_inj {c d : Char} {e e' cs ds : List Char} (he : Escapes c e)
    (he' : Escapes d e') (h : e ++ cs = e' ++ ds) : c = d ∧ cs = ds := by
  cases he with
  | itself hc =>
    cases he' with
    | itself => simpa using h
    | short | codePoint => exact absurd (List.cons.inj h).1 hc
  | short letter hc =>
    cases he' with
    | itself hd => exact absurd (List.cons.inj h).1.symm hd
    | short letter' hd =>
      obtain ⟨rfl, hrest⟩ : letter = letter' ∧ cs = ds := by simpa using h
      exact ⟨shortEscapes_inj hc hd, hrest⟩
    | codePoint =>
      exact absurd (List.cons.inj (List.cons.inj h).2).1 (ne_of_mem_shortEscapes hc)
  | codePoint =>
    cases he' with
    | itself hd => exact absurd (List.cons.inj h).1.symm hd
    | short letter hd =>
      exact absurd (List.cons.inj (List.cons.inj h).2).1.symm (ne_of_mem_shortEscapes hd)
    | codePoint => exact codePoint_append_inj h

/-- **The escape at the beginning of a text can be read.** -/
theorem escape_append_inj {c d : Char} {cs ds : List Char} (h : escape c ++ cs = escape d ++ ds) :
    c = d ∧ cs = ds :=
  (escapes_escape c).append_inj (escapes_escape d) h

/-- An escape does not begin like the end of a quoted text. -/
theorem escape_append_ne (c : Char) (cs ds : List Char) : escape c ++ cs ≠ '"' :: ds := by
  have hne : ∀ {e}, Escapes c e → e ++ cs ≠ '"' :: ds := by
    intro e he h
    cases he with
    | itself _ hquote => exact hquote (List.cons.inj h).1
    | short | codePoint => exact absurd (List.cons.inj h).1 (by decide)
  exact hne (escapes_escape c)

/-! ### Quoted texts -/

/-- What is quoted ends at the first quote that is no escape. -/
theorem flatMap_escape_append_inj {s t cs ds : List Char}
    (h : s.flatMap escape ++ '"' :: cs = t.flatMap escape ++ '"' :: ds) : s = t ∧ cs = ds := by
  induction s generalizing t with
  | nil =>
    cases t with
    | nil => exact ⟨rfl, (List.cons.inj h).2⟩
    | cons d t =>
      rw [List.flatMap_cons, List.append_assoc] at h
      exact absurd h.symm (escape_append_ne d _ _)
  | cons c s ih =>
    cases t with
    | nil =>
      rw [List.flatMap_cons, List.append_assoc] at h
      exact absurd h (escape_append_ne c _ _)
    | cons d t =>
      rw [List.flatMap_cons, List.flatMap_cons, List.append_assoc, List.append_assoc] at h
      obtain ⟨rfl, hrest⟩ := escape_append_inj h
      obtain ⟨rfl, hend⟩ := ih hrest
      exact ⟨rfl, hend⟩

theorem toList_quote (s : String) :
    (quote s).toList = '"' :: (s.toList.flatMap escape ++ ['"']) := String.toList_ofList

/-- **The quoted text at the beginning of a text can be read.** -/
theorem quoted_append_inj {s t : String} {cs ds : List Char}
    (h : (quote s).toList ++ cs = (quote t).toList ++ ds) : s = t ∧ cs = ds := by
  rw [toList_quote, toList_quote] at h
  have hinside : s.toList.flatMap escape ++ '"' :: cs = t.toList.flatMap escape ++ '"' :: ds := by
    simpa using h
  obtain ⟨hs, hrest⟩ := flatMap_escape_append_inj hinside
  exact ⟨String.toList_inj.1 hs, hrest⟩

/-- Quoted texts with spaces between them. -/
def quotes (ss : List String) : String := " ".intercalate (ss.map quote)

/-- What follows the first of several quoted texts. -/
def moreQuotes (ss : List String) : List Char :=
  if ss = [] then [] else ' ' :: (quotes ss).toList

theorem toList_quotes_cons (s : String) (ss : List String) :
    (quotes (s :: ss)).toList = (quote s).toList ++ moreQuotes ss := by
  rcases eq_or_ne ss [] with rfl | hne
  · rw [quotes, List.map_singleton, String.intercalate_singleton, moreQuotes, if_pos rfl,
      List.append_nil]
  · have hmap : ss.map quote ≠ [] := fun he => hne (List.map_eq_nil_iff.1 he)
    rw [quotes, List.map_cons, String.intercalate_cons_of_ne_nil hmap, ← quotes, moreQuotes,
      if_neg hne, String.toList_append, String.toList_append, List.append_assoc]
    rfl

theorem moreQuotes_inj {ss ts : List String}
    (ih : quotes ss = quotes ts → ss = ts) (h : moreQuotes ss = moreQuotes ts) : ss = ts := by
  unfold moreQuotes at h
  split_ifs at h with hs ht ht
  · rw [hs, ht]
  · exact ih (String.toList_inj.1 (List.cons.inj h).2)

/-- **Quoted texts in a row can be told apart.** -/
theorem quotes_inj {ss ts : List String} : quotes ss = quotes ts ↔ ss = ts := by
  refine ⟨fun h => ?_, fun h => h ▸ rfl⟩
  have hcons : ∀ s ss, quotes (s :: ss) ≠ quotes [] := by
    intro s ss he
    have hlist := congrArg String.toList he
    rw [toList_quotes_cons, toList_quote] at hlist
    cases hlist
  induction ss generalizing ts with
  | nil =>
    cases ts with
    | nil => rfl
    | cons t ts => exact absurd h.symm (hcons t ts)
  | cons s ss ih =>
    cases ts with
    | nil => exact absurd h (hcons s ss)
    | cons t ts =>
      have hlist := congrArg String.toList h
      rw [toList_quotes_cons, toList_quotes_cons] at hlist
      obtain ⟨rfl, hmore⟩ := quoted_append_inj hlist
      rw [moreQuotes_inj ih hmore]

end ServiceDiscovery.Text
