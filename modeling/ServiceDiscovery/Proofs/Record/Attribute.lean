import ServiceDiscovery.Record.Attribute
import ServiceDiscovery.Proofs.Record.Wire

/-!
# Attributes in text records

An attribute with a key is read back from its string, because the key ends at the first equals
sign. Any such attributes can be the strings of a text record, if they are short enough.

* `ofText_text`: the attribute of a string;
* `textsOf_eq_ok`, `textsOf_eq_error`: when and as what attributes are written;
* `fits_text`: a string of an attribute can stand in a text record;
* `arrive`: attributes that are sent in a text record.
-/

namespace ServiceDiscovery

namespace Attribute

theorem hasKey_iff {a : Attribute} : a.hasKey ↔ a.key ≠ "" ∧ '=' ∉ a.key.toList := by
  simp [hasKey]

theorem toList_text (a : Attribute) : a.text.toList = a.key.toList ++ '=' :: a.value.toList := by
  rw [text, String.toList_append, String.toList_append, List.append_assoc]
  rfl

theorem ofText_text {a : Attribute} (h : a.hasKey) : ofText a.text = .ok a := by
  obtain ⟨hne, hkey⟩ := hasKey_iff.1 h
  have hall : ∀ c ∈ a.key.toList, decide (c ≠ '=') = true := by
    intro c hc
    simpa using fun he : c = '=' => hkey (he ▸ hc)
  have htake : a.text.toList.takeWhile (· ≠ '=') = a.key.toList := by
    rw [toList_text, List.takeWhile_append_of_pos hall, List.takeWhile_cons_of_neg (by simp),
      List.append_nil]
  have hdrop : (a.text.toList.dropWhile (· ≠ '=')).drop 1 = a.value.toList := by
    rw [toList_text, List.dropWhile_append_of_pos hall, List.dropWhile_cons_of_neg (by simp)]
    rfl
  have hempty : ¬a.key.toList.isEmpty := by simpa using hne
  simp only [ofText, htake, hdrop, if_neg hempty, String.ofList_toList]

theorem textsOf_eq_ok {as : List Attribute} {ss : List String} :
    textsOf as = .ok ss ↔ (∀ a ∈ as, a.hasKey) ∧ ss = as.map text := by
  refine mapM_write_eq_ok fun a s => ?_
  split_ifs with h
  · simp [h, eq_comm]
  · simp [h]

/-- **The first attribute without a key is the one that is named.** -/
theorem textsOf_eq_error {as : List Attribute} {e : Error} :
    textsOf as = .error e ↔ ∃ before bad after, as = before ++ bad :: after ∧
      (∀ a ∈ before, a.hasKey) ∧ ¬bad.hasKey ∧ e = .invalidAttribute bad.key := by
  have hok : ∀ a : Attribute, (∃ s, (if a.hasKey then .ok a.text
      else .error (.invalidAttribute a.key) : Except Error String) = .ok s) ↔ a.hasKey := by
    intro a
    split_ifs with h <;> simp [h]
  have herror : ∀ a : Attribute, (if a.hasKey then .ok a.text
      else .error (.invalidAttribute a.key) : Except Error String) = .error e ↔
        ¬a.hasKey ∧ e = .invalidAttribute a.key := by
    intro a
    split_ifs with h <;> simp [h, eq_comm]
  rw [textsOf, mapM_eq_error]
  simp only [hok, herror]

/-! ### In text records -/

theorem fits_text {a : Attribute} (h : (Text.encode a.text).length ≤ 255) : Text.Fits a.text := by
  refine ⟨fun he => ?_, h⟩
  have hlist := toList_text a
  rw [he] at hlist
  exact absurd hlist.symm (by simp)

theorem allOfTexts_map_text {as : List Attribute} (h : ∀ a ∈ as, a.hasKey) :
    allOfTexts (as.map text) = .ok as := by
  rw [allOfTexts, mapM_eq_ok, List.forall₂_map_left_iff, List.forall₂_same]
  exact fun a ha => ofText_text (h a ha)

/-- **Attributes are refused for the first key that is empty or has an equals sign in it, and arrive
otherwise.** If each of their strings fits into a text record and all of them fit into the data of
one, the record can be made under any head with a name that can be written, and written and read.
What is read has the same attributes in the same order. -/
theorem arrive :
    (∀ (as : List Attribute) (e : Error), textsOf as = .error e ↔
      ∃ before bad after, as = before ++ bad :: after ∧
        (∀ a ∈ before, a.key ≠ "" ∧ '=' ∉ a.key.toList) ∧
        (bad.key = "" ∨ '=' ∈ bad.key.toList) ∧ e = .invalidAttribute bad.key) ∧
    ∀ (as : List Attribute) (ss : List String) (header : RecordHeader) (owner : Bytes),
      textsOf as = .ok ss → (Output.name header.name).complete = .ok owner →
      (∀ a ∈ as, (Text.encode a.text).length ≤ 255) →
      (∀ data, Body.writeTexts ss = .ok data → data.length ≤ 65535) →
        ∃ r bytes r' ss', Record.ofBody header (.txt ss) = .ok r ∧ r.write = .ok bytes ∧
          Record.readFrom bytes = .ok r' ∧ r'.body = .txt ss' ∧ allOfTexts ss' = .ok as := by
  refine ⟨fun as e => ?_, fun as ss header owner hss howner hshort hroom => ?_⟩
  · rw [textsOf_eq_error]
    simp only [hasKey_iff, not_and_or, not_not, ne_eq]
  · obtain ⟨hkeys, rfl⟩ := textsOf_eq_ok.1 hss
    have hname : Name.Fits header.name := (Output.complete_name.1 howner).1
    have hfits : (Body.txt (as.map text)).Fits :=
      List.forall_mem_map.2 fun a ha => fits_text (hshort a ha)
    have hdata : (Record.made header (.txt (as.map text))).data.length ≤ 65535 :=
      hroom _ (Body.writeTexts_eq_ok.2 ⟨hfits, rfl⟩)
    obtain ⟨r, bytes, r', hr, hbytes, hr', hbody⟩ :=
      Record.exists_readFrom_ofBody hname hfits rfl hdata
    exact ⟨r, bytes, r', as.map text, hr, hbytes, hr', hbody, allOfTexts_map_text hkeys⟩

/-- A key with two values, the second empty, and a value with equals signs, quotes and a letter
beyond ASCII. -/
theorem arrive_repeated :
    let as : List Attribute := [⟨"path", "/a=b"⟩, ⟨"note", "\"é\" = 1"⟩, ⟨"path", ""⟩]
    let ss := ["path=/a=b", "note=\"é\" = 1", "path="]
    textsOf as = .ok ss ∧ ∃ r bytes r' ss', Record.txt "web.local" 120 ss = .ok r ∧
      r.write = .ok bytes ∧ Record.readFrom bytes = .ok r' ∧ r'.body = .txt ss' ∧
      allOfTexts ss' = .ok as := by
  intro as ss
  have hss : textsOf as = .ok ss := by decide +kernel
  have howner : (Output.name "web.local").complete =
      .ok [3, 119, 101, 98, 5, 108, 111, 99, 97, 108, 0] := by decide +kernel
  have hroom : ∀ data, Body.writeTexts ss = .ok data → data.length ≤ 65535 := by
    intro data hdata
    obtain ⟨-, rfl⟩ := Body.writeTexts_eq_ok.1 hdata
    decide +kernel
  exact ⟨hss, arrive.2 as ss { name := "web.local", type := .txt, ttl := 120 } _ hss howner
    (by decide +kernel) hroom⟩

end Attribute

end ServiceDiscovery
