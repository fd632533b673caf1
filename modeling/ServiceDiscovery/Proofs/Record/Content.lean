import ServiceDiscovery.Record.Basic
import ServiceDiscovery.Proofs.Address.Text
import ServiceDiscovery.Proofs.Text.Quoted

/-!
# Records with the same data as shown

Records are compared by their data as shown. What is shown of a body of a known kind tells which
values it holds: addresses by their texts, names in front of the last dot, numbers in front of a
space, and strings between quotes.

* `Srv.unlabelled`, `Body.unlabelled`: the values, without the labels that the owner's name gives;
* `Body.text?_inj`: bodies of one kind that are shown alike;
* `Record.dataText_eq_iff_unlabelled`: records, and their comparison.
-/

namespace ServiceDiscovery

/-! ### Locations -/

namespace Srv

/-- A location without the labels of its owner's name. -/
def unlabelled (s : Srv) : Srv := { s with service := "", protocol := "" }

theorem unlabelled_eq_iff {s s' : Srv} : s.unlabelled = s'.unlabelled ↔
    s.priority = s'.priority ∧ s.weight = s'.weight ∧ s.port = s'.port ∧ s.target = s'.target := by
  simp [unlabelled]

end Srv

namespace Body

/-- A body without the labels of its owner's name. -/
def unlabelled : Body → Body
  | srv s => srv s.unlabelled
  | b => b

theorem text?_unlabelled (b : Body) : b.unlabelled.text? = b.text? := by cases b <;> rfl

/-! ### Bodies of one kind -/

theorem toList_text_srv (s : Srv) : (srv s).text?.map String.toList = some
    (Nat.toDigits 10 s.priority.toNat ++ ' ' :: (Nat.toDigits 10 s.weight.toNat ++
      ' ' :: (Nat.toDigits 10 s.port.toNat ++ ' ' :: (s.target.toList ++ ['.'])))) := by
  simp [text?, Text.toList_toString_word]

/-- **Locations that are shown alike have the same numbers and the same target.** -/
theorem text_srv_inj {s s' : Srv} (h : (srv s).text? = (srv s').text?) :
    s.unlabelled = s'.unlabelled := by
  have hdigit : ∀ d, Nat.digitChar d ≠ ' ' := fun _ => Nat.digitChar_ne _ rfl
  have hlist := congrArg (Option.map String.toList) h
  rw [toList_text_srv, toList_text_srv, Option.some.injEq] at hlist
  obtain ⟨hpriority, hlist⟩ := Text.toDigits_append_inj (by decide) (by decide) hdigit hlist
  obtain ⟨hweight, hlist⟩ := Text.toDigits_append_inj (by decide) (by decide) hdigit hlist
  obtain ⟨hport, hlist⟩ := Text.toDigits_append_inj (by decide) (by decide) hdigit hlist
  exact Srv.unlabelled_eq_iff.2 ⟨UInt16.toNat_inj.1 hpriority, UInt16.toNat_inj.1 hweight,
    UInt16.toNat_inj.1 hport, String.toList_inj.1 (List.append_cancel_right hlist)⟩

/-- The record types whose data is shown by its values. -/
def shownTypes : List RecordType := [.a, .aaaa, .ptr, .srv, .txt]

theorem exists_text {b : Body} {type : RecordType} (h : b.type? = some type)
    (htype : type ∈ shownTypes) : ∃ text, b.text? = some text := by
  cases b with
  | a | aaaa | ptr | srv | txt => exact ⟨_, rfl⟩
  | nsec =>
    obtain rfl := Option.some.inj h
    simp [shownTypes] at htype
  | unknown => cases h

/-- **Bodies of one kind that are shown alike hold the same values.** -/
theorem text?_inj {b b' : Body} {type : RecordType} (h : b.type? = some type)
    (h' : b'.type? = some type) (htype : type ∈ shownTypes) :
    b.text? = b'.text? ↔ b.unlabelled = b'.unlabelled := by
  refine ⟨fun htext => ?_, fun he => by rw [← text?_unlabelled, he, text?_unlabelled]⟩
  cases b <;> cases b' <;> cases h <;> cases h'
  case a.a => exact congrArg a (Ipv4.text_inj.1 (Option.some.inj htext))
  case aaaa.aaaa => exact congrArg aaaa (Ipv6.text_inj.1 (Option.some.inj htext))
  case ptr.ptr => exact congrArg ptr (String.append_left_inj _ |>.1 (Option.some.inj htext))
  case srv.srv => exact congrArg srv (text_srv_inj htext)
  case txt.txt => exact congrArg txt (Text.quotes_inj.1 (Option.some.inj htext))
  case nsec.nsec => rfl

end Body

/-! ### Records -/

namespace Record

theorem dataText_of_text {r : Record} {text : String} (h : r.body.text? = some text) :
    r.dataText = text := by rw [dataText, h, Option.getD_some]

/-- **Records of one kind are shown alike exactly if they hold the same values**: the same address,
the same target, the same numbers and target, or the same strings. So the records that are the same
are those with the same name and the same values. -/
theorem dataText_eq_iff_unlabelled {r r' : Record} {type : RecordType}
    (htype : r.header.type = r'.header.type) (hbody : r.body.type? = some type)
    (hbody' : r'.body.type? = some type) (hshown : type ∈ Body.shownTypes) :
    (r.dataText = r'.dataText ↔ r.body.unlabelled = r'.body.unlabelled) ∧
      (r.same r' ↔ Name.same r.header.name r'.header.name ∧
        r.body.unlabelled = r'.body.unlabelled) := by
  obtain ⟨text, htext⟩ := Body.exists_text hbody hshown
  obtain ⟨text', htext'⟩ := Body.exists_text hbody' hshown
  have hdata : r.dataText = r'.dataText ↔ r.body.unlabelled = r'.body.unlabelled := by
    rw [← Body.text?_inj hbody hbody' hshown, dataText_of_text htext, dataText_of_text htext', htext,
      htext', Option.some.injEq]
  refine ⟨hdata, ?_⟩
  rw [same, Bool.and_eq_true, Bool.and_eq_true, decide_eq_true_eq, decide_eq_true_eq, hdata, isNamed]
  exact ⟨fun h => ⟨h.1.2, h.2⟩, fun h => ⟨⟨htype, h.1⟩, h.2⟩⟩

/-- Two strings are not shown like one with quotes and a space in it. -/
theorem dataText_ne_of_quotes :
    let header : RecordHeader := { name := "a.local", type := .txt, ttl := 120 }
    let one : Record := { header, data := [5, 97, 34, 32, 34, 98], body := .txt ["a\" \"b"] }
    let two : Record := { header, data := [1, 97, 1, 98], body := .txt ["a", "b"] }
    one.body.type? = some .txt ∧ two.body.type? = some .txt ∧ .txt ∈ Body.shownTypes ∧
      one.dataText ≠ two.dataText ∧ ¬one.same two := by
  intro header one two
  have hshown : RecordType.txt ∈ Body.shownTypes := by decide
  have hexact := @dataText_eq_iff_unlabelled one two .txt rfl rfl rfl hshown
  have hne : one.body.unlabelled ≠ two.body.unlabelled := by decide
  exact ⟨rfl, rfl, hshown, hexact.1.not.2 hne, fun h => hne (hexact.2.1 h).2⟩

end Record

end ServiceDiscovery
