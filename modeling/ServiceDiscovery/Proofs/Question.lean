import ServiceDiscovery.Question
import ServiceDiscovery.Proofs.Wire.Names

/-!
# Questions on the wire

A question is read back with its name tidied, if its type is the one that its number names and its
class leaves the flag of the class field alone. Questions that were read are of this kind.

* `RecordType.IsCanonical`, `DnsClass.IsSendable`: numbers that keep their meaning when sent;
* `Question.write_eq_ok`: when and as what a question is written;
* `Question.takes_wire`: what it is read as; `Question.gives_isSendable`: what reading gives.
-/

namespace ServiceDiscovery

/-! ### Types and classes -/

/-- A type that its number stands for. -/
def RecordType.IsCanonical (t : RecordType) : Prop := ofCode t.code = t

theorem RecordType.isCanonical_ofCode (n : UInt16) : (ofCode n).IsCanonical := by
  rw [IsCanonical, code_ofCode]

namespace DnsClass

/-- A class that leaves the flag of its field alone. -/
def IsSendable (c : DnsClass) : Prop := c.code < 0x8000

instance (c : DnsClass) : Decidable c.IsSendable := inferInstanceAs (Decidable (c.code < 0x8000))

theorem ofField_field {c : DnsClass} (h : c.IsSendable) (flag : Bool) :
    ofField (c.field flag) = (c, flag) := by
  obtain ⟨code⟩ := c
  have hlt : code.toNat < 0x8000 := UInt16.lt_iff_toNat_lt.1 h
  have hcode : UInt16.ofNat code.toNat = code := UInt16.ofNat_toNat
  have hn : (field ⟨code⟩ flag).toNat = code.toNat + if flag then 0x8000 else 0 := by
    simp only [field, UInt16.toNat_ofNat']
    split_ifs <;> omega
  have hmod : (field ⟨code⟩ flag).toNat % 0x8000 = code.toNat := by
    rw [hn]
    split_ifs <;> omega
  rw [ofField, hmod, hcode, hn]
  cases flag
  · simpa using hlt
  · simp

theorem field_ofField (v : UInt16) : (ofField v).1.field (ofField v).2 = v := by
  have hv := v.toNat_lt
  apply UInt16.toNat_inj.1
  simp only [field, ofField, UInt16.toNat_ofNat', decide_eq_true_eq]
  split_ifs <;> omega

theorem isSendable_ofField (v : UInt16) : (ofField v).1.IsSendable := by
  show UInt16.ofNat (v.toNat % 0x8000) < 0x8000
  rw [UInt16.lt_iff_toNat_lt, UInt16.toNat_ofNat']
  exact Nat.lt_of_le_of_lt (Nat.mod_le _ _) (Nat.mod_lt _ (by decide))

end DnsClass

/-! ### Questions -/

namespace Question

/-- Type and class of the question keep their meaning when sent. -/
structure IsSendable (q : Question) : Prop where
  type : q.type.IsCanonical
  dnsClass : q.dnsClass.IsSendable

/-- The question that is read from what was written. -/
def tidied (q : Question) : Question := { q with name := Name.tidied q.name }

def wire (q : Question) : Bytes :=
  Name.wire q.name ++ Bytes.ofWord q.type.code ++ Bytes.ofWord (q.dnsClass.field q.unicast)

/-- **When and as what a question is written.** -/
theorem write_eq_ok {q : Question} {bytes : Bytes} :
    q.write = .ok bytes ↔ Name.Fits q.name ∧ bytes = q.wire := by
  simp only [write, bind_eq_ok, pure_eq_ok, Output.complete_name]
  exact exists_given_iff

theorem wire_tidied (q : Question) : q.tidied.wire = q.wire := by
  simp only [wire, tidied, Name.wire_tidied]

/-- **A written question is read back** with its name tidied. -/
theorem takes_wire {q : Question} (hs : q.IsSendable) (hf : Name.Fits q.name) :
    Reader.Takes read q.wire q.tidied := by
  rw [wire, List.append_assoc]
  refine (Reader.takes_name hf).bind ?_
  refine (Reader.takes_word _).bind ?_
  refine (Reader.takes_word _).bind_pure ?_
  rw [DnsClass.ofField_field hs.dnsClass, hs.type]
  exact Reader.takes_pure _

theorem gives_isSendable : Reader.Gives read IsSendable :=
  (Reader.gives_true _).bind fun _ _ => (Reader.gives_true _).bind fun _ _ =>
    (Reader.gives_true _).bind fun v _ => Reader.gives_pure
      ⟨RecordType.isCanonical_ofCode _, DnsClass.isSendable_ofField v⟩

end Question

end ServiceDiscovery
