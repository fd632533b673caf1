import ServiceDiscovery.Proofs.Record.Wire

/-!
# Records made of bodies

A record can be made of any head and any body, and its type is the one of its body. A body that is
not known belongs to no type, so that the record keeps the type of its head and has no data. Where
this type is one whose data is looked into, the record can be written and not be read.

* `Record.Arrives`: what is kept of a record that is written and read;
* `Record.readFrom_wire`: the reading of a written record comes down to that of its data;
* `Body.readAll_empty`: no data at all is not the data of most types;
* `Record.arrives_iff`: which of the records that are made of bodies arrive.
-/

namespace ServiceDiscovery

namespace Body

theorem type?_tidied (body : Body) (owner : String) : (body.tidied owner).type? = body.type? := by
  cases body <;> rfl

theorem text?_tidied {body : Body} (h : body.IsTidy) (owner : String) :
    (body.tidied owner).text? = body.text? := by
  cases body with
  | ptr target => rw [tidied, Name.tidied_eq_self h]
  | srv s =>
    have htarget : Name.tidied s.target = s.target := Name.tidied_eq_self h
    simp only [tidied, text?, htarget]
  | _ => rfl

/-- No data at all can only be data of the types that are not looked into. -/
theorem readAll_empty {type : RecordType} (h : type ∈ bodyTypes) (hne : type ≠ .nsec)
    (owner : String) (packet : Bytes) :
    Reader.readAll (read type owner) (.inside packet []) = .error .unexpectedEnd := by
  have hrun : Reader.labelRun #[] (.inside packet []) =
      .error .unexpectedEnd (.inside packet []) := by
    rw [Reader.labelRun]
    rfl
  have hname : Reader.readAll Reader.name (.inside packet []) = .error .unexpectedEnd := by
    rw [Reader.name, Reader.readAll_map, Reader.readAll, Reader.labelsWithin, hrun]
    rfl
  have htexts : Reader.readAll Reader.texts (.inside packet []) = .error .unexpectedEnd := by
    refine (Reader.readAll_map (Reader.textsFrom #[]) Array.toList _).trans ?_
    unfold Reader.readAll Reader.textsFrom
    rfl
  simp only [bodyTypes, List.mem_cons, List.not_mem_nil, or_false] at h
  rcases h with rfl | rfl | rfl | rfl | rfl | rfl
  · rfl
  · rfl
  · rw [read, Reader.readAll_map, hname]
    rfl
  · rfl
  · rw [read, Reader.readAll_map, htexts]
    rfl
  · exact absurd rfl hne

end Body

namespace Record

/-! ### What arrives -/

/-- A record arrives as another one that is the same, with the same lifetime, class and flag and a
body of the same kind. -/
structure Arrives (r r' : Record) : Prop where
  same : r'.same r
  ttl : r'.header.ttl = r.header.ttl
  dnsClass : r'.header.dnsClass = r.header.dnsClass
  cacheFlush : r'.header.cacheFlush = r.header.cacheFlush
  kind : r'.body.type? = r.body.type?

theorem dataText_tidied {r : Record} (h : r.body.IsTidy) : r.tidied.dataText = r.dataText := by
  have htext : r.tidied.body.text? = r.body.text? := Body.text?_tidied h _
  rw [dataText, dataText, htext]
  cases hbody : r.body with
  | nsec | unknown =>
    -- Data that the body does not determine is sent as it is.
    have hdata : r.tidied.data = r.data := by
      show r.body.wire.getD r.data = r.data
      rw [hbody]
      rfl
    rw [hdata]
  | _ => rfl

theorem arrives_tidied {r : Record} (hn : Name.IsTidy r.header.name) (hb : r.body.IsTidy) :
    r.Arrives r.tidied := by
  have hname : r.tidied.isNamed r.header.name := by
    show Name.same (Name.tidied r.header.name) r.header.name
    rw [Name.tidied_eq_self hn]
    exact Name.same_self _
  refine ⟨?_, rfl, rfl, rfl, Body.type?_tidied _ _⟩
  rw [same, hname, dataText_tidied hb]
  simp [tidied]

/-- **A written record is read on its own as its data is read.** -/
theorem readFrom_wire {r : Record} (hh : r.header.IsSendable) (hf : r.Fits) :
    readFrom r.wire =
      (Reader.readAll (Body.read r.header.type r.tidied.header.name)
        (.inside r.wire r.payload)).map fun body =>
          { header := r.tidied.header, data := r.payload, body } :=
  ((leads_wire hh hf).readAll rfl).trans (readAll_withData _ _ _)

/-! ### Records of bodies -/

variable {header : RecordHeader} {body : Body}

/-- The record of a body that is not known can only be sent with a type whose data is not looked
into. -/
theorem isSendable_made_iff (ht : header.type.IsCanonical) (hc : header.dnsClass.IsSendable) :
    (made header body).IsSendable ↔ (body = .unknown → header.type ∉ Body.bodyTypes) := by
  cases hbody : body.type? with
  | some type =>
    refine iff_of_true (isSendable_made hc (by rw [hbody]; rfl)) ?_
    rintro rfl
    cases hbody
  | none =>
    obtain rfl : body = .unknown := by
      cases body <;> first | rfl | cases hbody
    exact ⟨fun h _ => h.body, fun h => ⟨⟨ht, hc⟩, h rfl⟩⟩

/-- **Which records that are made of bodies arrive**: all, unless the body is not known and the type
of the head is one whose data is looked into. Then the record of most types cannot be read at
all. -/
theorem arrives_iff (ht : header.type.IsCanonical) (hc : header.dnsClass.IsSendable)
    (hn : Name.IsTidy header.name) (hb : body.IsTidy) {r : Record} {bytes : Bytes}
    (hr : ofBody header body = .ok r) (hw : r.write = .ok bytes) :
    ((∃ r', readFrom bytes = .ok r' ∧ r.Arrives r') ↔
      (body = .unknown → header.type ∉ Body.bodyTypes)) ∧
    (body = .unknown → header.type ∈ Body.bodyTypes → header.type ≠ .nsec →
      readFrom bytes = .error .unexpectedEnd) := by
  obtain ⟨-, rfl⟩ := ofBody_eq_ok.1 hr
  obtain ⟨hfits, rfl⟩ := write_eq_ok.1 hw
  refine ⟨⟨?_, fun hsuits => ?_⟩, ?_⟩
  · rintro ⟨r', hread, harrives⟩ rfl
    -- What is read suits its type, and a body of no type suits only types that are not looked into.
    obtain ⟨c', hread⟩ := Reader.exists_of_readAll_eq_ok hread
    have hsuits := (gives_isSendable _ _ _ hread).1.body
    have htype : r'.header.type = header.type := by
      have hsame := harrives.same
      simp only [same, Bool.and_eq_true, decide_eq_true_eq] at hsame
      exact hsame.1.1
    have hkind : r'.body.type? = none := harrives.kind
    rw [Body.Suits, hkind, htype] at hsuits
    exact hsuits
  · have hsendable := (isSendable_made_iff ht hc).2 hsuits
    exact ⟨_, (takes_wire hsendable hfits).exhausts.readAll _, arrives_tidied hn hb⟩
  · rintro rfl hmem hne
    rw [readFrom_wire ⟨ht, hc⟩ hfits]
    exact congrArg _ (Body.readAll_empty hmem hne _ _)

/-- A location under a head that speaks of an address. -/
def printerLocation : Record where
  header := { name := "A._ipp._tcp.local", type := .srv, cacheFlush := true, ttl := 120 }
  data := [0, 0, 0, 0, 2, 119, 1, 104, 5, 108, 111, 99, 97, 108, 0]
  body := .srv { port := 631, target := "h.local" }

theorem arrives_iff_printerLocation :
    let header : RecordHeader := { printerLocation.header with type := .a }
    header.type.IsCanonical ∧ header.dnsClass.IsSendable ∧ Name.IsTidy header.name ∧
      printerLocation.body.IsTidy ∧ ofBody header printerLocation.body = .ok printerLocation ∧
      ∃ bytes r', printerLocation.write = .ok bytes ∧ readFrom bytes = .ok r' ∧
        printerLocation.Arrives r' := by
  intro header
  have htype : header.type.IsCanonical := rfl
  have hclass : header.dnsClass.IsSendable := by decide
  have hname : Name.IsTidy header.name := by decide +kernel
  have hbody : printerLocation.body.IsTidy := by decide +kernel
  have hmade : ofBody header printerLocation.body = .ok printerLocation := by decide +kernel
  have hwrite : printerLocation.write = .ok [1, 65, 4, 95, 105, 112, 112, 4, 95, 116, 99, 112, 5,
      108, 111, 99, 97, 108, 0, 0, 33, 128, 1, 0, 0, 0, 120, 0, 15, 0, 0, 0, 0, 2, 119, 1, 104, 5,
      108, 111, 99, 97, 108, 0] := by decide +kernel
  obtain ⟨r', hread, harrives⟩ := (arrives_iff htype hclass hname hbody hmade hwrite).1.2
    (by rintro ⟨⟩)
  exact ⟨htype, hclass, hname, hbody, hmade, _, r', hwrite, hread, harrives⟩

/-- An address of which nothing is known. -/
def unknownAddress : Record where
  header := { name := "a.local", type := .a, ttl := 120 }
  data := []
  body := .unknown

/-- It can be made and written, and not be read. -/
theorem not_arrives_unknownAddress :
    ofBody unknownAddress.header .unknown = .ok unknownAddress ∧
      unknownAddress.write =
        .ok [1, 97, 5, 108, 111, 99, 97, 108, 0, 0, 1, 0, 1, 0, 0, 0, 120, 0, 0] ∧
      readFrom [1, 97, 5, 108, 111, 99, 97, 108, 0, 0, 1, 0, 1, 0, 0, 0, 120, 0, 0] =
        .error .unexpectedEnd := by
  decide +kernel

end Record

end ServiceDiscovery
