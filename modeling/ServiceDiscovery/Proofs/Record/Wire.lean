import ServiceDiscovery.Record.Basic
import ServiceDiscovery.Proofs.Question
import ServiceDiscovery.Proofs.Record.Body

/-!
# Records on the wire

A record is written with its body anew, or with its data where the body does not determine it. It is
read back with its names tidied, whatever packet it stands in.

* `Record.IsSendable`: type, class and body keep their meaning when sent;
* `Record.payload`, `write_eq_ok`: the data that is sent; when and as what a record is written;
* `takes_wire`: what a written record is read as;
* `made`, `ofBody_eq_ok`, `exists_readFrom_ofBody`: the record of a body;
* `gives_isSendable`: what reading gives.
-/

namespace ServiceDiscovery

/-- Type and class keep their meaning when sent. -/
structure RecordHeader.IsSendable (h : RecordHeader) : Prop where
  type : h.type.IsCanonical
  dnsClass : h.dnsClass.IsSendable

namespace Record

/-- Type and class keep their meaning when sent, and the body goes with the type. -/
structure IsSendable (r : Record) : Prop where
  header : r.header.IsSendable
  body : r.body.Suits r.header.type

/-! ### Writing -/

def payload (r : Record) : Bytes := r.body.wire.getD r.data

structure Fits (r : Record) : Prop where
  name : Name.Fits r.header.name
  body : r.body.Fits
  payload : r.payload.length ≤ 65535

/-- Type, class and lifetime of a record, and the length of its data. -/
def fixedFields (r : Record) : Bytes :=
  Bytes.ofWord r.header.type.code
    ++ (Bytes.ofWord (r.header.dnsClass.field r.header.cacheFlush)
    ++ (Bytes.ofLong r.header.ttl ++ Bytes.ofWord (UInt16.ofNat r.payload.length)))

def wire (r : Record) : Bytes := Name.wire r.header.name ++ (r.fixedFields ++ r.payload)

theorem data_eq_ok {data bytes : Bytes} : Part.data data = .ok bytes ↔
    data.length ≤ 65535 ∧ bytes = Bytes.ofWord (UInt16.ofNat data.length) ++ data := by
  simp only [Part.data]
  split_ifs with h
  · simp; omega
  · simp only [Except.ok.injEq, eq_comm (b := bytes)]
    exact ⟨fun he => ⟨by omega, he⟩, fun he => he.2⟩

/-- **When and as what a record is written.** -/
theorem write_eq_ok {r : Record} {bytes : Bytes} :
    r.write = .ok bytes ↔ r.Fits ∧ bytes = r.wire := by
  simp only [write, bind_eq_ok, pure_eq_ok, Output.complete_name, Body.write_eq_ok, data_eq_ok]
  constructor
  · rintro ⟨_, ⟨hn, rfl⟩, _, ⟨hb, rfl⟩, _, ⟨hl, rfl⟩, rfl⟩
    exact ⟨⟨hn, hb, hl⟩, by simp only [wire, fixedFields, payload, List.append_assoc]⟩
  · rintro ⟨⟨hn, hb, hl⟩, rfl⟩
    exact ⟨_, ⟨hn, rfl⟩, _, ⟨hb, rfl⟩, _, ⟨hl, rfl⟩,
      by simp only [wire, fixedFields, payload, List.append_assoc]⟩

/-! ### Reading -/

/-- The record that is read from what was written. -/
def tidied (r : Record) : Record where
  header := { r.header with name := Name.tidied r.header.name }
  data := r.payload
  body := r.body.tidied (Name.tidied r.header.name)

/-- The record of a head and its data, which stands in the packet of the cursor. -/
def withData (header : RecordHeader) (data : Bytes) : Reader Record := do
  let c ← get
  match Reader.readAll (Body.read header.type header.name) (.inside c.packet data) with
  | .ok body => return { header, data, body }
  | .error e => throw e

/-- What becomes of the record is decided by the body that its data is read as. -/
theorem withData_eq (header : RecordHeader) (data : Bytes) (c : Cursor) :
    withData header data c =
      match Reader.readAll (Body.read header.type header.name) (.inside c.packet data) with
      | .ok body => .ok { header, data, body } c
      | .error e => .error e c := by
  refine (Reader.get_bind _ c).trans ?_
  cases Reader.readAll (Body.read header.type header.name) (.inside c.packet data) <;> rfl

theorem readAll_withData (header : RecordHeader) (data : Bytes) (c : Cursor) :
    Reader.readAll (withData header data) c =
      (Reader.readAll (Body.read header.type header.name) (.inside c.packet data)).map
        fun body => { header, data, body } := by
  rw [Reader.readAll, withData_eq]
  cases Reader.readAll (Body.read header.type header.name) (.inside c.packet data) <;> rfl

/-- **A written record is read up to its data**, and its type says what becomes of it then. -/
theorem leads_wire {r : Record} (hh : r.header.IsSendable) (hf : r.Fits) :
    Reader.Leads read r.wire (withData r.tidied.header r.payload) := by
  have hlen : (UInt16.ofNat r.payload.length).toNat = r.payload.length := by
    rw [UInt16.toNat_ofNat']
    have := hf.payload
    omega
  have hdata : Reader.Takes (Reader.take (UInt16.ofNat r.payload.length).toNat) r.payload
      r.payload := by
    rw [hlen]
    exact Reader.takes_take _
  rw [wire, fixedFields, List.append_assoc, List.append_assoc, List.append_assoc]
  refine (Reader.takes_name hf.name).bind_leads ?_
  refine (Reader.takes_word _).bind_leads ?_
  refine (Reader.takes_word _).bind_leads ?_
  rw [DnsClass.ofField_field hh.dnsClass, hh.type]
  refine (Reader.takes_long _).bind_leads ?_
  refine (Reader.takes_word _).bind_leads ?_
  exact hdata.leads

/-- **A written record is read back** with its names tidied. -/
theorem takes_wire {r : Record} (hs : r.IsSendable) (hf : r.Fits) :
    Reader.Takes read r.wire r.tidied := by
  refine (leads_wire hs.header hf).takes fun c _ _ => ?_
  have hbody : Reader.readAll (Body.read r.tidied.header.type r.tidied.header.name)
      (.inside c.packet r.payload) = .ok r.tidied.body :=
    (Body.exhausts_read hs.body hf.body r.data r.tidied.header.name).readAll c.packet
  rw [withData_eq, hbody]
  rfl

/-- A record that is read with its data has the head and the data given, and a body read from it. -/
theorem of_withData_eq_ok {header : RecordHeader} {data : Bytes} {c c' : Cursor} {r : Record}
    (h : withData header data c = .ok r c') : r.header = header ∧ r.data = data ∧ c' = c ∧
      Reader.readAll (Body.read header.type header.name) (.inside c.packet data) = .ok r.body := by
  rw [withData_eq] at h
  cases hr : Reader.readAll (Body.read header.type header.name) (.inside c.packet data) with
  | ok body =>
    rw [hr] at h
    cases h
    exact ⟨rfl, rfl, rfl, rfl⟩
  | error e =>
    rw [hr] at h
    cases h

theorem gives_withData {header : RecordHeader} (hh : header.IsSendable) (data : Bytes) :
    Reader.Gives (withData header data) fun r =>
      r.IsSendable ∧ r.body.IsLabelled r.header.name := by
  intro c r c' h
  obtain ⟨rfl, -, -, hb⟩ := of_withData_eq_ok h
  obtain ⟨c'', hb⟩ := Reader.exists_of_readAll_eq_ok hb
  obtain ⟨hs, hl⟩ := Body.gives_suits _ _ _ _ _ hb
  exact ⟨⟨hh, hs⟩, hl⟩

/-- What is read can be sent, and its location carries the labels of its owner. -/
theorem gives_isSendable : Reader.Gives read fun r =>
    r.IsSendable ∧ r.body.IsLabelled r.header.name := by
  refine (Reader.gives_true _).bind fun name _ => ?_
  refine (Reader.gives_true _).bind fun t _ => ?_
  refine (Reader.gives_true _).bind fun v _ => ?_
  refine (Reader.gives_true _).bind fun ttl _ => ?_
  refine (Reader.gives_true _).bind fun _ _ => ?_
  refine (Reader.gives_true _).bind fun data _ => ?_
  have hh : RecordHeader.IsSendable
      ⟨name, .ofCode t, (DnsClass.ofField v).1, (DnsClass.ofField v).2, ttl⟩ :=
    ⟨RecordType.isCanonical_ofCode t, DnsClass.isSendable_ofField v⟩
  exact gives_withData hh data

/-! ### Tidying -/

theorem payload_tidied (r : Record) : r.tidied.payload = r.payload := by
  have hw : r.tidied.body.wire = r.body.wire := Body.wire_tidied _ _
  show r.tidied.body.wire.getD (r.body.wire.getD r.data) = r.body.wire.getD r.data
  rw [hw]
  cases r.body.wire <;> rfl

theorem wire_tidied (r : Record) : r.tidied.wire = r.wire := by
  have hn : Name.wire r.tidied.header.name = Name.wire r.header.name := Name.wire_tidied _
  simp only [wire, fixedFields, payload_tidied, hn]
  rfl

theorem tidied_eq_self {r : Record} (hn : Name.IsTidy r.header.name) (hb : r.body.IsTidy)
    (hl : r.body.IsLabelled r.header.name) (hd : r.payload = r.data) : r.tidied = r := by
  obtain ⟨⟨name, type, dnsClass, cacheFlush, ttl⟩, data, body⟩ := r
  have hname : Name.tidied name = name := Name.tidied_eq_self hn
  have hbody : body.tidied name = body := Body.tidied_eq_self hb hl
  simp only [tidied, hd, hname, hbody]

theorem fits_tidied {r : Record} : r.tidied.Fits ↔ r.Fits := by
  constructor
  · rintro ⟨hn, hb, hp⟩
    exact ⟨Name.fits_tidied.1 hn, Body.fits_tidied.1 hb, payload_tidied r ▸ hp⟩
  · rintro ⟨hn, hb, hp⟩
    exact ⟨Name.fits_tidied.2 hn, Body.fits_tidied.2 hb, (payload_tidied r).symm ▸ hp⟩

/-! ### Records of a body -/

/-- A record whose data is what is written of its body. -/
def made (header : RecordHeader) (body : Body) : Record where
  header := { header with type := body.type?.getD header.type }
  data := body.wire.getD []
  body := body

theorem ofBody_eq_ok {header : RecordHeader} {body : Body} {r : Record} :
    ofBody header body = .ok r ↔ body.Fits ∧ r = made header body := by
  simp only [ofBody, bind_eq_ok, pure_eq_ok, Body.write_eq_ok]
  exact exists_given_iff

variable {header : RecordHeader} {body : Body}

theorem payload_made (header : RecordHeader) (body : Body) :
    (made header body).payload = (made header body).data := by
  show body.wire.getD (body.wire.getD []) = body.wire.getD []
  cases body.wire <;> rfl

theorem isSendable_made (hc : header.dnsClass.IsSendable) (hb : body.type?.isSome) :
    (made header body).IsSendable := by
  obtain ⟨type, ht⟩ := Option.isSome_iff_exists.1 hb
  have htype : (made header body).header.type = type := by
    show body.type?.getD header.type = type
    rw [ht]
    rfl
  refine ⟨⟨?_, hc⟩, ?_⟩
  · rw [htype]
    cases body <;> cases ht <;> rfl
  · rw [htype]
    show Body.Suits type body
    rw [Body.Suits, ht]

theorem fits_made (hn : Name.Fits header.name) (hb : body.Fits)
    (hl : (made header body).data.length ≤ 65535) : (made header body).Fits :=
  ⟨hn, hb, payload_made header body ▸ hl⟩

/-- The head with the class and the flag that its field is read as. -/
def settled (header : RecordHeader) : RecordHeader :=
  let classAndFlag := DnsClass.ofField (header.dnsClass.field header.cacheFlush)
  { header with dnsClass := classAndFlag.1, cacheFlush := classAndFlag.2 }

theorem wire_made_settled (header : RecordHeader) (body : Body) :
    (made (settled header) body).wire = (made header body).wire := by
  have hfield : (settled header).dnsClass.field (settled header).cacheFlush =
      header.dnsClass.field header.cacheFlush := DnsClass.field_ofField _
  simp only [wire, fixedFields, made, hfield]
  rfl

/-- **A record made of a body of a known kind can be written and read**, under any head with a name
that can be written, and its body is read back with the names in it tidied. -/
theorem exists_readFrom_ofBody (hn : Name.Fits header.name) (hb : body.Fits)
    (hkind : body.type?.isSome) (hl : (made header body).data.length ≤ 65535) :
    ∃ r bytes r', ofBody header body = .ok r ∧ r.write = .ok bytes ∧ readFrom bytes = .ok r' ∧
      r'.body = body.tidied (Name.tidied header.name) := by
  have hsendable : (made (settled header) body).IsSendable :=
    isSendable_made (DnsClass.isSendable_ofField _) hkind
  have hfits : (made (settled header) body).Fits := fits_made hn hb hl
  have hread := (takes_wire hsendable hfits).exhausts
  refine ⟨_, _, (made (settled header) body).tidied, ofBody_eq_ok.2 ⟨hb, rfl⟩,
    write_eq_ok.2 ⟨fits_made hn hb hl, rfl⟩, ?_, rfl⟩
  rw [← wire_made_settled]
  exact hread.readAll _

end Record

end ServiceDiscovery
