import ServiceDiscovery.Record.Body
import ServiceDiscovery.Proofs.Wire.Names

/-!
# Record data on the wire

The data of a record is read back from what was written of it, with the names in it tidied. Data
of types that are not known stays bytes and is not looked into.

* `Body.Fits`, `Body.wire`, `write_eq_ok`: which bodies can be written, and as what;
* `Body.tidied`: the body that is read back;
* `Body.Suits`: the bodies that go with a type, `gives_suits`: what is read does;
* `exhausts_read`: reading written data; `exhausts_texts`: the strings of text records.
-/

namespace ServiceDiscovery

/-! ### Strings behind their lengths -/

namespace Text

/-- A string behind a byte with its length. -/
def wire (s : String) : Bytes := UInt8.ofNat (encode s).length :: encode s

/-- A string that can stand in a text record. -/
def Fits (s : String) : Prop := s ≠ "" ∧ (encode s).length ≤ 255

/-- The strings of a text record. No strings at all are written as one empty string. -/
def wires (ss : List String) : Bytes := if ss = [] then [0] else ss.flatMap wire

end Text

theorem Part.text_eq_ok {s : String} {bytes : Bytes} :
    Part.text s = .ok bytes ↔ (Text.encode s).length ≤ 255 ∧ bytes = Text.wire s := by
  simp only [Part.text, Text.wire]
  split_ifs with h
  · simp; omega
  · simp only [Except.ok.injEq, eq_comm (b := bytes)]
    exact ⟨fun he => ⟨by omega, he⟩, fun he => he.2⟩

theorem Body.writeTexts_eq_ok {ss : List String} {bytes : Bytes} :
    writeTexts ss = .ok bytes ↔ (∀ s ∈ ss, Text.Fits s) ∧ bytes = Text.wires ss := by
  rcases eq_or_ne ss [] with rfl | hne
  · simp [writeTexts, Text.wires, eq_comm]
  · rw [writeTexts, Text.wires, if_neg (by simpa using hne), if_neg hne]
    split_ifs with h
    · obtain ⟨s, hs, he⟩ := List.any_eq_true.1 h
      constructor
      · rintro ⟨⟩
      · rintro ⟨hf, -⟩
        exact absurd (by simpa using he) (hf s hs).1
    · rw [Output.texts, Output.complete_map fun _ _ => Part.text_eq_ok]
      refine and_congr_left fun _ => forall₂_congr fun s hs => ?_
      have hs' : s ≠ "" := fun he => h (List.any_eq_true.2 ⟨s, hs, by simpa using he⟩)
      exact ⟨fun hl => ⟨hs', hl⟩, fun hl => hl.2⟩

namespace Reader

theorem takes_text {s : String} (h : (Text.encode s).length ≤ 255) :
    Takes text (Text.wire s) s := by
  have hn : (UInt8.ofNat (Text.encode s).length).toNat = (Text.encode s).length :=
    Text.toNat_ofNat_of_lt (by omega)
  have ht : Takes (take (UInt8.ofNat (Text.encode s).length).toNat) (Text.encode s)
      (Text.encode s) := by
    rw [hn]
    exact takes_take _
  refine (takes_byte (UInt8.ofNat (Text.encode s).length)).bind (ht.bind_pure ?_)
  rw [Text.decode_encode]
  exact takes_pure s

theorem textsFrom_of_ok {c c' : Cursor} {s : String} (h : text c = .ok s c')
    (seen : Array String) : textsFrom seen c =
      if c'.rest.isEmpty then .ok (if s = "" then seen else seen.push s) c'
      else textsFrom (if s = "" then seen else seen.push s) c' := by
  rw [textsFrom]
  split
  · next h' => rw [h] at h'; cases h'
  · next h' => rw [h] at h'; cases h'; rfl

theorem textsFrom_of_error {c c' : Cursor} {e : Error} (h : text c = .error e c')
    (seen : Array String) : textsFrom seen c = .error e c' := by
  rw [textsFrom]
  split
  · next h' => rw [h] at h'; cases h'; rfl
  · next h' => rw [h] at h'; cases h'

theorem exhausts_textsFrom {ss : List String} (h : ∀ s ∈ ss, Text.Fits s) (hne : ss ≠ [])
    (seen : Array String) : Exhausts (textsFrom seen) (ss.flatMap Text.wire)
      (seen ++ ss.toArray) := by
  induction ss generalizing seen with
  | nil => exact absurd rfl hne
  | cons s ss ih =>
    obtain ⟨⟨hs, hl⟩, hss⟩ := List.forall_mem_cons.1 h
    intro c hc
    have hrest : (c.skip (Text.wire s).length).rest = ss.flatMap Text.wire := Cursor.rest_skip hc
    rw [textsFrom_of_ok (takes_text hl c _ hc), hrest, if_neg hs]
    rcases eq_or_ne ss [] with rfl | hne
    · exact ⟨c.skip (Text.wire s).length, by simp⟩
    · -- There is a next string, and even its length takes a byte.
      have hmore : ¬(ss.flatMap Text.wire).isEmpty := by
        obtain ⟨s', ss, rfl⟩ := List.exists_cons_of_ne_nil hne
        simp [Text.wire]
      rw [if_neg hmore]
      obtain ⟨c', hr⟩ := ih hss hne (seen.push s) _ hrest
      exact ⟨c', by rw [hr]; simp⟩

/-- **Written strings of a text record are read back.** -/
theorem exhausts_texts {ss : List String} (h : ∀ s ∈ ss, Text.Fits s) :
    Exhausts texts (Text.wires ss) ss := by
  have hfrom : Exhausts (textsFrom #[]) (Text.wires ss) ss.toArray := by
    rcases eq_or_ne ss [] with rfl | hne
    · -- The empty string that stands for none at all is left out.
      intro c hc
      have ht : text c = .ok "" (c.skip 1) := takes_text (s := "") (by decide) c [] hc
      refine ⟨c.skip 1, ?_⟩
      have hrest : (c.skip 1).rest = [] := by rw [Cursor.skip, hc]; rfl
      rw [textsFrom_of_ok ht, hrest]
      rfl
    · rw [Text.wires, if_neg hne]
      simpa using exhausts_textsFrom h hne #[]
  exact hfrom.bind_pure Array.toList

end Reader

namespace Body

/-! ### Addresses -/

theorem takes_readIpv4 (x : Ipv4) : Reader.Takes readIpv4 x.bytes x := by
  intro c rest hc
  have hc' : c.rest = x.a :: x.b :: x.c :: x.d :: rest := hc
  rw [readIpv4, hc']
  rfl

theorem consumes_readIpv4 : Reader.Consumes readIpv4 := by
  intro c x c' h
  unfold readIpv4 at h
  split at h
  · next w x y z rest hc =>
    cases h
    exact ⟨[w, x, y, z], rest, hc, takes_readIpv4 ⟨w, x, y, z⟩⟩
  · cases h

theorem words_flatMap_ofWord (vs : List UInt16) : words (vs.flatMap Bytes.ofWord) = vs := by
  induction vs with
  | nil => rfl
  | cons v vs ih =>
    rw [List.flatMap_cons, Bytes.ofWord, List.cons_append, List.cons_append, List.nil_append,
      words, Bytes.toWord_ofWord, ih]

theorem takes_readIpv6 (x : Ipv6) : Reader.Takes readIpv6 x.bytes x := by
  refine (Reader.takes_take x.bytes).bind_pure ?_
  rw [Ipv6.bytes, words_flatMap_ofWord]
  exact Reader.takes_pure x

/-! ### Bodies -/

def Fits : Body → Prop
  | ptr target => Name.Fits target
  | srv s => Name.Fits s.target
  | txt strings => ∀ s ∈ strings, Text.Fits s
  | a _ | aaaa _ | nsec | unknown => True

/-- The data of a body on the wire, or `none` for bodies that do not determine it. -/
def wire : Body → Option Bytes
  | a x => x.bytes
  | aaaa x => x.bytes
  | ptr target => Name.wire target
  | srv s => some (Bytes.ofWord s.priority ++ Bytes.ofWord s.weight ++ Bytes.ofWord s.port
      ++ Name.wire s.target)
  | txt strings => Text.wires strings
  | nsec | unknown => none

/-- The body that is read from what was written, in a record of `owner`. -/
def tidied (owner : String) : Body → Body
  | ptr target => ptr (Name.tidied target)
  | srv s => srv { s with
      target := Name.tidied s.target
      service := (Name.serviceLabels owner).1
      protocol := (Name.serviceLabels owner).2 }
  | body => body

/-- **Which bodies can be written, and as what.** -/
theorem write_eq_ok {body : Body} {data? : Option Bytes} :
    body.write = .ok data? ↔ body.Fits ∧ data? = body.wire := by
  cases body with
  | a x => simp [write, Fits, wire, eq_comm]
  | aaaa x => simp [write, Fits, wire, eq_comm]
  | ptr target =>
    simp only [write, bind_eq_ok, pure_eq_ok, Output.complete_name, Fits, wire]
    exact exists_given_iff
  | srv s =>
    simp only [write, bind_eq_ok, pure_eq_ok, Output.complete_name, Fits, wire]
    exact exists_given_iff
  | txt strings =>
    simp only [write, bind_eq_ok, pure_eq_ok, writeTexts_eq_ok, Fits, wire]
    exact exists_given_iff
  | nsec => simp [write, Fits, wire, eq_comm]
  | unknown => simp [write, Fits, wire, eq_comm]

theorem takes_readSrv {s : Srv} (h : Name.Fits s.target) (owner : String) :
    Reader.Takes (readSrv owner) (Bytes.ofWord s.priority ++ (Bytes.ofWord s.weight ++
      (Bytes.ofWord s.port ++ Name.wire s.target))) { s with
        target := Name.tidied s.target
        service := (Name.serviceLabels owner).1
        protocol := (Name.serviceLabels owner).2 } :=
  (Reader.takes_word _).bind <| (Reader.takes_word _).bind <| (Reader.takes_word _).bind <|
    (Reader.takes_name h).bind_pure <| Reader.takes_pure _

/-! ### Bodies of a type -/

/-- The types whose data is looked into, or known not to be. -/
def bodyTypes : List RecordType := [.a, .aaaa, .ptr, .srv, .txt, .nsec]

/-- The body is of the kind that data of the type is read as. -/
def Suits (type : RecordType) (body : Body) : Prop :=
  match body.type? with
  | some type' => type = type'
  | none => type ∉ bodyTypes

/-- A location carries the service and protocol labels of the owner. -/
def IsLabelled (owner : String) (body : Body) : Prop :=
  ∀ s, body = srv s → (s.service, s.protocol) = Name.serviceLabels owner

theorem read_of_not_mem {type : RecordType} (h : type ∉ bodyTypes) (owner : String) :
    read type owner = pure unknown := by
  cases type <;> first | rfl | exact absurd (by simp [bodyTypes]) h

/-- **Written data is read back**, and so is data that its body does not determine. -/
theorem exhausts_read {body : Body} {type : RecordType} (hs : body.Suits type) (h : body.Fits)
    (data : Bytes) (owner : String) :
    Reader.Exhausts (read type owner) (body.wire.getD data) (body.tidied owner) := by
  cases body with
  | a x =>
    cases hs
    exact (takes_readIpv4 x).exhausts.bind_pure a
  | aaaa x =>
    cases hs
    exact (takes_readIpv6 x).exhausts.bind_pure aaaa
  | ptr target =>
    cases hs
    exact (Reader.takes_name h).exhausts.bind_pure ptr
  | srv s =>
    cases hs
    have ht := (takes_readSrv h owner).exhausts.bind_pure srv
    rwa [← List.append_assoc, ← List.append_assoc] at ht
  | txt strings =>
    cases hs
    exact (Reader.exhausts_texts h).bind_pure txt
  | nsec =>
    cases hs
    exact fun c _ => ⟨c, rfl⟩
  | unknown =>
    rw [read_of_not_mem hs]
    exact fun c _ => ⟨c, rfl⟩

/-- What is read suits its type and carries the labels of its owner. -/
theorem gives_suits (type : RecordType) (owner : String) :
    Reader.Gives (read type owner) fun body => body.Suits type ∧ body.IsLabelled owner := by
  by_cases ht : type ∈ bodyTypes
  · have hsrv : Reader.Gives (readSrv owner) fun s =>
        (s.service, s.protocol) = Name.serviceLabels owner :=
      (Reader.gives_true _).bind fun _ _ => (Reader.gives_true _).bind fun _ _ =>
        (Reader.gives_true _).bind fun _ _ => (Reader.gives_true _).bind fun _ _ =>
          Reader.gives_pure rfl
    simp only [bodyTypes, List.mem_cons, List.not_mem_nil, or_false] at ht
    rcases ht with rfl | rfl | rfl | rfl | rfl | rfl
    · exact (Reader.gives_true _).bind fun _ _ => Reader.gives_pure ⟨rfl, by rintro _ ⟨⟩⟩
    · exact (Reader.gives_true _).bind fun _ _ => Reader.gives_pure ⟨rfl, by rintro _ ⟨⟩⟩
    · exact (Reader.gives_true _).bind fun _ _ => Reader.gives_pure ⟨rfl, by rintro _ ⟨⟩⟩
    · exact hsrv.bind fun _ hs => Reader.gives_pure ⟨rfl, by rintro _ ⟨⟩; exact hs⟩
    · exact (Reader.gives_true _).bind fun _ _ => Reader.gives_pure ⟨rfl, by rintro _ ⟨⟩⟩
    · exact Reader.gives_pure ⟨rfl, by rintro _ ⟨⟩⟩
  · rw [read_of_not_mem ht]
    exact Reader.gives_pure ⟨ht, by rintro _ ⟨⟩⟩

/-! ### Tidying -/

theorem wire_tidied (body : Body) (owner : String) : (body.tidied owner).wire = body.wire := by
  cases body <;> simp only [tidied, wire, Name.wire_tidied]

theorem fits_tidied {body : Body} {owner : String} : (body.tidied owner).Fits ↔ body.Fits := by
  cases body <;> simp only [tidied, Fits, Name.fits_tidied]

/-- The names in the body have no empty part. -/
def IsTidy : Body → Prop
  | ptr target => Name.IsTidy target
  | srv s => Name.IsTidy s.target
  | a _ | aaaa _ | txt _ | nsec | unknown => True

instance : DecidablePred IsTidy
  | ptr target => inferInstanceAs (Decidable (Name.IsTidy target))
  | srv s => inferInstanceAs (Decidable (Name.IsTidy s.target))
  | a _ | aaaa _ | txt _ | nsec | unknown => inferInstanceAs (Decidable True)

theorem tidied_eq_self {body : Body} {owner : String} (ht : body.IsTidy)
    (hl : body.IsLabelled owner) : body.tidied owner = body := by
  cases body with
  | ptr target => rw [tidied, Name.tidied_eq_self ht]
  | srv s =>
    have hs := hl s rfl
    rw [tidied, Name.tidied_eq_self ht, ← hs]
  | _ => rfl

end Body

end ServiceDiscovery
