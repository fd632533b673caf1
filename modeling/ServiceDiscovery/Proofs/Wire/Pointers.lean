import ServiceDiscovery.Proofs.Wire.Growing

/-!
# Names that go on elsewhere

A name ends where it stands, or it goes on where its first pointer leads. Its labels up to there do
not depend on the packet that they stand in, so two packets can only disagree on a name in what
follows the pointer.

* `opening`: the beginning of a name, and where it goes on;
* `labelsWithin_zero_eq_ok`, `labelsWithin_succ_eq_ok`: all labels, by the beginning of the name;
* `nameIn`, `nameAt`: the name at the start of some data, and from some place of a packet on;
* `nameIn_eq_iff`: when two packets agree on the name in some data;
* `nameIn_of_window`: the bytes that a name is read from decide about it.
-/

namespace ServiceDiscovery

namespace Reader

variable {budget : Nat}

/-! ### The beginning of a name -/

/-- How a name begins: its labels up to its end or its first pointer, and where that leads. -/
def opening : Reader (List String × Option Nat) := do
  let (labels, runEnd) ← labelRun #[]
  match runEnd with
  | .stop => return (labels.toList, none)
  | .pointer lead => return (labels.toList, some (target lead (← byte)))

/-- A run of labels consists of the same bytes wherever it stands. -/
theorem consumes_labelRun (seen : Array String) : Consumes (labelRun seen) := by
  intro c found c' h
  fun_induction labelRun seen c with
  | case1 seen c => cases h
  | case2 seen c rest hc =>
    cases h
    exact ⟨[0], rest, hc, fun _ _ hc => labelRun_zero hc seen⟩
  | case3 seen c lead rest hc h0 h40 label hlabel ih =>
    obtain ⟨hne, h63⟩ := label_of_lead h0 h40 hlabel
    obtain ⟨bytes, rest', hrest, htakes⟩ := ih h
    rw [Cursor.skip, hc, List.drop_succ_cons] at hrest
    refine ⟨lead :: (label ++ bytes), rest', ?_, ?_⟩
    · rw [hc, List.cons_append, List.append_assoc, ← hrest, List.take_append_drop]
    · intro d rest hd
      rw [List.cons_append, List.append_assoc] at hd
      have hd' : d.rest = (lead :: label) ++ (bytes ++ rest) := hd
      have hskip : (d.skip (label.length + 1)).rest = bytes ++ rest := Cursor.rest_skip hd'
      rw [labelRun_label hd hlabel hne h63, htakes _ rest hskip, Cursor.skip_skip,
        List.length_cons, List.length_append, Nat.add_right_comm]
  | case4 seen c lead rest hc h0 h40 label hlabel => cases h
  | case5 seen c lead rest hc h0 h40 hC0 => cases h
  | case6 seen c lead rest hc h0 h40 hC0 =>
    cases h
    exact ⟨[lead], rest, hc, fun _ _ hc => labelRun_pointer hc h0 h40 hC0 seen⟩

theorem consumes_opening : Consumes opening := by
  refine (consumes_labelRun #[]).bind fun (labels, runEnd) => ?_
  cases runEnd with
  | stop => exact consumes_pure _
  | pointer lead => exact consumes_byte.bind fun low => consumes_pure _

/-- A reader that consumes bytes gives the same for the same bytes in another place. -/
theorem Consumes.readAll_eq_ok {α : Type} {read : Reader α} (h : Consumes read) {c c' : Cursor}
    {a : α} (ha : readAll read c = .ok a) (hc : c.rest = c'.rest) : readAll read c' = .ok a := by
  obtain ⟨d, hr⟩ := exists_of_readAll_eq_ok ha
  obtain ⟨bytes, rest, hbytes, htakes⟩ := h c a d hr
  rw [Reader.readAll, htakes c' rest (hc.symm.trans hbytes)]

/-- A reader that consumes bytes stays in its packet. -/
theorem Consumes.packet_eq {α : Type} {read : Reader α} (h : Consumes read) {c c' : Cursor}
    {a : α} (ha : read c = .ok a c') : c'.packet = c.packet := by
  obtain ⟨bytes, rest, hc, htakes⟩ := h c a c' ha
  rw [htakes c rest hc] at ha
  cases ha
  rfl

theorem gives_labelRun {seen : Array String} (h : ∀ l ∈ seen, l ≠ "") :
    Gives (labelRun seen) fun found => ∀ l ∈ found.1, l ≠ "" := by
  intro c found c' hr
  fun_induction labelRun seen c with
  | case1 seen c => cases hr
  | case2 seen c rest hc =>
    cases hr
    exact h
  | case3 seen c lead rest hc h0 h40 label hlabel ih =>
    refine ih ?_ hr
    intro l hl
    rcases Array.mem_push.1 hl with hl | rfl
    · exact h l hl
    · exact Text.decode_ne_empty (label_of_lead h0 h40 hlabel).1
  | case4 seen c lead rest hc h0 h40 label hlabel => cases hr
  | case5 seen c lead rest hc h0 h40 hC0 => cases hr
  | case6 seen c lead rest hc h0 h40 hC0 =>
    cases hr
    exact h

theorem gives_opening : Gives opening fun a => ∀ l ∈ a.1, l ≠ "" := by
  have hrun : Gives (labelRun #[]) fun found => ∀ l ∈ found.1, l ≠ "" :=
    gives_labelRun fun l hl => by simp at hl
  refine hrun.bind fun (labels, runEnd) hlabels => ?_
  have hlist : ∀ l ∈ labels.toList, l ≠ "" := fun l hl => hlabels l (Array.mem_toList_iff.1 hl)
  cases runEnd with
  | stop => exact gives_pure hlist
  | pointer lead => exact (gives_true _).bind fun _ _ => gives_pure hlist

/-! ### All labels -/

/-- Without pointers, a name has to end where it begins. -/
theorem labelsWithin_zero_eq_ok {c : Cursor} {ls : List String} :
    readAll (labelsWithin 0) c = .ok ls ↔ readAll opening c = .ok (ls, none) := by
  unfold readAll labelsWithin opening
  cases hrun : labelRun #[] c with
  | error e c' => simp [bind_eq_of_error hrun]
  | ok found c' =>
    obtain ⟨labels, _ | lead⟩ := found
    · rw [bind_eq_of_ok hrun]
      show Except.ok labels.toList = _ ↔ Except.ok (labels.toList, none) = _
      simp
    · rw [bind_eq_of_ok hrun]
      cases hbyte : byte c' with
      | error e c'' => simp [bind_eq_of_error hbyte]
      | ok low c'' =>
        simp only [bind_eq_of_ok hbyte]
        show Except.error _ = _ ↔ Except.ok (_, some _) = _
        simp

theorem labelsWithin_succ (budget : Nat) (c : Cursor) :
    labelsWithin (budget + 1) c = match opening c with
      | .error e c' => .error e c'
      | .ok (ls, none) c' => .ok ls c'
      | .ok (first, some offset) c' =>
        match labelsWithin budget (c'.jump offset) with
        | .error e _ => .error e c'
        | .ok more _ => .ok (first ++ more) c' := by
  rw [labelsWithin, opening]
  cases hrun : labelRun #[] c with
  | error e c' => rw [bind_eq_of_error hrun]
  | ok found c' =>
    obtain ⟨labels, _ | lead⟩ := found
    · rw [bind_eq_of_ok hrun]
      rfl
    · rw [bind_eq_of_ok hrun]
      cases hbyte : byte c' with
      | error e c'' => simp only [hbyte, bind_eq_of_error hbyte]
      | ok low c'' =>
        simp only [hbyte, bind_eq_of_ok hbyte]
        rfl

/-- **The labels of a name are those of its beginning, and those that it goes on with.** -/
theorem labelsWithin_succ_eq_ok {c : Cursor} {ls : List String} :
    readAll (labelsWithin (budget + 1)) c = .ok ls ↔ readAll opening c = .ok (ls, none) ∨
      ∃ first offset more, readAll opening c = .ok (first, some offset) ∧
        readAll (labelsWithin budget) (c.jump offset) = .ok more ∧ ls = first ++ more := by
  rw [readAll, labelsWithin_succ, readAll]
  cases hopen : opening c with
  | error e c' => simp
  | ok a c' =>
    have hpacket : c'.packet = c.packet := consumes_opening.packet_eq hopen
    obtain ⟨first, _ | offset⟩ := a
    · simp
    · have hjump : c'.jump offset = c.jump offset := by rw [Cursor.jump, hpacket, Cursor.jump]
      dsimp only
      rw [hjump]
      cases hmore : labelsWithin budget (c.jump offset) with
      | error e c'' => simp [readAll, hmore]
      | ok more c'' => simp [readAll, hmore, eq_comm]

theorem ne_empty_of_labelsWithin {c : Cursor} {ls : List String}
    (h : readAll (labelsWithin budget) c = .ok ls) : ∀ l ∈ ls, l ≠ "" := by
  have hopening {c : Cursor} {a : List String × Option Nat} (h : readAll opening c = .ok a) :
      ∀ l ∈ a.1, l ≠ "" := by
    obtain ⟨c', hr⟩ := exists_of_readAll_eq_ok h
    exact gives_opening c a c' hr
  induction budget generalizing c ls with
  | zero => exact hopening (labelsWithin_zero_eq_ok.1 h)
  | succ budget ih =>
    rcases labelsWithin_succ_eq_ok.1 h with h | ⟨first, offset, more, hfirst, hmore, rfl⟩
    · exact hopening h
    · exact List.forall_mem_append.2 ⟨hopening hfirst, ih hmore⟩

/-! ### Names in data -/

/-- The name at the start of some data that stands in a packet. -/
def nameIn (packet data : Bytes) : Except Error String := readAll name (.inside packet data)

/-- The name from some place of a packet on, where a pointer has already led. -/
def nameAt (packet : Bytes) (offset : Nat) : Except Error String := do
  return Name.ofLabels
    (← readAll (labelsWithin (maxPointers - 1)) ((Cursor.start packet).jump offset))

/-- Where the name at the start of the data goes on, unless it ends in the data. -/
def continuation? (data : Bytes) : Option Nat :=
  match readAll opening (.start data) with
  | .ok (_, next) => next
  | .error _ => none

variable {packet packet' data : Bytes} {s : String}

theorem nameIn_eq_ok : nameIn packet data = .ok s ↔
    ∃ ls, readAll (labelsWithin maxPointers) (.inside packet data) = .ok ls ∧
      Name.ofLabels ls = s := by
  rw [nameIn, name, readAll_map]
  cases readAll (labelsWithin maxPointers) (.inside packet data) <;> simp [Except.map]

theorem nameAt_eq_ok {offset : Nat} : nameAt packet offset = .ok s ↔
    ∃ ls, readAll (labelsWithin (maxPointers - 1)) ((Cursor.start packet).jump offset) = .ok ls ∧
      Name.ofLabels ls = s := by
  rw [nameAt, bind_eq_ok]
  simp only [pure_eq_ok]

/-- The beginning of a name is the same in any packet. -/
theorem opening_inside {a : List String × Option Nat}
    (h : readAll opening (.inside packet data) = .ok a) (packet' : Bytes) :
    readAll opening (.inside packet' data) = .ok a := consumes_opening.readAll_eq_ok h rfl

theorem continuation?_eq {first : List String} {next : Option Nat}
    (h : readAll opening (.inside packet data) = .ok (first, next)) :
    continuation? data = next := by
  have hstart : readAll opening (.start data) = .ok (first, next) :=
    consumes_opening.readAll_eq_ok h rfl
  rw [continuation?, hstart]

/-- **Two packets agree on a name if and only if it ends in the data or they agree on what follows
its first pointer.** -/
theorem nameIn_eq_iff (h : nameIn packet data = .ok s) : nameIn packet' data = .ok s ↔
    ∀ offset, continuation? data = some offset → nameAt packet' offset = nameAt packet offset := by
  obtain ⟨ls, hls, rfl⟩ := nameIn_eq_ok.1 h
  rcases labelsWithin_succ_eq_ok.1 hls with hopen | ⟨first, offset, more, hopen, hmore, rfl⟩
  · -- The name ends in the data.
    rw [continuation?_eq hopen]
    refine iff_of_true ?_ (by rintro _ ⟨⟩)
    exact nameIn_eq_ok.2 ⟨ls, labelsWithin_succ_eq_ok.2 (.inl (opening_inside hopen packet')), rfl⟩
  · have hat : nameAt packet offset = .ok (Name.ofLabels more) := nameAt_eq_ok.2 ⟨more, hmore, rfl⟩
    have hopen' := opening_inside hopen packet'
    have hinj {more' : List String}
        (hmore' : readAll (labelsWithin 15) ((Cursor.start packet').jump offset) = .ok more') :=
      Name.ofLabels_append_inj first (ne_empty_of_labelsWithin hmore')
        (ne_empty_of_labelsWithin hmore)
    simp only [continuation?_eq hopen, Option.some.injEq, forall_eq', hat]
    constructor
    · intro h'
      obtain ⟨ls', hls', he⟩ := nameIn_eq_ok.1 h'
      rcases labelsWithin_succ_eq_ok.1 hls' with hend | ⟨first', offset', more', hend, hmore', rfl⟩
      · rw [hopen'] at hend
        cases hend
      · rw [hopen'] at hend
        cases hend
        exact nameAt_eq_ok.2 ⟨more', hmore', (hinj hmore').1 he⟩
    · intro h'
      obtain ⟨more', hmore', he⟩ := nameAt_eq_ok.1 h'
      exact nameIn_eq_ok.2 ⟨first ++ more',
        labelsWithin_succ_eq_ok.2 (.inr ⟨first, offset, more', hopen', hmore', rfl⟩), (hinj hmore').2 he⟩

/-! ### The bytes that a name is read from -/

/-- The packet with its first bytes struck out: `0x40` begins neither a label nor a pointer. -/
def struck (n : Nat) (packet : Bytes) : Bytes := List.replicate n 0x40 ++ packet.drop n

theorem drop_struck {n offset : Nat} (h : n ≤ offset) (packet : Bytes) :
    (struck n packet).drop offset = packet.drop offset := by
  rw [struck, List.drop_append, List.length_replicate, List.drop_drop,
    List.drop_eq_nil_of_le (by rw [List.length_replicate]; exact h), List.nil_append,
    Nat.add_sub_cancel' h]

theorem exists_opening_of_labelsWithin {c : Cursor} {ls : List String}
    (h : readAll (labelsWithin budget) c = .ok ls) : ∃ a, readAll opening c = .ok a := by
  cases budget with
  | zero => exact ⟨_, labelsWithin_zero_eq_ok.1 h⟩
  | succ budget =>
    rcases labelsWithin_succ_eq_ok.1 h with h | ⟨first, offset, more, h, -, -⟩
    · exact ⟨_, h⟩
    · exact ⟨_, h⟩

/-- What has been struck out cannot be read as part of a name. -/
theorem le_of_opening_struck {n offset : Nat} {packet : Bytes} {a : List String × Option Nat}
    (h : readAll opening ((Cursor.start (struck n packet)).jump offset) = .ok a) :
    n ≤ offset := by
  by_contra hlt
  have hrest : ((Cursor.start (struck n packet)).jump offset).rest =
      0x40 :: (List.replicate (n - offset - 1) 0x40 ++ packet.drop n) := by
    show (List.replicate n 0x40 ++ packet.drop n).drop offset = _
    rw [List.drop_append_of_le_length (by rw [List.length_replicate]; omega),
      List.drop_replicate, ← List.cons_append, ← List.replicate_succ,
      Nat.sub_add_cancel (by omega)]
  have hrun := labelRun_reserved hrest (by decide) (by decide) (by decide) #[]
  rw [readAll, opening, bind_eq_of_error hrun] at h
  cases h

theorem labelsWithin_of_struck {n : Nat} {packet rest : Bytes} {offset : Nat} {ls : List String}
    (h : readAll (labelsWithin budget) ⟨struck n packet, rest, offset⟩ = .ok ls) :
    readAll (labelsWithin budget) ⟨packet, rest, offset⟩ = .ok ls := by
  -- By the number of pointers, none of which leads to what has been struck out.
  induction budget generalizing rest offset ls with
  | zero =>
    exact labelsWithin_zero_eq_ok.2
      (consumes_opening.readAll_eq_ok (labelsWithin_zero_eq_ok.1 h) rfl)
  | succ budget ih =>
    rcases labelsWithin_succ_eq_ok.1 h with h | ⟨first, next, more, hfirst, hmore, rfl⟩
    · exact labelsWithin_succ_eq_ok.2 (.inl (consumes_opening.readAll_eq_ok h rfl))
    · obtain ⟨a, ha⟩ := exists_opening_of_labelsWithin hmore
      have hn : n ≤ next := le_of_opening_struck ha
      rw [Cursor.jump, drop_struck hn] at hmore
      exact labelsWithin_succ_eq_ok.2
        (.inr ⟨first, next, more, consumes_opening.readAll_eq_ok hfirst rfl, ih hmore, rfl⟩)

/-- A name that is read without some bytes at the start of the packet is read with them. -/
theorem nameIn_of_struck {n : Nat} (h : nameIn (struck n packet) data = .ok s) :
    nameIn packet data = .ok s := by
  obtain ⟨ls, hls, rfl⟩ := nameIn_eq_ok.1 h
  exact nameIn_eq_ok.2 ⟨ls, labelsWithin_of_struck hls, rfl⟩

/-- A name that is read without some bytes at the end of the packet is read with them. -/
theorem nameIn_of_take {n : Nat} (h : nameIn (packet.take n) data = .ok s) :
    nameIn packet data = .ok s := by
  obtain ⟨c, hr⟩ := exists_of_readAll_eq_ok h
  have hgrown : Grown (packet.drop n) [] (name (.inside (packet.take n) data))
      (name ((Cursor.inside (packet.take n) data).grow (packet.drop n) [])) := steady_name _
  rw [hr, Cursor.grow_inside, List.take_append_drop] at hgrown
  generalize hr' : name (.inside packet data) = r at hgrown
  cases hgrown
  rw [nameIn, readAll, hr']

/-- **A name stays as long as the bytes that it was read from do**: those of its data, and those
from some place of the packet to another. -/
theorem nameIn_of_window {n k : Nat} (h : nameIn (struck n (packet.take k)) data = .ok s)
    (hp : (packet'.take k).drop n = (packet.take k).drop n) : nameIn packet' data = .ok s := by
  rw [struck, ← hp] at h
  exact nameIn_of_take (nameIn_of_struck h)

end Reader

end ServiceDiscovery
