import ServiceDiscovery.Proofs.Wire.Names

/-!
# Reading with more bytes behind

A reader looks at bytes one after another, and at the packet only where a pointer leads. So when
bytes are added at the end, it gives what it gave before, unless it failed because bytes were
missing.

* `Error.root`: the cause of a failure, wherever it lies;
* `Cursor.grow`: a cursor with more bytes behind its packet and behind its rest;
* `Grown`: what can become of a result; `Steady`: readers of which nothing else becomes;
* `steady_of_consumes`: readers of fixed amounts; `Steady.bind`: one reader after another;
* `steady_name`: names, whose pointers may lead anywhere.
-/

namespace ServiceDiscovery

/-- What has gone wrong, without the places where it was noticed. -/
def Error.root : Error → Error
  | malformedEntry _ _ cause => cause.root
  | e => e

namespace Cursor

/-- The cursor when `more` bytes follow the packet and `behind` bytes what is still to be read. -/
def grow (c : Cursor) (more behind : Bytes) : Cursor :=
  ⟨c.packet ++ more, c.rest ++ behind, c.offset⟩

theorem grow_inside (packet bytes more : Bytes) :
    (inside packet bytes).grow more [] = inside (packet ++ more) bytes := by
  rw [grow, inside, List.append_nil]
  rfl

theorem rest_grow_nil (c : Cursor) (more : Bytes) : (c.grow more []).rest = c.rest :=
  List.append_nil c.rest

theorem skip_grow {c : Cursor} {n : Nat} (h : n ≤ c.rest.length) (more behind : Bytes) :
    (c.grow more behind).skip n = (c.skip n).grow more behind := by
  simp only [skip, grow, List.drop_append_of_le_length h]

/-- A place inside the packet has the added bytes behind it. -/
theorem jump_grow {c : Cursor} {offset : Nat} (h : offset ≤ c.packet.length)
    (more behind : Bytes) :
    (c.grow more behind).jump offset = (c.jump offset).grow more more := by
  simp only [jump, grow, List.drop_append_of_le_length h]

end Cursor

namespace Reader

variable {α β : Type} {more behind : Bytes} {budget : Nat}

/-! ### Results -/

/-- What can become of a result when bytes are added: a value stays and a failure stays, unless bytes
were missing. -/
inductive Grown (more behind : Bytes) :
    EStateM.Result Error Cursor α → EStateM.Result Error Cursor α → Prop
  | ok (a : α) (c : Cursor) : Grown more behind (.ok a c) (.ok a (c.grow more behind))
  | failed (e : Error) (c c' : Cursor) : Grown more behind (.error e c) (.error e c')
  | ended (e : Error) (c : Cursor) (r : EStateM.Result Error Cursor α)
      (h : e.root = .unexpectedEnd) : Grown more behind (.error e c) r

/-- The reader gives the same with more bytes, unless bytes were missing. -/
def Steady (read : Reader α) (more behind : Bytes) : Prop :=
  ∀ c : Cursor, Grown more behind (read c) (read (c.grow more behind))

theorem steady_pure (a : α) : Steady (pure a) more behind := fun c => .ok a c

theorem steady_throw (e : Error) : Steady (throw e : Reader α) more behind := fun c =>
  .failed e c (c.grow more behind)

theorem Steady.bind {read : Reader α} {f : α → Reader β} (h : Steady read more behind)
    (h' : ∀ a, Steady (f a) more behind) : Steady (read >>= f) more behind := by
  intro c
  have hc := h c
  generalize hr : read c = r, hr' : read (c.grow more behind) = r' at hc
  cases hc with
  | ok a c' =>
    rw [bind_eq_of_ok hr, bind_eq_of_ok hr']
    exact h' a c'
  | failed e c' c'' =>
    rw [bind_eq_of_error hr, bind_eq_of_error hr']
    exact .failed e c' c''
  | ended e c' r' he =>
    rw [bind_eq_of_error hr]
    exact .ended e c' _ he

/-! ### Fixed amounts -/

/-- A reader is steady if it takes bytes as whatever it gives, and otherwise misses some. -/
theorem steady_of_consumes {read : Reader α}
    (h : Consumes read) (herror : ∀ c e c', read c = .error e c' → e = .unexpectedEnd) :
    Steady read more behind := by
  intro c
  cases hr : read c with
  | ok a c' =>
    obtain ⟨bytes, rest, hc, htakes⟩ := h c a c' hr
    have hgrown : (c.grow more behind).rest = bytes ++ (rest ++ behind) := by
      rw [Cursor.grow, hc, List.append_assoc]
    have hlen : bytes.length ≤ c.rest.length := by
      rw [hc, List.length_append]
      omega
    rw [htakes c rest hc] at hr
    cases hr
    rw [htakes _ _ hgrown, Cursor.skip_grow hlen]
    exact .ok a _
  | error e c' => exact .ended e c' _ (congrArg Error.root (herror c e c' hr))

theorem unexpectedEnd_of_byte {c c' : Cursor} {e : Error} (h : byte c = .error e c') :
    e = .unexpectedEnd := by
  unfold byte at h
  split at h <;> cases h
  rfl

theorem steady_byte : Steady byte more behind :=
  steady_of_consumes consumes_byte fun _ _ _ => unexpectedEnd_of_byte

theorem unexpectedEnd_of_word {c c' : Cursor} {e : Error} (h : word c = .error e c') :
    e = .unexpectedEnd := by
  unfold word at h
  split at h <;> cases h
  rfl

theorem steady_word : Steady word more behind :=
  steady_of_consumes consumes_word fun _ _ _ => unexpectedEnd_of_word

theorem unexpectedEnd_of_long {c c' : Cursor} {e : Error} (h : long c = .error e c') :
    e = .unexpectedEnd := by
  unfold long at h
  split at h <;> cases h
  rfl

theorem steady_long : Steady long more behind :=
  steady_of_consumes consumes_long fun _ _ _ => unexpectedEnd_of_long

theorem unexpectedEnd_of_take {n : Nat} {c c' : Cursor} {e : Error}
    (h : take n c = .error e c') : e = .unexpectedEnd := by
  simp only [take] at h
  split at h <;> cases h
  rfl

theorem steady_take (n : Nat) : Steady (take n) more behind :=
  steady_of_consumes (consumes_take n) fun _ _ _ => unexpectedEnd_of_take

theorem steady_text : Steady text more behind :=
  steady_byte.bind fun _ => (steady_take _).bind fun _ => steady_pure _

/-! ### Names -/

theorem rest_grow_of_cons {c : Cursor} {b : UInt8} {rest : Bytes} (h : c.rest = b :: rest) :
    (c.grow more behind).rest = b :: (rest ++ behind) := by
  rw [Cursor.grow, h, List.cons_append]

theorem skip_one_grow {c : Cursor} {b : UInt8} {rest : Bytes} (h : c.rest = b :: rest) :
    (c.grow more behind).skip 1 = (c.skip 1).grow more behind := by
  refine Cursor.skip_grow ?_ more behind
  rw [h, List.length_cons]
  omega

/-- The length of a label that a byte begins. -/
theorem label_of_lead {lead : UInt8} {label : Bytes} (h0 : ¬lead = 0) (h40 : lead < 0x40)
    (h : label.length = lead.toNat) : label ≠ [] ∧ label.length ≤ 63 := by
  constructor
  · rintro rfl
    exact h0 (UInt8.toNat_inj.1 h.symm)
  · have := UInt8.lt_iff_toNat_lt.1 h40
    have h40 : (0x40 : UInt8).toNat = 64 := rfl
    omega

/-- A reserved length byte is seen whatever follows it. -/
theorem labelRun_reserved {c : Cursor} {lead : UInt8} {rest : Bytes} (hc : c.rest = lead :: rest)
    (h0 : ¬lead = 0) (h40 : ¬lead < 0x40) (hC0 : lead < 0xC0) (seen : Array String) :
    labelRun seen c = .error .reservedLabel (c.skip 1) := by
  rw [labelRun_cons hc, if_neg h0, if_neg h40, if_pos hC0]

theorem labelRun_pointer {c : Cursor} {lead : UInt8} {rest : Bytes} (hc : c.rest = lead :: rest)
    (h0 : ¬lead = 0) (h40 : ¬lead < 0x40) (hC0 : ¬lead < 0xC0) (seen : Array String) :
    labelRun seen c = .ok (seen, .pointer lead) (c.skip 1) := by
  rw [labelRun_cons hc, if_neg h0, if_neg h40, if_neg hC0]

theorem steady_labelRun (seen : Array String) :
    Steady (labelRun seen) more behind := by
  intro c
  -- Each label is a step of the run, and the last byte ends it in one of four ways.
  fun_induction labelRun seen c with
  | case1 seen c => exact .ended _ _ _ rfl
  | case2 seen c rest hc =>
    rw [labelRun_zero (rest_grow_of_cons hc), skip_one_grow hc]
    exact .ok _ _
  | case3 seen c lead rest hc h0 h40 label hlabel ih =>
    have hlen : lead.toNat ≤ rest.length := by
      have htake : (rest.take lead.toNat).length = lead.toNat := hlabel
      rw [List.length_take] at htake
      omega
    obtain ⟨hne, h63⟩ := label_of_lead h0 h40 hlabel
    have hgrown : (c.grow more behind).rest =
        lead :: (label ++ (rest.drop lead.toNat ++ behind)) := by
      rw [rest_grow_of_cons hc, ← List.append_assoc, List.take_append_drop]
    have hskip : lead.toNat + 1 ≤ c.rest.length := by
      rw [hc, List.length_cons]
      omega
    rw [labelRun_label hgrown hlabel hne h63, hlabel, Cursor.skip_grow hskip]
    exact ih
  | case4 seen c lead rest hc h0 h40 label hlabel => exact .ended _ _ _ rfl
  | case5 seen c lead rest hc h0 h40 hC0 =>
    rw [labelRun_reserved (rest_grow_of_cons hc) h0 h40 hC0]
    exact .failed _ _ _
  | case6 seen c lead rest hc h0 h40 hC0 =>
    rw [labelRun_pointer (rest_grow_of_cons hc) h0 h40 hC0, skip_one_grow hc]
    exact .ok _ _

/-- Nothing can be read where the packet has ended. -/
theorem labelsWithin_of_rest_eq_nil {c : Cursor} (h : c.rest = []) (budget : Nat) :
    labelsWithin budget c = .error .unexpectedEnd c := by
  have hrun : labelRun #[] c = .error .unexpectedEnd c := by
    rw [labelRun]
    split
    · rfl
    · next h' => rw [h] at h'; cases h'
  unfold labelsWithin
  rw [hrun]

theorem grown_jump (h : ∀ behind, Steady (labelsWithin budget) more behind) (c : Cursor)
    (offset : Nat) : Grown more more (labelsWithin budget (c.jump offset))
      (labelsWithin budget ((c.grow more behind).jump offset)) := by
  rcases Nat.lt_or_ge c.packet.length offset with hout | hin
  · have hrest : (c.jump offset).rest = [] := List.drop_eq_nil_of_le hout.le
    rw [labelsWithin_of_rest_eq_nil hrest]
    exact .ended _ _ _ rfl
  · rw [Cursor.jump_grow hin]
    exact h more (c.jump offset)

/-- **The labels of a name stay, through all of its pointers.** -/
theorem steady_labelsWithin (budget : Nat) (behind : Bytes) :
    Steady (labelsWithin budget) more behind := by
  -- By the number of pointers; behind a pointer, all that was added to the packet follows.
  induction budget generalizing behind with
  | zero =>
    intro c
    have hrun : Grown more behind (labelRun #[] c) (labelRun #[] (c.grow more behind)) :=
      steady_labelRun #[] c
    unfold labelsWithin
    generalize labelRun #[] c = r, labelRun #[] (c.grow more behind) = r' at hrun
    cases hrun with
    | ok found c =>
      obtain ⟨labels, _ | lead⟩ := found
      · exact .ok _ c
      · exact .failed _ c _
    | failed e c c' => exact .failed e c c'
    | ended e c r h => exact .ended e c _ h
  | succ budget ih =>
    intro c
    have hrun : Grown more behind (labelRun #[] c) (labelRun #[] (c.grow more behind)) :=
      steady_labelRun #[] c
    unfold labelsWithin
    generalize labelRun #[] c = r, labelRun #[] (c.grow more behind) = r' at hrun
    cases hrun with
    | failed e c c' => exact .failed e c c'
    | ended e c r h => exact .ended e c _ h
    | ok found c =>
      obtain ⟨labels, _ | lead⟩ := found
      · exact .ok _ c
      · have hbyte : Grown more behind (byte c) (byte (c.grow more behind)) := steady_byte c
        dsimp only
        generalize byte c = r, byte (c.grow more behind) = r' at hbyte
        cases hbyte with
        | failed e c c' => exact .failed e c c'
        | ended e c r h => exact .ended e c _ h
        | ok low c =>
          have hjump : Grown more more (labelsWithin budget (c.jump (target lead low)))
              (labelsWithin budget ((c.grow more behind).jump (target lead low))) :=
            grown_jump ih c (target lead low)
          dsimp only
          generalize labelsWithin budget (c.jump _) = r,
            labelsWithin budget ((c.grow more behind).jump _) = r' at hjump
          cases hjump with
          | ok more _ => exact .ok _ c
          | failed e _ _ => exact .failed e c _
          | ended e _ _ h => exact .ended e c _ h

/-- **A name stays when bytes are added**, even if it goes on elsewhere in the packet. -/
theorem steady_name : Steady name more behind :=
  (steady_labelsWithin maxPointers behind).bind fun _ => steady_pure _

end Reader

end ServiceDiscovery
