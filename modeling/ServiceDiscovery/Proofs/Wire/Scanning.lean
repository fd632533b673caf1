import ServiceDiscovery.Proofs.Wire.Window

/-!
# Names and accesses by position

A name is read label by label, in a new window wherever a pointer leads. Whatever is read of a
window, piece after piece and whether or not the bytes are there, its position stays in its buffer
and never goes back.

* `Scan.labels`, `Scan.name`: names; `agrees_labels`: what is read of them behind any number of
  pointers;
* `Reader.Stays`: readers that do not move when they fail;
* `Access`: what can be read of a window, `Window.run`: one piece after another;
* `Access.IsSafe`, `Access.isSafe`: what is known of each of them, `Window.precedes_run`: of many.
-/

namespace ServiceDiscovery

namespace Scan

/-! ### Names -/

/-- The bits of a length byte that tell labels and pointers apart. -/
def pointerBits : UInt8 := 0xC0

/-- Where a pointer leads, by its two bytes. -/
def target (lead low : UInt8) : Nat := ((lead &&& ~~~pointerBits).toNat <<< 8) ||| low.toNat

/-- The labels seen so far and one more, unless it has no bytes. -/
def withLabel (seen : Array String) (label : Bytes) : Array String :=
  if label = [] then seen else seen.push (Text.decode label)

/-- The labels of a name after `seen`, when `hops` pointers have led here. -/
def labels (hops : Nat) (seen : Array String) (w : Window) :
    EStateM.Result Halt Window (Array String) :=
  match _hbyte : byte w with
  | .error e w => .error e w
  | .ok lead w' =>
    if lead &&& pointerBits = 0 then
      if lead = 0 then .ok seen w'
      else match _htake : take lead.toNat w' with
        | .error e w => .error e w
        | .ok label w => labels hops (withLabel seen label) w
    else if lead &&& pointerBits = pointerBits then
      if Reader.maxPointers ≤ hops then fail .tooManyPointers w'
      else match byte w' with
        | .error e w => .error e w
        | .ok low w =>
          if w.packet.length ≤ target lead low then fail .unexpectedEnd w
          else match labels (hops + 1) seen ⟨w.packet, w.packet, target lead low⟩ with
            | .ok all _ => .ok all w
            | .error e _ => .error e w
    else fail .reservedLabel w'
termination_by (Reader.maxPointers - hops, w.remaining)
decreasing_by
  · refine Prod.Lex.right _ ?_
    exact Nat.lt_of_le_of_lt (remaining_of_take _htake) (remaining_of_byte _hbyte)
  · exact Prod.Lex.left _ _ (by omega)

def name : Scan String := do
  let labels ← labels 0 #[]
  return Name.ofLabels labels.toList

/-- What the two highest bits of a length byte say, and the number that the others are. -/
theorem pointerBits_table : ∀ i : Fin 256,
    ((UInt8.ofNat i.val &&& pointerBits = 0 ↔ i.val < 64) ∧
      (UInt8.ofNat i.val &&& pointerBits = pointerBits ↔ 192 ≤ i.val)) ∧
    (UInt8.ofNat i.val &&& ~~~pointerBits).toNat = i.val % 64 := by
  decide +kernel

theorem label_iff (lead : UInt8) : lead &&& pointerBits = 0 ↔ lead.toNat < 64 := by
  simpa using (pointerBits_table ⟨lead.toNat, lead.toNat_lt⟩).1.1

theorem pointer_iff (lead : UInt8) : lead &&& pointerBits = pointerBits ↔ 192 ≤ lead.toNat := by
  simpa using (pointerBits_table ⟨lead.toNat, lead.toNat_lt⟩).1.2

theorem toNat_pos {lead : UInt8} (h : ¬lead = 0) : 1 ≤ lead.toNat :=
  Nat.pos_of_ne_zero fun h0 => h (UInt8.toNat_inj.1 h0)

/-- A pointer that is followed leaves one less. -/
theorem budget_eq {hops : Nat} (h : ¬Reader.maxPointers ≤ hops) :
    Reader.maxPointers - hops = Reader.maxPointers - (hops + 1) + 1 := by
  omega

theorem offset_eq_target {lead : UInt8} (h : 192 ≤ lead.toNat) (low : UInt8) :
    lead.toNat * 256 + low.toNat = 0xC000 + target lead low := by
  have hbits : (lead &&& ~~~pointerBits).toNat = lead.toNat % 64 := by
    simpa using (pointerBits_table ⟨lead.toNat, lead.toNat_lt⟩).2
  have hlow : low.toNat < 2 ^ 8 := low.toNat_lt
  have hlead := lead.toNat_lt
  rw [target, hbits, ← Nat.shiftLeft_add_eq_or_of_lt hlow, Nat.shiftLeft_eq]
  omega

theorem rest_advance_one {w : Window} {b : UInt8} {rest : Bytes} (hc : w.cursor.rest = b :: rest) :
    (w.advance 1).cursor.rest = rest := by
  rw [Window.cursor_advance, Cursor.skip, hc, List.drop_succ_cons, List.drop_zero]

/-- The two bytes of a pointer. -/
theorem exists_of_two_bytes {w w' w'' : Window} {lead low : UInt8} (h : byte w = .ok lead w')
    (h' : byte w' = .ok low w'') :
    ∃ rest, w.cursor.rest = lead :: low :: rest ∧ w'' = w.advance 2 ∧ 2 ≤ w.remaining := by
  obtain ⟨rest, hc, rfl, -⟩ := exists_of_byte h
  obtain ⟨rest', hc', rfl, hmore⟩ := exists_of_byte h'
  rw [rest_advance_one hc] at hc'
  rw [Window.remaining_advance] at hmore
  exact ⟨rest', by rw [hc, hc'], Window.advance_advance w 1 1, by omega⟩

/-- The labels seen so far, and all that follow. -/
def continued (seen : Array String) (ls : List String) : Array String := seen ++ ls.toArray

theorem continued_withLabel (seen : Array String) {label : Bytes} (h : label ≠ [])
    (ls : List String) :
    continued (withLabel seen label) ls = continued seen (Text.decode label :: ls) := by
  simp [continued, withLabel, h]

/-- Labels are read after the ones seen so far, through the pointers that are left. -/
theorem agrees_labels (hops : Nat) (seen : Array String) {w : Window} (hw : w.IsValid) :
    Agrees (continued seen) w (labels hops seen w)
      (Reader.labelsWithin (Reader.maxPointers - hops) w.cursor) := by
  fun_induction labels hops seen w with
  | case1 hops seen w halt w' h =>
    obtain ⟨hc, rfl, rfl⟩ := end_of_byte h
    rw [Reader.labelsWithin_of_rest_eq_nil hc]
    exact .failed _ 0 (Nat.zero_le _)
  | case2 hops seen w w' h hlabel =>
    obtain ⟨rest, hc, rfl, hone⟩ := exists_of_byte h
    rw [Reader.labelsWithin_zero hc]
    exact .ok_of_eq (by simp [continued]) hone
  | case3 hops seen w lead w' h hlabel hne halt w'' h' =>
    obtain ⟨rest, hc, rfl, hone⟩ := exists_of_byte h
    obtain ⟨hshort, rfl, rfl⟩ := short_of_take (hw.advance hone) h'
    rw [← Window.length_rest_cursor, rest_advance_one hc] at hshort
    have hmax : lead.toNat ≤ 63 := Nat.le_of_lt_succ ((label_iff lead).1 hlabel)
    rw [Reader.labelsWithin_cut hc (toNat_pos hne) hmax hshort]
    exact .failed _ 1 hone
  | case4 hops seen w lead w' h hlabel hne label w'' h' ih =>
    obtain ⟨rest, hc, rfl, hone⟩ := exists_of_byte h
    obtain ⟨rest', hc', hlead, hlong, rfl⟩ := exists_of_take (hw.advance hone) h'
    rw [rest_advance_one hc] at hc'
    rw [hc'] at hc
    have hpos : 1 ≤ label.length := hlead ▸ toNat_pos hne
    have hmax : label.length ≤ 63 := hlead ▸ Nat.le_of_lt_succ ((label_iff lead).1 hlabel)
    have hmore := ih ((hw.advance hone).advance hlong)
    rw [Window.remaining_advance] at hlong
    rw [Window.advance_advance, Window.cursor_advance, ← hlead] at hmore
    rw [Reader.labelsWithin_label hc hlead.symm hpos hmax, Window.advance_advance, ← hlead]
    have hmore := hmore.of_advance (by omega)
    generalize labels hops _ _ = r, Reader.labelsWithin _ (w.cursor.skip _) = r' at hmore ⊢
    cases hmore with
    | ok ls n hn =>
      exact .ok_of_eq (continued_withLabel seen (List.ne_nil_of_length_pos hpos) ls) hn
    | failed e n hn => exact .failed e n hn
  | case5 hops seen w lead w' h hlabel hpointer hhops =>
    obtain ⟨rest, hc, rfl, hone⟩ := exists_of_byte h
    rw [Nat.sub_eq_zero_of_le hhops, Reader.labelsWithin_spent hc ((pointer_iff lead).1 hpointer)]
    exact .failed _ 1 hone
  | case6 hops seen w lead w' h hlabel hpointer hhops halt w'' h' =>
    obtain ⟨rest, hc, rfl, hone⟩ := exists_of_byte h
    obtain ⟨hnil, rfl, rfl⟩ := end_of_byte h'
    rw [rest_advance_one hc] at hnil
    subst hnil
    rw [budget_eq hhops, Reader.labelsWithin_halved hc ((pointer_iff lead).1 hpointer)]
    exact .failed _ 1 hone
  | case7 hops seen w lead w' h hlabel hpointer hhops low w'' h' hout =>
    obtain ⟨rest, hc, rfl, htwo⟩ := exists_of_two_bytes h h'
    have hend : (w.cursor.jump (target lead low)).rest = [] := List.drop_eq_nil_of_le hout
    rw [budget_eq hhops, Reader.labelsWithin_pointer hc
      (offset_eq_target ((pointer_iff lead).1 hpointer) low),
      Reader.labelsWithin_of_rest_eq_nil hend]
    exact .failed _ 2 htwo
  | case8 hops seen w lead w' h hlabel hpointer hhops low w'' h' hin all w3 hsub ih =>
    obtain ⟨rest, hc, rfl, htwo⟩ := exists_of_two_bytes h h'
    have hmore := ih (not_le.1 hin).le
    rw [hsub] at hmore
    obtain ⟨ls, _, -, rfl, -, hread⟩ := hmore.exists_of_ok
    have hread : Reader.labelsWithin (Reader.maxPointers - (hops + 1))
      (w.cursor.jump (target lead low)) = .ok ls _ := hread
    rw [budget_eq hhops, Reader.labelsWithin_pointer hc
      (offset_eq_target ((pointer_iff lead).1 hpointer) low), hread]
    exact .ok ls 2 htwo
  | case9 hops seen w lead w' h hlabel hpointer hhops low w'' h' hin halt w3 hsub ih =>
    obtain ⟨rest, hc, rfl, htwo⟩ := exists_of_two_bytes h h'
    have hmore := ih (not_le.1 hin).le
    rw [hsub] at hmore
    obtain ⟨e, _, -, rfl, -, hread⟩ := hmore.exists_of_error
    have hread : Reader.labelsWithin (Reader.maxPointers - (hops + 1))
      (w.cursor.jump (target lead low)) = .error e _ := hread
    rw [budget_eq hhops, Reader.labelsWithin_pointer hc
      (offset_eq_target ((pointer_iff lead).1 hpointer) low), hread]
    exact .failed e 2 htwo
  | case10 hops seen w lead w' h hlabel hpointer =>
    obtain ⟨rest, hc, rfl, hone⟩ := exists_of_byte h
    rw [label_iff] at hlabel
    rw [pointer_iff] at hpointer
    rw [Reader.labelsWithin_reserved hc (not_lt.1 hlabel) (not_le.1 hpointer)]
    exact .failed _ 1 hone

theorem mirrors_name : Mirrors name Reader.name := by
  intro w hw
  have hlabels := agrees_labels 0 #[] hw
  refine hlabels.bind fun ls _ _ => ?_
  rw [continued, Array.empty_append]
  exact .ok (Name.ofLabels ls) 0 (Nat.zero_le _)

end Scan

/-! ### Failures that do not move -/

namespace Reader

variable {α β : Type} {read : Reader α}

/-- The reader does not move when it fails. -/
def Stays (read : Reader α) : Prop := ∀ c e c', read c = .error e c' → c' = c

theorem stays_byte : Stays byte := by
  intro c e c' h
  unfold byte at h
  split at h <;> cases h
  rfl

theorem stays_word : Stays word := by
  intro c e c' h
  unfold word at h
  split at h <;> cases h
  rfl

theorem stays_long : Stays long := by
  intro c e c' h
  unfold long at h
  split at h <;> cases h
  rfl

theorem stays_take (n : Nat) : Stays (take n) := by
  intro c e c' h
  simp only [take] at h
  split at h <;> cases h
  rfl

theorem Stays.bind_pure (h : Stays read) (f : α → β) : Stays (read >>= fun a => pure (f a)) := by
  intro c e c' he
  rcases cases_of_bind_error he with he | ⟨a, c₁, -, he⟩
  · exact h c e c' he
  · cases he

end Reader

/-! ### One access after another -/

/-- Something that is read of a window. -/
inductive Access where
  | byte
  | word
  | long
  | take (n : Nat)
  | text
  | texts
  | name
  /-- The labels after `seen` of a name, where `hops` pointers have led. -/
  | labels (hops : Nat) (seen : Array String)

/-- What an access gives. -/
inductive Piece where
  | byte (b : UInt8)
  | word (v : UInt16)
  | long (v : UInt32)
  | bytes (bytes : Bytes)
  | text (s : String)
  | texts (ss : List String)
  deriving DecidableEq

namespace Access

def scan : Access → Scan Piece
  | byte => do return .byte (← Scan.byte)
  | word => do return .word (← Scan.word)
  | long => do return .long (← Scan.long)
  | take n => do return .bytes (← Scan.take n)
  | text => do return .text (← Scan.text)
  | texts => do return .texts (← Scan.texts)
  | name => do return .text (← Scan.name)
  | labels hops seen => do return .texts (← Scan.labels hops seen).toList

/-- The reader that does the same. -/
def read : Access → Reader Piece
  | byte => do return .byte (← Reader.byte)
  | word => do return .word (← Reader.word)
  | long => do return .long (← Reader.long)
  | take n => do return .bytes (← Reader.take n)
  | text => do return .text (← Reader.text)
  | texts => do return .texts (← Reader.texts)
  | name => do return .text (← Reader.name)
  | labels hops seen => do
    return .texts (seen.toList ++ (← Reader.labelsWithin (Reader.maxPointers - hops)))

/-- The access is to a fixed number of bytes. -/
def IsFixed : Access → Prop
  | byte | word | long | take _ => True
  | text | texts | name | labels _ _ => False

theorem mirrors_scan (access : Access) : Scan.Mirrors access.scan access.read := by
  cases access with
  | byte => exact Scan.mirrors_byte.bind_pure Piece.byte
  | word => exact Scan.mirrors_word.bind_pure Piece.word
  | long => exact Scan.mirrors_long.bind_pure Piece.long
  | take n => exact (Scan.mirrors_take n).bind_pure Piece.bytes
  | text => exact Scan.mirrors_text.bind_pure Piece.text
  | texts => exact Scan.mirrors_texts.bind_pure Piece.texts
  | name => exact Scan.mirrors_name.bind_pure Piece.text
  | labels hops seen =>
    intro w hw
    refine (Scan.agrees_labels hops seen hw).bind fun ls _ _ => .ok_of_eq ?_ (Nat.zero_le _)
    rw [Scan.continued, Array.toList_append, List.toList_toArray, id]

theorem stays_read {access : Access} (h : access.IsFixed) : Reader.Stays access.read := by
  cases access with
  | byte => exact Reader.stays_byte.bind_pure Piece.byte
  | word => exact Reader.stays_word.bind_pure Piece.word
  | long => exact Reader.stays_long.bind_pure Piece.long
  | take n => exact (Reader.stays_take n).bind_pure Piece.bytes
  | text | texts | name | labels => exact h.elim

end Access

namespace Window

/-- The place that an access leaves, whether or not it gives anything. -/
def after (w : Window) (access : Access) : Window :=
  match access.scan w with
  | .ok _ w' | .error _ w' => w'

/-- The place behind accesses of which each begins where the one before has ended. -/
def run (w : Window) (accesses : List Access) : Window := accesses.foldl after w

/-- The second place is in the same buffer and not further back than the first. -/
structure Precedes (w w' : Window) : Prop where
  packet : w'.packet = w.packet
  buffer : w'.buffer = w.buffer
  offset : w.offset ≤ w'.offset
  isValid : w'.IsValid

variable {w w' w'' : Window}

theorem IsValid.precedes_self (h : w.IsValid) : w.Precedes w := ⟨rfl, rfl, le_rfl, h⟩

theorem IsValid.precedes_advance (h : w.IsValid) {n : Nat} (hn : n ≤ w.remaining) :
    w.Precedes (w.advance n) := ⟨rfl, rfl, Nat.le_add_right _ _, h.advance hn⟩

theorem Precedes.trans (h : w.Precedes w') (h' : w'.Precedes w'') : w.Precedes w'' where
  packet := h'.packet.trans h.packet
  buffer := h'.buffer.trans h.buffer
  offset := h.offset.trans h'.offset
  isValid := h'.isValid

end Window

/-- What is known of an access to a window. -/
structure Access.IsSafe (access : Access) (w : Window) : Prop where
  agrees : Scan.Agrees id w (access.scan w) (access.read w.cursor)
  inRange : ∀ w', access.scan w ≠ .error .outOfRange w'
  precedes : w.Precedes (w.after access)
  stays : access.IsFixed → ∀ halt w', access.scan w = .error halt w' → w' = w

/-- **An access at a position in the buffer is safe.** -/
theorem Access.isSafe (access : Access) {w : Window} (hw : w.IsValid) : access.IsSafe w := by
  have hagrees := access.mirrors_scan w hw
  refine ⟨hagrees, fun _ => (access.mirrors_scan).ne_outOfRange hw, ?_, fun hfixed halt w' h => ?_⟩
  · rw [Window.after]
    cases h : access.scan w with
    | ok a w' =>
      rw [h] at hagrees
      obtain ⟨_, n, hn, -, rfl, -⟩ := hagrees.exists_of_ok
      exact hw.precedes_advance hn
    | error halt w' =>
      rw [h] at hagrees
      obtain ⟨_, n, hn, -, rfl, -⟩ := hagrees.exists_of_error
      exact hw.precedes_advance hn
  · rw [h] at hagrees
    obtain ⟨e, n, -, -, rfl, hread⟩ := hagrees.exists_of_error
    have hzero : w.cursor.skip n = w.cursor.skip 0 := stays_read hfixed _ _ _ hread
    rw [Cursor.skip_inj hzero]
    rfl

/-- **However much is read, the position is in the buffer and not further back.** -/
theorem Window.precedes_run {w : Window} (hw : w.IsValid) (accesses : List Access) :
    w.Precedes (w.run accesses) := by
  -- Each access begins at a position in the buffer, where the one before has left it.
  induction accesses generalizing w with
  | nil => exact hw.precedes_self
  | cons access accesses ih =>
    have hstep := (access.isSafe hw).precedes
    exact hstep.trans (ih hstep.isValid)

end ServiceDiscovery
