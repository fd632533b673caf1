import ServiceDiscovery.Proofs.Wire.Moving

/-!
# Reading by position

A window is a buffer with a position in it. Here bytes are fetched by their index and cut out by
their bounds, and an index or a bound outside of the bytes ends everything: unlike a failure it is
never passed on as an error. Scans read the same as readers do, so no scan of a window whose position
lies in its buffer ends that way, and the position neither goes back nor leaves the buffer.

* `Scan.fetch`, `slice`: accesses to bytes;
* `Agrees`: two results are the same, and so are the places they leave; `Mirrors`: a scan does what
  a reader does, `Mirrors.bind`: one step after another, `Mirrors.returns`: what it gives;
* `byte`, `word`, `long`, `take`: fixed amounts, `Gathers.mirrors`: what is known of such a scan;
* `text`, `texts`: strings, `mirrors_texts`: those up to the end.
-/

namespace ServiceDiscovery

/-- A position in a buffer, with the packet that pointers refer to. -/
structure Window where
  packet : Bytes
  buffer : Bytes
  offset : Nat

namespace Window

/-- The start of a packet, read on its own. -/
def start (packet : Bytes) : Window := ⟨packet, packet, 0⟩

/-- The start of `buffer`, whose pointers refer to `packet`. -/
def inside (packet buffer : Bytes) : Window := ⟨packet, buffer, 0⟩

def remaining (w : Window) : Nat := w.buffer.length - w.offset

def advance (w : Window) (n : Nat) : Window := { w with offset := w.offset + n }

/-- The position lies in the buffer, or at its end. -/
def IsValid (w : Window) : Prop := w.offset ≤ w.buffer.length

instance (w : Window) : Decidable w.IsValid := inferInstanceAs (Decidable (_ ≤ _))

/-- The same place, for readers. -/
def cursor (w : Window) : Cursor := ⟨w.packet, w.buffer.drop w.offset, w.offset⟩

theorem length_rest_cursor (w : Window) : w.cursor.rest.length = w.remaining := List.length_drop

/-- The bytes that are left, parted behind the first `n`. -/
theorem exists_append_of_le {w : Window} {n : Nat} (h : n ≤ w.remaining) :
    ∃ bytes rest, w.cursor.rest = bytes ++ rest ∧ bytes.length = n := by
  refine ⟨w.cursor.rest.take n, w.cursor.rest.drop n, (List.take_append_drop n _).symm, ?_⟩
  rw [List.length_take, w.length_rest_cursor, Nat.min_eq_left h]

theorem cursor_advance (w : Window) (n : Nat) : (w.advance n).cursor = w.cursor.skip n := by
  simp only [cursor, advance, Cursor.skip, List.drop_drop]

theorem advance_advance (w : Window) (m n : Nat) :
    (w.advance m).advance n = w.advance (m + n) := by
  simp only [advance, Nat.add_assoc]

theorem remaining_advance (w : Window) (n : Nat) : (w.advance n).remaining = w.remaining - n := by
  simp only [remaining, advance, Nat.sub_sub]

theorem IsValid.advance {w : Window} (h : w.IsValid) {n : Nat} (hn : n ≤ w.remaining) :
    (w.advance n).IsValid := by
  simp only [IsValid, remaining, Window.advance] at *
  omega

end Window

/-- What ends a scan without a value. -/
inductive Halt where
  | failure (e : Error)
  /-- An access to bytes that are not there. -/
  | outOfRange
  deriving DecidableEq

/-- Reads a value at the position of a window and moves it. -/
abbrev Scan (α : Type) := EStateM Halt Window α

namespace Scan

variable {α β : Type}

/-! ### One step after another -/

theorem bind_of_ok {scan : Scan α} {f : α → Scan β} {w w' : Window} {a : α}
    (h : scan w = .ok a w') : (scan >>= f) w = f a w' := by
  show EStateM.bind scan f w = f a w'
  rw [EStateM.bind, h]

theorem bind_of_error {scan : Scan α} {f : α → Scan β} {w w' : Window} {h : Halt}
    (he : scan w = .error h w') : (scan >>= f) w = .error h w' := by
  show EStateM.bind scan f w = .error h w'
  rw [EStateM.bind, he]

theorem exists_of_bind_ok {scan : Scan α} {f : α → Scan β} {w w'' : Window} {b : β}
    (h : (scan >>= f) w = .ok b w'') : ∃ a w', scan w = .ok a w' ∧ f a w' = .ok b w'' := by
  cases hs : scan w with
  | ok a w' => exact ⟨a, w', rfl, (bind_of_ok hs).symm.trans h⟩
  | error e w' =>
    rw [bind_of_error hs] at h
    cases h

/-! ### Accesses -/

def fail (e : Error) : Scan α := throw (.failure e)

/-- The byte at an index. -/
def fetch (bytes : Bytes) (i : Nat) : Scan UInt8 :=
  match bytes[i]? with
  | some b => pure b
  | none => throw .outOfRange

/-- The bytes from one position up to another. -/
def slice (bytes : Bytes) (first last : Nat) : Scan Bytes :=
  if first ≤ last ∧ last ≤ bytes.length then pure ((bytes.drop first).take (last - first))
  else throw .outOfRange

theorem fetch_of_lt {bytes : Bytes} {i : Nat} (h : i < bytes.length) :
    fetch bytes i = pure bytes[i] := by
  rw [fetch, List.getElem?_eq_getElem h]

theorem slice_of_le {bytes : Bytes} {first last : Nat} (h : first ≤ last)
    (h' : last ≤ bytes.length) :
    slice bytes first last = pure ((bytes.drop first).take (last - first)) := by
  rw [slice, if_pos ⟨h, h'⟩]

/-- Moves the position to where a value has been read up to. -/
def moveTo (offset : Nat) (a : α) : Scan α := fun w => .ok a { w with offset }

/-! ### Scans and readers -/

/-- The results of a scan and of a reader from one place are the same, up to what `as` makes of the
value, and both have moved as far, over bytes of the buffer. -/
inductive Agrees {α β : Type} (as : β → α) (w : Window) :
    EStateM.Result Halt Window α → EStateM.Result Error Cursor β → Prop
  | ok (b : β) (n : Nat) (hn : n ≤ w.remaining) :
      Agrees as w (.ok (as b) (w.advance n)) (.ok b (w.cursor.skip n))
  | failed (e : Error) (n : Nat) (hn : n ≤ w.remaining) :
      Agrees as w (.error (.failure e) (w.advance n)) (.error e (w.cursor.skip n))

/-- The scan does what the reader does wherever its position lies in its buffer. -/
def Mirrors (scan : Scan α) (read : Reader α) : Prop :=
  ∀ w : Window, w.IsValid → Agrees id w (scan w) (read w.cursor)

section Agreement
variable {as : β → α} {w w' : Window} {r' : EStateM.Result Error Cursor β}

theorem Agrees.exists_of_ok {a : α} (h : Agrees as w (.ok a w') r') :
    ∃ b n, n ≤ w.remaining ∧ a = as b ∧ w' = w.advance n ∧ r' = .ok b (w.cursor.skip n) := by
  cases h with
  | ok b n hn => exact ⟨b, n, hn, rfl, rfl, rfl⟩

theorem Agrees.exists_of_error {halt : Halt} (h : Agrees as w (.error halt w') r') :
    ∃ e n, n ≤ w.remaining ∧ halt = .failure e ∧ w' = w.advance n ∧
      r' = .error e (w.cursor.skip n) := by
  cases h with
  | failed e n hn => exact ⟨e, n, hn, rfl, rfl, rfl⟩

theorem Agrees.ok_of_eq {a : α} {b : β} (h : a = as b) {n : Nat} (hn : n ≤ w.remaining) :
    Agrees as w (.ok a (w.advance n)) (.ok b (w.cursor.skip n)) := by
  rw [h]
  exact .ok b n hn

/-- What agrees from a place further on agrees from here. -/
theorem Agrees.of_advance {n : Nat} {r : EStateM.Result Halt Window α}
    (h : Agrees as (w.advance n) r r') (hn : n ≤ w.remaining) : Agrees as w r r' := by
  cases h with
  | ok b m hm =>
    rw [Window.remaining_advance] at hm
    rw [Window.advance_advance, Window.cursor_advance, Cursor.skip_skip]
    exact .ok b (n + m) (by omega)
  | failed e m hm =>
    rw [Window.remaining_advance] at hm
    rw [Window.advance_advance, Window.cursor_advance, Cursor.skip_skip]
    exact .failed e (n + m) (by omega)

/-- Results of one step after another agree if those of each step do. -/
theorem Agrees.bind {γ δ : Type} {as' : δ → γ} {scan : Scan α} {read : Reader β} {f : α → Scan γ}
    {g : β → Reader δ} (h : Agrees as w (scan w) (read w.cursor))
    (h' : ∀ b n, n ≤ w.remaining →
      Agrees as' (w.advance n) (f (as b) (w.advance n)) (g b (w.advance n).cursor)) :
    Agrees as' w ((scan >>= f) w) ((read >>= g) w.cursor) := by
  cases hs : scan w with
  | ok a w' =>
    rw [hs] at h
    obtain ⟨b, n, hn, rfl, rfl, hr⟩ := h.exists_of_ok
    rw [bind_of_ok hs, Reader.bind_eq_of_ok hr, ← Window.cursor_advance]
    exact (h' b n hn).of_advance hn
  | error halt w' =>
    rw [hs] at h
    obtain ⟨e, n, hn, rfl, rfl, hr⟩ := h.exists_of_error
    rw [bind_of_error hs, Reader.bind_eq_of_error hr]
    exact .failed e n hn

end Agreement

theorem mirrors_pure (a : α) : Mirrors (pure a) (pure a) := fun _ _ => .ok a 0 (Nat.zero_le _)

theorem Mirrors.bind {scan : Scan α} {read : Reader α} {f : α → Scan β} {g : α → Reader β}
    (h : Mirrors scan read) (h' : ∀ a, Mirrors (f a) (g a)) :
    Mirrors (scan >>= f) (read >>= g) :=
  fun w hw => (h w hw).bind fun a _ hn => h' a _ (hw.advance hn)

/-- The last step may only give a value. -/
theorem Mirrors.bind_pure {scan : Scan α} {read : Reader α} (h : Mirrors scan read) (f : α → β) :
    Mirrors (scan >>= fun a => pure (f a)) (read >>= fun a => pure (f a)) :=
  h.bind fun a => mirrors_pure (f a)

/-- No access of the scan is out of range. -/
theorem Mirrors.ne_outOfRange {scan : Scan α} {read : Reader α} (h : Mirrors scan read)
    {w w' : Window} (hw : w.IsValid) : scan w ≠ .error .outOfRange w' := by
  intro hout
  have hagrees := h w hw
  rw [hout] at hagrees
  obtain ⟨e, _, -, he, -⟩ := hagrees.exists_of_error
  cases he

/-- The value at a place. -/
def scanAll (scan : Scan α) (w : Window) : Except Halt α :=
  match scan w with
  | .ok a _ => .ok a
  | .error halt _ => .error halt

/-- There is a value or a failure, the same for a scan and a reader, and no access is out of range. -/
inductive Returns : Except Halt α → Except Error α → Prop
  | ok (a : α) : Returns (.ok a) (.ok a)
  | failed (e : Error) : Returns (.error (.failure e)) (.error e)

theorem Mirrors.returns {scan : Scan α} {read : Reader α} (h : Mirrors scan read) {w : Window}
    (hw : w.IsValid) : Returns (scanAll scan w) (Reader.readAll read w.cursor) := by
  have hagrees := h w hw
  rw [scanAll, Reader.readAll]
  cases hs : scan w with
  | ok a w' =>
    rw [hs] at hagrees
    obtain ⟨_, n, -, rfl, -, hr⟩ := hagrees.exists_of_ok
    rw [hr]
    exact .ok _
  | error halt w' =>
    rw [hs] at hagrees
    obtain ⟨e, n, -, rfl, -, hr⟩ := hagrees.exists_of_error
    rw [hr]
    exact .failed e

/-! ### Fixed amounts -/

def byte : Scan UInt8 := fun w =>
  if w.buffer.length ≤ w.offset then fail .unexpectedEnd w
  else (fetch w.buffer w.offset >>= moveTo (w.offset + 1)) w

/-- A number of `size` bytes. Where it ends is known before it is known to be there, but that is at
most `size` bytes behind the buffer. -/
def number (size : Nat) (value : Bytes → Scan α) : Scan α := fun w =>
  let last := w.offset + size
  if w.buffer.length < last then fail .unexpectedEnd w
  else (slice w.buffer w.offset last >>= value >>= moveTo last) w

def word : Scan UInt16 := number 2 fun bytes => do
  return Bytes.toWord (← fetch bytes 0) (← fetch bytes 1)

def long : Scan UInt32 := number 4 fun bytes => do
  return Bytes.toLong (← fetch bytes 0) (← fetch bytes 1) (← fetch bytes 2) (← fetch bytes 3)

def take (n : Nat) : Scan Bytes := fun w =>
  if w.remaining < n then fail .unexpectedEnd w
  else (slice w.buffer w.offset (w.offset + n) >>= moveTo (w.offset + n)) w

theorem remaining_of_byte {w w' : Window} {b : UInt8} (h : byte w = .ok b w') :
    w'.remaining < w.remaining := by
  unfold byte at h
  split at h
  · cases h
  · next hlt =>
    rw [fetch_of_lt (not_le.1 hlt)] at h
    cases h
    simp only [Window.remaining]
    omega

theorem remaining_of_take {n : Nat} {w w' : Window} {bytes : Bytes} (h : take n w = .ok bytes w') :
    w'.remaining ≤ w.remaining := by
  unfold take slice at h
  split at h
  · cases h
  · split at h
    · cases h
      simp only [Window.remaining]
      omega
    · cases h

section Fixed
variable {w : Window}

theorem byte_of_end (h : w.cursor.rest = []) : byte w = .error (.failure .unexpectedEnd) w := by
  have hle : w.buffer.length ≤ w.offset := List.drop_eq_nil_iff.1 h
  rw [byte, if_pos hle]
  rfl

theorem byte_of_rest {b : UInt8} {rest : Bytes} (h : w.cursor.rest = b :: rest) :
    byte w = .ok b (w.advance 1) := by
  have hlength : w.remaining = rest.length + 1 := by rw [← w.length_rest_cursor, h]; rfl
  have hlt : w.offset < w.buffer.length := by
    simp only [Window.remaining] at hlength
    omega
  have hfirst : w.buffer[w.offset] = b := by
    have hdrop : w.buffer.drop w.offset = b :: rest := h
    rw [List.drop_eq_getElem_cons hlt] at hdrop
    exact (List.cons.inj hdrop).1
  rw [byte, if_neg (not_le.2 hlt), fetch_of_lt hlt, hfirst]
  rfl

theorem exists_of_byte {b : UInt8} {w' : Window} (h : byte w = .ok b w') :
    ∃ rest, w.cursor.rest = b :: rest ∧ w' = w.advance 1 ∧ 1 ≤ w.remaining := by
  cases hc : w.cursor.rest with
  | nil =>
    rw [byte_of_end hc] at h
    cases h
  | cons b' rest =>
    rw [byte_of_rest hc] at h
    cases h
    refine ⟨rest, rfl, rfl, ?_⟩
    rw [← w.length_rest_cursor, hc]
    exact Nat.succ_pos _

theorem end_of_byte {halt : Halt} {w' : Window} (h : byte w = .error halt w') :
    w.cursor.rest = [] ∧ halt = .failure .unexpectedEnd ∧ w' = w := by
  cases hc : w.cursor.rest with
  | nil =>
    rw [byte_of_end hc] at h
    cases h
    exact ⟨rfl, rfl, rfl⟩
  | cons b rest =>
    rw [byte_of_rest hc] at h
    cases h

theorem mirrors_byte : Mirrors byte Reader.byte := by
  intro w _
  cases hc : w.cursor.rest with
  | nil =>
    rw [byte_of_end hc, Reader.byte, hc]
    exact .failed _ 0 (Nat.zero_le _)
  | cons b rest =>
    have hone : 1 ≤ w.remaining := by
      rw [← w.length_rest_cursor, hc]
      exact Nat.succ_pos _
    rw [byte_of_rest hc, Reader.byte, hc]
    exact .ok b 1 hone

theorem slice_of_rest {bytes rest : Bytes} (hw : w.IsValid) (h : w.cursor.rest = bytes ++ rest) :
    slice w.buffer w.offset (w.offset + bytes.length) = pure bytes := by
  have hlength : w.remaining = bytes.length + rest.length := by
    rw [← w.length_rest_cursor, h, List.length_append]
  have hlast : w.offset + bytes.length ≤ w.buffer.length := by
    simp only [Window.remaining, Window.IsValid] at *
    omega
  have hdrop : w.buffer.drop w.offset = bytes ++ rest := h
  rw [slice_of_le (Nat.le_add_right _ _) hlast, hdrop, Nat.add_sub_cancel_left, List.take_left]

theorem take_of_short {n : Nat} (h : w.remaining < n) :
    take n w = .error (.failure .unexpectedEnd) w := by
  rw [take, if_pos h]
  rfl

theorem take_of_rest {bytes rest : Bytes} (hw : w.IsValid) (h : w.cursor.rest = bytes ++ rest) :
    take bytes.length w = .ok bytes (w.advance bytes.length) := by
  have hlength : ¬w.remaining < bytes.length := by
    rw [← w.length_rest_cursor, h, List.length_append]
    omega
  rw [take, if_neg hlength, slice_of_rest hw h]
  rfl

theorem cases_take (n : Nat) (hw : w.IsValid) :
    (w.remaining < n ∧ take n w = .error (.failure .unexpectedEnd) w) ∨
      ∃ bytes rest, w.cursor.rest = bytes ++ rest ∧ bytes.length = n ∧ n ≤ w.remaining ∧
        take n w = .ok bytes (w.advance n) := by
  rcases Nat.lt_or_ge w.remaining n with hshort | hlong
  · exact .inl ⟨hshort, take_of_short hshort⟩
  · obtain ⟨bytes, rest, hrest, rfl⟩ := Window.exists_append_of_le hlong
    exact .inr ⟨bytes, rest, hrest, rfl, hlong, take_of_rest hw hrest⟩

theorem exists_of_take {n : Nat} {bytes : Bytes} {w' : Window} (hw : w.IsValid)
    (h : take n w = .ok bytes w') :
    ∃ rest, w.cursor.rest = bytes ++ rest ∧ bytes.length = n ∧ n ≤ w.remaining ∧
      w' = w.advance n := by
  rcases cases_take n hw with ⟨-, h'⟩ | ⟨bytes', rest, hrest, hlength, hlong, h'⟩
  · rw [h'] at h
    cases h
  · rw [h'] at h
    cases h
    exact ⟨rest, hrest, hlength, hlong, rfl⟩

theorem short_of_take {n : Nat} {halt : Halt} {w' : Window} (hw : w.IsValid)
    (h : take n w = .error halt w') :
    w.remaining < n ∧ halt = .failure .unexpectedEnd ∧ w' = w := by
  rcases cases_take n hw with ⟨hshort, h'⟩ | ⟨bytes', rest, -, -, -, h'⟩
  · rw [h'] at h
    cases h
    exact ⟨hshort, rfl, rfl⟩
  · rw [h'] at h
    cases h

/-- The scan looks at the next `size` bytes, of which `value` makes its value, or stays where it is. -/
structure Gathers (scan : Scan α) (size : Nat) (value : Bytes → Scan α) : Prop where
  short : ∀ w : Window, w.IsValid → w.remaining < size →
    scan w = .error (.failure .unexpectedEnd) w
  long : ∀ w : Window, w.IsValid → ∀ bytes rest a, w.cursor.rest = bytes ++ rest →
    bytes.length = size → value bytes = pure a → scan w = .ok a (w.advance size)

theorem gathers_number (size : Nat) (value : Bytes → Scan α) :
    Gathers (number size value) size value where
  short := by
    intro w hw h
    have hlast : w.buffer.length < w.offset + size := by
      simp only [Window.remaining, Window.IsValid] at *
      omega
    unfold number
    rw [if_pos hlast]
    rfl
  long := by
    rintro w hw bytes rest a hrest rfl ha
    have hlength : w.remaining = bytes.length + rest.length := by
      rw [← w.length_rest_cursor, hrest, List.length_append]
    have hlast : ¬w.buffer.length < w.offset + bytes.length := by
      simp only [Window.remaining, Window.IsValid] at *
      omega
    unfold number
    dsimp only
    rw [if_neg hlast, slice_of_rest hw hrest]
    show (value bytes >>= moveTo _) w = _
    rw [ha]
    rfl

theorem gathers_take (size : Nat) (value : Bytes → Scan α) :
    Gathers (take size >>= value) size value where
  short := fun _ _ h => bind_of_error (take_of_short h)
  long := by
    rintro w hw bytes rest a hrest rfl ha
    rw [bind_of_ok (take_of_rest hw hrest), ha]
    rfl

/-- **A scan of so many bytes does what a reader does that takes the same value from them**, and that
fails where they are missing. -/
theorem Gathers.mirrors {scan : Scan α} {size : Nat} {value : Bytes → Scan α} {read : Reader α}
    (h : Gathers scan size value)
    (hshort : ∀ c : Cursor, c.rest.length < size → read c = .error .unexpectedEnd c)
    (hlong : ∀ bytes, bytes.length = size →
      ∃ a, value bytes = pure a ∧ Reader.Takes read bytes a) : Mirrors scan read := by
  intro w hw
  rcases Nat.lt_or_ge w.remaining size with hless | hle
  · rw [h.short w hw hless, hshort _ (by rwa [w.length_rest_cursor])]
    exact .failed _ 0 (Nat.zero_le _)
  · obtain ⟨bytes, rest, hrest, hsize⟩ := Window.exists_append_of_le hle
    obtain ⟨a, ha, htakes⟩ := hlong bytes hsize
    have hread := htakes w.cursor rest hrest
    rw [hsize] at hread
    rw [h.long w hw bytes rest a hrest hsize ha, hread]
    exact .ok a size hle

theorem mirrors_word : Mirrors word Reader.word := by
  refine (gathers_number 2 _).mirrors (fun c h => ?_) fun bytes h => ?_
  · rcases hc : c.rest with _ | ⟨a, _ | ⟨b, rest⟩⟩
    · rw [Reader.word, hc]
    · rw [Reader.word, hc]
    · rw [hc] at h
      simp only [List.length_cons] at h
      omega
  · obtain ⟨a, b, rfl⟩ := List.length_eq_two.1 h
    exact ⟨_, rfl, Reader.takes_word_pair a b⟩

theorem mirrors_long : Mirrors long Reader.long := by
  refine (gathers_number 4 _).mirrors (fun c h => ?_) fun bytes h => ?_
  · rcases hc : c.rest with _ | ⟨a, _ | ⟨b, _ | ⟨d, _ | ⟨e, rest⟩⟩⟩⟩
    · rw [Reader.long, hc]
    · rw [Reader.long, hc]
    · rw [Reader.long, hc]
    · rw [Reader.long, hc]
    · rw [hc] at h
      simp only [List.length_cons] at h
      omega
  · obtain ⟨a, b, d, e, rfl⟩ := List.length_eq_four.1 h
    exact ⟨_, rfl, Reader.takes_long_quad a b d e⟩

/-- Bytes are missing for a reader exactly if fewer are left. -/
theorem take_error_of_short {c : Cursor} {n : Nat} (h : c.rest.length < n) :
    Reader.take n c = .error .unexpectedEnd c := by
  have hshort : ¬(c.rest.take n).length = n := by
    rw [List.length_take]
    omega
  simp only [Reader.take, if_neg hshort]

theorem gathers_take_pure (n : Nat) : Gathers (take n) n pure := by
  have h := gathers_take n (pure : Bytes → Scan Bytes)
  rwa [bind_pure] at h

theorem mirrors_take (n : Nat) : Mirrors (take n) (Reader.take n) := by
  refine (gathers_take_pure n).mirrors (fun c h => take_error_of_short h) ?_
  rintro bytes rfl
  exact ⟨bytes, rfl, Reader.takes_take bytes⟩

end Fixed

/-! ### Strings -/

/-- A string behind a byte that gives its length. -/
def text : Scan String := do
  let length ← byte
  if length = 0 then return ""
  else return Text.decode (← take length.toNat)

theorem remaining_of_text {w w' : Window} {s : String} (h : text w = .ok s w') :
    w'.remaining < w.remaining := by
  obtain ⟨length, w₁, hbyte, h⟩ := exists_of_bind_ok h
  have hless : w₁.remaining < w.remaining := remaining_of_byte hbyte
  split at h
  · cases h
    exact hless
  · obtain ⟨bytes, w₂, htake, h⟩ := exists_of_bind_ok h
    cases h
    exact Nat.lt_of_le_of_lt (remaining_of_take htake) hless

/-- Strings up to the end, which counts as soon as the position is behind `first`. -/
def textsFrom (first : Nat) (seen : Array String) (w : Window) :
    EStateM.Result Halt Window (Array String) :=
  if w.remaining = 0 ∧ first < w.offset then .ok seen w
  else match _h : text w with
    | .error e w' => .error e w'
    | .ok s w' => textsFrom first (if s = "" then seen else seen.push s) w'
termination_by w.remaining
decreasing_by exact remaining_of_text _h

def texts : Scan (List String) := do
  let w ← get
  let seen ← textsFrom w.offset #[]
  return seen.toList

theorem mirrors_text : Mirrors text Reader.text := by
  refine mirrors_byte.bind fun length => ?_
  rcases eq_or_ne length 0 with rfl | hne
  · -- No bytes are taken as the empty string.
    intro w _
    have hempty : Text.decode [] = "" := Text.decode_encode ""
    have hread : (Reader.take 0 >>= fun bytes => pure (Text.decode bytes)) w.cursor =
        .ok "" (w.cursor.skip 0) := by
      rw [← hempty]
      rfl
    rw [if_pos rfl]
    exact hread ▸ Agrees.ok "" 0 (Nat.zero_le _)
  · rw [if_neg hne]
    exact (mirrors_take _).bind_pure Text.decode

/-- Strings are read up to the end by a scan that has not found it yet. -/
theorem agrees_textsFrom {first : Nat} {w : Window} (hw : w.IsValid) (hfirst : first ≤ w.offset)
    (hgoes : ¬(w.remaining = 0 ∧ first < w.offset)) (seen : Array String) :
    Agrees id w (textsFrom first seen w) (Reader.textsFrom seen w.cursor) := by
  -- A string takes a byte at least, so behind it only the end of the buffer counts.
  fun_induction textsFrom first seen w with
  | case1 seen w h => exact absurd h hgoes
  | case2 seen w hgoes halt w' h =>
    have htext := mirrors_text w hw
    rw [h] at htext
    obtain ⟨e, n, hn, rfl, rfl, hr⟩ := htext.exists_of_error
    rw [Reader.textsFrom_of_error hr]
    exact .failed e n hn
  | case3 seen w hgoes s w' h ih =>
    have htext := mirrors_text w hw
    rw [h] at htext
    obtain ⟨_, n, hn, rfl, rfl, hr⟩ := htext.exists_of_ok
    have hpos : 0 < n := by
      have hless := remaining_of_text h
      rw [Window.remaining_advance] at hless
      omega
    rw [Reader.textsFrom_of_ok hr, ← Window.cursor_advance]
    rcases eq_or_ne (w.advance n).remaining 0 with hend | hmore
    · have hempty : (w.advance n).cursor.rest.isEmpty := by
        rw [List.isEmpty_iff_length_eq_zero, Window.length_rest_cursor, hend]
      have hpassed : (w.advance n).remaining = 0 ∧ first < (w.advance n).offset :=
        ⟨hend, Nat.lt_of_le_of_lt hfirst (Nat.lt_add_of_pos_right hpos)⟩
      rw [if_pos hempty, textsFrom, if_pos hpassed, Window.cursor_advance]
      exact .ok _ n hn
    · have hrest : ¬(w.advance n).cursor.rest.isEmpty := by
        rwa [List.isEmpty_iff_length_eq_zero, Window.length_rest_cursor]
      rw [if_neg hrest]
      exact (ih (hw.advance hn) (Nat.le_add_right_of_le hfirst) fun h => hmore h.1).of_advance hn

theorem mirrors_texts : Mirrors texts Reader.texts := by
  intro w hw
  have hgoes : ¬(w.remaining = 0 ∧ w.offset < w.offset) := fun h => Nat.lt_irrefl _ h.2
  have hfrom := agrees_textsFrom hw le_rfl hgoes #[]
  exact hfrom.bind fun seen _ _ => .ok seen.toList 0 (Nat.zero_le _)

end Scan

end ServiceDiscovery
