import ServiceDiscovery.Wire.Cursor

/-!
# What readers take

A reader takes bytes when it moves exactly over them and gives one value, wherever they stand and
whatever follows them. Readers that take bytes one after another take them together, so that what
was written part by part is read part by part.

* `Takes`: a reader takes bytes as a value; `Takes.bind`, `takes_word`, `takes_long`, `takes_take`;
* `Leads`: a reader moves over bytes and goes on like another one;
* `Spans`: a reader moves exactly over bytes, whatever it gives;
* `Consumes`: a reader takes some bytes as each of its values;
* `Exhausts`: a reader gives a value when nothing but its bytes is left;
* `Gives`: all values of a reader have a property, also those of bytes that were never written so;
* `exists_of_bind_ok`, `cases_of_bind_error`: a reading in two steps, taken apart.
-/

namespace ServiceDiscovery

/-! ### Moving over bytes -/

namespace Cursor

theorem skip_zero (c : Cursor) : c.skip 0 = c := rfl

theorem skip_skip (c : Cursor) (m n : Nat) : (c.skip m).skip n = c.skip (m + n) := by
  simp [skip, List.drop_drop, Nat.add_assoc]

theorem rest_skip {c : Cursor} {bytes rest : Bytes} (h : c.rest = bytes ++ rest) :
    (c.skip bytes.length).rest = rest := by
  simp [skip, h]

end Cursor

namespace Reader

variable {α β : Type}

/-! ### One step after another -/

theorem bind_eq_of_ok {read : Reader α} {f : α → Reader β} {c c' : Cursor} {a : α}
    (h : read c = .ok a c') : (read >>= f) c = f a c' := by
  show EStateM.bind read f c = f a c'
  rw [EStateM.bind, h]

theorem bind_eq_of_error {read : Reader α} {f : α → Reader β} {c c' : Cursor} {e : Error}
    (h : read c = .error e c') : (read >>= f) c = .error e c' := by
  show EStateM.bind read f c = .error e c'
  rw [EStateM.bind, h]

theorem get_bind (f : Cursor → Reader α) (c : Cursor) :
    ((get : Reader Cursor) >>= f) c = f c c := rfl

theorem exists_of_bind_ok {read : Reader α} {f : α → Reader β} {c c'' : Cursor} {b : β}
    (h : (read >>= f) c = .ok b c'') :
    ∃ a c', read c = .ok a c' ∧ f a c' = .ok b c'' := by
  have h' : EStateM.bind read f c = .ok b c'' := h
  rw [EStateM.bind] at h'
  cases hr : read c with
  | ok a c' =>
    rw [hr] at h'
    exact ⟨a, c', rfl, h'⟩
  | error e c' =>
    rw [hr] at h'
    cases h'

theorem cases_of_bind_error {read : Reader α} {f : α → Reader β} {c c'' : Cursor} {e : Error}
    (h : (read >>= f) c = .error e c'') :
    read c = .error e c'' ∨ ∃ a c', read c = .ok a c' ∧ f a c' = .error e c'' := by
  cases hr : read c with
  | ok a c' =>
    rw [bind_eq_of_ok hr] at h
    exact .inr ⟨a, c', rfl, h⟩
  | error e' c' =>
    rw [bind_eq_of_error hr] at h
    cases h
    exact .inl rfl

/-! ### Taking bytes -/

/-- The reader moves over `bytes` and gives `a`, wherever they stand and whatever follows. -/
def Takes (read : Reader α) (bytes : Bytes) (a : α) : Prop :=
  ∀ (c : Cursor) (rest : Bytes), c.rest = bytes ++ rest → read c = .ok a (c.skip bytes.length)

theorem takes_pure (a : α) : Takes (pure a) [] a := fun _ _ _ => rfl

theorem Takes.bind {read : Reader α} {f : α → Reader β} {bytes bytes' : Bytes} {a : α} {b : β}
    (h : Takes read bytes a) (h' : Takes (f a) bytes' b) :
    Takes (read >>= f) (bytes ++ bytes') b := by
  intro c rest hc
  rw [List.append_assoc] at hc
  rw [bind_eq_of_ok (h c (bytes' ++ rest) hc), h' _ rest (Cursor.rest_skip hc), Cursor.skip_skip,
    List.length_append]

/-- The last step of a reading may leave the bytes as they are. -/
theorem Takes.bind_pure {read : Reader α} {f : α → Reader β} {bytes : Bytes} {a : α} {b : β}
    (h : Takes read bytes a) (h' : Takes (f a) [] b) : Takes (read >>= f) bytes b := by
  simpa using h.bind h'

theorem takes_byte (b : UInt8) : Takes byte [b] b := by
  intro c rest hc
  rw [byte, hc]
  rfl

theorem takes_word (v : UInt16) : Takes word (Bytes.ofWord v) v := by
  intro c rest hc
  have hc' : c.rest = Bytes.high v :: Bytes.low v :: rest := hc
  rw [word, hc']
  simp only [Bytes.toWord_ofWord]
  rfl

theorem takes_long (v : UInt32) : Takes long (Bytes.ofLong v) v := by
  intro c rest hc
  have hc' : c.rest = Bytes.high (Bytes.words v).1 :: Bytes.low (Bytes.words v).1 ::
      Bytes.high (Bytes.words v).2 :: Bytes.low (Bytes.words v).2 :: rest := hc
  rw [long, hc']
  simp only [Bytes.toLong_ofLong]
  rfl

theorem takes_take (bytes : Bytes) : Takes (take bytes.length) bytes bytes := by
  intro c rest hc
  simp only [take, hc, List.take_left, if_true]

/-- The reader moves over `bytes` and goes on like `next`, whatever follows. -/
def Leads (read : Reader α) (bytes : Bytes) (next : Reader α) : Prop :=
  ∀ (c : Cursor) (rest : Bytes), c.rest = bytes ++ rest → read c = next (c.skip bytes.length)

theorem Takes.leads {read : Reader α} {f : α → Reader β} {bytes : Bytes} {a : α}
    (h : Takes read bytes a) : Leads (read >>= f) bytes (f a) :=
  fun c rest hc => bind_eq_of_ok (h c rest hc)

theorem Takes.bind_leads {read : Reader α} {f : α → Reader β} {next : Reader β}
    {bytes bytes' : Bytes} {a : α} (h : Takes read bytes a) (h' : Leads (f a) bytes' next) :
    Leads (read >>= f) (bytes ++ bytes') next := by
  intro c rest hc
  rw [List.append_assoc] at hc
  rw [h.leads c _ hc, h' _ rest (Cursor.rest_skip hc), Cursor.skip_skip, List.length_append]

theorem Leads.takes {read next : Reader α} {bytes : Bytes} {a : α} (h : Leads read bytes next)
    (h' : Takes next [] a) : Takes read bytes a :=
  fun c rest hc => (h c rest hc).trans (h' _ rest (Cursor.rest_skip hc))

/-- If the reader gives anything before `bytes`, it has moved over them and no further. -/
def Spans (read : Reader α) (bytes : Bytes) : Prop :=
  ∀ (c c' : Cursor) (a : α) (rest : Bytes), c.rest = bytes ++ rest → read c = .ok a c' →
    c'.rest = rest

theorem Takes.spans {read : Reader α} {bytes : Bytes} {a : α} (h : Takes read bytes a) :
    Spans read bytes := by
  intro c c' a' rest hc hr
  rw [h c rest hc] at hr
  cases hr
  exact Cursor.rest_skip hc

theorem spans_pure (a : α) : Spans (pure a) [] := (takes_pure a).spans

theorem Spans.bind {read : Reader α} {f : α → Reader β} {bytes bytes' : Bytes}
    (h : Spans read bytes) (h' : ∀ a, Spans (f a) bytes') :
    Spans (read >>= f) (bytes ++ bytes') := by
  intro c c'' b rest hc hr
  obtain ⟨a, c', ha, hb⟩ := exists_of_bind_ok hr
  rw [List.append_assoc] at hc
  exact h' a c' c'' b rest (h c c' a _ hc ha) hb

/-- What comes second may depend on the value that the first bytes are taken as. -/
theorem Takes.bind_spans {read : Reader α} {f : α → Reader β} {bytes bytes' : Bytes} {a : α}
    (h : Takes read bytes a) (h' : Spans (f a) bytes') : Spans (read >>= f) (bytes ++ bytes') := by
  intro c c'' b rest hc hr
  rw [List.append_assoc] at hc
  rw [bind_eq_of_ok (h c _ hc)] at hr
  exact h' _ c'' b rest (Cursor.rest_skip hc) hr

/-- Whatever value the reader gives, it takes bytes before it as that value. -/
def Consumes (read : Reader α) : Prop :=
  ∀ (c : Cursor) (a : α) (c' : Cursor), read c = .ok a c' →
    ∃ bytes rest, c.rest = bytes ++ rest ∧ Takes read bytes a

theorem consumes_pure (a : α) : Consumes (pure a) := by
  intro c a' c' h
  cases h
  exact ⟨[], c.rest, rfl, takes_pure a⟩

theorem Consumes.bind {read : Reader α} {f : α → Reader β} (h : Consumes read)
    (h' : ∀ a, Consumes (f a)) : Consumes (read >>= f) := by
  intro c b c'' hr
  obtain ⟨a, c', ha, hb⟩ := exists_of_bind_ok hr
  obtain ⟨bytes, rest, hc, htakes⟩ := h c a c' ha
  rw [htakes c rest hc] at ha
  cases ha
  obtain ⟨bytes', rest', hc', htakes'⟩ := h' a _ b c'' hb
  rw [Cursor.rest_skip hc] at hc'
  exact ⟨bytes ++ bytes', rest', by rw [hc, hc', List.append_assoc], htakes.bind htakes'⟩

theorem consumes_byte : Consumes byte := by
  intro c b c' h
  unfold byte at h
  split at h
  · next rest hc =>
    cases h
    exact ⟨[b], rest, hc, takes_byte b⟩
  · cases h

theorem takes_word_pair (a b : UInt8) : Takes word [a, b] (Bytes.toWord a b) := by
  intro c rest hc
  rw [word, hc]
  rfl

theorem consumes_word : Consumes word := by
  intro c v c' h
  unfold word at h
  split at h
  · next a b rest hc =>
    cases h
    exact ⟨[a, b], rest, hc, takes_word_pair a b⟩
  · cases h

theorem takes_long_quad (a b d e : UInt8) : Takes long [a, b, d, e] (Bytes.toLong a b d e) := by
  intro c rest hc
  rw [long, hc]
  rfl

theorem consumes_long : Consumes long := by
  intro c v c' h
  unfold long at h
  split at h
  · next a b d e rest hc =>
    cases h
    exact ⟨[a, b, d, e], rest, hc, takes_long_quad a b d e⟩
  · cases h

theorem consumes_take (n : Nat) : Consumes (take n) := by
  intro c bytes c' h
  simp only [take] at h
  split at h
  · next hn =>
    cases h
    refine ⟨c.rest.take n, c.rest.drop n, (List.take_append_drop n c.rest).symm, ?_⟩
    have htakes := takes_take (c.rest.take n)
    rwa [hn] at htakes
  · cases h

/-! ### Reading to the end -/

/-- The reader gives `a` when nothing but `bytes` is left. -/
def Exhausts (read : Reader α) (bytes : Bytes) (a : α) : Prop :=
  ∀ c : Cursor, c.rest = bytes → ∃ c', read c = .ok a c'

theorem Takes.exhausts {read : Reader α} {bytes : Bytes} {a : α} (h : Takes read bytes a) :
    Exhausts read bytes a := fun c hc => ⟨_, h c [] (by rw [hc, List.append_nil])⟩

theorem Exhausts.bind_pure {read : Reader α} {bytes : Bytes} {a : α} (h : Exhausts read bytes a)
    (f : α → β) : Exhausts (read >>= fun x => pure (f x)) bytes (f a) := by
  intro c hc
  obtain ⟨c', hr⟩ := h c hc
  exact ⟨c', bind_eq_of_ok hr⟩

theorem Exhausts.readAll {read : Reader α} {bytes : Bytes} {a : α} (h : Exhausts read bytes a)
    (packet : Bytes) : readAll read (.inside packet bytes) = .ok a := by
  obtain ⟨c', hr⟩ := h (.inside packet bytes) rfl
  rw [Reader.readAll, hr]

theorem Leads.readAll {read next : Reader α} {bytes : Bytes} (h : Leads read bytes next)
    {c : Cursor} (hc : c.rest = bytes) :
    Reader.readAll read c = Reader.readAll next (c.skip bytes.length) := by
  rw [Reader.readAll, Reader.readAll, h c [] (by rw [hc, List.append_nil])]

theorem exists_of_readAll_eq_ok {read : Reader α} {c : Cursor} {a : α}
    (h : Reader.readAll read c = .ok a) : ∃ c', read c = .ok a c' := by
  rw [Reader.readAll] at h
  cases hr : read c with
  | ok a' c' =>
    rw [hr] at h
    cases h
    exact ⟨c', rfl⟩
  | error e c' =>
    rw [hr] at h
    cases h

theorem readAll_map (read : Reader α) (f : α → β) (c : Cursor) :
    readAll (read >>= fun a => pure (f a)) c = (readAll read c).map f := by
  rw [readAll, readAll]
  cases h : read c with
  | ok a c' =>
    rw [bind_eq_of_ok h]
    rfl
  | error e c' =>
    rw [bind_eq_of_error h]
    rfl

/-! ### What readers give -/

/-- All values that the reader gives have the property. -/
def Gives (read : Reader α) (P : α → Prop) : Prop :=
  ∀ (c : Cursor) (a : α) (c' : Cursor), read c = .ok a c' → P a

theorem gives_pure {P : α → Prop} {a : α} (h : P a) : Gives (pure a) P := by
  intro c a' c' h'
  cases h'
  exact h

/-- A reading in two steps gives what its second step gives after any value of the first. -/
theorem Gives.bind {read : Reader α} {f : α → Reader β} {Q : α → Prop} {P : β → Prop}
    (h : Gives read Q) (h' : ∀ a, Q a → Gives (f a) P) : Gives (read >>= f) P := by
  intro c b c'' hb
  obtain ⟨a, c', ha, hb⟩ := exists_of_bind_ok hb
  exact h' a (h c a c' ha) c' b c'' hb

theorem gives_true (read : Reader α) : Gives read fun _ => True := fun _ _ _ _ => trivial

end Reader

end ServiceDiscovery
