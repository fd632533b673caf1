import ServiceDiscovery.Message.Lookup

/-!
# Patterns for texts

A text that is escaped is read as the row of its characters, whatever they mean in patterns, and
the pattern of such a row leads over just these characters, up to case. At the start or the end of a
text it says how the text begins or ends.

* `Token.readFrom?_escaped`: an escaped text is read character by character;
* `Pattern.literal`, `Pattern.ofTokens?_chars`: the pattern of a row of characters;
* `Pattern.ofText_beginningPattern`, `ofText_endingPattern`: the patterns that records are looked up
  by;
* `Pattern.mem_passed`: where characters lead to;
* `Text.BeginsWith`, `Pattern.occursIn_atStart`: how a text begins; `Text.EndsWith`,
  `Pattern.occursIn_atEnd`: how it ends.
-/

namespace ServiceDiscovery

/-! ### Reading escaped texts -/

/-- A text in which every character that means something in patterns stands behind a backslash. -/
def Token.escaped (cs : List Char) : List Char :=
  cs.flatMap fun c => if special.contains c then ['\\', c] else [c]

namespace Token

theorem special_eq : special = ['\\', '.', '+', '*', '?', '(', ')', '|', '[', ']', '\x7b', '\x7d',
    '^', '$', '#', '&', '-', '~'] := by
  decide

theorem read?_of_mem {c : Char} (h : c ∈ special) (cs : List Char) :
    read? '\\' (c :: cs) = some (.char c, cs) := by
  rw [special_eq] at h
  simp only [List.mem_cons, List.not_mem_nil, or_false] at h
  rcases h with rfl | rfl | rfl | rfl | rfl | rfl | rfl | rfl | rfl | rfl | rfl | rfl | rfl | rfl |
    rfl | rfl | rfl | rfl <;> rfl

theorem read?_of_notMem {c : Char} (h : c ∉ special) (cs : List Char) :
    read? c cs = some (.char c, cs) := by
  rw [special_eq] at h
  unfold read?
  split
  case h_13 => rfl
  all_goals exact absurd (by simp) h

theorem readFrom?_succ {c : Char} {cs rest : List Char} {token : Token}
    (h : read? c cs = some (token, rest)) (fuel : Nat) (done : Array Token) :
    readFrom? (fuel + 1) done (c :: cs) = readFrom? fuel (done.push token) rest := by
  rw [readFrom?, h]
  rfl

theorem escaped_cons_of_mem {c : Char} (h : c ∈ special) (cs : List Char) :
    escaped (c :: cs) = '\\' :: c :: escaped cs := by
  rw [escaped, List.flatMap_cons, if_pos (List.contains_iff_mem.2 h)]
  rfl

theorem escaped_cons_of_notMem {c : Char} (h : c ∉ special) (cs : List Char) :
    escaped (c :: cs) = c :: escaped cs := by
  rw [escaped, List.flatMap_cons, if_neg fun hc => h (List.contains_iff_mem.1 hc)]
  rfl

/-- **An escaped text is read character by character.** -/
theorem readFrom?_escaped (cs rest : List Char) (fuel : Nat) (done : Array Token) :
    readFrom? (fuel + cs.length) done (escaped cs ++ rest) =
      readFrom? fuel (done ++ cs.map Token.char) rest := by
  induction cs generalizing done with
  | nil => simp [escaped]
  | cons c cs ih =>
    have hpush : done.push (.char c) ++ cs.map Token.char = done ++ (c :: cs).map Token.char := by
      simp
    rw [List.length_cons, ← Nat.add_assoc]
    by_cases h : c ∈ special
    · rw [escaped_cons_of_mem h, List.cons_append, List.cons_append,
        readFrom?_succ (read?_of_mem h _), ih, hpush]
    · rw [escaped_cons_of_notMem h, List.cons_append, readFrom?_succ (read?_of_notMem h _), ih,
        hpush]

theorem length_le_escaped (cs : List Char) : cs.length ≤ (escaped cs).length := by
  induction cs with
  | nil => exact Nat.le_refl _
  | cons c cs ih =>
    by_cases h : c ∈ special
    · rw [escaped_cons_of_mem h, List.length_cons, List.length_cons, List.length_cons]
      omega
    · rw [escaped_cons_of_notMem h, List.length_cons, List.length_cons]
      omega

theorem toList_escape (s : String) : (Pattern.escape s).toList = escaped s.toList :=
  String.toList_ofList

/-- The flag that makes case not matter. -/
def caseless : Token := .flags [⟨.caseless, true⟩]

theorem read?_caseless (cs : List Char) :
    read? '(' ('?' :: 'i' :: ')' :: cs) = some (caseless, cs) := rfl

theorem readAll?_beginning (s : String) : readAll? (Message.beginningPattern s) =
    some (caseless :: .caret :: s.toList.map .char) := by
  have hlist : (Message.beginningPattern s).toList =
      '(' :: '?' :: 'i' :: ')' :: '^' :: (escaped s.toList ++ []) := by
    rw [Message.beginningPattern, String.toList_append, toList_escape, List.append_nil]
    rfl
  -- The flag takes four characters, so that there are three turns left in the end.
  obtain ⟨spare, hspare⟩ := Nat.exists_eq_add_of_le (length_le_escaped s.toList)
  have hlength : (Message.beginningPattern s).length = spare + 3 + s.toList.length + 1 + 1 := by
    rw [← String.length_toList, hlist, List.append_nil]
    simp only [List.length_cons]
    omega
  rw [readAll?, hlist, hlength, readFrom?_succ (read?_caseless _), readFrom?_succ rfl,
    readFrom?_escaped]
  simp [readFrom?]

theorem readAll?_ending (s : String) : readAll? (Message.endingPattern s) =
    some (caseless :: (s.toList.map .char ++ [.dollar])) := by
  have hlist : (Message.endingPattern s).toList =
      '(' :: '?' :: 'i' :: ')' :: (escaped s.toList ++ ['$']) := by
    rw [Message.endingPattern, String.toList_append, String.toList_append, toList_escape]
    rfl
  obtain ⟨spare, hspare⟩ := Nat.exists_eq_add_of_le (length_le_escaped s.toList)
  have hlength : (Message.endingPattern s).length = spare + 3 + 1 + s.toList.length + 1 := by
    rw [← String.length_toList, hlist]
    simp only [List.length_cons, List.length_append, List.length_nil]
    omega
  rw [readAll?, hlist, hlength, readFrom?_succ (read?_caseless _), readFrom?_escaped,
    readFrom?_succ rfl]
  simp [readFrom?]

end Token

namespace Pattern

/-! ### The pattern of a row of characters -/

/-- A row of characters, up to case, in front of a pattern. -/
def literal (cs : List Char) (p : Pattern) : Pattern :=
  cs.foldr (fun c p => .seq (.char true c) p) p

theorem ofTokensFrom?_chars (inner : Group) (h : inner.flags.caseless = true) (cs : List Char)
    (rest : List Token) : ∃ repeatable, ofTokensFrom? inner [] (cs.map .char ++ rest) =
      ofTokensFrom? { inner with
        pieces := (cs.map (Pattern.char true)).reverse ++ inner.pieces, repeatable } [] rest := by
  induction cs generalizing inner with
  | nil => exact ⟨inner.repeatable, rfl⟩
  | cons c cs ih =>
    obtain ⟨repeatable, hrest⟩ := ih (inner.add (.char inner.flags.caseless c)) h
    refine ⟨repeatable, ?_⟩
    rw [List.map_cons, List.cons_append, ofTokensFrom?, hrest, h]
    simp [Group.add]

theorem foldl_pieces (cs : List Char) (p : Pattern) :
    (cs.map (Pattern.char true)).reverse.foldl (fun rest p => .seq p rest) p = literal cs p := by
  rw [List.foldl_reverse, List.foldr_map, literal]

theorem copies_literal {p : Pattern} (h : p.copies = 1) (cs : List Char) :
    (literal cs p).copies = 1 := by
  induction cs with
  | nil => exact h
  | cons c cs ih =>
    rw [literal, List.foldr_cons, ← literal, copies, ih]
    rfl

theorem groupName?_char (cs : List Char) : (cs.map Token.char).filterMap groupName? = [] := by
  rw [List.filterMap_map, List.filterMap_eq_nil_iff]
  exact fun _ _ => rfl

/-- What a text begins with. -/
def atStart (cs : List Char) : Pattern := .seq (.anchor .textStart) (literal cs .empty)

/-- What a text ends with. -/
def atEnd (cs : List Char) : Pattern := literal cs (.seq (.anchor .textEnd) .empty)

theorem ofText_beginningPattern (s : String) :
    ofText (Message.beginningPattern s) = .ok (atStart s.toList) := by
  obtain ⟨repeatable, hchars⟩ := ofTokensFrom?_chars
    (Group.add { flags := { caseless := true } } (.anchor .textStart)) rfl s.toList []
  have htokens : ofTokens? (Token.caseless :: .caret :: s.toList.map .char) =
      some (atStart s.toList) := by
    have hnames : (Token.caseless :: .caret :: s.toList.map Token.char).filterMap groupName? = [] :=
      groupName?_char s.toList
    rw [ofTokens?, hnames, if_pos List.nodup_nil, Token.caseless, ofTokensFrom?, ofTokensFrom?]
    rw [List.append_nil] at hchars
    refine hchars.trans ?_
    rw [ofTokensFrom?, Group.close, Group.alternative, List.foldl_append, foldl_pieces]
    rfl
  have hcopies : (atStart s.toList).copies = 1 := by
    rw [atStart, copies, copies_literal rfl]
    rfl
  unfold ofText
  rw [Token.readAll?_beginning, Option.bind_eq_bind, Option.bind_some, htokens]
  exact if_pos (by rw [hcopies]; decide)

theorem ofText_endingPattern (s : String) :
    ofText (Message.endingPattern s) = .ok (atEnd s.toList) := by
  obtain ⟨repeatable, hchars⟩ := ofTokensFrom?_chars { flags := { caseless := true } } rfl
    s.toList [.dollar]
  have htokens : ofTokens? (Token.caseless :: (s.toList.map .char ++ [.dollar])) =
      some (atEnd s.toList) := by
    have hnames : (Token.caseless :: (s.toList.map Token.char ++ [.dollar])).filterMap
        groupName? = [] := by
      show (s.toList.map Token.char ++ [Token.dollar]).filterMap groupName? = []
      rw [List.filterMap_append, groupName?_char]
      rfl
    rw [ofTokens?, hnames, if_pos List.nodup_nil, Token.caseless, ofTokensFrom?]
    refine hchars.trans ?_
    rw [ofTokensFrom?, ofTokensFrom?, Group.close, Group.alternative, Group.add, List.append_nil,
      List.foldl_cons, foldl_pieces]
    rfl
  have hcopies : (atEnd s.toList).copies = 1 := copies_literal rfl _
  unfold ofText
  rw [Token.readAll?_ending, Option.bind_eq_bind, Option.bind_some, htokens]
  exact if_pos (by rw [hcopies]; decide)

/-! ### Where characters lead to -/

variable {text : Array Char} {starts : List Nat} {j : Nat}

theorem mem_step {test : Char → Bool} : j ∈ step test text starts ↔
    ∃ i ∈ starts, j = i + 1 ∧ ∃ c, text[i]? = some c ∧ test c := by
  rw [step, List.mem_filterMap]
  refine exists_congr fun i => and_congr_right fun _ => ?_
  cases text[i]? with
  | none => simp
  | some c =>
    by_cases h : test c
    · simp only [h, if_true, Option.some.injEq, exists_eq_left', and_true]
      exact eq_comm
    · simp [h]

/-- The places behind a row of characters, up to case. -/
def passed (text : Array Char) (cs : List Char) (starts : List Nat) : List Nat :=
  cs.foldl (fun places c => step (sameChar true c) text places) starts

theorem ends_literal (text : Array Char) (cs : List Char) (p : Pattern) (starts : List Nat) :
    ends text (literal cs p) starts = ends text p (passed text cs starts) := by
  induction cs generalizing starts with
  | nil => rfl
  | cons c cs ih => exact ih _

/-- One more character is passed where it is the next one of the text, up to case. -/
theorem prefix_cons_iff {c : Char} {cs : List Char} {i : Nat} :
    (c :: cs).map Text.fold <+: (text.toList.drop i).map Text.fold ↔
      (∃ c', text[i]? = some c' ∧ sameChar true c c') ∧
        cs.map Text.fold <+: (text.toList.drop (i + 1)).map Text.fold := by
  rcases Nat.lt_or_ge i text.size with h | h
  · have hlist : i < text.toList.length := h
    have hget : text[i]? = some text.toList[i] := by
      rw [Array.getElem?_eq_getElem h, Array.getElem_toList]
    rw [List.drop_eq_getElem_cons hlist, List.map_cons, List.map_cons, List.cons_prefix_cons, hget]
    simp [sameChar]
  · have hlist : text.toList.drop i = [] := List.drop_eq_nil_of_le h
    have hget : text[i]? = none := Array.getElem?_eq_none h
    simp [hlist, hget]

/-- **Characters lead over just these characters, up to case.** -/
theorem mem_passed {cs : List Char} : j ∈ passed text cs starts ↔
    ∃ i ∈ starts, j = i + cs.length ∧
      cs.map Text.fold <+: (text.toList.drop i).map Text.fold := by
  induction cs generalizing starts with
  | nil => simp [passed]
  | cons c cs ih =>
    rw [passed, List.foldl_cons, ← passed, ih]
    constructor
    · rintro ⟨i', hi', rfl, hrest⟩
      obtain ⟨i, hi, rfl, hc⟩ := mem_step.1 hi'
      exact ⟨i, hi, by rw [List.length_cons]; omega, prefix_cons_iff.2 ⟨hc, hrest⟩⟩
    · rintro ⟨i, hi, rfl, hall⟩
      obtain ⟨hc, hrest⟩ := prefix_cons_iff.1 hall
      exact ⟨i + 1, mem_step.2 ⟨i, hi, rfl, hc⟩, by rw [List.length_cons]; omega, hrest⟩

end Pattern

/-! ### How a text begins and ends -/

/-- A text begins with another one, up to case. -/
def Text.BeginsWith (s start : String) : Prop :=
  start.toList.map fold <+: s.toList.map fold

/-- A text ends with another one, up to case. -/
def Text.EndsWith (s ending : String) : Prop :=
  ending.toList.map fold <:+ s.toList.map fold

instance (s start : String) : Decidable (Text.BeginsWith s start) :=
  inferInstanceAs (Decidable (start.toList.map Text.fold <+: s.toList.map Text.fold))

instance (s ending : String) : Decidable (Text.EndsWith s ending) :=
  inferInstanceAs (Decidable (ending.toList.map Text.fold <:+ s.toList.map Text.fold))

namespace Pattern

theorem occursIn_iff {p : Pattern} {s : String} : p.occursIn s ↔
    ∃ j, j ∈ ends s.toList.toArray p (List.range (s.toList.length + 1)) := by
  rw [occursIn, Bool.not_eq_true', List.isEmpty_eq_false_iff_exists_mem]
  rfl

/-- **The pattern of what a text begins with.** -/
theorem occursIn_atStart {start s : String} :
    (atStart start.toList).occursIn s ↔ Text.BeginsWith s start := by
  rw [occursIn_iff, atStart, ends, ends, ends_literal, ends]
  simp only [mem_passed, List.mem_filter, List.mem_range, Anchor.holds, beq_iff_eq]
  constructor
  · rintro ⟨-, i, ⟨-, rfl⟩, -, hstart⟩
    exact hstart
  · exact fun h => ⟨_, 0, ⟨Nat.zero_lt_succ _, rfl⟩, rfl, h⟩

/-- **The pattern of what a text ends with.** -/
theorem occursIn_atEnd {ending s : String} :
    (atEnd ending.toList).occursIn s ↔ Text.EndsWith s ending := by
  rw [occursIn_iff, atEnd, ends_literal, ends, ends, ends]
  simp only [mem_passed, List.mem_filter, List.mem_range, Anchor.holds, beq_iff_eq,
    List.size_toArray]
  constructor
  · rintro ⟨j, ⟨i, hi, rfl, hprefix⟩, hj⟩
    -- What is left of the text at `i` is as long as the ending.
    have hlength : (ending.toList.map Text.fold).length =
        ((s.toList.drop i).map Text.fold).length := by
      rw [List.length_map, List.length_map, List.length_drop]
      omega
    rw [Text.EndsWith, hprefix.eq_of_length hlength, List.map_drop]
    exact List.drop_suffix _ _
  · intro h
    have hle := h.length_le
    rw [List.length_map, List.length_map] at hle
    have hlength : ∀ cs : List Char, cs.length = (cs.map Text.fold).length :=
      fun _ => List.length_map _ |>.symm
    have hrest : (s.toList.drop (s.toList.length - ending.toList.length)).map Text.fold =
        ending.toList.map Text.fold := by
      rw [List.map_drop, hlength s.toList, hlength ending.toList, ← List.suffix_iff_eq_drop.1 h]
    refine ⟨_, ⟨s.toList.length - ending.toList.length, by omega, rfl, ?_⟩, by omega⟩
    exact ⟨[], by rw [List.append_nil, hrest]⟩

end Pattern

end ServiceDiscovery
