import Sift.Proofs.Typing
import Sift.Proofs.Vocabulary

/-!
Text with more behind it. Lexemes that cover a text are read again with the text if each of them is
read to its end, and tokens that say the same are read only then. A bare word is read further than
it was if the word behind it is glued to it and of the same kind; behind a delimiter that is in no
operator nothing is glued.
-/

namespace Sift

open Text Completion

namespace Lexer

variable {vocabulary : List String}

/-- What follows a piece matters only if the piece is a bare word. -/
def Settled (vocabulary : List String) (piece : String) : Prop :=
  (∃ c cs, piece.toList = c :: cs ∧ isBlank c = false ∧ StartsWord c) ∨
    ∀ rest, Holds vocabulary piece rest

theorem Settled.chars {piece : String} (settled : Settled vocabulary piece) :
    ∃ c cs, piece.toList = c :: cs ∧ isBlank c = false := by
  rcases settled with ⟨c, cs, chars, visible, -⟩ | always
  · exact ⟨c, cs, chars, visible⟩
  · obtain ⟨c, cs, chars, visible, -⟩ := always ""
    exact ⟨c, cs, chars, visible⟩

theorem settled_means {piece rest : String} {token : Token}
    (means : Means vocabulary False piece token) (holds : Holds vocabulary piece rest) :
    Settled vocabulary piece := by
  rcases means_holds means with ⟨c, cs, chars, starts⟩ | always
  · obtain ⟨_, _, same, visible, -⟩ := holds
    cases chars.symm.trans same
    exact .inl ⟨c, cs, chars, visible, starts⟩
  · exact .inr always

theorem settled_word {c : Char} {cs : List Char} {word : String} (chars : word.toList = c :: cs)
    (reads : ReadsWhole vocabulary c cs) : Settled vocabulary word :=
  .inl ⟨c, cs, chars, reads.visible, reads.starts⟩

theorem settled_literal (category : Bool) (word : String) :
    Settled vocabulary (Canonical.literal vocabulary category word) := by
  unfold Canonical.literal
  split
  next bare =>
    obtain ⟨⟨c, cs, chars, reads⟩, -⟩ := (isBare_iff category word).mp bare
    exact settled_word chars reads
  next => exact .inr (holds_quote word)

/-- A piece that begins a text holds there if the first lexeme of the text says the same. -/
theorem Settled.holds {piece : String} {c : Char} {cs rest : List Char}
    (settled : Settled vocabulary piece) (chars : piece.toList = c :: cs)
    (same : plain? (tokenOf vocabulary c ((cs ++ rest).take (tail vocabulary c (cs ++ rest)))) =
      plain? (tokenOfSource vocabulary piece)) :
    Holds vocabulary piece (String.ofList rest) := by
  rcases settled with ⟨_, _, spelt, visible, starts⟩ | always
  · cases chars.symm.trans spelt
    refine ⟨c, cs, chars, visible, ?_⟩
    have itself : piece = String.ofList ((c :: (cs ++ rest)).take (cs.length + 1)) := by
      rw [List.take_succ_cons, List.take_left, ← chars, String.ofList_toList]
    rw [itself, List.take_succ_cons, tokenOfSource_cons, starts.tokenOf_eq, starts.tokenOf_eq,
      ← List.take_succ_cons, ← List.take_succ_cons] at same
    have lengths := congrArg List.length (take_eq_of_plain _ _ same)
    have bound := tail_le vocabulary c (cs ++ rest)
    simp only [List.length_take, List.length_cons, List.length_append] at lengths bound
    rw [String.toList_ofList]
    omega
  · exact always _

/-! A text that lexemes cover, read again with more behind it. -/

theorem piece_offset {pre : List Char} {lexeme : Lexeme} (offset : lexeme.start = size pre)
    (cs rest : List Char) : lexeme.stop = size (pre ++ lexeme.source.toList) ∧
      dropBytes lexeme.stop (pre ++ (lexeme.source.toList ++ cs) ++ rest) = cs ++ rest := by
  have shifted : lexeme.stop = size (pre ++ lexeme.source.toList) := by
    rw [stop_eq, size_append, offset]
  have dropped := dropBytes_append (pre ++ lexeme.source.toList) (cs ++ rest)
  rw [← shifted] at dropped
  exact ⟨shifted, by simpa using dropped⟩

theorem Covers.reread {pre cs : List Char} {start : Nat} {lexemes : List Lexeme}
    (covers : Covers start cs lexemes) (rest : List Char) (offset : start = size pre)
    (tokens : ∀ lexeme ∈ lexemes, lexeme.token = tokenOfSource vocabulary lexeme.source)
    (holds : ∀ lexeme ∈ lexemes,
      Holds vocabulary lexeme.source (String.ofList (dropBytes lexeme.stop (pre ++ cs ++ rest)))) :
    scan vocabulary start (cs ++ rest) = lexemes ++ scan vocabulary (start + size cs) rest := by
  -- Offsets are told from the text that was read before, to which each step adds its part.
  induction covers generalizing pre with
  | nil start => rfl
  | @blank start c cs lexemes blank later ih =>
      have shifted : start + c.utf8Size = size (pre ++ [c]) := by simp [offset, size]
      rw [List.cons_append, scan_blank _ _ blank, ih shifted tokens (by simpa using holds), size,
        Nat.add_assoc]
  | @piece lexeme cs lexemes nonempty later ih =>
      obtain ⟨token, others⟩ := List.forall_mem_cons.mp tokens
      obtain ⟨first, behind⟩ := List.forall_mem_cons.mp holds
      obtain ⟨shifted, dropped⟩ := piece_offset offset cs rest
      rw [dropped] at first
      have scanned := first.scan lexeme.start
      rw [String.toList_ofList, ← token, ← Lexeme.stop] at scanned
      rw [List.append_assoc, scanned, ih shifted others (by simpa using behind), size_append,
        stop_eq, Nat.add_assoc]
      rfl

theorem Covers.holds {pre cs : List Char} {start : Nat} {lexemes : List Lexeme}
    (covers : Covers start cs lexemes) (rest : List Char) (offset : start = size pre)
    (tokens : ∀ lexeme ∈ lexemes, lexeme.token = tokenOfSource vocabulary lexeme.source)
    (settled : ∀ lexeme ∈ lexemes, Settled vocabulary lexeme.source) {more : List (Option Token)}
    (same : (scan vocabulary start (cs ++ rest)).map (fun lexeme => plain? lexeme.token) =
      lexemes.map (fun lexeme => plain? lexeme.token) ++ more) :
    ∀ lexeme ∈ lexemes, Holds vocabulary lexeme.source
      (String.ofList (dropBytes lexeme.stop (pre ++ cs ++ rest))) := by
  induction covers generalizing pre with
  | nil start => nofun
  | @blank start c cs lexemes blank later ih =>
      rw [List.cons_append, scan_blank _ _ blank] at same
      have shifted : start + c.utf8Size = size (pre ++ [c]) := by simp [offset, size]
      simpa using ih shifted tokens settled same
  | @piece lexeme cs lexemes nonempty later ih =>
      obtain ⟨token, others⟩ := List.forall_mem_cons.mp tokens
      obtain ⟨first, behind⟩ := List.forall_mem_cons.mp settled
      obtain ⟨c, written, chars, visible⟩ := first.chars
      obtain ⟨shifted, dropped⟩ := piece_offset offset cs rest
      -- The first token tells how far the first piece is read, and only then the others line up.
      have whole : Holds vocabulary lexeme.source (String.ofList (cs ++ rest)) := by
        rw [List.append_assoc, chars, List.cons_append, scan_piece _ _ visible, List.map_cons,
          List.map_cons, List.cons_append, List.cons.injEq, token] at same
        exact first.holds chars same.1
      have cut := whole.scan lexeme.start
      rw [String.toList_ofList, ← Lexeme.stop] at cut
      rw [List.append_assoc, cut, List.map_cons, List.map_cons, List.cons_append,
        List.cons.injEq] at same
      intro other member
      rcases List.mem_cons.mp member with rfl | member
      · rw [dropped]
        exact whole
      · simpa using ih shifted others behind same.2 other member

theorem Covers.concat {start : Nat} {cs : List Char} {lexemes : List Lexeme}
    (covers : Covers start cs lexemes) {token : Token} {piece : String}
    (nonempty : piece.toList ≠ []) :
    Covers start (cs ++ piece.toList) (lexemes ++ [⟨token, start + size cs, piece⟩]) := by
  induction covers with
  | nil start =>
      have single := @Covers.piece ⟨token, start, piece⟩ [] [] nonempty (.nil _)
      simpa [size] using single
  | blank blank rest ih =>
      apply Covers.blank blank
      simpa [size, Nat.add_assoc] using ih
  | @piece lexeme cs lexemes filled rest ih =>
      rw [List.append_assoc, List.cons_append, size_append, ← Nat.add_assoc, ← stop_eq]
      exact .piece filled ih

/-! Behind a delimiter that is in no operator. -/

/-- Such a delimiter shuts a piece off from all that follows. -/
theorem Holds.behind {piece : String} {gap old : List Char} (new : List Char)
    (settled : Settled vocabulary piece)
    (holds : Holds vocabulary piece (String.ofList (gap ++ old)))
    (ends : ∀ c ∈ (piece.toList ++ gap).getLast?, ∀ rest, EndsWord vocabulary (c :: rest)) :
    Holds vocabulary piece (String.ofList (gap ++ new)) := by
  rcases settled with ⟨c, cs, chars, visible, starts⟩ | always
  · rw [holds_word _ chars starts visible, String.toList_ofList, ← List.append_assoc] at holds ⊢
    rcases List.eq_nil_or_concat (cs ++ gap) with alone | ⟨body, d, last⟩
    · obtain ⟨rfl, rfl⟩ := List.append_eq_nil_iff.mp alone
      -- The first character of a bare word is no delimiter.
      have delimits := (ends c (by simp [chars]) []).delimits c rfl
      simp [isDelimiter, visible, starts.unquoted, starts.notOpen, starts.notClose] at delimits
    · rw [List.concat_eq_append] at last
      rw [chars, List.cons_append, last, ← List.cons_append, List.getLast?_concat] at ends
      rw [last, List.append_assoc, List.singleton_append,
        wordTail_append _ _ (ends d rfl _)] at holds ⊢
      exact holds
  · exact always _

/-! A text with such a delimiter behind it. -/

theorem piece_closed {c : Char} {cs : List Char} (goesOn : tail vocabulary c cs < cs.length) :
    leavesQuoteOpen (String.ofList (c :: cs.take (tail vocabulary c cs))) = false := by
  have means := piece_means c cs (Nat.ne_of_lt goesOn)
  exact means.closed

theorem tail_append {c : Char} {cs rest : List Char} (ends : EndsWord vocabulary rest)
    (closed : leavesQuoteOpen (String.ofList (c :: cs.take (tail vocabulary c cs))) = false) :
    tail vocabulary c (cs ++ rest) = tail vocabulary c cs := by
  have means := @piece_means vocabulary True c cs fun _ => trivial
  rcases means.settles with settled | ⟨-, isOpen, -⟩
  · rcases means_holds settled with ⟨_, _, chars, starts⟩ | always
    · cases String.toList_ofList.symm.trans chars
      rw [starts.tail_eq, starts.tail_eq, wordTail_append c cs ends]
    -- The piece is read to its end in front of anything, so also in front of the rest of both.
    · obtain ⟨_, _, chars, -, whole⟩ := always (String.ofList (cs.drop (tail vocabulary c cs) ++ rest))
      cases String.toList_ofList.symm.trans chars
      have bound := tail_le vocabulary c cs
      rw [String.toList_ofList, ← List.append_assoc, List.take_append_drop, List.length_take,
        Nat.min_eq_left bound] at whole
      exact whole
  · rw [closed] at isOpen
    cases isOpen

/-- A text is read as it was, and then what stands behind it, unless it leaves a string open. -/
theorem sources_append {cs rest : List Char} (ends : EndsWord vocabulary rest)
    (closed : ∀ piece ∈ (sources vocabulary cs).getLast?, leavesQuoteOpen piece = false) :
    sources vocabulary (cs ++ rest) = sources vocabulary cs ++ sources vocabulary rest := by
  induction cs using pieces_induction vocabulary with
  | empty => rw [sources_nil, List.nil_append, List.nil_append]
  | blank c cs blank ih =>
      rw [sources_blank _ blank] at closed
      rw [List.cons_append, sources_blank _ blank, sources_blank _ blank, ih closed]
  | piece c cs visible ih =>
      have bound := tail_le vocabulary c cs
      rw [sources_piece _ visible] at closed
      have own : leavesQuoteOpen (String.ofList (c :: cs.take (tail vocabulary c cs))) = false := by
        by_cases goesOn : tail vocabulary c cs < cs.length
        · exact piece_closed goesOn
        · apply closed
          rw [List.drop_of_length_le (by omega), sources_nil]
          rfl
      have later : ∀ piece ∈ (sources vocabulary (cs.drop (tail vocabulary c cs))).getLast?,
          leavesQuoteOpen piece = false := by
        intro piece last
        apply closed
        simp [List.getLast?_cons, Option.mem_def.mp last]
      rw [List.cons_append, sources_piece _ visible, sources_piece _ visible, tail_append ends own,
        List.take_append_of_le_length bound, List.drop_append_of_le_length bound, ih later,
        List.cons_append]

/-! Words that are glued together, for a reader with the default operators. -/

/-- The characters of the word that starts with `c`. -/
def inWord (c : Char) (cs : List Char) : Char → Bool :=
  if compares c cs then isComparison else isPlain

/-- Whether the first word goes on into the second one. -/
def joins (word next : String) : Bool :=
  match word.toList, next.toList with
  | c :: cs, d :: _ => StartsWord c && inWord c (cs ++ [d]) d
  | _, _ => false

theorem holds_congr {left right : List String} (same : KnowSame left right) (piece rest : String) :
    Holds left piece rest ↔ Holds right piece rest := by
  simp only [Holds, tail_congr (same.agree _)]

theorem settled_congr {left right : List String} (same : KnowSame left right) (piece : String) :
    Settled left piece ↔ Settled right piece := by
  simp only [Settled, holds_congr same]

theorem takeWhile_whole {p : Char → Bool} (word rest : List Char) :
    ((word ++ rest).takeWhile p).length = word.length ↔
      (∀ c ∈ word, p c = true) ∧ ∀ c ∈ rest.head?, p c = false := by
  induction word with
  | nil => cases rest <;> simp [List.takeWhile_cons]
  | cons c word ih =>
      cases inside : p c with
      | true => simp [inside, ih]
      | false => simp [inside]

theorem defaultTail_whole (c : Char) (cs rest : List Char) :
    defaultTail c (cs ++ rest) = cs.length ↔ (∀ x ∈ cs, inWord c (cs ++ rest) x = true) ∧
      ∀ d ∈ rest.head?, inWord c (cs ++ rest) d = false := by
  rw [← takeWhile_whole, defaultTail, inWord]
  split <;> rfl

-- The kind of a word is told by its first two characters.
theorem inWord_head (c d : Char) (cs rest : List Char) :
    inWord c (cs ++ d :: rest) = inWord c (cs ++ [d]) := by
  cases cs <;> rfl

/-- What is put in the place of the word that follows a piece matters only if the two are glued. -/
theorem Holds.joined {piece next : String} {gap old : List Char} (rest : List Char)
    (settled : Settled [] piece) (holds : Holds [] piece (String.ofList (gap ++ old)))
    (nonempty : next.toList ≠ []) :
    Holds [] piece (String.ofList (gap ++ (next.toList ++ rest))) ↔
      (gap = [] → joins piece next = false) := by
  obtain ⟨c, cs, chars, visible⟩ := settled.chars
  obtain ⟨d, ds, first⟩ := List.exists_cons_of_ne_nil nonempty
  by_cases starts : StartsWord c
  · have same : joins piece next = inWord c (cs ++ [d]) d := by
      simp [joins, chars, first, starts]
    rw [holds_word _ chars starts visible, wordTail_default, String.toList_ofList,
      defaultTail_whole] at holds ⊢
    cases gap with
    -- The word ends at the first character of the gap, whatever stands behind the gap.
    | cons g gap =>
        rw [List.cons_append, inWord_head] at holds ⊢
        simp only [reduceCtorEq, false_implies, iff_true]
        exact holds
    | nil =>
        have inside : ∀ x ∈ cs, inWord c (cs ++ [d]) x = true := by
          cases cs with
          | nil => nofun
          | cons e cs => exact holds.1
        rw [List.nil_append, first, List.cons_append, inWord_head, same]
        constructor
        · rintro ⟨-, last⟩ -
          exact last d rfl
        · intro last
          exact ⟨inside, by simpa using last rfl⟩
  · have apart : joins piece next = false := by simp [joins, chars, first, starts]
    rcases settled with ⟨_, _, spelt, -, bare⟩ | always
    · cases chars.symm.trans spelt
      exact absurd bare starts
    · exact iff_of_true (always _) fun _ => apart

end Lexer

end Sift
