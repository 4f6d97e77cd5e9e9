import Sift.Proofs.Seams
import Sift.Proofs.Spans

/-!
The word being typed. Of the lexemes before the cursor the last one may still be typed, and the
others are its context. The context covers the text up to the word. None of its strings is left
open, since an open string goes on up to the cursor and so is the word being typed.
-/

namespace Sift

namespace Text

theorem takeBytes_append (left right : List Char) :
    takeBytes (size left) (left ++ right) = left := by
  induction left with
  | nil =>
      cases right with
      | nil => rfl
      | cons c right =>
          have positive := c.utf8Size_pos
          simp only [List.nil_append, size, takeBytes]
          rw [if_neg (by omega)]
  | cons c left ih => simp [takeBytes, size, ih]

theorem dropBytes_append (left right : List Char) :
    dropBytes (size left) (left ++ right) = right := by
  have split := takeBytes_append_dropBytes (size left) (left ++ right)
  rw [takeBytes_append] at split
  exact List.append_cancel_left split

end Text

open Text Lexer Completion

namespace Lexer

variable {vocabulary : List String}

/-! Strings, closed and open. -/

theorem staysOpen_quoted {quote : Char} {closed : Bool} {written meant : List Char}
    (plain : quote ≠ '\\') (string : Quoted quote closed written meant) :
    staysOpen quote false written = !closed := by
  induction string with
  | closing => simp [staysOpen, plain]
  | missing => rfl
  | dangling => rfl
  | plain inside unescaped rest ih => simp [staysOpen, inside, unescaped, ih]
  | escaped rest ih => simp [staysOpen, ih]

theorem quotedTail_closed {quote : Char} {written meant : List Char} (rest : List Char)
    (plain : quote ≠ '\\') (string : Quoted quote true written meant) :
    quotedTail quote (written ++ rest) = written.length := by
  generalize closes : true = closed at string
  induction string with
  | closing => exact quotedTail_close quote rest
  | missing => cases closes
  | dangling => cases closes
  | plain inside unescaped later ih =>
      rw [List.cons_append, quotedTail_plain _ inside unescaped, ih closes, List.length_cons]
  | escaped later ih => simp [quotedTail, plain.symm, ih closes]

theorem quote_not_backslash {quote : Char} (opens : quote = '"' ∨ quote = '\x27') :
    quote ≠ '\\' := by
  rcases opens with rfl | rfl <;> decide

/-- A piece that is no bare word holds, whatever follows. -/
theorem means_holds {piece : String} {token : Token} (means : Means vocabulary False piece token) :
    Bare piece ∨ ∀ rest, Holds vocabulary piece rest := by
  cases means with
  | opening => exact .inr fun rest => ⟨'(', [], rfl, by decide, rfl⟩
  | closing => exact .inr fun rest => ⟨')', [], rfl, by decide, rfl⟩
  | @quoted quote closed written meant opens string cut =>
      refine .inr fun rest => ⟨quote, written, String.toList_ofList, ?_, ?_⟩
      · rcases opens with rfl | rfl <;> decide
      · cases closed with
        | false => exact absurd rfl cut
        | true =>
            rw [← quotedTail_closed rest.toList (quote_not_backslash opens) string]
            rcases opens with rfl | rfl <;> rfl
  | conjunction bare joins => exact .inl bare
  | operator bare apart compares => exact .inl bare
  | identifier bare apart names => exact .inl bare

theorem Means.closed {piece : String} {token : Token} (means : Means vocabulary False piece token) :
    leavesQuoteOpen piece = false := by
  have bare (starting : Bare piece) : leavesQuoteOpen piece = false := by
    obtain ⟨c, cs, chars, starts⟩ := starting
    simp [leavesQuoteOpen, chars, starts.unquoted]
  cases means with
  | opening => rfl
  | closing => rfl
  | @quoted quote closed written meant opens string cut =>
      cases closed with
      | false => exact absurd rfl cut
      | true =>
          have shut := staysOpen_quoted (quote_not_backslash opens) string
          simp [leavesQuoteOpen, shut]
  | conjunction starting joins => exact bare starting
  | operator starting apart compares => exact bare starting
  | identifier starting apart names => exact bare starting

/-- Only a string that is left open means something else where the text goes on. -/
theorem Means.settles {atEnd : Prop} {piece : String} {token : Token}
    (means : Means vocabulary atEnd piece token) :
    Means vocabulary False piece token ∨
      atEnd ∧ leavesQuoteOpen piece = true ∧ ∃ word, token = .identifier word := by
  cases means with
  | opening => exact .inl .opening
  | closing => exact .inl .closing
  | @quoted quote closed written meant opens string cut =>
      cases closed with
      | true => exact .inl (.quoted opens string nofun)
      | false =>
          have isOpen := staysOpen_quoted (quote_not_backslash opens) string
          have quotes : isQuote quote = true := by simpa [isQuote] using opens
          exact .inr ⟨cut rfl, by simp [leavesQuoteOpen, quotes, isOpen], _, rfl⟩
  | conjunction bare joins => exact .inl (.conjunction bare joins)
  | operator bare apart compares => exact .inl (.operator bare apart compares)
  | identifier bare apart names => exact .inl (.identifier bare apart names)

/-! Pieces of a text, each in front of what follows it. -/

theorem scan_holds (pre cs : List Char) : ∀ lexeme ∈ scan vocabulary (size pre) cs,
    lexeme.token = tokenOfSource vocabulary lexeme.source ∧
      Holds vocabulary lexeme.source (String.ofList (dropBytes lexeme.stop (pre ++ cs))) := by
  induction cs using pieces_induction vocabulary generalizing pre with
  | empty => simp [scan]
  | blank c cs blank ih =>
      have shifted := ih (pre ++ [c])
      rwa [size_append, size, size, Nat.add_zero, List.append_assoc, List.singleton_append,
        ← scan_blank _ _ blank] at shifted
  | piece c cs visible ih =>
      have whole : c :: cs =
          c :: cs.take (tail vocabulary c cs) ++ cs.drop (tail vocabulary c cs) := by
        simp
      have shifted := ih (pre ++ c :: cs.take (tail vocabulary c cs))
      rw [size_append, ← size_ofList (c :: _), List.append_assoc, ← whole] at shifted
      rw [scan_piece _ _ visible]
      intro lexeme member
      rcases List.mem_cons.mp member with rfl | later
      · refine ⟨(tokenOfSource_cons _ _ _).symm, c, _, String.toList_ofList, visible, ?_⟩
        have behind := dropBytes_append (pre ++ c :: cs.take (tail vocabulary c cs))
          (cs.drop (tail vocabulary c cs))
        rw [size_append, List.append_assoc, ← whole] at behind
        simp only [Lexeme.stop, size_ofList, behind]
        have bound := tail_le vocabulary c cs
        simp only [String.toList_ofList, List.take_append_drop, List.length_take]
        omega
      · exact shifted lexeme later

theorem Covers.split {start : Nat} {cs : List Char} {front back : List Lexeme} {lexeme : Lexeme}
    (covers : Covers start cs (front ++ lexeme :: back)) :
    ∃ left right, cs = left ++ right ∧ Covers start left front ∧
      lexeme.start = start + size left ∧ Covers lexeme.start right (lexeme :: back) := by
  generalize all : front ++ lexeme :: back = lexemes at covers
  induction covers generalizing front with
  | nil start => simp at all
  | @blank start c cs lexemes blank rest ih =>
      obtain ⟨left, right, rfl, early, offset, late⟩ := ih all
      refine ⟨c :: left, right, rfl, .blank blank early, ?_, late⟩
      rw [offset, size, Nat.add_assoc]
  | @piece first cs lexemes nonempty rest ih =>
      cases front with
      | nil =>
          cases all
          exact ⟨[], _, rfl, .nil _, rfl, .piece nonempty rest⟩
      | cons head front =>
          cases all
          obtain ⟨left, right, rfl, early, offset, late⟩ := ih rfl
          refine ⟨first.source.toList ++ left, right, by simp, .piece nonempty early, ?_, late⟩
          rw [offset, stop_eq, size_append, Nat.add_assoc]

theorem Covers.stop_le {start : Nat} {cs : List Char} {lexemes : List Lexeme}
    (covers : Covers start cs lexemes) :
    ∀ lexeme ∈ lexemes, lexeme.start < lexeme.stop ∧ lexeme.stop ≤ start + size cs := by
  intro lexeme member
  obtain ⟨nonempty, before, after, rfl, offset⟩ := covers.slice lexeme member
  have positive := size_pos nonempty
  simp only [stop_eq, size_append]
  omega

theorem lexemes_covers (vocabulary : List String) (text : String) :
    Covers 0 text.toList (lexemes vocabulary text) :=
  scan_covers 0 text.toList

end Lexer

/-! The context of the word being typed. -/

theorem splitTyped_typed {before : String} {last : Lexeme} (front : List Lexeme)
    (typed : isBeingTyped before last = true) :
    splitTyped before (front ++ [last]) = (front, some last) := by
  simp [splitTyped, typed]

theorem splitTyped_idle {before : String} {last : Lexeme} (front : List Lexeme)
    (idle : isBeingTyped before last = false) :
    splitTyped before (front ++ [last]) = (front ++ [last], none) := by
  simp [splitTyped, idle]

theorem splitTyped_cases (before : String) (all : List Lexeme) :
    (∃ front last, all = front ++ [last] ∧ isBeingTyped before last = true ∧
      splitTyped before all = (front, some last)) ∨
    (∀ front last, all = front ++ [last] → isBeingTyped before last = false) ∧
      splitTyped before all = (all, none) := by
  rcases List.eq_nil_or_concat all with rfl | ⟨front, last, split⟩
  · exact .inr ⟨by simp, rfl⟩
  · rw [List.concat_eq_append] at split
    subst split
    cases typed : isBeingTyped before last with
    | true => exact .inl ⟨front, last, rfl, typed, splitTyped_typed front typed⟩
    | false =>
        refine .inr ⟨?_, splitTyped_idle front typed⟩
        intro other same split
        obtain ⟨-, rfl⟩ := List.append_inj' split rfl |>.imp id List.singleton_inj.mp
        exact typed

theorem splitTyped_subset (before : String) (all : List Lexeme) :
    (splitTyped before all).1 ⊆ all := by
  rcases splitTyped_cases before all with ⟨front, last, rfl, -, split⟩ | ⟨-, split⟩
  · rw [split]
    exact List.subset_append_left front [last]
  · rw [split]
    exact List.Subset.refl all

theorem splitTyped_covers (vocabulary : List String) (before : String) :
    ∃ front typed, before.toList = front ++ typed ∧
      Covers 0 front (splitTyped before (lexemes vocabulary before)).1 ∧
      size front = ((splitTyped before (lexemes vocabulary before)).2.map Lexeme.start).getD
        before.utf8ByteSize := by
  have covers := lexemes_covers vocabulary before
  rcases splitTyped_cases before (lexemes vocabulary before) with
    ⟨front, last, all, -, split⟩ | ⟨-, split⟩
  · rw [all] at covers
    obtain ⟨left, right, whole, early, offset, -⟩ := covers.split
    rw [split]
    exact ⟨left, right, whole, early, by simpa using offset.symm⟩
  · rw [split]
    exact ⟨before.toList, [], by simp, covers, size_toList before⟩

theorem splitTyped_means (vocabulary : List String) (before : String) :
    ∀ lexeme ∈ (splitTyped before (lexemes vocabulary before)).1,
      Means vocabulary False lexeme.source lexeme.token := by
  have covers := lexemes_covers vocabulary before
  have means (lexeme : Lexeme) (listed : lexeme ∈ lexemes vocabulary before) :=
    (scan_means 0 before.toList lexeme listed).settles
  have ordered := covers.ordered
  have bound := covers.stop_le
  simp only [Nat.zero_add, size_toList] at means bound
  -- What stands before another lexeme ends before the text does.
  have short {front : List Lexeme} {last : Lexeme}
      (all : lexemes vocabulary before = front ++ [last]) :
      ∀ lexeme ∈ front, lexeme.stop < before.utf8ByteSize := by
    intro lexeme member
    rw [all] at ordered bound
    have order := (List.pairwise_append.mp ordered).2.2 lexeme member last (by simp)
    have inside := bound last (by simp)
    omega
  rcases splitTyped_cases before (lexemes vocabulary before) with
    ⟨front, last, all, -, split⟩ | ⟨idle, split⟩
  · rw [split]
    intro lexeme member
    have listed : lexeme ∈ lexemes vocabulary before := by
      rw [all]
      exact List.mem_append_left _ member
    rcases means lexeme listed with settled | ⟨atEnd, -⟩
    · exact settled
    · exact absurd atEnd (Nat.ne_of_lt (short all lexeme member))
  · rw [split]
    intro lexeme listed
    rcases means lexeme listed with settled | ⟨atEnd, leaves, word, token⟩
    · exact settled
    · rcases List.eq_nil_or_concat (lexemes vocabulary before) with none | ⟨front, last, all⟩
      · rw [none] at listed
        cases listed
      · rw [List.concat_eq_append] at all
        simp only [all] at listed
        rcases List.mem_append.mp listed with early | final
        · exact absurd atEnd (Nat.ne_of_lt (short all lexeme early))
        · cases List.mem_singleton.mp final
          have typed := idle front lexeme all
          simp [isBeingTyped, atEnd, leaves, token] at typed

end Sift
