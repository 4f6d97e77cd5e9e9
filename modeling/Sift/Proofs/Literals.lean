import Sift.Proofs.Grammar
import Sift.Proofs.Lexing
import Sift.Query.Canonical
import Sift.Text.Bytes

/-!
Words as they are typed. A literal is bare if its word, alone, is read as one piece that
stands for it, and quoted otherwise. Here it is read back in front of a delimiter, and by a
reader whose vocabulary need not be the one it was typed for.
-/

namespace Sift

namespace Lexer

open Text

variable {vocabulary : List String}

theorem eq_nil_of_size {cs : List Char} (empty : size cs = 0) : cs = [] := by
  cases cs with
  | nil => rfl
  | cons c cs =>
      have positive := c.utf8Size_pos
      simp only [size] at empty
      omega

theorem lexemes_single (vocabulary : List String) (word : String) (lexeme : Lexeme) :
    lexemes vocabulary word = [lexeme] ∧ lexeme.start = 0 ∧ lexeme.stop = word.utf8ByteSize ↔
      ∃ c cs, word.toList = c :: cs ∧ isBlank c = false ∧ tail vocabulary c cs = cs.length ∧
        lexeme = ⟨tokenOf vocabulary c cs, 0, word⟩ := by
  constructor
  · rintro ⟨single, first, last⟩
    unfold lexemes at single
    cases chars : word.toList with
    | nil => simp [chars, scan] at single
    | cons c cs =>
        rw [chars] at single
        cases visible : isBlank c with
        | true =>
            rw [scan_blank _ _ visible] at single
            have later := scan_start_le (single ▸ List.mem_singleton_self lexeme)
            have positive := c.utf8Size_pos
            omega
        | false =>
            rw [scan_piece _ _ visible] at single
            obtain ⟨rfl, -⟩ := List.cons.inj single
            have all : size (c :: cs.take (tail vocabulary c cs)) = size (c :: cs) := by
              rw [← chars, size_toList, ← last, ← size_ofList]
              simp [Lexeme.stop]
            have split := congrArg size (List.take_append_drop (tail vocabulary c cs) cs)
            rw [size_append] at split
            simp only [size] at all
            have none : cs.drop (tail vocabulary c cs) = [] := eq_nil_of_size (by omega)
            have whole : tail vocabulary c cs = cs.length :=
              Nat.le_antisymm (tail_le vocabulary c cs) (List.drop_eq_nil_iff.mp none)
            refine ⟨c, cs, rfl, visible, whole, ?_⟩
            rw [whole, List.take_length, ← chars, String.ofList_toList]
  · rintro ⟨c, cs, chars, visible, whole, rfl⟩
    refine ⟨?_, rfl, by simp [Lexeme.stop]⟩
    rw [lexemes, chars, scan_piece _ _ visible, whole, List.take_length, List.drop_length, ← chars,
      String.ofList_toList]
    simp [scan]

-- A quoted string has its quotes in the piece and not in the token, so it never spells itself.
theorem startsWord_of_tokenOf {c : Char} {cs : List Char} {word : String}
    (chars : word.toList = c :: cs)
    (token : tokenOf vocabulary c cs = .identifier word ∨ tokenOf vocabulary c cs = .operator word) :
    StartsWord c := by
  have notOpen : c ≠ '(' := by
    rintro rfl
    simp [tokenOf] at token
  have notClose : c ≠ ')' := by
    rintro rfl
    simp [tokenOf] at token
  cases quoted : isQuote c with
  | false => exact ⟨quoted, notOpen, notClose⟩
  | true =>
      simp only [tokenOf, notOpen, notClose, quoted, ↓reduceIte, Token.identifier.injEq,
        reduceCtorEq, or_false] at token
      have length := unescape_length_le c cs
      rw [← token, String.toList_ofList] at chars
      rw [chars, List.length_cons] at length
      omega

theorem isBare_opened (category : Bool) (word : String) :
    Canonical.isBare vocabulary category word = true ↔
      ∃ lexeme : Lexeme, (lexemes vocabulary word = [lexeme] ∧ lexeme.start = 0 ∧
        lexeme.stop = word.utf8ByteSize) ∧
        (lexeme.token = .identifier word ∨ category = false ∧ lexeme.token = .operator word) := by
  unfold Canonical.isBare
  split
  next lexeme single => simp [single, and_assoc]
  next other =>
    constructor
    · intro impossible
      cases impossible
    · rintro ⟨lexeme, ⟨single, -⟩, -⟩
      exact absurd single (other lexeme)

theorem isBare_iff (category : Bool) (word : String) :
    Canonical.isBare vocabulary category word = true ↔
      (∃ c cs, word.toList = c :: cs ∧ ReadsWhole vocabulary c cs) ∧
        (classify vocabulary word = .identifier word ∨
          category = false ∧ classify vocabulary word = .operator word) := by
  rw [isBare_opened]
  constructor
  · rintro ⟨lexeme, alone, token⟩
    obtain ⟨c, cs, chars, visible, whole, rfl⟩ := (lexemes_single vocabulary word lexeme).mp alone
    have starts := startsWord_of_tokenOf chars (token.imp id And.right)
    rw [starts.tail_eq] at whole
    simp only [starts.tokenOf_eq, ← chars, String.ofList_toList] at token
    exact ⟨⟨c, cs, chars, starts, visible, whole⟩, token⟩
  · rintro ⟨⟨c, cs, chars, starts, visible, whole⟩, token⟩
    have alone := (lexemes_single vocabulary word ⟨tokenOf vocabulary c cs, 0, word⟩).mpr
      ⟨c, cs, chars, visible, by rw [starts.tail_eq, whole], rfl⟩
    refine ⟨_, alone, ?_⟩
    simpa only [starts.tokenOf_eq, ← chars, String.ofList_toList] using token

/-! Quoted literals. -/

theorem escape_plain {c : Char} (cs : List Char) (inside : c ≠ '"') (plain : c ≠ '\\') :
    Canonical.escape (c :: cs) = c :: Canonical.escape cs := by
  simp [Canonical.escape, inside, plain]

theorem quotedTail_escape (cs rest : List Char) :
    quotedTail '"' (Canonical.escape cs ++ '"' :: rest) = (Canonical.escape cs).length + 1 := by
  induction cs with
  | nil => exact quotedTail_close '"' rest
  | cons c cs ih =>
      by_cases closes : c = '"'
      · subst closes
        simp [Canonical.escape, quotedTail, ih]
      by_cases escapes : c = '\\'
      · subst escapes
        simp [Canonical.escape, quotedTail, ih]
      rw [escape_plain cs closes escapes, List.cons_append, quotedTail_plain _ closes escapes, ih,
        List.length_cons]

theorem unescape_escape (cs rest : List Char) :
    unescape '"' (Canonical.escape cs ++ '"' :: rest) = cs := by
  induction cs with
  | nil => exact unescape_close '"' rest
  | cons c cs ih =>
      by_cases closes : c = '"'
      · subst closes
        simp [Canonical.escape, unescape, ih]
      by_cases escapes : c = '\\'
      · subst escapes
        simp [Canonical.escape, unescape, ih]
      rw [escape_plain cs closes escapes, List.cons_append, unescape_plain _ closes escapes, ih]

theorem quote_toList (word : String) :
    (Canonical.quote word).toList = '"' :: (Canonical.escape word.toList ++ ['"']) := by
  simp [Canonical.quote]

theorem sources_quote (word : String) (rest : List Char) :
    sources vocabulary ((Canonical.quote word).toList ++ rest) =
      Canonical.quote word :: sources vocabulary rest := by
  have whole : tail vocabulary '"' (Canonical.escape word.toList ++ ['"'] ++ rest) =
      (Canonical.escape word.toList ++ ['"']).length := by
    simp [tail, isQuote, quotedTail_escape]
  rw [quote_toList, List.cons_append, sources_piece _ (by decide), whole, List.take_left,
    List.drop_left, ← quote_toList, String.ofList_toList]

theorem tokenOfSource_quote (word : String) :
    tokenOfSource vocabulary (Canonical.quote word) = .identifier word := by
  have read := unescape_escape word.toList []
  simp [tokenOfSource, quote_toList, tokenOf, isQuote, read]

/-! Literals of either kind. `printed` is the vocabulary that the literal was typed for. -/

theorem sources_literal {rest : List Char} (category : Bool) (word : String)
    (ends : EndsWord vocabulary rest) :
    sources vocabulary ((Canonical.literal vocabulary category word).toList ++ rest) =
      Canonical.literal vocabulary category word :: sources vocabulary rest := by
  unfold Canonical.literal
  split
  next bare =>
    obtain ⟨⟨c, cs, chars, reads⟩, -⟩ := (isBare_iff category word).mp bare
    rw [chars, sources_word reads ends, ← chars, String.ofList_toList]
  next => exact sources_quote word rest

theorem tokenOfSource_bare (vocabulary : List String) {printed : List String} {category : Bool}
    {word : String}
    (bare : Canonical.isBare printed category word = true) :
    tokenOfSource vocabulary word = classify vocabulary word ∧
      Connective.ofKeyword? word = none := by
  obtain ⟨⟨c, cs, chars, reads⟩, token⟩ := (isBare_iff category word).mp bare
  constructor
  · simp only [tokenOfSource, chars]
    rw [reads.starts.tokenOf_eq, ← chars, String.ofList_toList]
  · cases keyword : Connective.ofKeyword? word with
    | none => rfl
    | some connective => simp [classify, keyword] at token

theorem literal_word (vocabulary printed : List String) (category : Bool) (word : String) :
    (tokenOfSource vocabulary (Canonical.literal printed category word)).isWord = true ∧
      (tokenOfSource vocabulary (Canonical.literal printed category word)).text = word := by
  unfold Canonical.literal
  split
  next bare =>
    obtain ⟨same, keyword⟩ := tokenOfSource_bare vocabulary bare
    rw [same]
    simp only [classify, keyword]
    split <;> exact ⟨rfl, rfl⟩
  next =>
    rw [tokenOfSource_quote]
    exact ⟨rfl, rfl⟩

/-- The literal of a category is read as an identifier by every vocabulary, unless it is bare
and the vocabulary lists it. -/
theorem literal_category (vocabulary printed : List String) (word : String) :
    tokenOfSource vocabulary (Canonical.literal printed true word) = .identifier word ↔
      (Canonical.isBare printed true word = true → word ∉ vocabulary) := by
  unfold Canonical.literal
  split
  next bare =>
    obtain ⟨same, keyword⟩ := tokenOfSource_bare vocabulary bare
    have token := ((isBare_iff true word).mp bare).2
    simp only [classify, keyword, reduceCtorEq, false_and, or_false] at token
    rw [same]
    simp only [classify, keyword, bare, true_implies]
    grind
  next quoted => simp [tokenOfSource_quote, quoted]

end Lexer

end Sift
